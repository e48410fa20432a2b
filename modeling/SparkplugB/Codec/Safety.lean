/-
# Decoding never panics

`Checked.decode`, the decoder with its panics, does on every buffer what `decode` does
(`checked_decode`); so none of its checks ever fails.  The length of a slice is a `usize`, which is
the one thing assumed of the buffer.

The reader's position stays within the buffer (`At`), every slice it returns is shorter than the
buffer, and each field takes at least one byte, so the loops end.  The recursive decoders pass
on a depth larger than all that are running.
-/
import SparkplugB.Codec.Checked
import SparkplugB.Codec.Kinds

namespace SparkplugB.Checked

open Panic Codec

/-! ## 1. The reader -/

/-- The reader is over `buf`, at `p` or behind. -/
structure At (buf : Bytes) (p : Nat) (r : Reader) : Prop where
  buf : r.buf = buf
  le : p ≤ r.pos
  within : r.pos ≤ r.buf.length

section Reader

variable {buf : Bytes} {p : Nat}

theorem follows_fail {α : Type} {V : Reader → Prop} {Q : α → Prop} (e : SparkplugError) :
    Follows V (fail e) (throw e : SparkplugB.ReadM α) Q := Follows.throw e

theorem readByte_follows (hbuf : buf.length < 2 ^ 64) :
    Follows (At buf p) readByte Reader.readByte fun _ => True := by
  rintro r ⟨rfl, hle, hwithin⟩
  unfold readByte Reader.readByte
  cases hbyte : r.buf[r.pos]? with
  | none => exact ⟨rfl, fun a s' h => absurd h (by simp)⟩
  | some byte =>
    have hpos := (List.getElem?_eq_some_iff.mp hbyte).1
    refine ⟨?_, fun a s' h => ?_⟩
    · rw [add_of_lt (by omega)]
      rfl
    · obtain ⟨rfl, rfl⟩ := Prod.mk.inj (Except.ok.inj h)
      exact ⟨⟨rfl, by simp only; omega, by simp only; omega⟩, trivial⟩

theorem take_follows (hbuf : buf.length < 2 ^ 64) (n : Nat) :
    Follows (At buf p) (take n) (Reader.take n) fun b => b.length = n ∧ b.length < 2 ^ 64 := by
  rintro r ⟨rfl, hle, hwithin⟩
  unfold take Reader.take
  by_cases hfits : r.pos + n ≤ r.buf.length
  · rw [checkedAdd_of_lt (by omega), if_pos hfits]
    simp only [getRange_add hfits]
    refine ⟨rfl, fun a s' h => ?_⟩
    obtain ⟨rfl, rfl⟩ := Prod.mk.inj (Except.ok.inj h)
    have hlen : ((r.buf.drop r.pos).take n).length = n := by
      rw [List.length_take, List.length_drop]
      omega
    exact ⟨⟨rfl, by simp only; omega, hfits⟩, hlen, by omega⟩
  · rw [if_neg hfits]
    refine ⟨?_, fun a s' h => absurd h (by simp)⟩
    by_cases hadd : r.pos + n < 2 ^ 64
    · rw [checkedAdd_of_lt hadd]
      simp only [getRange_of_gt (by omega : r.buf.length < r.pos + n)]
      rfl
    · rw [checkedAdd_of_ge (by omega)]
      rfl

theorem readVarintFrom_follows (hbuf : buf.length < 2 ^ 64) (acc : UInt64) (shift : Nat) :
    Follows (At buf p) (readVarintFrom acc shift) (Reader.readVarintFrom acc shift)
      fun _ => True := by
  induction acc, shift using Reader.readVarintFrom.induct with
  | case1 acc shift hs =>
    rw [readVarintFrom, Reader.readVarintFrom, dif_pos hs, dif_pos hs]
    exact follows_fail _
  | case2 acc shift hs ih =>
    rw [readVarintFrom, Reader.readVarintFrom, dif_neg hs, dif_neg hs]
    refine (readByte_follows hbuf).bind fun byte _ => ?_
    refine .checked (shiftLeft_of_lt (by omega)) ?_
    dsimp only
    split
    · exact .pure trivial
    · exact ih byte

theorem readVarint_follows (hbuf : buf.length < 2 ^ 64) :
    Follows (At buf p) readVarint Reader.readVarint fun _ => True :=
  readVarintFrom_follows hbuf 0 0

theorem readTag_follows (hbuf : buf.length < 2 ^ 64) :
    Follows (At buf p) readTag Reader.readTag fun _ => True := by
  refine (readVarint_follows hbuf).bind fun key _ => ?_
  split
  · exact .pure trivial
  · exact follows_fail _

theorem readFixed32_follows (hbuf : buf.length < 2 ^ 64) :
    Follows (At buf p) readFixed32 Reader.readFixed32 fun _ => True := by
  refine (take_follows hbuf 4).bind fun slice hlen => ?_
  exact .checked (expectArray_of_length hlen.1) (.pure trivial)

theorem readFixed64_follows (hbuf : buf.length < 2 ^ 64) :
    Follows (At buf p) readFixed64 Reader.readFixed64 fun _ => True := by
  refine (take_follows hbuf 8).bind fun slice hlen => ?_
  exact .checked (expectArray_of_length hlen.1) (.pure trivial)

theorem readLenSlice_follows (hbuf : buf.length < 2 ^ 64) :
    Follows (At buf p) readLenSlice Reader.readLenSlice fun b => b.length < 2 ^ 64 := by
  refine (readVarint_follows hbuf).bind fun len _ => ?_
  exact (take_follows hbuf _).imp fun b hb => hb.2

theorem readString_follows (hbuf : buf.length < 2 ^ 64) :
    Follows (At buf p) readString Reader.readString fun _ => True := by
  refine (readLenSlice_follows hbuf).bind fun slice _ => ?_
  cases fromUtf8 slice with
  | some s => exact .pure trivial
  | none => exact follows_fail _

theorem skip_follows (hbuf : buf.length < 2 ^ 64) :
    ∀ wire, Follows (At buf p) (skip wire) (Reader.skip wire) fun _ => True
  | WIRE_VARINT => (readVarint_follows hbuf).bind fun _ _ => .pure trivial
  | WIRE_I64 => (readFixed64_follows hbuf).bind fun _ _ => .pure trivial
  | WIRE_LEN => (readLenSlice_follows hbuf).bind fun _ _ => .pure trivial
  | WIRE_I32 => (readFixed32_follows hbuf).bind fun _ _ => .pure trivial
  | 3 => follows_fail _
  | 4 => follows_fail _
  | _ + 6 => follows_fail _

theorem readTypeCode_follows (hbuf : buf.length < 2 ^ 64) :
    Follows (At buf p) readTypeCode Codec.readTypeCode fun _ => True := by
  refine (readVarint_follows hbuf).bind fun raw _ => ?_
  split
  · exact .pure trivial
  · exact follows_fail _

theorem readFlag_follows (hbuf : buf.length < 2 ^ 64) :
    Follows (At buf p) readFlag Codec.readFlag fun _ => True :=
  (readVarint_follows hbuf).bind fun _ _ => .pure trivial

theorem readUint32_follows (hbuf : buf.length < 2 ^ 64) :
    Follows (At buf p) readUint32 Codec.readUint32 fun _ => True :=
  (readVarint_follows hbuf).bind fun _ _ => .pure trivial

end Reader

/-! ## 2. The loops -/

/-- A varint takes at least one byte. -/
theorem pos_lt_of_readVarint {r r' : Reader} {v : UInt64} (hr : r.pos ≤ r.buf.length)
    (h : Reader.readVarint r = .ok (v, r')) : r.pos < r'.pos := by
  have hbetween : r = Reader.between (r.buf.take r.pos) (r.buf.drop r.pos) := by
    rw [Reader.between, List.take_append_drop, List.length_take, Nat.min_eq_left hr]
  rw [hbetween] at h
  obtain ⟨bs, rest', -, rfl, hbs⟩ := Reader.readVarint_inv h
  have := hbs.length_pos
  simp only [Reader.between, List.length_append, List.length_take]
  omega

theorem pos_lt_of_readTag {r r' : Reader} {t : Nat × Nat} (hr : r.pos ≤ r.buf.length)
    (h : Reader.readTag r = .ok (t, r')) : r.pos < r'.pos := by
  obtain ⟨key, r1, hkey, h⟩ := Reader.bind_ok h
  have hpos := pos_lt_of_readVarint hr hkey
  split at h
  · obtain ⟨-, rfl⟩ := Reader.pure_ok h
    exact hpos
  · exact (Reader.throw_not_ok h).elim

theorem pos_lt_of_readTypeCode {r r' : Reader} {c : UInt32} (hr : r.pos ≤ r.buf.length)
    (h : Codec.readTypeCode r = .ok (c, r')) : r.pos < r'.pos := by
  obtain ⟨raw, r1, hraw, h⟩ := Reader.bind_ok h
  have hpos := pos_lt_of_readVarint hr hraw
  split at h
  · obtain ⟨-, rfl⟩ := Reader.pure_ok h
    exact hpos
  · exact (Reader.throw_not_ok h).elim

variable {σ : Type} {body' : σ → Nat → Nat → ReadM σ} {body : σ → Nat → Nat → SparkplugB.ReadM σ}
  {I : σ → Prop}

theorem fieldLoop_follows {buf : Bytes} (hbuf : buf.length < 2 ^ 64)
    (hbody : ∀ p st n w, I st → Follows (At buf p) (body' st n w) (body st n w) I) :
    ∀ (fuel : Nat) (st : σ) (r : Reader), I st → At buf r.pos r → buf.length - r.pos ≤ fuel →
      fieldLoop body' fuel st r = ofResult (Reader.fieldLoop body fuel st r) ∧
        ∀ st' r', Reader.fieldLoop body fuel st r = .ok (st', r') → I st'
  | 0, st, r, hst, ⟨hb, _, hw⟩, hfuel => by
    have hempty : r.isEmpty = true := by
      simp only [Reader.isEmpty, decide_eq_true_eq, hb]
      omega
    refine ⟨?_, fun st' r' h => ?_⟩
    · simp only [fieldLoop, Reader.fieldLoop, bind, StateT.bind, get, getThe, MonadStateOf.get,
        StateT.get, pure, Except.pure, Except.bind, assert_of hempty]
      rfl
    · obtain ⟨rfl, -⟩ := Reader.pure_ok h
      exact hst
  | fuel + 1, st, r, hst, hat, hfuel => by
    simp only [fieldLoop, Reader.fieldLoop, bind, StateT.bind, get, getThe, MonadStateOf.get,
      StateT.get, pure, Except.pure, Except.bind]
    cases hempty : r.isEmpty with
    | true =>
      simp only [if_true]
      refine ⟨rfl, fun st' r' h => ?_⟩
      obtain ⟨rfl, -⟩ := Prod.mk.inj (Except.ok.inj h)
      exact hst
    | false =>
      simp only [Bool.false_eq_true, if_false]
      obtain ⟨htag, htagOk⟩ := readTag_follows hbuf r hat
      simp only [StateT.bind, bind, Except.bind, htag]
      cases ht : Reader.readTag r with
      | error e => exact ⟨rfl, fun st' r' h => absurd h (by simp)⟩
      | ok t =>
        have hpos := pos_lt_of_readTag hat.within ht
        have hat1 : At buf t.2.pos t.2 :=
          ⟨(htagOk t.1 t.2 ht).1.buf, le_rfl, (htagOk t.1 t.2 ht).1.within⟩
        obtain ⟨hbodyEq, hbodyOk⟩ := hbody t.2.pos st t.1.1 t.1.2 hst t.2 hat1
        simp only [ofResult_ok, hbodyEq]
        cases hb : body st t.1.1 t.1.2 t.2 with
        | error e => exact ⟨rfl, fun st' r' h => absurd h (by simp)⟩
        | ok s =>
          obtain ⟨hat2, hs⟩ := hbodyOk s.1 s.2 hb
          exact fieldLoop_follows hbuf hbody fuel s.1 s.2 hs ⟨hat2.buf, le_rfl, hat2.within⟩
            (by have := hat2.le; omega)

/-- A decoder's loop over a whole buffer. -/
theorem readFields_follows {bytes : Bytes} (hlen : bytes.length < 2 ^ 64) (init : σ)
    (hbody : ∀ p st n w, I st → Follows (At bytes p) (body' st n w) (body st n w) I)
    (h0 : I init) :
    readFields body' init bytes = ofResult (Reader.readFields body init bytes) ∧
      ∀ st, Reader.readFields body init bytes = .ok st → I st := by
  obtain ⟨heq, hok⟩ := fieldLoop_follows hlen hbody bytes.length init (Reader.new bytes) h0
    ⟨rfl, le_rfl, Nat.zero_le _⟩ (Nat.sub_le _ _)
  simp only [readFields, Reader.readFields, StateT.run', Functor.map, Except.map, heq]
  cases hl : Reader.fieldLoop body bytes.length init (Reader.new bytes) with
  | error e => exact ⟨rfl, fun st h => absurd h (by simp)⟩
  | ok s =>
    refine ⟨rfl, fun st h => ?_⟩
    obtain rfl : s.1 = st := Except.ok.inj h
    exact hok s.1 s.2 hl

/-! ## 3. The bodies of the loops -/

/-- A slice that a Rust slice can be. -/
def Sized (slice : Option Bytes) : Prop := ∀ b, slice = some b → b.length < 2 ^ 64

theorem sized_some {b : Bytes} (h : b.length < 2 ^ 64) : Sized (some b) := by
  rintro b' ⟨⟩
  exact h

section Bodies

variable {buf : Bytes} {p : Nat}

theorem metadataBody_follows (hbuf : buf.length < 2 ^ 64) (st : MetaData) (n w : Nat) :
    Follows (At buf p) (metadataBody st n w) (Codec.metadataBody st n w) fun _ => True := by
  unfold metadataBody
  split
  case h_9 =>
    unfold Codec.metadataBody
    split
    case h_9 => exact (skip_follows hbuf _).bind fun _ _ => .pure trivial
    all_goals simp_all
  all_goals first
    | exact (readString_follows hbuf).map fun _ _ => trivial
    | exact (readVarint_follows hbuf).map fun _ _ => trivial
    | exact (readFlag_follows hbuf).map fun _ _ => trivial

theorem propertysetBody_follows (hbuf : buf.length < 2 ^ 64)
    {dec' : Bytes → Outcome PropertyValue} {dec : Bytes → Result PropertyValue}
    (hdec : ∀ b, b.length < 2 ^ 64 → dec' b = ofResult (dec b)) (st : RawPropertySet) (n w : Nat) :
    Follows (At buf p) (propertysetBody dec' st n w) (Codec.propertysetBody dec st n w)
      fun _ => True := by
  unfold propertysetBody
  split
  case h_3 =>
    unfold Codec.propertysetBody
    split
    case h_3 => exact (skip_follows hbuf _).bind fun _ _ => .pure trivial
    all_goals simp_all
  · exact (readString_follows hbuf).map fun _ _ => trivial
  · refine (readLenSlice_follows hbuf).bind fun slice hlen => ?_
    exact (Follows.lift (hdec slice hlen) fun _ _ => trivial).map fun _ _ => trivial

def SizedSets (st : RawPropertyValue) : Prop := Sized st.psSlice ∧ Sized st.pslSlice

theorem propertyvalueBody_follows (hbuf : buf.length < 2 ^ 64) (st : RawPropertyValue) (n w : Nat)
    (hst : SizedSets st) :
    Follows (At buf p) (propertyvalueBody st n w) (Codec.propertyvalueBody st n w) SizedSets := by
  unfold propertyvalueBody
  split
  case h_11 =>
    unfold Codec.propertyvalueBody
    split
    case h_11 => exact (skip_follows hbuf _).bind fun _ _ => .pure hst
    all_goals simp_all
  case h_9 => exact (readLenSlice_follows hbuf).map fun b hb => ⟨sized_some hb, hst.2⟩
  case h_10 => exact (readLenSlice_follows hbuf).map fun b hb => ⟨hst.1, sized_some hb⟩
  all_goals first
    | exact (readTypeCode_follows hbuf).map fun _ _ => hst
    | exact (readFlag_follows hbuf).map fun _ _ => hst
    | exact (readUint32_follows hbuf).map fun _ _ => hst
    | exact (readVarint_follows hbuf).map fun _ _ => hst
    | exact (readFixed32_follows hbuf).map fun _ _ => hst
    | exact (readFixed64_follows hbuf).map fun _ _ => hst
    | exact (readString_follows hbuf).map fun _ _ => hst

theorem propertysetlistBody_follows (hbuf : buf.length < 2 ^ 64)
    {dec' : Bytes → Outcome PropertySet} {dec : Bytes → Result PropertySet}
    (hdec : ∀ b, b.length < 2 ^ 64 → dec' b = ofResult (dec b)) (st : List PropertySet)
    (n w : Nat) :
    Follows (At buf p) (propertysetlistBody dec' st n w) (Codec.propertysetlistBody dec st n w)
      fun _ => True := by
  unfold propertysetlistBody
  split
  case h_2 =>
    unfold Codec.propertysetlistBody
    split
    case h_2 => exact (skip_follows hbuf _).bind fun _ _ => .pure trivial
    all_goals simp_all
  · refine (readLenSlice_follows hbuf).bind fun slice hlen => ?_
    exact (Follows.lift (hdec slice hlen) fun _ _ => trivial).map fun _ _ => trivial

theorem datasetvalueBody_follows (hbuf : buf.length < 2 ^ 64) (st : Slots) (n w : Nat) :
    Follows (At buf p) (datasetvalueBody st n w) (Codec.datasetvalueBody st n w)
      fun _ => True := by
  unfold datasetvalueBody
  split
  case h_7 =>
    unfold Codec.datasetvalueBody
    split
    case h_7 => exact (skip_follows hbuf _).bind fun _ _ => .pure trivial
    all_goals simp_all
  all_goals first
    | exact (readUint32_follows hbuf).map fun _ _ => trivial
    | exact (readVarint_follows hbuf).map fun _ _ => trivial
    | exact (readFixed32_follows hbuf).map fun _ _ => trivial
    | exact (readFixed64_follows hbuf).map fun _ _ => trivial
    | exact (readFlag_follows hbuf).map fun _ _ => trivial
    | exact (readString_follows hbuf).map fun _ _ => trivial

theorem parameterBody_follows (hbuf : buf.length < 2 ^ 64) (st : RawParameter) (n w : Nat) :
    Follows (At buf p) (parameterBody st n w) (Codec.parameterBody st n w) fun _ => True := by
  unfold parameterBody
  split
  case h_9 =>
    unfold Codec.parameterBody
    split
    case h_9 => exact (skip_follows hbuf _).bind fun _ _ => .pure trivial
    all_goals simp_all
  all_goals first
    | exact (readString_follows hbuf).map fun _ _ => trivial
    | exact (readTypeCode_follows hbuf).map fun _ _ => trivial
    | exact (readUint32_follows hbuf).map fun _ _ => trivial
    | exact (readVarint_follows hbuf).map fun _ _ => trivial
    | exact (readFixed32_follows hbuf).map fun _ _ => trivial
    | exact (readFixed64_follows hbuf).map fun _ _ => trivial
    | exact (readFlag_follows hbuf).map fun _ _ => trivial

end Bodies

/-! ## 4. DataSets -/

theorem decodeMetadata_eq {bytes : Bytes} (hlen : bytes.length < 2 ^ 64) :
    decodeMetadata bytes = ofResult (Codec.decodeMetadata bytes) :=
  (readFields_follows hlen _ (fun _ st n w _ => metadataBody_follows hlen st n w) trivial).1

theorem decodeDatasetvalue_eq {bytes : Bytes} (hlen : bytes.length < 2 ^ 64) (dt : DataType) :
    decodeDatasetvalue bytes dt = ofResult (Codec.decodeDatasetvalue bytes dt) := by
  obtain ⟨hloop, -⟩ := readFields_follows hlen {}
    (fun _ st n w _ => datasetvalueBody_follows hlen st n w) trivial
  rw [decodeDatasetvalue, Codec.decodeDatasetvalue, hloop, ofResult_bind]
  congr 1
  funext st
  split <;> rfl

theorem rowBody_follows {buf : Bytes} {p : Nat} (hbuf : buf.length < 2 ^ 64)
    {types : List DataType} (htypes : types.length < 2 ^ 64) (cells : List DataSetValue)
    (n w : Nat) :
    Follows (At buf p) (rowBody types cells n w) (Codec.rowBody types cells n w) fun _ => True := by
  unfold rowBody
  split
  case h_2 =>
    unfold Codec.rowBody
    split
    case h_2 => exact (skip_follows hbuf _).bind fun _ _ => .pure trivial
    all_goals simp_all
  · refine (readLenSlice_follows hbuf).bind fun slice hlen => ?_
    cases hdt : types[cells.length]? with
    | none => exact follows_fail _
    | some dt =>
      have hidx := (List.getElem?_eq_some_iff.mp hdt).1
      refine (Follows.lift (decodeDatasetvalue_eq hlen dt) fun _ _ => trivial).bind fun v _ => ?_
      exact .checked (add_of_lt (by omega)) (.pure trivial)

theorem decodeRow_eq {bytes : Bytes} (hlen : bytes.length < 2 ^ 64) {types : List DataType}
    (htypes : types.length < 2 ^ 64) :
    decodeRow bytes types = ofResult (Codec.decodeRow bytes types) :=
  (readFields_follows hlen _ (fun _ st n w _ => rowBody_follows hlen htypes st n w) trivial).1

theorem typeCodeLoop_follows {buf : Bytes} (hbuf : buf.length < 2 ^ 64) :
    ∀ (fuel : Nat) (codes : List UInt32) (r : Reader), At buf r.pos r →
      buf.length - r.pos ≤ fuel →
      typeCodeLoop fuel codes r = ofResult (Codec.typeCodeLoop fuel codes r)
  | 0, codes, r, ⟨hb, _, hw⟩, hfuel => by
    have hempty : r.isEmpty = true := by
      simp only [Reader.isEmpty, decide_eq_true_eq, hb]
      omega
    simp only [typeCodeLoop, Codec.typeCodeLoop, bind, StateT.bind, get, getThe, MonadStateOf.get,
      StateT.get, pure, Except.pure, Except.bind, assert_of hempty]
    rfl
  | fuel + 1, codes, r, hat, hfuel => by
    simp only [typeCodeLoop, Codec.typeCodeLoop, bind, StateT.bind, get, getThe, MonadStateOf.get,
      StateT.get, pure, Except.pure, Except.bind]
    cases hempty : r.isEmpty with
    | true =>
      simp only [if_true]
      rfl
    | false =>
      simp only [Bool.false_eq_true, if_false]
      obtain ⟨hcode, hcodeOk⟩ := readTypeCode_follows hbuf r hat
      simp only [StateT.bind, bind, Except.bind, hcode]
      cases hc : Codec.readTypeCode r with
      | error e => rfl
      | ok s =>
        have hpos := pos_lt_of_readTypeCode hat.within hc
        have hat1 := (hcodeOk s.1 s.2 hc).1
        exact typeCodeLoop_follows hbuf fuel _ s.2 ⟨hat1.buf, le_rfl, hat1.within⟩ (by omega)

theorem packedTypeCodes_eq {bytes : Bytes} (hlen : bytes.length < 2 ^ 64) (codes : List UInt32) :
    packedTypeCodes codes bytes = ofResult (Codec.packedTypeCodes codes bytes) := by
  have h := typeCodeLoop_follows hlen bytes.length codes (Reader.new bytes)
    ⟨rfl, le_rfl, Nat.zero_le _⟩ (Nat.sub_le _ _)
  simp only [packedTypeCodes, Codec.packedTypeCodes, StateT.run', Functor.map, Except.map, h]
  cases Codec.typeCodeLoop bytes.length codes (Reader.new bytes) <;> rfl

def SizedRows (st : RawDataSet) : Prop := ∀ b ∈ st.rowSlices, b.length < 2 ^ 64

theorem datasetBody_follows {buf : Bytes} {p : Nat} (hbuf : buf.length < 2 ^ 64) (st : RawDataSet)
    (n w : Nat) (hst : SizedRows st) :
    Follows (At buf p) (datasetBody st n w) (Codec.datasetBody st n w) SizedRows := by
  unfold datasetBody
  split
  case h_6 =>
    unfold Codec.datasetBody
    split
    case h_6 => exact (skip_follows hbuf _).bind fun _ _ => .pure hst
    all_goals simp_all
  case h_1 => exact (readVarint_follows hbuf).bind fun _ _ => .pure hst
  case h_4 =>
    refine (readLenSlice_follows hbuf).bind fun slice hlen => ?_
    exact (Follows.lift (packedTypeCodes_eq hlen _) fun _ _ => trivial).map fun _ _ => hst
  case h_5 =>
    refine (readLenSlice_follows hbuf).map fun slice hlen b hb => ?_
    rcases List.mem_append.mp hb with hb | hb
    · exact hst b hb
    · rw [List.mem_singleton.mp hb]
      exact hlen
  all_goals first
    | exact (readString_follows hbuf).map fun _ _ => hst
    | exact (readTypeCode_follows hbuf).map fun _ _ => hst

theorem length_typeCodeLoop : ∀ {fuel : Nat} {codes codes' : List UInt32} {r r' : Reader},
    Codec.typeCodeLoop fuel codes r = .ok (codes', r') → codes'.length ≤ codes.length + fuel
  | 0, codes, codes', r, r', h => by
    obtain ⟨rfl, -⟩ := Reader.pure_ok h
    exact Nat.le_add_right _ _
  | fuel + 1, codes, codes', r, r', h => by
    obtain ⟨_, r1, -, h⟩ := Reader.bind_ok h
    split at h
    · obtain ⟨rfl, -⟩ := Reader.pure_ok h
      exact Nat.le_add_right _ _
    · obtain ⟨code, r2, -, h⟩ := Reader.bind_ok h
      have := length_typeCodeLoop h
      rw [List.length_append, List.length_singleton] at this
      omega

theorem length_packedTypeCodes {codes codes' : List UInt32} {bytes : Bytes}
    (h : Codec.packedTypeCodes codes bytes = .ok codes') :
    codes'.length ≤ codes.length + bytes.length := by
  simp only [Codec.packedTypeCodes, StateT.run', Functor.map, Except.map] at h
  cases hl : Codec.typeCodeLoop bytes.length codes (Reader.new bytes) with
  | error e => rw [hl] at h; exact absurd h (by simp)
  | ok s =>
    rw [hl] at h
    obtain rfl : s.1 = codes' := by simpa using h
    exact length_typeCodeLoop hl

/-- Every column type takes at least one byte. -/
theorem length_typeCodes {fs : List Field} {bytes : Bytes} (h : Spells fs bytes) :
    ∀ {init st : RawDataSet}, Reader.foldFields datasetField init fs = .ok st →
      st.typeCodes.length ≤ init.typeCodes.length + bytes.length := by
  induction h with
  | nil =>
    intro init st h
    rw [← Except.ok.inj h]
    exact Nat.le_add_right _ _
  | @cons f fs a bytes hf _ ih =>
    intro init st h
    rw [Reader.foldFields_cons] at h
    obtain ⟨st1, h1, h⟩ := ok_of_bind h
    have hrest := ih h
    have hpos := hf.length_pos
    obtain ⟨num, raw⟩ := f
    dsimp only at h1
    have hstep : st1.typeCodes.length ≤ init.typeCodes.length + a.length := by
      unfold datasetField at h1
      split at h1
      · obtain ⟨_, _, rfl⟩ := ok_of_map h1
        exact Nat.le_add_right _ _
      · obtain ⟨_, _, rfl⟩ := ok_of_map h1
        rw [List.length_append, List.length_singleton]
        omega
      · obtain ⟨codes, hcodes, rfl⟩ := ok_of_map h1
        have hle := length_packedTypeCodes hcodes
        cases hf with
        | mk _ _ hval =>
          cases hval with
          | len _ _ =>
            simp only [List.length_append]
            omega
      · obtain rfl := Except.ok.inj h1
        exact Nat.le_add_right _ _
      · obtain rfl := Except.ok.inj h1
        exact Nat.le_add_right _ _
    rw [List.length_append]
    omega

theorem decodeDataset_eq {bytes : Bytes} (hlen : bytes.length < 2 ^ 64) :
    decodeDataset bytes = ofResult (Codec.decodeDataset bytes) := by
  obtain ⟨hloop, hsized⟩ := readFields_follows hlen {}
    (fun _ st n w hst => datasetBody_follows hlen st n w hst) (fun b hb => absurd hb List.not_mem_nil)
  rw [decodeDataset, Codec.decodeDataset, hloop]
  cases hst : Reader.readFields Codec.datasetBody {} bytes with
  | error e => rfl
  | ok st =>
    simp only [bind, Except.bind, ofResult_ok]
    cases htypes : st.typeCodes.mapM DataType.fromU32 with
    | error e => rfl
    | ok types =>
      have hcodes : types.length < 2 ^ 64 := by
        have hread := hst
        rw [datasetBody_eq] at hread
        obtain ⟨fs, hfs, hfold⟩ := Reader.exists_spells hread
        have := length_typeCodes hfs hfold
        rw [← (forall₂_of_mapM htypes).length_eq]
        exact lt_of_le_of_lt (by simpa using this) hlen
      have hrows := mapM_ofResult (l := st.rowSlices) fun b hb =>
        decodeRow_eq (hsized st hst b hb) hcodes
      simp only [ofResult_ok, hrows]
      cases st.rowSlices.mapM fun slice => Codec.decodeRow slice types <;> rfl

theorem decodeParameter_eq {bytes : Bytes} (hlen : bytes.length < 2 ^ 64) :
    decodeParameter bytes = ofResult (Codec.decodeParameter bytes) := by
  obtain ⟨hloop, -⟩ := readFields_follows hlen {}
    (fun _ st n w _ => parameterBody_follows hlen st n w) trivial
  rw [decodeParameter, Codec.decodeParameter, hloop]
  cases Reader.readFields Codec.parameterBody {} bytes with
  | error e => rfl
  | ok st =>
    simp only [bind, Except.bind, ofResult_ok]
    cases need st.name "Parameter missing name" with
    | error e => rfl
    | ok name =>
      cases need st.typeCode "Parameter missing type" with
      | error e => rfl
      | ok code =>
        simp only [ofResult_ok]
        cases DataType.fromU32 code with
        | error e => rfl
        | ok dt =>
          simp only [ofResult_ok]
          split
          · cases buildParameterValue dt st.toSlots <;> rfl
          · rfl

/-! ## 5. Arrays -/

theorem getEach_eq {α : Type} (w : Nat) (ofBits : Nat → α) (data : Bytes) :
    getEach w ofBits data = .ok (Arrays.getEach w ofBits data) := by
  refine mapM_ok fun c hc => ?_
  have hw := List.length_of_mem_chunksExact hc
  rw [mapM_index c hw.ge, List.take_of_length_le hw.le]
  rfl

theorem getEach64_eq {α : Type} (ofBits : Nat → α) (data : Bytes) :
    getEach64 ofBits data = .ok (Arrays.getEach 8 ofBits data) := by
  refine mapM_ok fun c hc => ?_
  rw [expectArray_of_length (List.length_of_mem_chunksExact hc)]
  rfl

theorem unpackNumeric_eq (dt : DataType) (data : Bytes) :
    unpackNumeric dt data = ofResult (Arrays.unpackNumeric dt data) := by
  unfold unpackNumeric Arrays.unpackNumeric
  cases dt.arrayElementWidth with
  | none => rfl
  | some width =>
    dsimp only
    split
    · rfl
    · cases dt <;> first | rfl | (simp only [getEach_eq, getEach64_eq]; rfl)

/-- The bytes present hold every bit that the count announces. -/
theorem unpackBool_eq (data : Bytes) :
    unpackBool data = ofResult (Arrays.unpackBool data) := by
  unfold unpackBool Arrays.unpackBool
  by_cases hfour : data.length < 4
  · rw [if_pos hfour, if_pos hfour]
    rfl
  · rw [if_neg hfour, if_neg hfour, mapM_index data (by omega)]
    simp only [bind, Except.bind, sliceFrom_of_le (by omega : 4 ≤ data.length)]
    generalize LittleEndian.value (data.take 4) = count
    split
    · rfl
    · rename_i henough
      have hbits : ∀ i ∈ List.range count,
          (do
            let byte ← index (data.drop 4) (i / 8)
            let mask ← shiftRight 128 (i % 8)
            pure (byte &&& mask != 0) : Outcome Bool) =
          .ok (BitPacking.testBit ((data.drop 4).getD (i / 8) 0) (i % 8)) := by
        intro i hi
        have hi := List.mem_range.mp hi
        have hbyte : i / 8 < (data.drop 4).length := by omega
        rw [index_of_lt hbyte, shiftRight_of_lt (Nat.mod_lt i (by omega)),
          List.getD_eq_getElem _ _ hbyte]
        rfl
      have hall := mapM_ok hbits
      simp only [bind, Except.bind] at hall
      rw [hall]
      rfl

theorem unpack_eq (dt : DataType) (data : Bytes) :
    unpack dt data = ofResult (Arrays.unpack dt data) := by
  unfold unpack
  split
  · exact unpackBool_eq data
  · rfl
  · rw [unpackNumeric_eq]
    unfold Arrays.unpack
    split
    · contradiction
    · contradiction
    · rfl

/-! ## 6. Metrics, templates, payloads -/

section Bodies

variable {buf : Bytes} {p : Nat}

def SizedValues (st : RawMetric) : Prop := Sized st.raw.datasetV ∧ Sized st.raw.templateV

theorem metricBody_follows (hbuf : buf.length < 2 ^ 64) {dec' : Bytes → Outcome PropertySet}
    {dec : Bytes → Result PropertySet}
    (hdec : ∀ b, b.length < 2 ^ 64 → dec' b = ofResult (dec b)) (st : RawMetric) (n w : Nat)
    (hst : SizedValues st) :
    Follows (At buf p) (metricBody dec' st n w) (Codec.metricBody dec st n w) SizedValues := by
  unfold metricBody
  split
  case h_19 =>
    unfold Codec.metricBody
    split
    case h_19 => exact (skip_follows hbuf _).bind fun _ _ => .pure hst
    all_goals simp_all
  case h_8 =>
    refine (readLenSlice_follows hbuf).bind fun slice hlen => ?_
    exact (Follows.lift (decodeMetadata_eq hlen) fun _ _ => trivial).map fun _ _ => hst
  case h_9 =>
    refine (readLenSlice_follows hbuf).bind fun slice hlen => ?_
    exact (Follows.lift (hdec slice hlen) fun _ _ => trivial).map fun _ _ => hst
  case h_16 =>
    exact (readLenSlice_follows hbuf).map fun _ _ => hst
  case h_17 =>
    exact (readLenSlice_follows hbuf).map fun _ hb => ⟨sized_some hb, hst.2⟩
  case h_18 =>
    exact (readLenSlice_follows hbuf).map fun _ hb => ⟨hst.1, sized_some hb⟩
  all_goals first
    | exact (readString_follows hbuf).map fun _ _ => hst
    | exact (readVarint_follows hbuf).map fun _ _ => hst
    | exact (readTypeCode_follows hbuf).map fun _ _ => hst
    | exact (readFlag_follows hbuf).map fun _ _ => hst
    | exact (readUint32_follows hbuf).map fun _ _ => hst
    | exact (readFixed32_follows hbuf).map fun _ _ => hst
    | exact (readFixed64_follows hbuf).map fun _ _ => hst

theorem templateBody_follows (hbuf : buf.length < 2 ^ 64) {dec' : Bytes → Outcome Metric}
    {dec : Bytes → Result Metric} (hdec : ∀ b, b.length < 2 ^ 64 → dec' b = ofResult (dec b))
    (t : Template) (n w : Nat) :
    Follows (At buf p) (templateBody dec' t n w) (Codec.templateBody dec t n w) fun _ => True := by
  unfold templateBody
  split
  case h_6 =>
    unfold Codec.templateBody
    split
    case h_6 => exact (skip_follows hbuf _).bind fun _ _ => .pure trivial
    all_goals simp_all
  case h_2 =>
    refine (readLenSlice_follows hbuf).bind fun slice hlen => ?_
    exact (Follows.lift (hdec slice hlen) fun _ _ => trivial).map fun _ _ => trivial
  case h_3 =>
    refine (readLenSlice_follows hbuf).bind fun slice hlen => ?_
    exact (Follows.lift (decodeParameter_eq hlen) fun _ _ => trivial).map fun _ _ => trivial
  all_goals first
    | exact (readString_follows hbuf).map fun _ _ => trivial
    | exact (readFlag_follows hbuf).map fun _ _ => trivial

theorem payloadBody_follows (hbuf : buf.length < 2 ^ 64) {dec' : Bytes → Outcome Metric}
    {dec : Bytes → Result Metric} (hdec : ∀ b, b.length < 2 ^ 64 → dec' b = ofResult (dec b))
    (st : Payload) (n w : Nat) :
    Follows (At buf p) (payloadBody dec' st n w) (Codec.payloadBody dec st n w)
      fun _ => True := by
  unfold payloadBody
  split
  case h_6 =>
    unfold Codec.payloadBody
    split
    case h_6 => exact (skip_follows hbuf _).bind fun _ _ => .pure trivial
    all_goals simp_all
  case h_2 =>
    refine (readLenSlice_follows hbuf).bind fun slice hlen => ?_
    exact (Follows.lift (hdec slice hlen) fun _ _ => trivial).map fun _ _ => trivial
  all_goals first
    | exact (readString_follows hbuf).map fun _ _ => trivial
    | exact (readVarint_follows hbuf).map fun _ _ => trivial
    | exact (readLenSlice_follows hbuf).map fun _ _ => trivial

end Bodies

theorem buildPropertyvalue_eq {decSet' : Bytes → Outcome PropertySet}
    {decSet : Bytes → Result PropertySet} {decList' : Bytes → Outcome PropertySetList}
    {decList : Bytes → Result PropertySetList}
    (hset : ∀ b, b.length < 2 ^ 64 → decSet' b = ofResult (decSet b))
    (hlist : ∀ b, b.length < 2 ^ 64 → decList' b = ofResult (decList b)) (dt : DataType)
    {st : RawPropertyValue} (hst : SizedSets st) :
    buildPropertyvalue decSet' decList' dt st =
      ofResult (Codec.buildPropertyvalue decSet decList dt st) := by
  cases dt
  case propertySet =>
    simp only [buildPropertyvalue, Codec.buildPropertyvalue]
    cases hslice : st.psSlice with
    | none => rfl
    | some b =>
      simp only [need, ofResult_ok, bind, Except.bind, hset b (hst.1 b hslice)]
      cases decSet b <;> rfl
  case propertySetList =>
    simp only [buildPropertyvalue, Codec.buildPropertyvalue]
    cases hslice : st.pslSlice with
    | none => rfl
    | some b =>
      simp only [need, ofResult_ok, bind, Except.bind, hlist b (hst.2 b hslice)]
      cases decList b <;> rfl
  all_goals rfl

theorem buildMetricValue_eq {dec' : Bytes → Outcome Template} {dec : Bytes → Result Template}
    (hdec : ∀ b, b.length < 2 ^ 64 → dec' b = ofResult (dec b)) (dt : DataType) {st : RawMetric}
    (hst : SizedValues st) :
    buildMetricValue dec' dt st.raw = ofResult (Codec.buildMetricValue dec dt st.raw) := by
  obtain ⟨hdataset, htemplate⟩ := hst
  have harray : ∀ dt : DataType,
      (do
        let slice ← ofResult (need st.raw.bytesV s!"{dt.debug} expected bytes_value")
        unpack dt slice : Outcome MetricValue) =
      ofResult (do
        let slice ← need st.raw.bytesV s!"{dt.debug} expected bytes_value"
        Arrays.unpack dt slice) := by
    intro dt
    rw [ofResult_bind]
    simp only [unpack_eq]
  cases dt
  case dataSet =>
    simp only [buildMetricValue, Codec.buildMetricValue]
    cases hslice : st.raw.datasetV with
    | none => rfl
    | some b =>
      simp only [need, ofResult_ok, bind, Except.bind, decodeDataset_eq (hdataset b hslice)]
      cases Codec.decodeDataset b <;> rfl
  case template =>
    simp only [buildMetricValue, Codec.buildMetricValue]
    cases hslice : st.raw.templateV with
    | none => rfl
    | some b =>
      simp only [need, ofResult_ok, bind, Except.bind, hdec b (htemplate b hslice)]
      cases dec b <;> rfl
  all_goals first
    | rfl
    | exact harray _

/-! ## 7. The recursive decoders -/

/-- The calls that are running have smaller depths. -/
def Below (depth : Nat) (running : List Frame) : Prop := ∀ f ∈ running, f.depth < depth

theorem below_nil (depth : Nat) : Below depth [] := fun _ hf => absurd hf List.not_mem_nil

theorem Below.call {depth : Nat} {running : List Frame} (h : Below depth running) (fn : Fn) :
    Below (depth + 1) (⟨fn, depth⟩ :: running) := by
  intro f hf
  rcases List.mem_cons.mp hf with rfl | hf
  · exact Nat.lt_succ_self depth
  · exact Nat.lt_succ_of_lt (h f hf)

theorem enter_of_below {fn : Fn} {depth : Nat} {running : List Frame}
    (hdepth : depth ≤ MAX_DEPTH + 1) (h : Below depth running) :
    enter fn depth running = .ok (⟨fn, depth⟩ :: running) := by
  have hcheck : depth ≤ MAX_DEPTH + 1 ∧ ∀ f ∈ running, f.fn = fn → f.depth + 1 ≤ depth :=
    ⟨hdepth, fun f hf _ => h f hf⟩
  rw [enter, assert_of hcheck]
  rfl

/-- A call with the next depth, where the depth is within the limit. -/
theorem call_eq {α : Type} {depth : Nat} (h : ¬ depth > MAX_DEPTH) (x : Outcome α) :
    (do
      let _ ← add depth 1
      x) = x := by
  have hmax : depth ≤ 32 := Nat.le_of_not_gt h
  rw [add_of_lt (by omega)]
  rfl

mutual

theorem decodePropertyset_eq (bytes : Bytes) (depth : Nat) (running : List Frame)
    (hlen : bytes.length < 2 ^ 64) (hdepth : depth ≤ MAX_DEPTH + 1) (hrun : Below depth running) :
    decodePropertyset bytes depth running = ofResult (Codec.decodePropertyset bytes depth) := by
  rw [decodePropertyset, Codec.decodePropertyset, enter_of_below hdepth hrun]
  simp only [bind, Except.bind]
  by_cases hd : depth > MAX_DEPTH
  · rw [dif_pos hd, dif_pos hd]
    rfl
  · rw [dif_neg hd, dif_neg hd]
    have hcall : ∀ b, b.length < 2 ^ 64 →
        (do
          let _ ← add depth 1
          decodePropertyvalue b (depth + 1) (⟨.propertyset, depth⟩ :: running)) =
        ofResult (Codec.decodePropertyvalue b (depth + 1)) := fun b hb =>
      (call_eq hd _).trans (decodePropertyvalue_eq b (depth + 1) _ hb (by omega) (hrun.call _))
    obtain ⟨hloop, -⟩ := readFields_follows hlen {}
      (fun _ st n w _ => propertysetBody_follows hlen hcall st n w) trivial
    simp only [bind, Except.bind] at hloop
    rw [hloop]
    cases Reader.readFields
      (Codec.propertysetBody fun slice => Codec.decodePropertyvalue slice (depth + 1)) {} bytes <;>
      rfl
termination_by MAX_DEPTH + 1 - depth

theorem decodePropertyvalue_eq (bytes : Bytes) (depth : Nat) (running : List Frame)
    (hlen : bytes.length < 2 ^ 64) (hdepth : depth ≤ MAX_DEPTH + 1) (hrun : Below depth running) :
    decodePropertyvalue bytes depth running = ofResult (Codec.decodePropertyvalue bytes depth) := by
  rw [decodePropertyvalue, Codec.decodePropertyvalue, enter_of_below hdepth hrun]
  simp only [bind, Except.bind]
  by_cases hd : depth > MAX_DEPTH
  · rw [dif_pos hd, dif_pos hd]
    rfl
  · rw [dif_neg hd, dif_neg hd]
    have hset : ∀ b, b.length < 2 ^ 64 →
        (do
          let _ ← add depth 1
          decodePropertyset b (depth + 1) (⟨.propertyvalue, depth⟩ :: running)) =
        ofResult (Codec.decodePropertyset b (depth + 1)) := fun b hb =>
      (call_eq hd _).trans (decodePropertyset_eq b (depth + 1) _ hb (by omega) (hrun.call _))
    have hlist : ∀ b, b.length < 2 ^ 64 →
        (do
          let _ ← add depth 1
          decodePropertysetlist b (depth + 1) (⟨.propertyvalue, depth⟩ :: running)) =
        ofResult (Codec.decodePropertysetlist b (depth + 1)) := fun b hb =>
      (call_eq hd _).trans (decodePropertysetlist_eq b (depth + 1) _ hb (by omega) (hrun.call _))
    obtain ⟨hloop, hsized⟩ := readFields_follows hlen {}
      (fun _ st n w hst => propertyvalueBody_follows hlen st n w hst)
      ⟨fun b hb => absurd hb (by simp), fun b hb => absurd hb (by simp)⟩
    rw [hloop]
    cases hst : Reader.readFields Codec.propertyvalueBody {} bytes with
    | error e => rfl
    | ok st =>
      simp only [ofResult_ok]
      cases need st.typeCode "PropertyValue missing type" with
      | error e => rfl
      | ok code =>
        simp only [ofResult_ok]
        cases DataType.fromU32 code with
        | error e => rfl
        | ok dt =>
          simp only [ofResult_ok]
          split
          · rfl
          · exact buildPropertyvalue_eq hset hlist dt (hsized st hst)
termination_by MAX_DEPTH + 1 - depth

theorem decodePropertysetlist_eq (bytes : Bytes) (depth : Nat) (running : List Frame)
    (hlen : bytes.length < 2 ^ 64) (hdepth : depth ≤ MAX_DEPTH + 1) (hrun : Below depth running) :
    decodePropertysetlist bytes depth running =
      ofResult (Codec.decodePropertysetlist bytes depth) := by
  rw [decodePropertysetlist, Codec.decodePropertysetlist, enter_of_below hdepth hrun]
  simp only [bind, Except.bind]
  by_cases hd : depth > MAX_DEPTH
  · rw [dif_pos hd, dif_pos hd]
    rfl
  · rw [dif_neg hd, dif_neg hd]
    have hcall : ∀ b, b.length < 2 ^ 64 →
        (do
          let _ ← add depth 1
          decodePropertyset b (depth + 1) (⟨.propertysetlist, depth⟩ :: running)) =
        ofResult (Codec.decodePropertyset b (depth + 1)) := fun b hb =>
      (call_eq hd _).trans (decodePropertyset_eq b (depth + 1) _ hb (by omega) (hrun.call _))
    obtain ⟨hloop, -⟩ := readFields_follows hlen []
      (fun _ st n w _ => propertysetlistBody_follows hlen hcall st n w) trivial
    simp only [bind, Except.bind] at hloop
    rw [hloop]
    cases Reader.readFields
      (Codec.propertysetlistBody fun slice => Codec.decodePropertyset slice (depth + 1)) [] bytes <;>
      rfl
termination_by MAX_DEPTH + 1 - depth

end

mutual

theorem decodeMetric_eq (bytes : Bytes) (types : Option AliasRegistry) (depth : Nat)
    (running : List Frame) (hlen : bytes.length < 2 ^ 64) (hdepth : depth ≤ MAX_DEPTH + 1)
    (hrun : Below depth running) :
    decodeMetric bytes types depth running = ofResult (Codec.decodeMetric bytes types depth) := by
  rw [decodeMetric, Codec.decodeMetric, enter_of_below hdepth hrun]
  simp only [bind, Except.bind]
  by_cases hd : depth > MAX_DEPTH
  · rw [dif_pos hd, dif_pos hd]
    rfl
  · rw [dif_neg hd, dif_neg hd]
    have hprops : ∀ b, b.length < 2 ^ 64 →
        (do
          let _ ← add depth 1
          decodePropertyset b (depth + 1) (⟨.metric, depth⟩ :: running)) =
        ofResult (Codec.decodePropertyset b (depth + 1)) := fun b hb =>
      (call_eq hd _).trans (decodePropertyset_eq b (depth + 1) _ hb (by omega) (hrun.call _))
    have htemplate : ∀ b, b.length < 2 ^ 64 →
        (do
          let _ ← add depth 1
          decodeTemplate b types (depth + 1) (⟨.metric, depth⟩ :: running)) =
        ofResult (Codec.decodeTemplate b types (depth + 1)) := fun b hb =>
      (call_eq hd _).trans (decodeTemplate_eq b types (depth + 1) _ hb (by omega) (hrun.call _))
    obtain ⟨hloop, hsized⟩ := readFields_follows hlen {}
      (fun _ st n w hst => metricBody_follows hlen hprops st n w hst)
      ⟨fun b hb => absurd hb (by simp), fun b hb => absurd hb (by simp)⟩
    simp only [bind, Except.bind] at hloop
    rw [hloop]
    cases hst : Reader.readFields
      (Codec.metricBody fun slice => Codec.decodePropertyset slice (depth + 1)) {} bytes with
    | error e => rfl
    | ok st =>
      simp only [ofResult_ok]
      cases metricDatatype types st with
      | error e => rfl
      | ok dt =>
        simp only [ofResult_ok]
        cases st.isNull with
        | true => rfl
        | false =>
          have hvalue := buildMetricValue_eq htemplate dt (hsized st hst)
          simp only [bind, Except.bind] at hvalue
          simp only [Bool.false_eq_true, if_false, hvalue]
          cases Codec.buildMetricValue
            (fun slice => Codec.decodeTemplate slice types (depth + 1)) dt st.raw <;> rfl
termination_by MAX_DEPTH + 1 - depth

theorem decodeTemplate_eq (bytes : Bytes) (types : Option AliasRegistry) (depth : Nat)
    (running : List Frame) (hlen : bytes.length < 2 ^ 64) (hdepth : depth ≤ MAX_DEPTH + 1)
    (hrun : Below depth running) :
    decodeTemplate bytes types depth running =
      ofResult (Codec.decodeTemplate bytes types depth) := by
  rw [decodeTemplate, Codec.decodeTemplate, enter_of_below hdepth hrun]
  simp only [bind, Except.bind]
  by_cases hd : depth > MAX_DEPTH
  · rw [dif_pos hd, dif_pos hd]
    rfl
  · rw [dif_neg hd, dif_neg hd]
    have hcall : ∀ b, b.length < 2 ^ 64 →
        (do
          let _ ← add depth 1
          decodeMetric b types (depth + 1) (⟨.template, depth⟩ :: running)) =
        ofResult (Codec.decodeMetric b types (depth + 1)) := fun b hb =>
      (call_eq hd _).trans (decodeMetric_eq b types (depth + 1) _ hb (by omega) (hrun.call _))
    obtain ⟨hloop, -⟩ := readFields_follows hlen {}
      (fun _ st n w _ => templateBody_follows hlen hcall st n w) trivial
    simp only [bind, Except.bind] at hloop
    exact hloop
termination_by MAX_DEPTH + 1 - depth

end

/-- **Decoding never panics.**  On every buffer the decoder with its panics (indices, overflows,
`expect`), the bound on the depth and its growth along the calls ends as the decoder without: with a
payload or an error.  A Rust slice is shorter than `2 ^ 64` (`hlen`). -/
theorem checked_decode (bytes : Bytes) (types : Option AliasRegistry)
    (hlen : bytes.length < 2 ^ 64) :
    decode bytes types = ofResult (SparkplugB.decode bytes types) ∧
      decode bytes types ≠ .error .panic := by
  have hcall : ∀ b, b.length < 2 ^ 64 →
      decodeMetric b types 0 [] = ofResult (Codec.decodeMetric b types 0) := fun b hb =>
    decodeMetric_eq b types 0 [] hb (Nat.zero_le _) (below_nil 0)
  obtain ⟨hloop, -⟩ := readFields_follows hlen {}
    (fun _ st n w _ => payloadBody_follows hlen hcall st n w) trivial
  have heq : decode bytes types = ofResult (SparkplugB.decode bytes types) := hloop
  exact ⟨heq, heq ▸ ofResult_ne_panic _⟩

/-- A BooleanArray that announces `2 ^ 32 - 1` elements and has no bits. -/
def hostile : Bytes := [0x12, 0x09, 0x20, 0x20, 0x82, 0x01, 0x04, 0xff, 0xff, 0xff, 0xff]

theorem checked_decode_hostile :
    (decode hostile none = ofResult (SparkplugB.decode hostile none) ∧
      decode hostile none ≠ .error .panic) ∧
    (SparkplugB.decode hostile none).isOk = false :=
  ⟨checked_decode hostile none (by decide), by decide +kernel⟩

end SparkplugB.Checked
