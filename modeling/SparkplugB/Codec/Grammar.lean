/-
# A message as a list of complete fields

`Spells fs bytes` says which bytes are a message with the fields `fs`: for each field a tag and a
value of the form its wire type asks for.  A varint may be spelled with up to ten bytes, not only
with the shortest run that `write_varint` produces, and its value counts modulo `2 ^ 64`.

* **Every spelling is read** (`readFields_spells`): a decoder's loop in the form `byValue`, run on
  a spelling of `fs`, is the fold of its reaction over `fs`.  `serialize fs` is one spelling
  (`spells_serialize`).
* **Only spellings are read** (`exists_spells`): where a loop succeeds, its buffer spells some list
  of fields, down to the last byte.  So the fuel of `fieldLoop` is never what ends the loop.
-/
import SparkplugB.Codec.WireLaws

namespace SparkplugB

/-! ## 1. Spellings -/

/-- `bytes` is one complete varint of at most ten bytes and reads as `v`. -/
structure Varint (v : UInt64) (bytes : Bytes) : Prop where
  terminated : Base128.Terminated bytes
  length_le : bytes.length ≤ 10
  value : UInt64.ofNat (Base128.value bytes) = v

/-- The bytes of a value, behind its tag. -/
inductive Raw.Spells : Raw → Bytes → Prop
  | varint {v : UInt64} {bytes : Bytes} : Varint v bytes → Raw.Spells (.varint v) bytes
  | i64 {bytes : Bytes} : bytes.length = 8 →
      Raw.Spells (.i64 (UInt64.ofNat (LittleEndian.value bytes))) bytes
  | len {n : UInt64} {bytes b : Bytes} : Varint n bytes → n.toNat = b.length →
      Raw.Spells (.len b) (bytes ++ b)
  | i32 {bytes : Bytes} : bytes.length = 4 →
      Raw.Spells (.i32 (UInt32.ofNat (LittleEndian.value bytes))) bytes

/-- The bytes of a field: a tag and a value. -/
inductive Field.Spells : Field → Bytes → Prop
  | mk {num : Nat} {raw : Raw} {tag value : Bytes} : num < 2 ^ 32 →
      Varint (UInt64.ofNat (8 * num + raw.wire)) tag → raw.Spells value →
      Field.Spells ⟨num, raw⟩ (tag ++ value)

/-- The bytes of a message, field by field. -/
inductive Spells : List Field → Bytes → Prop
  | nil : Spells [] []
  | cons {f : Field} {fs : List Field} {a bytes : Bytes} : f.Spells a → Spells fs bytes →
      Spells (f :: fs) (a ++ bytes)

theorem Varint.length_pos {v : UInt64} {bytes : Bytes} (h : Varint v bytes) : 1 ≤ bytes.length :=
  List.length_pos_of_ne_nil h.terminated.ne_nil

/-- A varint reads as one number only. -/
theorem Varint.unique {v w : UInt64} {bytes : Bytes} (h : Varint v bytes) (h' : Varint w bytes) :
    v = w :=
  h.value.symm.trans h'.value

theorem Field.Spells.length_pos {f : Field} {bytes : Bytes} (h : f.Spells bytes) :
    1 ≤ bytes.length := by
  cases h with
  | mk _ htag _ =>
    have := htag.length_pos
    rw [List.length_append]
    omega

theorem Spells.length_le {fs : List Field} {bytes : Bytes} (h : Spells fs bytes) :
    fs.length ≤ bytes.length := by
  induction h with
  | nil => simp
  | cons hf _ ih =>
    have := hf.length_pos
    simp only [List.length_cons, List.length_append]
    omega

/-- The shortest form is a varint. -/
theorem varint_writeVarint (v : UInt64) : Varint v (Writer.writeVarint v) where
  terminated := by
    rw [Writer.writeVarint_eq]
    exact Base128.terminated_encode v.toNat
  length_le := Writer.length_writeVarint_le v
  value := by
    rw [Writer.writeVarint_eq, Base128.value_encode]
    simp

theorem Raw.spells_payload (raw : Raw) (h : raw.Fits) : raw.Spells raw.payload := by
  cases raw with
  | varint v => exact .varint (varint_writeVarint v)
  | i64 v =>
    have hval : LittleEndian.value (Writer.putU64Le v) = v.toNat :=
      LittleEndian.value_bytes_of_lt (lt_of_lt_of_le v.toNat_lt (by norm_num))
    have hspells : Raw.Spells (.i64 (UInt64.ofNat (LittleEndian.value (Writer.putU64Le v))))
        (Writer.putU64Le v) := .i64 (LittleEndian.length_bytes 8 _)
    rwa [hval, UInt64.ofNat_toNat] at hspells
  | len b =>
    refine .len (varint_writeVarint (UInt64.ofNat b.length)) ?_
    rw [UInt64.toNat_ofNat', Nat.mod_eq_of_lt h]
  | i32 v =>
    have hval : LittleEndian.value (Writer.putU32Le v) = v.toNat :=
      LittleEndian.value_bytes_of_lt (lt_of_lt_of_le v.toNat_lt (by norm_num))
    have hspells : Raw.Spells (.i32 (UInt32.ofNat (LittleEndian.value (Writer.putU32Le v))))
        (Writer.putU32Le v) := .i32 (LittleEndian.length_bytes 4 _)
    rwa [hval, UInt32.ofNat_toNat] at hspells

theorem Field.spells_bytes (f : Field) (h : f.Fits) : f.Spells f.bytes := by
  have hkey : (UInt64.ofNat f.num <<< 3) ||| UInt64.ofNat f.raw.wire =
      UInt64.ofNat (8 * f.num + f.raw.wire) := by
    apply UInt64.toNat_inj.mp
    have := f.raw.wire_lt_eight
    have := h.1
    rw [Reader.toNat_tag_key h.1 f.raw.wire_lt_eight, UInt64.toNat_ofNat']
    omega
  refine .mk h.1 ?_ (f.raw.spells_payload h.2)
  rw [Writer.tag, hkey]
  exact varint_writeVarint _

/-- What the writer appends is a spelling. -/
theorem spells_serialize : ∀ {fs : List Field}, (∀ f ∈ fs, f.Fits) → Spells fs (serialize fs)
  | [], _ => .nil
  | f :: _, h => .cons (f.spells_bytes (h f List.mem_cons_self))
      (spells_serialize fun g hg => h g (List.mem_cons_of_mem _ hg))

namespace Reader

/-! ## 2. A spelling is read back -/

theorem readVarint_spelled {v : UInt64} {bytes : Bytes} (h : Varint v bytes) (pre rest : Bytes) :
    readVarint (between pre (bytes ++ rest)) = .ok (v, between (pre ++ bytes) rest) := by
  rw [readVarint_between h.terminated h.length_le, h.value]

theorem readTag_spelled {num wire : Nat} {tag : Bytes} (hnum : num < 2 ^ 32) (hwire : wire < 8)
    (h : Varint (UInt64.ofNat (8 * num + wire)) tag) (pre rest : Bytes) :
    readTag (between pre (tag ++ rest)) = .ok ((num, wire), between (pre ++ tag) rest) := by
  have hkey : (UInt64.ofNat (8 * num + wire)).toNat = 8 * num + wire := by
    rw [UInt64.toNat_ofNat']
    omega
  have hfield : (UInt64.ofNat (8 * num + wire) >>> 3).toNat = num := by
    rw [UInt64.toNat_shiftRight, hkey]
    simp only [UInt64.reduceToNat, Nat.reduceMod, Nat.shiftRight_eq_div_pow]
    omega
  have hlow : (UInt64.ofNat (8 * num + wire) &&& 0x7).toNat = wire := by
    have h7 : (0x7 : UInt64).toNat = 2 ^ 3 - 1 := rfl
    rw [UInt64.toNat_and, hkey, h7, Nat.and_two_pow_sub_one_eq_mod]
    omega
  simp only [readTag, bind, StateT.bind, readVarint_spelled h, Except.bind, hfield, hlow,
    if_pos hnum, pure, StateT.pure, Except.pure]

/-- Read a value whose tag was already read, given its wire type: what `skip` and every arm of a
decoder do to the reader. -/
def readValue (wire : Nat) : ReadM Raw :=
  match wire with
  | WIRE_VARINT => do pure (.varint (← readVarint))
  | WIRE_I64 => do pure (.i64 (← readFixed64))
  | WIRE_LEN => do pure (.len (← readLenSlice))
  | WIRE_I32 => do pure (.i32 (← readFixed32))
  | other => throw (.invalidWireType other)

theorem readFixed32_spelled {bytes : Bytes} (h : bytes.length = 4) (pre rest : Bytes) :
    readFixed32 (between pre (bytes ++ rest)) =
      .ok (UInt32.ofNat (LittleEndian.value bytes), between (pre ++ bytes) rest) := by
  have htake := take_between pre bytes rest
  rw [h] at htake
  simp only [readFixed32, bind, StateT.bind, htake, Except.bind, pure, StateT.pure, Except.pure]

theorem readFixed64_spelled {bytes : Bytes} (h : bytes.length = 8) (pre rest : Bytes) :
    readFixed64 (between pre (bytes ++ rest)) =
      .ok (UInt64.ofNat (LittleEndian.value bytes), between (pre ++ bytes) rest) := by
  have htake := take_between pre bytes rest
  rw [h] at htake
  simp only [readFixed64, bind, StateT.bind, htake, Except.bind, pure, StateT.pure, Except.pure]

theorem readLenSlice_spelled {n : UInt64} {bytes b : Bytes} (h : Varint n bytes)
    (hn : n.toNat = b.length) (pre rest : Bytes) :
    readLenSlice (between pre (bytes ++ b ++ rest)) =
      .ok (b, between (pre ++ (bytes ++ b)) rest) := by
  rw [List.append_assoc]
  simp only [readLenSlice, bind, StateT.bind, readVarint_spelled h, Except.bind, hn, take_between,
    List.append_assoc]

theorem readValue_spelled {raw : Raw} {bytes : Bytes} (h : raw.Spells bytes)
    (pre rest : Bytes) :
    readValue raw.wire (between pre (bytes ++ rest)) =
      .ok (raw, between (pre ++ bytes) rest) := by
  cases h with
  | varint h =>
    simp only [readValue, Raw.wire, bind, StateT.bind, readVarint_spelled h, Except.bind, pure,
      StateT.pure, Except.pure]
  | i64 h =>
    simp only [readValue, Raw.wire, bind, StateT.bind, readFixed64_spelled h, Except.bind, pure,
      StateT.pure, Except.pure]
  | len h hn =>
    simp only [readValue, Raw.wire, bind, StateT.bind, readLenSlice_spelled h hn, Except.bind, pure,
      StateT.pure, Except.pure]
  | i32 h =>
    simp only [readValue, Raw.wire, bind, StateT.bind, readFixed32_spelled h, Except.bind, pure,
      StateT.pure, Except.pure]

/-! ## 3. What is read is a spelling

Every reader within its buffer is `between pre rest`; each lemma splits off the bytes a method has
consumed. -/

/-- A computation in `ReadM` that continues after `x`. -/
theorem bind_ok {α β : Type} {x : ReadM α} {f : α → ReadM β} {r : Reader} {b : β} {r' : Reader}
    (h : (x >>= f) r = .ok (b, r')) : ∃ a r1, x r = .ok (a, r1) ∧ f a r1 = .ok (b, r') := by
  simp only [bind, StateT.bind, Except.bind] at h
  cases hx : x r with
  | error e => rw [hx] at h; exact absurd h (by simp)
  | ok p =>
    rw [hx] at h
    exact ⟨p.1, p.2, rfl, h⟩

theorem pure_ok {α : Type} {a b : α} {r r' : Reader} (h : (pure a : ReadM α) r = .ok (b, r')) :
    a = b ∧ r = r' := by
  simpa [pure, StateT.pure, Except.pure] using h

theorem throw_not_ok {α : Type} {e : SparkplugError} {r r' : Reader} {b : α}
    (h : (throw e : ReadM α) r = .ok (b, r')) : False := by
  simp [throw, throwThe, MonadExceptOf.throw, StateT.lift, bind, Except.bind] at h

/-- A pure computation leaves the reader where it is. -/
theorem liftM_result_ok {α : Type} {x : Result α} {b : α} {r r' : Reader}
    (h : (liftM x : ReadM α) r = .ok (b, r')) : x = .ok b ∧ r = r' := by
  cases x with
  | error e => exact absurd h (by simp [liftM, monadLift, MonadLift.monadLift, StateT.lift, bind,
      Except.bind])
  | ok a =>
    obtain ⟨rfl, rfl⟩ : a = b ∧ r = r' := by
      simpa [liftM, monadLift, MonadLift.monadLift, StateT.lift, bind, Except.bind, pure,
        Except.pure] using h
    exact ⟨rfl, rfl⟩

theorem readByte_inv {pre rest : Bytes} {b : UInt8} {r : Reader}
    (h : readByte (between pre rest) = .ok (b, r)) :
    ∃ rest', rest = b :: rest' ∧ r = between (pre ++ [b]) rest' := by
  cases rest with
  | nil => exact absurd h (by simp [readByte, between])
  | cons c rest' =>
    rw [readByte_between] at h
    obtain ⟨rfl, rfl⟩ : c = b ∧ _ = r := by simpa using h
    exact ⟨rest', rfl, rfl⟩

theorem readVarintFrom_inv (acc : UInt64) (shift : Nat) :
    ∀ {pre rest : Bytes} {v : UInt64} {r : Reader},
      readVarintFrom acc shift (between pre rest) = .ok (v, r) →
      ∃ bs rest', rest = bs ++ rest' ∧ r = between (pre ++ bs) rest' ∧
        Base128.Terminated bs ∧ shift + 7 * bs.length ≤ 70 := by
  induction acc, shift using readVarintFrom.induct with
  | case1 acc shift hs =>
    intro pre rest v r h
    rw [readVarintFrom, dif_pos hs] at h
    exact (throw_not_ok h).elim
  | case2 acc shift hs ih =>
    intro pre rest v r h
    rw [readVarintFrom, dif_neg hs] at h
    obtain ⟨byte, r1, hb, h⟩ := bind_ok h
    obtain ⟨rest1, rfl, rfl⟩ := readByte_inv hb
    dsimp only at h
    split at h
    · rename_i hlast
      obtain ⟨-, rfl⟩ := pure_ok h
      refine ⟨[byte], rest1, rfl, rfl, .last ((high_bit_eq_zero_iff byte).mp hlast), ?_⟩
      simp only [List.length_singleton]
      omega
    · rename_i hmore
      obtain ⟨bs, rest', rfl, rfl, hbs, hlen⟩ := ih byte h
      have hbig : 128 ≤ byte.toNat := by
        by_contra hlt
        exact hmore ((high_bit_eq_zero_iff byte).mpr (by omega))
      refine ⟨byte :: bs, rest', rfl, by simp, .more hbig hbs, ?_⟩
      rw [List.length_cons]
      omega

theorem readVarint_inv {pre rest : Bytes} {v : UInt64} {r : Reader}
    (h : readVarint (between pre rest) = .ok (v, r)) :
    ∃ bs rest', rest = bs ++ rest' ∧ r = between (pre ++ bs) rest' ∧ Varint v bs := by
  obtain ⟨bs, rest', rfl, rfl, hbs, hlen⟩ := readVarintFrom_inv 0 0 h
  have hread := readVarint_between hbs (by omega) pre rest'
  rw [h] at hread
  obtain rfl := (Prod.mk.inj (Except.ok.inj hread)).1
  exact ⟨bs, rest', rfl, rfl, hbs, by omega, rfl⟩

theorem take_inv {n : Nat} {pre rest b : Bytes} {r : Reader}
    (h : take n (between pre rest) = .ok (b, r)) :
    b.length = n ∧ ∃ rest', rest = b ++ rest' ∧ r = between (pre ++ b) rest' := by
  by_cases hn : n ≤ rest.length
  · have hlen : (rest.take n).length = n := List.length_take_of_le hn
    have htake := take_between pre (rest.take n) (rest.drop n)
    rw [hlen, List.take_append_drop, h] at htake
    obtain ⟨rfl, rfl⟩ := Prod.mk.inj (Except.ok.inj htake)
    exact ⟨hlen, rest.drop n, (List.take_append_drop n rest).symm, rfl⟩
  · exact absurd h (by simp [take, between, hn])

theorem readTag_inv {pre rest : Bytes} {num wire : Nat} {r : Reader}
    (h : readTag (between pre rest) = .ok ((num, wire), r)) :
    num < 2 ^ 32 ∧ ∃ tag rest', rest = tag ++ rest' ∧ r = between (pre ++ tag) rest' ∧
      Varint (UInt64.ofNat (8 * num + wire)) tag := by
  obtain ⟨key, r1, hk, h⟩ := bind_ok h
  obtain ⟨tag, rest', rfl, rfl, htag⟩ := readVarint_inv hk
  split at h
  · rename_i hlt
    obtain ⟨hpair, rfl⟩ := pure_ok h
    obtain ⟨rfl, rfl⟩ := Prod.mk.inj hpair
    refine ⟨hlt, tag, rest', rfl, rfl, ?_⟩
    have hkey : key = UInt64.ofNat (8 * (key >>> 3).toNat + (key &&& 0x7).toNat) := by
      apply UInt64.toNat_inj.mp
      have h7 : (0x7 : UInt64).toNat = 2 ^ 3 - 1 := rfl
      rw [UInt64.toNat_shiftRight, UInt64.toNat_and, h7, Nat.and_two_pow_sub_one_eq_mod]
      simp only [UInt64.reduceToNat, Nat.reduceMod, Nat.shiftRight_eq_div_pow, Nat.reducePow]
      rw [Nat.div_add_mod]
      simp
    rwa [← hkey]
  · exact (throw_not_ok h).elim

theorem readValue_inv {wire : Nat} {pre rest : Bytes} {raw : Raw} {r : Reader}
    (h : readValue wire (between pre rest) = .ok (raw, r)) :
    raw.wire = wire ∧ ∃ bs rest', rest = bs ++ rest' ∧ r = between (pre ++ bs) rest' ∧
      raw.Spells bs := by
  unfold readValue at h
  split at h
  · obtain ⟨v, r1, hv, h⟩ := bind_ok h
    obtain ⟨rfl, rfl⟩ := pure_ok h
    obtain ⟨bs, rest', hrest, hr, hbs⟩ := readVarint_inv hv
    exact ⟨rfl, bs, rest', hrest, hr, .varint hbs⟩
  · obtain ⟨v, r1, hv, h⟩ := bind_ok h
    obtain ⟨rfl, rfl⟩ := pure_ok h
    obtain ⟨b, r2, hb, hv⟩ := bind_ok hv
    obtain ⟨rfl, rfl⟩ := pure_ok hv
    obtain ⟨hlen, rest', hrest, hr⟩ := take_inv hb
    exact ⟨rfl, b, rest', hrest, hr, .i64 hlen⟩
  · obtain ⟨v, r1, hv, h⟩ := bind_ok h
    obtain ⟨rfl, rfl⟩ := pure_ok h
    obtain ⟨n, r2, hn, hv⟩ := bind_ok hv
    obtain ⟨bs, rest1, rfl, rfl, hbs⟩ := readVarint_inv hn
    obtain ⟨hlen, rest', rfl, rfl⟩ := take_inv hv
    exact ⟨rfl, bs ++ v, rest', by simp, by simp, .len hbs hlen.symm⟩
  · obtain ⟨v, r1, hv, h⟩ := bind_ok h
    obtain ⟨rfl, rfl⟩ := pure_ok h
    obtain ⟨b, r2, hb, hv⟩ := bind_ok hv
    obtain ⟨rfl, rfl⟩ := pure_ok hv
    obtain ⟨hlen, rest', hrest, hr⟩ := take_inv hb
    exact ⟨rfl, b, rest', hrest, hr, .i32 hlen⟩
  · exact (throw_not_ok h).elim

/-! ## 4. Loops as folds -/

variable {σ : Type}

/-- A loop body that reads the value by its wire type and then acts on it. -/
def byValue (handle : σ → Nat → Raw → Result σ) (st : σ) (field wire : Nat) : ReadM σ := do
  let raw ← readValue wire
  handle st field raw

/-- The fold a loop performs. -/
def foldFields (handle : σ → Nat → Raw → Result σ) (init : σ) (fs : List Field) : Result σ :=
  fs.foldlM (fun st f => handle st f.num f.raw) init

@[simp] theorem foldFields_nil (handle : σ → Nat → Raw → Result σ) (init : σ) :
    foldFields handle init [] = .ok init := rfl

theorem foldFields_cons (handle : σ → Nat → Raw → Result σ) (init : σ) (f : Field)
    (fs : List Field) :
    foldFields handle init (f :: fs) =
      (handle init f.num f.raw).bind fun st => foldFields handle st fs := rfl

theorem fieldLoop_spells (handle : σ → Nat → Raw → Result σ) {fs : List Field} {bytes : Bytes}
    (h : Spells fs bytes) :
    ∀ (fuel : Nat) (pre : Bytes) (st : σ), fs.length ≤ fuel →
      (fieldLoop (byValue handle) fuel st).run' (between pre bytes) = foldFields handle st fs := by
  induction h with
  | nil =>
    intro fuel pre st _
    cases fuel with
    | zero => rfl
    | succ n =>
      simp only [fieldLoop, StateT.run', bind, StateT.bind, get, getThe, MonadStateOf.get,
        StateT.get, pure, Except.pure, Except.bind, isEmpty_between]
      rfl
  | @cons f fs a bytes hf _ ih =>
    intro fuel pre st hfuel
    obtain ⟨fuel, rfl⟩ : ∃ n, fuel = n + 1 := ⟨fuel - 1, by rw [List.length_cons] at hfuel; omega⟩
    have hne : ¬ (a ++ bytes = []) := by
      intro h
      have := hf.length_pos
      rw [List.append_eq_nil_iff] at h
      simp [h.1] at this
    simp only [fieldLoop, StateT.run', bind, StateT.bind, get, getThe, MonadStateOf.get,
      StateT.get, pure, Except.pure, Except.bind, isEmpty_between, hne, decide_false,
      Bool.false_eq_true, if_false]
    cases hf with
    | @mk num raw tag value hnum htag hval =>
      have ih := fun st' => ih fuel (pre ++ tag ++ value) st' (by simpa using hfuel)
      rw [List.append_assoc, readTag_spelled hnum raw.wire_lt_eight htag, foldFields_cons]
      simp only [byValue, bind, StateT.bind, Except.bind, readValue_spelled hval]
      cases hh : handle st num raw with
      | error e => rfl
      | ok st' => exact ih st'

/-- **Every spelling is read.**  A decoder's loop, run on a spelling of a list of fields, is the
fold of its action over the list. -/
theorem readFields_spells (handle : σ → Nat → Raw → Result σ) (init : σ) {fs : List Field}
    {bytes : Bytes} (h : Spells fs bytes) :
    readFields (byValue handle) init bytes = foldFields handle init fs :=
  fieldLoop_spells handle h _ [] init h.length_le

/-- **The loop on serialized fields.**  What the writer appended is read back field by field. -/
theorem readFields_serialize (handle : σ → Nat → Raw → Result σ) (init : σ) (fs : List Field)
    (hfits : ∀ f ∈ fs, f.Fits) :
    readFields (byValue handle) init (serialize fs) = foldFields handle init fs :=
  readFields_spells handle init (spells_serialize hfits)

/-- One round of the loop: it ends on an empty reader, or a complete field was read and handled. -/
theorem fieldLoop_succ_ok {handle : σ → Nat → Raw → Result σ} {fuel : Nat} {st st' : σ}
    {pre rest : Bytes} {r' : Reader}
    (h : fieldLoop (byValue handle) (fuel + 1) st (between pre rest) = .ok (st', r')) :
    (rest = [] ∧ st = st') ∨
    ∃ (f : Field) (st1 : σ) (a rest' : Bytes), rest = a ++ rest' ∧ f.Spells a ∧ handle st f.num f.raw = .ok st1 ∧
      fieldLoop (byValue handle) fuel st1 (between (pre ++ a) rest') = .ok (st', r') := by
  obtain ⟨r0, r0', hget, h⟩ := bind_ok h
  obtain ⟨rfl, rfl⟩ : between pre rest = r0 ∧ between pre rest = r0' := by
    simpa [get, getThe, MonadStateOf.get, StateT.get, pure, Except.pure] using hget
  split at h
  · rename_i hempty
    obtain ⟨rfl, -⟩ := pure_ok h
    exact Or.inl ⟨by simpa using hempty, rfl⟩
  · obtain ⟨⟨num, wire⟩, r1, ht, h⟩ := bind_ok h
    obtain ⟨hnum, tag, rest1, rfl, rfl, htag⟩ := readTag_inv ht
    obtain ⟨st1, r2, hbody, h⟩ := bind_ok h
    obtain ⟨raw, r3, hv, hbody⟩ := bind_ok hbody
    obtain ⟨rfl, value, rest', rfl, rfl, hval⟩ := readValue_inv hv
    obtain ⟨hh, rfl⟩ := liftM_result_ok hbody
    refine Or.inr ⟨⟨num, raw⟩, st1, tag ++ value, rest', ?_, .mk hnum htag hval, hh, ?_⟩
    · rw [List.append_assoc]
    · rw [← List.append_assoc]
      exact h

theorem fieldLoop_inv (handle : σ → Nat → Raw → Result σ) :
    ∀ (fuel : Nat) (st : σ) (pre rest : Bytes) (st' : σ) (r' : Reader), rest.length ≤ fuel →
      fieldLoop (byValue handle) fuel st (between pre rest) = .ok (st', r') →
      ∃ fs, Spells fs rest ∧ foldFields handle st fs = .ok st'
  | 0, st, pre, rest, st', r', hfuel, h => by
    obtain rfl : rest = [] := List.length_eq_zero_iff.mp (by omega)
    obtain ⟨rfl, -⟩ := pure_ok h
    exact ⟨[], .nil, rfl⟩
  | fuel + 1, st, pre, rest, st', r', hfuel, h => by
    rcases fieldLoop_succ_ok h with ⟨rfl, rfl⟩ | ⟨f, st1, a, rest', rfl, hf, hh, hrest⟩
    · exact ⟨[], .nil, rfl⟩
    · have hpos := hf.length_pos
      rw [List.length_append] at hfuel
      obtain ⟨fs, hfs, hfold⟩ := fieldLoop_inv handle fuel st1 _ rest' st' r' (by omega) hrest
      refine ⟨f :: fs, .cons hf hfs, ?_⟩
      rw [foldFields_cons, hh]
      exact hfold

/-- **Only spellings are read.**  Where a loop succeeds, its buffer is a sequence of complete
fields, and the result is the fold over them; so a decoder can be studied field by field. -/
theorem exists_spells {handle : σ → Nat → Raw → Result σ} {init st : σ} {bytes : Bytes}
    (h : readFields (byValue handle) init bytes = .ok st) :
    ∃ fs, Spells fs bytes ∧ foldFields handle init fs = .ok st := by
  simp only [readFields, StateT.run', Functor.map, Except.map] at h
  cases hl : fieldLoop (byValue handle) bytes.length init (new bytes) with
  | error e => rw [hl] at h; exact absurd h (by simp)
  | ok p =>
    obtain ⟨st', r'⟩ := p
    rw [hl] at h
    obtain rfl : st' = st := by simpa using h
    rw [new_eq_between] at hl
    exact fieldLoop_inv handle _ _ _ _ _ _ le_rfl hl

/-- What every field of a fold keeps holds of its result. -/
theorem foldFields_invariant {handle : σ → Nat → Raw → Result σ} {P : σ → Prop}
    (hstep : ∀ st num raw st', P st → handle st num raw = .ok st' → P st') :
    ∀ (fs : List Field) (init st : σ), P init → foldFields handle init fs = .ok st → P st
  | [], init, st, h0, h => by
    rw [← Except.ok.inj h]
    exact h0
  | f :: fs, init, st, h0, h => by
    rw [foldFields_cons] at h
    cases hh : handle init f.num f.raw with
    | error e => rw [hh] at h; exact absurd h (by simp [Except.bind])
    | ok st1 =>
      rw [hh] at h
      exact foldFields_invariant hstep fs st1 st (hstep _ _ _ _ h0 hh) h

/-- An invariant of a loop: what holds of the initial variables and is kept by every field holds
of the result. -/
theorem readFields_invariant {handle : σ → Nat → Raw → Result σ} {P : σ → Prop} {init st : σ}
    {bytes : Bytes} (h : readFields (byValue handle) init bytes = .ok st) (h0 : P init)
    (hstep : ∀ st num raw st', P st → handle st num raw = .ok st' → P st') : P st := by
  obtain ⟨fs, -, hfs⟩ := exists_spells h
  exact foldFields_invariant hstep fs init st h0 hfs

end Reader

end SparkplugB
