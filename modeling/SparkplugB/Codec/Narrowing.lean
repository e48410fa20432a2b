/-
# Numbers wider than their type

The decoders read every number of 8, 16 or 32 bits, and the sequence number of a payload, as a
varint and cut it to the width of its type (`as u32`, `as u8`), after `read_varint` has already
dropped what does not go into 64 bits.  So what they return is what stands on the wire modulo a
power of two (`unsigned_eq_narrowed`), and it is what stands on the wire exactly if every varint
fits the type it is declared with (`unsigned_eq_wire_iff`).

The proof follows the loops.  `foldFields_history` is the induction rule: what a loop has read so
far, as a relation between the fields and the local variables, kept by every further field.  Each
kind of message has one such relation (`MetricRead` and its siblings).  The fields hold what
`read_varint` has returned; `lastVarint_eq` says what that is of the number on the wire.
-/
import SparkplugB.Codec.WireNumbers
import SparkplugB.Codec.ArrayLaws

namespace SparkplugB

open Reader

/-! ## 1. The fields a loop has read -/

theorem foldFields_collect (fs : List Field) (acc : List Field) :
    foldFields (fun fs n raw => .ok (fs ++ [⟨n, raw⟩])) acc fs = .ok (acc ++ fs) := by
  induction fs generalizing acc with
  | nil => rw [foldFields_nil, List.append_nil]
  | cons f fs ih =>
    rw [foldFields_cons, Except.bind, ih, List.append_assoc]
    rfl

theorem fieldsOf_spells {fs : List Field} {bytes : Bytes} (h : Spells fs bytes) :
    fieldsOf bytes = fs := by
  rw [fieldsOf, readFields_spells _ _ h, foldFields_collect]
  rfl

variable {σ : Type} {handle : σ → Nat → Raw → Result σ}

/-- A loop that succeeds is the fold over the fields of its buffer. -/
theorem foldFields_fieldsOf {init st : σ} {bytes : Bytes}
    (h : readFields (byValue handle) init bytes = .ok st) :
    foldFields handle init (fieldsOf bytes) = .ok st := by
  obtain ⟨fs, hfs, hfold⟩ := exists_spells h
  rw [fieldsOf_spells hfs]
  exact hfold

/-- What every further field keeps holds of all fields and the final variables. -/
theorem foldFields_history {P : List Field → σ → Prop}
    (hstep : ∀ {fs : List Field} {st st' : σ} {n : Nat} {raw : Raw}, P fs st →
      handle st n raw = .ok st' → P (fs ++ [⟨n, raw⟩]) st') :
    ∀ {fs pre : List Field} {init st : σ}, P pre init → foldFields handle init fs = .ok st →
      P (pre ++ fs) st
  | [], pre, init, st, h0, h => by
    rw [← Except.ok.inj h, List.append_nil]
    exact h0
  | f :: fs, pre, init, st, h0, h => by
    rw [foldFields_cons] at h
    obtain ⟨st1, h1, h⟩ := ok_of_bind h
    have := foldFields_history hstep (hstep h0 h1) h
    rwa [List.append_assoc] at this

/-- The rule for a whole buffer. -/
theorem readFields_history {P : List Field → σ → Prop} {init st : σ} {bytes : Bytes}
    (h : readFields (byValue handle) init bytes = .ok st) (h0 : P [] init)
    (hstep : ∀ {fs : List Field} {st st' : σ} {n : Nat} {raw : Raw}, P fs st →
      handle st n raw = .ok st' → P (fs ++ [⟨n, raw⟩]) st') : P (fieldsOf bytes) st := by
  have := foldFields_history hstep h0 (foldFields_fieldsOf h)
  rwa [List.nil_append] at this

section Concat

variable {n m : Nat} {raw : Raw} (fs : List Field)

@[simp] theorem lastVarint_self (v : UInt64) :
    lastVarint n (fs ++ [⟨n, .varint v⟩]) = some v := by
  simp [lastVarint, Field.varint?]

@[simp] theorem slices_self (b : Bytes) : slices n (fs ++ [⟨n, .len b⟩]) = slices n fs ++ [b] := by
  simp [slices, Field.slice?]

@[simp] theorem lastSlice_self (b : Bytes) : lastSlice n (fs ++ [⟨n, .len b⟩]) = some b := by
  simp [lastSlice]

@[simp] theorem isSet_self (v : UInt64) : isSet n (fs ++ [⟨n, .varint v⟩]) = (v != 0) := by
  simp [isSet]

/-- A field that is no varint of number `m`. -/
@[simp] theorem lastVarint_skip (h : ∀ v, n = m → raw = .varint v → False) :
    lastVarint m (fs ++ [⟨n, raw⟩]) = lastVarint m fs := by
  have hnone : Field.varint? m ⟨n, raw⟩ = none := by
    cases raw with
    | varint v => exact if_neg fun hn => h v hn rfl
    | _ => rfl
  simp [lastVarint, hnone]

/-- A field that is no slice of number `m`. -/
@[simp] theorem slices_skip (h : ∀ b, n = m → raw = .len b → False) :
    slices m (fs ++ [⟨n, raw⟩]) = slices m fs := by
  have hnone : Field.slice? m ⟨n, raw⟩ = none := by
    cases raw with
    | len b => exact if_neg fun hn => h b hn rfl
    | _ => rfl
  simp [slices, hnone]

@[simp] theorem lastSlice_skip (h : ∀ b, n = m → raw = .len b → False) :
    lastSlice m (fs ++ [⟨n, raw⟩]) = lastSlice m fs := by
  rw [lastSlice, slices_skip fs h, lastSlice]

@[simp] theorem isSet_skip (h : ∀ v, n = m → raw = .varint v → False) :
    isSet m (fs ++ [⟨n, raw⟩]) = isSet m fs := by
  rw [isSet, lastVarint_skip fs h, isSet]

end Concat

/-! ## 2. The numbers under the fields -/

theorem readNumber_spelled {v : UInt64} {bs : Bytes} (h : Varint v bs) (pre rest : Bytes) :
    readNumber (between pre (bs ++ rest)) =
      .ok (Base128.value bs, between (pre ++ bs) rest) := by
  rw [readNumber, readVarint_spelled h]
  simp [between]

/-- The value of one field: a varint of number `n` is collected, everything else is skipped. -/
theorem numberField_spelled (n : Nat) {num : Nat} {raw : Raw} {value : Bytes}
    (h : raw.Spells value) (vs : List Nat) (pre rest : Bytes) :
    ∃ vs', numberField n vs num raw.wire (between pre (value ++ rest)) =
        .ok (vs', between (pre ++ value) rest) ∧
      vs'.map UInt64.ofNat = vs.map UInt64.ofNat ++ (Field.varint? n ⟨num, raw⟩).toList := by
  cases h with
  | varint hv =>
    by_cases hn : num = n
    · refine ⟨vs ++ [Base128.value value], ?_, by simp [Field.varint?, hn, hv.value]⟩
      simp only [numberField, Raw.wire, bind, StateT.bind, readNumber_spelled hv, Except.bind, hn,
        if_true, pure, StateT.pure, Except.pure]
    · refine ⟨vs, ?_, by simp [Field.varint?, hn]⟩
      simp only [numberField, Raw.wire, bind, StateT.bind, readNumber_spelled hv, Except.bind, hn,
        if_false, pure, StateT.pure, Except.pure]
  | i64 hlen =>
    refine ⟨vs, ?_, by simp [Field.varint?]⟩
    simp only [numberField, Raw.wire, skip, bind, StateT.bind, readFixed64_spelled hlen,
      Except.bind, pure, StateT.pure, Except.pure]
  | len hv hlen =>
    refine ⟨vs, ?_, by simp [Field.varint?]⟩
    simp only [numberField, Raw.wire, skip, bind, StateT.bind, readLenSlice_spelled hv hlen,
      Except.bind, pure, StateT.pure, Except.pure]
  | i32 hlen =>
    refine ⟨vs, ?_, by simp [Field.varint?]⟩
    simp only [numberField, Raw.wire, skip, bind, StateT.bind, readFixed32_spelled hlen,
      Except.bind, pure, StateT.pure, Except.pure]

theorem numberLoop_spells (n : Nat) {fs : List Field} {bytes : Bytes} (h : Spells fs bytes) :
    ∀ (fuel : Nat) (pre : Bytes) (vs : List Nat), fs.length ≤ fuel →
      ∃ vs', (fieldLoop (numberField n) fuel vs).run' (between pre bytes) = .ok vs' ∧
        vs'.map UInt64.ofNat = vs.map UInt64.ofNat ++ fs.filterMap (Field.varint? n) := by
  induction h with
  | nil =>
    intro fuel pre vs _
    refine ⟨vs, ?_, by simp⟩
    cases fuel with
    | zero => rfl
    | succ k =>
      simp only [fieldLoop, StateT.run', bind, StateT.bind, get, getThe, MonadStateOf.get,
        StateT.get, pure, Except.pure, Except.bind, isEmpty_between]
      rfl
  | @cons f fs a bytes hf _ ih =>
    intro fuel pre vs hfuel
    obtain ⟨fuel, rfl⟩ : ∃ k, fuel = k + 1 := ⟨fuel - 1, by rw [List.length_cons] at hfuel; omega⟩
    have hne : ¬ (a ++ bytes = []) := by
      intro h
      have := hf.length_pos
      rw [List.append_eq_nil_iff] at h
      simp [h.1] at this
    cases hf with
    | @mk num raw tag value hnum htag hval =>
      obtain ⟨vs1, hbody, hvs1⟩ := numberField_spelled n hval vs (pre ++ tag) bytes
      obtain ⟨vs', hrest, hvs'⟩ := ih fuel (pre ++ tag ++ value) vs1 (by simpa using hfuel)
      refine ⟨vs', ?_, ?_⟩
      · simp only [fieldLoop, StateT.run', bind, StateT.bind, get, getThe, MonadStateOf.get,
          StateT.get, pure, Except.pure, Except.bind, isEmpty_between, hne, decide_false,
          Bool.false_eq_true, if_false]
        rw [List.append_assoc, readTag_spelled hnum raw.wire_lt_eight htag]
        dsimp only
        rw [hbody]
        exact hrest
      · rw [hvs', hvs1, List.append_assoc, List.filterMap_cons]
        cases Field.varint? n ⟨num, raw⟩ <;> rfl

/-- **What `read_varint` has returned for the field that counts** is the number on the wire modulo
`2 ^ 64`. -/
theorem lastVarint_eq {init st : σ} {bytes : Bytes}
    (h : readFields (byValue handle) init bytes = .ok st) (n : Nat) :
    lastVarint n (fieldsOf bytes) = (lastNumber n bytes).map UInt64.ofNat := by
  obtain ⟨fs, hfs, -⟩ := exists_spells h
  obtain ⟨vs, hread, hvs⟩ := numberLoop_spells n hfs bytes.length [] [] hfs.length_le
  have hnumbers : numbers n bytes = vs := by
    rw [numbers, readFields, new_eq_between, hread]
  rw [fieldsOf_spells hfs, lastVarint, lastNumber, hnumbers, ← List.getLast?_map, hvs,
    List.map_nil, List.nil_append]

/-- A slot that holds the last varint as a `u32` holds the number modulo `2 ^ 32`. -/
theorem intV_of_read {init st : σ} {bytes : Bytes} {slot : Option UInt32} {n : Nat}
    (h : readFields (byValue handle) init bytes = .ok st)
    (hslot : slot = (lastVarint n (fieldsOf bytes)).map UInt64.toUInt32) :
    slot = (lastNumber n bytes).map UInt32.ofNat := by
  have hcut : UInt64.toUInt32 ∘ UInt64.ofNat = UInt32.ofNat := by
    funext v
    apply UInt32.toNat_inj.mp
    rw [Function.comp_apply, UInt64.toNat_toUInt32, UInt64.toNat_ofNat', UInt32.toNat_ofNat']
    omega
  rw [hslot, lastVarint_eq h, Option.map_map, hcut]

/-! ## 3. Narrowing -/

namespace WireNumber

/-- What is left of the number in its width. -/
def narrowed (n : WireNumber) : Nat := n.varint % 2 ^ n.width

theorem narrowed_eq_iff (n : WireNumber) : n.narrowed = n.varint ↔ n.Fits :=
  Nat.mod_eq_iff_lt (Nat.two_pow_pos _).ne'

end WireNumber

namespace Codec

/-- The varint a decoder needs has been read. -/
theorem wire_of_need {α : Type} {cut : α → UInt32} {intV : Option UInt32} {wire : Option α}
    {msg : String} {x : UInt32} (hint : intV = wire.map cut) (h : need intV msg = .ok x) :
    ∃ v, wire = some v ∧ x = cut v := by
  rw [hint] at h
  obtain ⟨v, hv, hx⟩ := Option.map_eq_some_iff.mp (ok_of_need h)
  exact ⟨v, hv, hx.symm⟩

theorem unsigned_of_buildDatasetvalue {dt : DataType} {st : Slots} {wire : Option Nat}
    {v : DataSetValue} (hint : st.intV = wire.map UInt32.ofNat)
    (h : buildDatasetvalue dt st = .ok v) :
    v.unsigned = (scalarNumber dt wire).map WireNumber.narrowed := by
  unfold buildDatasetvalue at h
  split at h
  case h_4 =>
    obtain ⟨x, hx, rfl⟩ := ok_of_map h
    obtain ⟨w, rfl, rfl⟩ := wire_of_need hint hx
    simp [DataSetValue.unsigned, scalarNumber, DataType.width?, WireNumber.narrowed]
  case h_5 =>
    obtain ⟨x, hx, rfl⟩ := ok_of_map h
    obtain ⟨w, rfl, rfl⟩ := wire_of_need hint hx
    simp [DataSetValue.unsigned, scalarNumber, DataType.width?, WireNumber.narrowed]
  case h_6 =>
    obtain ⟨x, hx, rfl⟩ := ok_of_map h
    obtain ⟨w, rfl, rfl⟩ := wire_of_need hint hx
    simp [DataSetValue.unsigned, scalarNumber, DataType.width?, WireNumber.narrowed]
  case h_15 => exact absurd h (by simp)
  all_goals
    obtain ⟨x, -, rfl⟩ := ok_of_map h
    rfl

theorem unsigned_of_buildParameterValue {dt : DataType} {st : Slots} {wire : Option Nat}
    {v : ParameterValue} (hint : st.intV = wire.map UInt32.ofNat)
    (h : buildParameterValue dt st = .ok v) :
    v.unsigned = (scalarNumber dt wire).map WireNumber.narrowed := by
  unfold buildParameterValue at h
  split at h
  case h_4 =>
    obtain ⟨x, hx, rfl⟩ := ok_of_map h
    obtain ⟨w, rfl, rfl⟩ := wire_of_need hint hx
    simp [ParameterValue.unsigned, scalarNumber, DataType.width?, WireNumber.narrowed]
  case h_5 =>
    obtain ⟨x, hx, rfl⟩ := ok_of_map h
    obtain ⟨w, rfl, rfl⟩ := wire_of_need hint hx
    simp [ParameterValue.unsigned, scalarNumber, DataType.width?, WireNumber.narrowed]
  case h_6 =>
    obtain ⟨x, hx, rfl⟩ := ok_of_map h
    obtain ⟨w, rfl, rfl⟩ := wire_of_need hint hx
    simp [ParameterValue.unsigned, scalarNumber, DataType.width?, WireNumber.narrowed]
  case h_15 => exact absurd h (by simp)
  all_goals
    obtain ⟨x, -, rfl⟩ := ok_of_map h
    rfl

/-- The nested messages of a loop, decoded one by one. -/
theorem flatMap_narrowed {α β : Type} {dec : β → Result α} {unsigned : α → List Nat}
    {numbers : β → List WireNumber}
    (hdec : ∀ b v, dec b = .ok v → unsigned v = (numbers b).map WireNumber.narrowed) :
    ∀ {bs : List β} {vs : List α}, bs.map dec = vs.map Except.ok →
      vs.flatMap unsigned = (bs.flatMap numbers).map WireNumber.narrowed
  | [], [], _ => rfl
  | [], _ :: _, h => absurd h (by simp)
  | _ :: _, [], h => absurd h (by simp)
  | b :: bs, v :: vs, h => by
    rw [List.map_cons, List.map_cons, List.cons.injEq] at h
    rw [List.flatMap_cons, List.flatMap_cons, List.map_append, hdec b v h.1,
      flatMap_narrowed hdec h.2]

/-- The one nested message that counts. -/
theorem elim_narrowed {α : Type} {dec : Bytes → Result α} {unsigned : α → List Nat}
    {numbers : Bytes → List WireNumber}
    (hdec : ∀ b v, dec b = .ok v → unsigned v = (numbers b).map WireNumber.narrowed)
    {slice : Option Bytes} {v : Option α} (h : slice.map dec = v.map Except.ok) :
    v.elim [] unsigned = (slice.elim [] numbers).map WireNumber.narrowed := by
  match slice, v, h with
  | none, none, _ => rfl
  | some b, some v, h => exact hdec b v (Option.some.inj h)

theorem text_eq {b : Bytes} {s : String} (h : text b = .ok s) : fromUtf8 b = some s := by
  unfold text at h
  split at h
  · rename_i t ht
    rw [ht, Except.ok.inj h]
  · exact absurd h (by simp)

theorem typeCode_eq {v : UInt64} {c : UInt32} (h : typeCode v = .ok c) : v.toUInt32 = c := by
  unfold typeCode at h
  split at h
  · exact Except.ok.inj h
  · exact absurd h (by simp)

/-! ## 4. What the loops have read -/

theorem cellRead {bytes : Bytes} {st : Slots}
    (h : readFields (byValue datasetvalueField) {} bytes = .ok st) :
    st.intV = (lastVarint 1 (fieldsOf bytes)).map UInt64.toUInt32 := by
  refine readFields_history (P := fun fs (st : Slots) =>
    st.intV = (lastVarint 1 fs).map UInt64.toUInt32) h rfl ?_
  intro fs st st' n raw hst h
  unfold datasetvalueField at h
  split at h
  case h_7 =>
    obtain rfl := Except.ok.inj h
    simp (disch := assumption) only [lastVarint_skip, hst]
  all_goals first
    | (obtain rfl := Except.ok.inj h; simp [hst])
    | (obtain ⟨_, _, rfl⟩ := ok_of_map h; simp [hst])

structure ParameterRead (fs : List Field) (st : RawParameter) : Prop where
  typeCode : st.typeCode = (lastVarint 2 fs).map UInt64.toUInt32
  intV : st.intV = (lastVarint 3 fs).map UInt64.toUInt32

theorem parameterRead {bytes : Bytes} {st : RawParameter}
    (h : readFields (byValue parameterField) {} bytes = .ok st) :
    ParameterRead (fieldsOf bytes) st := by
  refine readFields_history h ⟨rfl, rfl⟩ ?_
  intro fs st st' n raw ⟨htype, hint⟩ h
  unfold parameterField at h
  split at h
  case h_2 =>
    obtain ⟨_, hcode, rfl⟩ := ok_of_map h
    constructor <;> simp [hint, typeCode_eq hcode]
  case h_9 =>
    obtain rfl := Except.ok.inj h
    constructor <;> simp (disch := assumption) only [lastVarint_skip, htype, hint]
  all_goals first
    | (obtain rfl := Except.ok.inj h; constructor <;> simp [htype, hint])
    | (obtain ⟨_, _, rfl⟩ := ok_of_map h; constructor <;> simp [htype, hint])

theorem valuesRead {dec : Bytes → Result PropertyValue} {bytes : Bytes} {st : RawPropertySet}
    (h : readFields (byValue (propertysetField dec)) {} bytes = .ok st) :
    (slices 2 (fieldsOf bytes)).map dec = st.values.map Except.ok := by
  refine readFields_history (P := fun fs (st : RawPropertySet) =>
    (slices 2 fs).map dec = st.values.map Except.ok) h rfl ?_
  intro fs st st' n raw hst h
  unfold propertysetField at h
  split at h
  · obtain ⟨_, _, rfl⟩ := ok_of_map h
    simp [hst]
  · obtain ⟨v, hv, rfl⟩ := ok_of_map h
    simp [hst, hv]
  · obtain rfl := Except.ok.inj h
    simp (disch := assumption) only [slices_skip, hst]

theorem setsRead {dec : Bytes → Result PropertySet} {bytes : Bytes} {sets : List PropertySet}
    (h : readFields (byValue (propertysetlistField dec)) [] bytes = .ok sets) :
    (slices 1 (fieldsOf bytes)).map dec = sets.map Except.ok := by
  refine readFields_history (P := fun fs (sets : List PropertySet) =>
    (slices 1 fs).map dec = sets.map Except.ok) h rfl ?_
  intro fs st st' n raw hst h
  unfold propertysetlistField at h
  split at h
  · obtain ⟨set, hset, rfl⟩ := ok_of_map h
    simp [hst, hset]
  · obtain rfl := Except.ok.inj h
    simp (disch := assumption) only [slices_skip, hst]

structure PropertyvalueRead (fs : List Field) (st : RawPropertyValue) : Prop where
  typeCode : st.typeCode = (lastVarint 1 fs).map UInt64.toUInt32
  isNull : st.isNull = isSet 2 fs
  intV : st.intV = (lastVarint 3 fs).map UInt64.toUInt32
  psSlice : st.psSlice = lastSlice 9 fs
  pslSlice : st.pslSlice = lastSlice 10 fs

theorem propertyvalueRead {bytes : Bytes} {st : RawPropertyValue}
    (h : readFields (byValue propertyvalueField) {} bytes = .ok st) :
    PropertyvalueRead (fieldsOf bytes) st := by
  refine readFields_history h ⟨rfl, rfl, rfl, rfl, rfl⟩ ?_
  intro fs st st' n raw ⟨htype, hnull, hint, hps, hpsl⟩ h
  unfold propertyvalueField at h
  split at h
  case h_1 =>
    obtain ⟨_, hcode, rfl⟩ := ok_of_map h
    constructor <;> simp [hnull, hint, hps, hpsl, typeCode_eq hcode]
  case h_11 =>
    obtain rfl := Except.ok.inj h
    constructor <;> simp (disch := assumption) only [lastVarint_skip, isSet_skip, lastSlice_skip,
      htype, hnull, hint, hps, hpsl]
  all_goals first
    | (obtain rfl := Except.ok.inj h; constructor <;> simp [htype, hnull, hint, hps, hpsl])
    | (obtain ⟨_, _, rfl⟩ := ok_of_map h; constructor <;> simp [htype, hnull, hint, hps, hpsl])

theorem rowSlicesRead {bytes : Bytes} {st : RawDataSet}
    (h : readFields (byValue datasetField) {} bytes = .ok st) :
    st.rowSlices = slices 4 (fieldsOf bytes) := by
  refine readFields_history (P := fun fs (st : RawDataSet) => st.rowSlices = slices 4 fs) h rfl ?_
  intro fs st st' n raw hst h
  unfold datasetField at h
  split at h
  case h_4 =>
    obtain rfl := Except.ok.inj h
    simp [hst]
  case h_5 =>
    obtain rfl := Except.ok.inj h
    simp (disch := assumption) only [slices_skip, hst]
  all_goals
    obtain ⟨_, _, rfl⟩ := ok_of_map h
    simp [hst]

theorem zip_concat {α β : Type} {b : β} {a : α} : ∀ {as : List α} {bs : List β},
    bs[as.length]? = some b → (as ++ [a]).zip bs = as.zip bs ++ [(a, b)]
  | [], c :: bs, h => by
    obtain rfl : c = b := by simpa using h
    simp
  | _ :: as, c :: bs, h => by
    have hrest : bs[as.length]? = some b := by simpa using h
    rw [List.cons_append, List.zip_cons_cons, zip_concat hrest]
    rfl
  | [], [], h => absurd h (by simp)
  | _ :: _, [], h => absurd h (by simp)

structure RowRead (types : List DataType) (fs : List Field) (cells : List DataSetValue) : Prop where
  length : cells.length = (slices 1 fs).length
  cells : ((slices 1 fs).zip types).map (fun c => decodeDatasetvalue c.1 c.2) = cells.map Except.ok

theorem rowRead {types : List DataType} {bytes : Bytes} {cells : List DataSetValue}
    (h : readFields (byValue (rowField types)) [] bytes = .ok cells) :
    RowRead types (fieldsOf bytes) cells := by
  refine readFields_history h ⟨rfl, rfl⟩ ?_
  intro fs st st' n raw ⟨hlen, hcells⟩ h
  unfold rowField at h
  split at h
  · split at h
    · rename_i dt hdt
      obtain ⟨v, hv, rfl⟩ := ok_of_map h
      rw [hlen] at hdt
      constructor
      · simp [hlen]
      · simp [zip_concat hdt, hcells, hv]
    · exact absurd h (by simp)
  · obtain rfl := Except.ok.inj h
    constructor <;> simp (disch := assumption) only [slices_skip, hlen, hcells]

structure MetricRead (dec : Bytes → Result PropertySet) (fs : List Field) (m : RawMetric) :
    Prop where
  name : m.name = (lastSlice 1 fs).bind fromUtf8
  «alias» : m.alias = lastVarint 2 fs
  datatype : m.datatype = (lastVarint 4 fs).map UInt64.toUInt32
  isNull : m.isNull = isSet 7 fs
  properties : (lastSlice 9 fs).map dec = m.properties.map Except.ok
  intV : m.raw.intV = (lastVarint 10 fs).map UInt64.toUInt32
  datasetV : m.raw.datasetV = lastSlice 17 fs
  templateV : m.raw.templateV = lastSlice 18 fs

theorem metricRead {dec : Bytes → Result PropertySet} {bytes : Bytes} {m : RawMetric}
    (h : readFields (byValue (metricField dec)) {} bytes = .ok m) :
    MetricRead dec (fieldsOf bytes) m := by
  refine readFields_history h ⟨rfl, rfl, rfl, rfl, rfl, rfl, rfl, rfl⟩ ?_
  intro fs st st' n raw ⟨hname, halias, htype, hnull, hprops, hint, hds, ht⟩ h
  unfold metricField at h
  split at h
  case h_1 =>
    obtain ⟨_, htext, rfl⟩ := ok_of_map h
    constructor <;> simp [halias, htype, hnull, hprops, hint, hds, ht, text_eq htext]
  case h_4 =>
    obtain ⟨_, hcode, rfl⟩ := ok_of_map h
    constructor <;> simp [hname, halias, hnull, hprops, hint, hds, ht, typeCode_eq hcode]
  case h_9 =>
    obtain ⟨ps, hps, rfl⟩ := ok_of_map h
    constructor <;> simp [hname, halias, htype, hnull, hint, hds, ht, hps]
  case h_19 =>
    obtain rfl := Except.ok.inj h
    constructor <;> simp (disch := assumption) only [lastSlice_skip, lastVarint_skip, isSet_skip,
      hname, halias, htype, hnull, hprops, hint, hds, ht]
  all_goals first
    | (obtain rfl := Except.ok.inj h
       constructor <;> simp [hname, halias, htype, hnull, hprops, hint, hds, ht])
    | (obtain ⟨_, _, rfl⟩ := ok_of_map h
       constructor <;> simp [hname, halias, htype, hnull, hprops, hint, hds, ht])

structure TemplateRead (dec : Bytes → Result Metric) (fs : List Field) (t : Template) : Prop where
  metrics : (slices 2 fs).map dec = t.metrics.map Except.ok
  parameters : (slices 3 fs).map decodeParameter = t.parameters.map Except.ok

theorem templateRead {dec : Bytes → Result Metric} {bytes : Bytes} {t : Template}
    (h : readFields (byValue (templateField dec)) {} bytes = .ok t) :
    TemplateRead dec (fieldsOf bytes) t := by
  refine readFields_history h ⟨rfl, rfl⟩ ?_
  intro fs st st' n raw ⟨hmetrics, hparams⟩ h
  unfold templateField at h
  split at h
  case h_2 =>
    obtain ⟨m, hm, rfl⟩ := ok_of_map h
    constructor <;> simp [hmetrics, hparams, hm]
  case h_3 =>
    obtain ⟨p, hp, rfl⟩ := ok_of_map h
    constructor <;> simp [hmetrics, hparams, hp]
  case h_6 =>
    obtain rfl := Except.ok.inj h
    constructor <;> simp (disch := assumption) only [slices_skip, hmetrics, hparams]
  all_goals first
    | (obtain rfl := Except.ok.inj h; constructor <;> simp [hmetrics, hparams])
    | (obtain ⟨_, _, rfl⟩ := ok_of_map h; constructor <;> simp [hmetrics, hparams])

structure PayloadRead (dec : Bytes → Result Metric) (fs : List Field) (p : Payload) : Prop where
  seq : p.seq = (lastVarint 3 fs).map UInt64.toUInt8
  metrics : (slices 2 fs).map dec = p.metrics.map Except.ok

theorem payloadRead {dec : Bytes → Result Metric} {bytes : Bytes} {p : Payload}
    (h : readFields (byValue (payloadField dec)) {} bytes = .ok p) :
    PayloadRead dec (fieldsOf bytes) p := by
  refine readFields_history h ⟨rfl, rfl⟩ ?_
  intro fs st st' n raw ⟨hseq, hmetrics⟩ h
  unfold payloadField at h
  split at h
  case h_2 =>
    obtain ⟨m, hm, rfl⟩ := ok_of_map h
    constructor <;> simp [hseq, hmetrics, hm]
  case h_6 =>
    obtain rfl := Except.ok.inj h
    constructor <;> simp (disch := assumption) only [lastVarint_skip, slices_skip, hseq, hmetrics]
  all_goals first
    | (obtain rfl := Except.ok.inj h; constructor <;> simp [hseq, hmetrics])
    | (obtain ⟨_, _, rfl⟩ := ok_of_map h; constructor <;> simp [hseq, hmetrics])

/-! ## 5. What the decoders return -/

theorem datatype_of_code {n : Nat} {fs : List Field} {slot : Option UInt32} {msg : String}
    {code : UInt32} {dt : DataType} (hslot : slot = (lastVarint n fs).map UInt64.toUInt32)
    (hcode : need slot msg = .ok code) (hdt : DataType.fromU32 code = .ok dt) :
    datatypeIn n fs = some dt := by
  obtain ⟨v, hv, rfl⟩ := wire_of_need hslot hcode
  simp [datatypeIn, hv, hdt, Except.toOption]

/-- Without a value there is no number. -/
theorem scalarNumber_of_empty (dt : DataType) {st : Slots} {wire : Option Nat}
    (hint : st.intV = wire.map UInt32.ofNat) (hany : ¬ st.any = true) :
    scalarNumber dt wire = [] := by
  have hnone : st.intV = none := by
    simp only [Slots.any, Bool.or_eq_true, not_or, Bool.not_eq_true, Option.isSome_eq_false_iff,
      Option.isNone_iff_eq_none] at hany
    exact hany.1.1.1.1.1
  rw [hnone, eq_comm, Option.map_eq_none_iff] at hint
  rw [hint]
  cases dt <;> rfl

theorem unsigned_of_decodeDatasetvalue {bytes : Bytes} {dt : DataType} {v : DataSetValue}
    (h : decodeDatasetvalue bytes dt = .ok v) :
    v.unsigned = (scalarNumber dt (lastNumber 1 bytes)).map WireNumber.narrowed := by
  rw [decodeDatasetvalue, datasetvalueBody_eq] at h
  obtain ⟨st, hst, h⟩ := ok_of_bind h
  have hint := intV_of_read hst (cellRead hst)
  split at h
  · exact unsigned_of_buildDatasetvalue hint h
  · rename_i hany
    rw [← Except.ok.inj h, scalarNumber_of_empty dt hint hany]
    rfl

theorem unsigned_of_decodeRow {types : List DataType} {bytes : Bytes} {row : List DataSetValue}
    (h : decodeRow bytes types = .ok row) :
    row.flatMap DataSetValue.unsigned = (rowNumbers types bytes).map WireNumber.narrowed := by
  rw [decodeRow, rowBody_eq] at h
  exact flatMap_narrowed (fun c v hv => unsigned_of_decodeDatasetvalue hv) (rowRead h).cells

theorem filterMap_of_mapM {α β : Type} {f : α → Result β} {as : List α} {bs : List β}
    (h : as.mapM f = .ok bs) : as.filterMap (fun a => (f a).toOption) = bs := by
  have hmap : as.filterMap (fun a => (f a).toOption) = (as.map f).filterMap Except.toOption := by
    rw [List.filterMap_map]
    rfl
  rw [hmap, map_of_mapM h, List.filterMap_map]
  exact List.filterMap_some

theorem unsigned_of_decodeDataset {bytes : Bytes} {ds : DataSet} (h : decodeDataset bytes = .ok ds) :
    ds.unsigned = (datasetNumbers bytes).map WireNumber.narrowed := by
  rw [decodeDataset] at h
  obtain ⟨st, hst, h⟩ := ok_of_bind h
  obtain ⟨types, htypes, h⟩ := ok_of_bind h
  obtain ⟨rows, hrows, h⟩ := ok_of_bind h
  have hcolumns : columnTypes bytes = types := by
    rw [columnTypes, hst]
    exact filterMap_of_mapM htypes
  rw [datasetBody_eq] at hst
  have hds : ds.rows = rows := by
    unfold DataSet.new at h
    split at h
    · rw [← Except.ok.inj h]
    · exact absurd h (by simp)
  rw [DataSet.unsigned, hds, datasetNumbers, hcolumns]
  rw [rowSlicesRead hst] at hrows
  exact flatMap_narrowed (fun b row hrow => unsigned_of_decodeRow hrow) (map_of_mapM hrows)

theorem unsigned_of_decodeParameter {bytes : Bytes} {p : Parameter}
    (h : decodeParameter bytes = .ok p) :
    p.unsigned = (parameterNumbers bytes).map WireNumber.narrowed := by
  rw [decodeParameter, parameterBody_eq] at h
  obtain ⟨st, hst, h⟩ := ok_of_bind h
  obtain ⟨name, -, h⟩ := ok_of_bind h
  obtain ⟨code, hcode, h⟩ := ok_of_bind h
  obtain ⟨dt, hdt, h⟩ := ok_of_bind h
  have hread := parameterRead hst
  have hint := intV_of_read hst hread.intV
  simp only [parameterNumbers, datatype_of_code hread.typeCode hcode hdt]
  split at h
  · obtain ⟨v, hv, rfl⟩ := ok_of_map h
    exact unsigned_of_buildParameterValue hint hv
  · rename_i hany
    rw [← Except.ok.inj h, scalarNumber_of_empty dt hint hany]
    rfl

theorem unsigned_of_buildPropertyvalue {decodeSet : Bytes → Result PropertySet}
    {decodeList : Bytes → Result PropertySetList} {setNumbers listNumbers : Bytes → List WireNumber}
    (hset : ∀ b ps, decodeSet b = .ok ps →
      PropertySet.unsigned ps = (setNumbers b).map WireNumber.narrowed)
    (hlist : ∀ b list, decodeList b = .ok list →
      PropertySetList.unsigned list = (listNumbers b).map WireNumber.narrowed)
    {dt : DataType} {fs : List Field} {wire : Option Nat} {st : RawPropertyValue}
    {v : PropertyValue} (hread : PropertyvalueRead fs st) (hint : st.intV = wire.map UInt32.ofNat)
    (h : buildPropertyvalue decodeSet decodeList dt st = .ok v) :
    v.unsigned = (match some dt with
      | some .propertySet => (lastSlice 9 fs).elim [] setNumbers
      | some .propertySetList => (lastSlice 10 fs).elim [] listNumbers
      | some dt => scalarNumber dt wire
      | none => []).map WireNumber.narrowed := by
  unfold buildPropertyvalue at h
  split at h
  case h_4 =>
    obtain ⟨x, hx, rfl⟩ := ok_of_map h
    obtain ⟨w, hw, rfl⟩ := wire_of_need hint hx
    simp [PropertyValue.unsigned, hw, scalarNumber, DataType.width?, WireNumber.narrowed]
  case h_5 =>
    obtain ⟨x, hx, rfl⟩ := ok_of_map h
    obtain ⟨w, hw, rfl⟩ := wire_of_need hint hx
    simp [PropertyValue.unsigned, hw, scalarNumber, DataType.width?, WireNumber.narrowed]
  case h_6 =>
    obtain ⟨x, hx, rfl⟩ := ok_of_map h
    obtain ⟨w, hw, rfl⟩ := wire_of_need hint hx
    simp [PropertyValue.unsigned, hw, scalarNumber, DataType.width?, WireNumber.narrowed]
  case h_15 =>
    obtain ⟨b, hb, h⟩ := ok_of_bind h
    obtain ⟨ps, hps, rfl⟩ := ok_of_map h
    rw [PropertyValue.unsigned, ← hread.psSlice, ok_of_need hb]
    exact hset b ps hps
  case h_16 =>
    obtain ⟨b, hb, h⟩ := ok_of_bind h
    obtain ⟨list, hlist', rfl⟩ := ok_of_map h
    rw [PropertyValue.unsigned, ← hread.pslSlice, ok_of_need hb]
    exact hlist b list hlist'
  case h_17 => exact absurd h (by simp)
  all_goals
    obtain ⟨x, -, rfl⟩ := ok_of_map h
    simp [PropertyValue.unsigned, scalarNumber, DataType.width?]

mutual

theorem unsigned_of_decodePropertyset {bytes : Bytes} {ps : PropertySet} :
    ∀ {fuel depth : Nat}, MAX_DEPTH < depth + fuel → decodePropertyset bytes depth = .ok ps →
      PropertySet.unsigned ps = (propertysetNumbers fuel bytes).map WireNumber.narrowed
  | 0, depth, hfuel, h => by
    rw [decodePropertyset, dif_pos (by omega)] at h
    exact absurd h (by simp)
  | fuel + 1, depth, hfuel, h => by
    rw [decodePropertyset] at h
    split at h
    · exact absurd h (by simp)
    obtain ⟨st, hst, h⟩ := ok_of_bind h
    rw [propertysetBody_eq] at hst
    unfold finishPropertyset at h
    split at h
    · exact absurd h (by simp)
    rename_i hlen
    have hsnd : (st.keys.zip st.values).map Prod.snd = st.values :=
      List.map_snd_zip (by omega)
    rw [← Except.ok.inj h, PropertySet.unsigned, entriesUnsigned_eq, hsnd, propertysetNumbers]
    exact flatMap_narrowed
      (fun b v hv => unsigned_of_decodePropertyvalue (by omega) hv) (valuesRead hst)

theorem unsigned_of_decodePropertyvalue {bytes : Bytes} {v : PropertyValue} :
    ∀ {fuel depth : Nat}, MAX_DEPTH < depth + fuel → decodePropertyvalue bytes depth = .ok v →
      PropertyValue.unsigned v = (propertyvalueNumbers fuel bytes).map WireNumber.narrowed
  | 0, depth, hfuel, h => by
    rw [decodePropertyvalue, dif_pos (by omega)] at h
    exact absurd h (by simp)
  | fuel + 1, depth, hfuel, h => by
    rw [decodePropertyvalue] at h
    split at h
    · exact absurd h (by simp)
    obtain ⟨st, hst, h⟩ := ok_of_bind h
    rw [propertyvalueBody_eq] at hst
    have hread := propertyvalueRead hst
    obtain ⟨code, hcode, h⟩ := ok_of_bind h
    obtain ⟨dt, hdt, h⟩ := ok_of_bind h
    simp only [propertyvalueNumbers, ← hread.isNull]
    split at h
    · rename_i hnull
      rw [← Except.ok.inj h, if_pos hnull]
      simp [PropertyValue.unsigned]
    · rename_i hnull
      rw [if_neg hnull, datatype_of_code hread.typeCode hcode hdt]
      exact unsigned_of_buildPropertyvalue
        (fun b ps hps => unsigned_of_decodePropertyset (by omega) hps)
        (fun b list hlist => unsigned_of_decodePropertysetlist (by omega) hlist) hread
        (intV_of_read hst hread.intV) h

theorem unsigned_of_decodePropertysetlist {bytes : Bytes} {list : PropertySetList} :
    ∀ {fuel depth : Nat}, MAX_DEPTH < depth + fuel →
      decodePropertysetlist bytes depth = .ok list →
      PropertySetList.unsigned list = (propertysetlistNumbers fuel bytes).map WireNumber.narrowed
  | 0, depth, hfuel, h => by
    rw [decodePropertysetlist, dif_pos (by omega)] at h
    exact absurd h (by simp)
  | fuel + 1, depth, hfuel, h => by
    rw [decodePropertysetlist] at h
    split at h
    · exact absurd h (by simp)
    obtain ⟨sets, hsets, rfl⟩ := ok_of_map h
    rw [propertysetlistBody_eq] at hsets
    rw [PropertySetList.unsigned, setsUnsigned_eq, propertysetlistNumbers]
    exact flatMap_narrowed
      (fun b ps hps => unsigned_of_decodePropertyset (by omega) hps) (setsRead hsets)

end

theorem metricTypeIn_of_read {types : Option AliasRegistry} {dec : Bytes → Result PropertySet}
    {fs : List Field} {st : RawMetric} {dt : DataType} (hread : MetricRead dec fs st)
    (h : metricDatatype types st = .ok dt) : metricTypeIn types fs = some dt := by
  rw [metricDatatype, hread.datatype, hread.name, hread.alias] at h
  rw [metricTypeIn]
  cases hcode : lastVarint 4 fs with
  | some code =>
    rw [hcode] at h
    simp only [Option.map_some] at h
    simp [h, Except.toOption]
  | none =>
    simp only [hcode, Option.map_none] at h
    split at h
    · rename_i dt' hdt'
      rw [← Except.ok.inj h]
      exact hdt'
    · exact absurd h (by simp)

/-- A value of another type holds no such number. -/
theorem unsigned_of_width {v : MetricValue} (hwidth : v.datatype.width? = none)
    (hds : v.datatype ≠ .dataSet) (ht : v.datatype ≠ .template) : v.unsigned = [] := by
  cases v <;> simp_all [MetricValue.unsigned, MetricValue.datatype, DataType.width?]

theorem unsigned_of_buildMetricValue {decodeTemplate : Bytes → Result Template}
    {dec : Bytes → Result PropertySet} {numbers : Bytes → List WireNumber}
    (ht : ∀ b t, decodeTemplate b = .ok t →
      Template.unsigned t = (numbers b).map WireNumber.narrowed)
    {dt : DataType} {fs : List Field} {wire : Option Nat} {st : RawMetric} {v : MetricValue}
    (hread : MetricRead dec fs st) (hint : st.raw.intV = wire.map UInt32.ofNat)
    (h : buildMetricValue decodeTemplate dt st.raw = .ok v) :
    v.unsigned = (match some dt with
      | some .dataSet => (lastSlice 17 fs).elim [] datasetNumbers
      | some .template => (lastSlice 18 fs).elim [] numbers
      | some dt => scalarNumber dt wire
      | none => []).map WireNumber.narrowed := by
  cases dt
  case uint8 =>
    obtain ⟨x, hx, rfl⟩ := ok_of_map h
    obtain ⟨w, hw, rfl⟩ := wire_of_need hint hx
    simp [MetricValue.unsigned, hw, scalarNumber, DataType.width?, WireNumber.narrowed]
  case uint16 =>
    obtain ⟨x, hx, rfl⟩ := ok_of_map h
    obtain ⟨w, hw, rfl⟩ := wire_of_need hint hx
    simp [MetricValue.unsigned, hw, scalarNumber, DataType.width?, WireNumber.narrowed]
  case uint32 =>
    obtain ⟨x, hx, rfl⟩ := ok_of_map h
    obtain ⟨w, hw, rfl⟩ := wire_of_need hint hx
    simp [MetricValue.unsigned, hw, scalarNumber, DataType.width?, WireNumber.narrowed]
  case dataSet =>
    obtain ⟨b, hb, h⟩ := ok_of_bind h
    obtain ⟨ds, hds, rfl⟩ := ok_of_map h
    rw [MetricValue.unsigned, ← hread.datasetV, ok_of_need hb]
    exact unsigned_of_decodeDataset hds
  case template =>
    obtain ⟨b, hb, h⟩ := ok_of_bind h
    obtain ⟨t, hdec, rfl⟩ := ok_of_map h
    rw [MetricValue.unsigned, ← hread.templateV, ok_of_need hb]
    exact ht b t hdec
  case unknown | propertySet | propertySetList => exact absurd h (by simp [buildMetricValue])
  all_goals first
    | (obtain ⟨x, -, rfl⟩ := ok_of_map h
       simp [MetricValue.unsigned, scalarNumber, DataType.width?])
    | (obtain ⟨b, -, h⟩ := ok_of_bind h
       have hdt := (Arrays.unpack_ok h).1
       rw [unsigned_of_width (by rw [hdt]; rfl) (by rw [hdt]; decide) (by rw [hdt]; decide)]
       simp [scalarNumber, DataType.width?])

mutual

theorem unsigned_of_decodeMetric {types : Option AliasRegistry} {bytes : Bytes} {m : Metric} :
    ∀ {fuel depth : Nat}, MAX_DEPTH < depth + fuel → decodeMetric bytes types depth = .ok m →
      Metric.unsigned m = (metricNumbers types fuel bytes).map WireNumber.narrowed
  | 0, depth, hfuel, h => by
    rw [decodeMetric, dif_pos (by omega)] at h
    exact absurd h (by simp)
  | fuel + 1, depth, hfuel, h => by
    rw [decodeMetric] at h
    split at h
    · exact absurd h (by simp)
    obtain ⟨st, hst, h⟩ := ok_of_bind h
    rw [metricBody_eq] at hst
    have hread := metricRead hst
    have hprops : st.properties.elim [] PropertySet.unsigned =
        ((lastSlice 9 (fieldsOf bytes)).elim [] (propertysetNumbers fuel)).map
          WireNumber.narrowed :=
      elim_narrowed (fun b ps hps => unsigned_of_decodePropertyset (by omega) hps)
        hread.properties
    obtain ⟨dt, hdt, h⟩ := ok_of_bind h
    rw [Metric.unsigned_eq, metricNumbers, List.map_append]
    simp only [← hread.isNull, metricTypeIn_of_read hread hdt]
    split at h
    · rename_i hnull
      obtain rfl := Except.ok.inj h
      rw [if_pos hnull, ← hprops]
      simp [MetricValue.unsigned]
    · rename_i hnull
      obtain ⟨value, hvalue, rfl⟩ := ok_of_map h
      rw [if_neg hnull, ← hprops]
      congr 1
      exact unsigned_of_buildMetricValue
        (fun b t ht => unsigned_of_decodeTemplate (by omega) ht) hread
        (intV_of_read hst hread.intV) hvalue

theorem unsigned_of_decodeTemplate {types : Option AliasRegistry} {bytes : Bytes} {t : Template} :
    ∀ {fuel depth : Nat}, MAX_DEPTH < depth + fuel → decodeTemplate bytes types depth = .ok t →
      Template.unsigned t = (templateNumbers types fuel bytes).map WireNumber.narrowed
  | 0, depth, hfuel, h => by
    rw [decodeTemplate, dif_pos (by omega)] at h
    exact absurd h (by simp)
  | fuel + 1, depth, hfuel, h => by
    rw [decodeTemplate] at h
    split at h
    · exact absurd h (by simp)
    rw [templateBody_eq] at h
    have hread := templateRead h
    obtain ⟨version, templateRef, isDefinition, metrics, parameters⟩ := t
    have hmetrics : metrics.flatMap Metric.unsigned =
        ((slices 2 (fieldsOf bytes)).flatMap (metricNumbers types fuel)).map WireNumber.narrowed :=
      flatMap_narrowed (fun b m hm => unsigned_of_decodeMetric (by omega) hm) hread.metrics
    have hparams : parameters.flatMap Parameter.unsigned =
        ((slices 3 (fieldsOf bytes)).flatMap parameterNumbers).map WireNumber.narrowed :=
      flatMap_narrowed (fun b p hp => unsigned_of_decodeParameter hp) hread.parameters
    rw [Template.unsigned, membersUnsigned_eq, templateNumbers, List.map_append, hmetrics, hparams]

end

end Codec

open Codec

/-- **What is decoded is the wire, cut to the widths of the types**: each `as u8`, `as u16` and `as
u32` on the way keeps the low bits and reports nothing. -/
theorem unsigned_eq_narrowed {bytes : Bytes} {types : Option AliasRegistry} {p : Payload}
    (h : decode bytes types = .ok p) :
    p.unsigned = (wireNumbers types bytes).map WireNumber.narrowed := by
  rw [decode, decodePayload, payloadBody_eq] at h
  have hread := payloadRead h
  have hseq : p.seq.toList.map UInt8.toNat =
      ((lastNumber 3 bytes).toList.map (WireNumber.mk 8)).map WireNumber.narrowed := by
    rw [hread.seq, lastVarint_eq h]
    cases lastNumber 3 bytes with
    | none => rfl
    | some v =>
      have hcut : (UInt64.ofNat v).toUInt8.toNat = v % 2 ^ 8 := by
        rw [UInt64.toNat_toUInt8, UInt64.toNat_ofNat']
        omega
      simp only [Option.map_some, Option.toList_some, List.map_cons, List.map_nil, hcut,
        WireNumber.narrowed]
  have hmetrics : p.metrics.flatMap Metric.unsigned =
      ((slices 2 (fieldsOf bytes)).flatMap (metricNumbers types (MAX_DEPTH + 2))).map
        WireNumber.narrowed :=
    flatMap_narrowed (fun b m hm => unsigned_of_decodeMetric (by omega) hm) hread.metrics
  rw [Payload.unsigned, wireNumbers, List.map_append, hseq, hmetrics]

/-- **Nothing is cut exactly if every varint fits its type.**  The numbers of a payload that was
decoded (`h`), under any registry, are compared with those that stand on the wire, before
`read_varint` and before `as u32`. -/
theorem unsigned_eq_wire_iff {bytes : Bytes} {types : Option AliasRegistry} {p : Payload}
    (h : decode bytes types = .ok p) :
    p.unsigned = (wireNumbers types bytes).map WireNumber.varint ↔
      ∀ n ∈ wireNumbers types bytes, n.Fits := by
  rw [unsigned_eq_narrowed h, List.map_inj_left]
  exact forall₂_congr fun n _ => n.narrowed_eq_iff

/-- The sequence number 5 and a UInt8 metric that is 200. -/
def modest : Bytes := [0x18, 5, 0x12, 5, 0x20, 5, 0x50, 200, 1]

theorem unsigned_eq_wire_modest :
    ∃ p, decode modest none = .ok p ∧
      p.unsigned = (wireNumbers none modest).map WireNumber.varint := by
  obtain ⟨p, hp⟩ := exists_of_isOk (x := decode modest none) (by decide +kernel)
  exact ⟨p, hp, (unsigned_eq_wire_iff hp).mpr (by decide +kernel)⟩

/-- A sequence number of 256 is decoded as 0. -/
theorem wrapped_seq :
    ∃ p, decode [0x18, 0x80, 2] none = .ok p ∧ p.seq = some 0 ∧
      wireNumbers none [0x18, 0x80, 2] = [⟨8, 256⟩] ∧
      p.unsigned ≠ (wireNumbers none [0x18, 0x80, 2]).map WireNumber.varint := by
  obtain ⟨p, hp⟩ := exists_of_isOk (x := decode [0x18, 0x80, 2] none) (by decide +kernel)
  have hwire : wireNumbers none [0x18, 0x80, 2] = [⟨8, 256⟩] := by decide +kernel
  have hseq : (decode [0x18, 0x80, 2] none).toOption.bind Payload.seq = some 0 := by
    decide +kernel
  rw [hp] at hseq
  refine ⟨p, hp, hseq, hwire, ?_⟩
  rw [unsigned_eq_narrowed hp, hwire]
  decide

/-- A sequence number of `2 ^ 64`, spelled with ten bytes: it does not fit, and 0 is decoded. -/
def spilledSeq : Bytes := [0x18, 0x80, 0x80, 0x80, 0x80, 0x80, 0x80, 0x80, 0x80, 0x80, 2]

example : wireNumbers none spilledSeq = [⟨8, 2 ^ 64⟩] ∧
    (decode spilledSeq none).toOption.bind Payload.seq = some 0 := by decide +kernel

end SparkplugB
