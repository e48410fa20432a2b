/-
# Decoding what was encoded: the messages that do not nest

The fold over written fields in general (`foldFields_optional`, `foldFields_repeated`), and with it
the round trips of metadata, DataSets and template parameters.  `within p a` is the result of a
decoder that counts its depth: `a`, or the nesting limit where `p` fails.
-/
import SparkplugB.Codec.Fields
import SparkplugB.Codec.Shape

namespace SparkplugB.Codec

open Reader

/-! ## 1. Folding over written fields -/

section Fold

variable {σ α β : Type}

/-- `a`, or the nesting limit when `p` fails. -/
def within (p : Prop) [Decidable p] (a : α) : Result α :=
  if p then .ok a else .error .recursionLimit

theorem within_of {p : Prop} [Decidable p] (h : p) (a : α) : within p a = .ok a := if_pos h

theorem within_of_not {p : Prop} [Decidable p] (h : ¬ p) (a : α) :
    within p a = .error .recursionLimit := if_neg h

theorem within_congr {p q : Prop} [Decidable p] [Decidable q] (h : p ↔ q) (a : α) :
    within p a = within q a := by
  unfold within
  simp only [h]

theorem within_bind {p q : Prop} [Decidable p] [Decidable q] (a : α) {f : α → Result β} {b : β}
    (h : f a = within q b) : (within p a).bind f = within (p ∧ q) b := by
  by_cases hp : p
  · rw [within_of hp, Except.bind, h]
    exact within_congr (by simp [hp]) b
  · rw [within_of_not hp, within_of_not (fun hpq => hp hpq.1)]
    rfl

theorem within_map {p : Prop} [Decidable p] (a : α) (f : α → β) :
    ((within p a).bind fun a => .ok (f a)) = within p (f a) := by
  by_cases hp : p
  · rw [within_of hp, within_of hp]
    rfl
  · rw [within_of_not hp, within_of_not hp]
    rfl

theorem within_ok {p : Prop} [Decidable p] {a b : α} (h : within p a = .ok b) : p ∧ a = b := by
  by_cases hp : p
  · rw [within_of hp] at h
    exact ⟨hp, Except.ok.inj h⟩
  · rw [within_of_not hp] at h
    exact absurd h (by simp)

theorem ok_bind (a : α) (f : α → Result β) : (Except.ok a : Result α).bind f = f a := rfl

/-- The field numbers fit the tag. -/
def Numbered (fs : List Field) : Prop := ∀ f ∈ fs, f.num < 2 ^ 32

@[simp] theorem numbered_nil : Numbered [] := by simp [Numbered]

@[simp] theorem numbered_cons (f : Field) (fs : List Field) :
    Numbered (f :: fs) ↔ f.num < 2 ^ 32 ∧ Numbered fs := by simp [Numbered]

@[simp] theorem numbered_append (fs gs : List Field) :
    Numbered (fs ++ gs) ↔ Numbered fs ∧ Numbered gs := by
  simp [Numbered, or_imp, forall_and]

theorem numbered_field? {n : Nat} (hn : n < 2 ^ 32) (raw : α → Raw) (v : Option α) :
    Numbered (field? n raw v) := by
  intro f hf
  obtain ⟨a, _, rfl⟩ := List.mem_map.mp hf
  exact hn

theorem numbered_fieldEach {n : Nat} (hn : n < 2 ^ 32) (raw : α → Raw) (vs : List α) :
    Numbered (fieldEach n raw vs) := by
  intro f hf
  obtain ⟨a, _, rfl⟩ := List.mem_map.mp hf
  exact hn

/-- A written message is longer than each of its length-delimited values. -/
theorem length_lt_of_mem {fs : List Field} {n : Nat} {b : Bytes} (h : ⟨n, .len b⟩ ∈ fs) :
    b.length < (serialize fs).length := by
  induction fs with
  | nil => exact absurd h (by simp)
  | cons f fs ih =>
    rw [serialize_cons, List.length_append]
    rcases List.mem_cons.mp h with rfl | h
    · have htag := Writer.one_le_length_writeVarint
        ((UInt64.ofNat n <<< 3) ||| UInt64.ofNat (Raw.len b).wire)
      simp only [Field.bytes, Writer.tag, Raw.payload, List.length_append]
      omega
    · have := ih h
      omega

theorem size_of_mem {fs : List Field} (hlen : (serialize fs).length < 2 ^ 63) {n : Nat} {b : Bytes}
    (h : ⟨n, .len b⟩ ∈ fs) : b.length < 2 ^ 63 := lt_trans (length_lt_of_mem h) hlen

theorem mem_fieldEach {n : Nat} {raw : α → Raw} {vs : List α} {a : α} (h : a ∈ vs) :
    ⟨n, raw a⟩ ∈ fieldEach n raw vs := List.mem_map_of_mem h

theorem mem_field? {n : Nat} {raw : α → Raw} {v : Option α} {a : α} (h : v = some a) :
    ⟨n, raw a⟩ ∈ field? n raw v := by
  rw [h]
  exact List.mem_singleton_self _

/-- In a message that is a buffer at all, every length fits its varint. -/
theorem fits_of_numbered {fs : List Field} (hnum : Numbered fs)
    (hlen : (serialize fs).length < 2 ^ 63) : ∀ f ∈ fs, f.Fits := by
  intro f hf
  refine ⟨hnum f hf, ?_⟩
  obtain ⟨n, raw⟩ := f
  cases raw with
  | len b =>
    have := length_lt_of_mem hf
    exact lt_trans this (lt_trans hlen (by norm_num))
  | _ => trivial

/-- Decoding a written message is folding over its fields. -/
theorem readFields_written (handle : σ → Nat → Raw → Result σ) (init : σ) {fs : List Field}
    (hnum : Numbered fs) (hlen : (serialize fs).length < 2 ^ 63) :
    readFields (byValue handle) init (serialize fs) = foldFields handle init fs :=
  readFields_serialize handle init fs (fits_of_numbered hnum hlen)

/-- An optional field sets its variable to what was written. -/
theorem foldFields_optional {handle : σ → Nat → Raw → Result σ} {n : Nat} {raw : α → Raw}
    {v : Option α} {rest : List Field} {st : σ} {r : Result σ} (set : σ → Option α → σ)
    (hnone : set st none = st)
    (hsome : ∀ a, v = some a → handle st n (raw a) = .ok (set st (some a)))
    (hrest : foldFields handle (set st v) rest = r) :
    foldFields handle st (field? n raw v ++ rest) = r := by
  cases v with
  | none =>
    rw [hnone] at hrest
    exact hrest
  | some a =>
    rw [field?, Option.toList_some, List.map_singleton, List.singleton_append, foldFields_cons,
      hsome a rfl]
    exact hrest

/-- An optional field whose value descends. -/
theorem foldFields_optional_within {handle : σ → Nat → Raw → Result σ} {n : Nat} {raw : α → Raw}
    {v : Option α} {rest : List Field} {st r : σ} {p : Prop} [Decidable p]
    (set : σ → Option α → σ) (hnone : set st none = st) (hfree : v = none → p)
    (hsome : ∀ a, v = some a → handle st n (raw a) = within p (set st (some a)))
    (hrest : foldFields handle (set st v) rest = .ok r) :
    foldFields handle st (field? n raw v ++ rest) = within p r := by
  cases v with
  | none =>
    rw [hnone] at hrest
    rw [within_of (hfree rfl)]
    exact hrest
  | some a =>
    have step := within_bind (p := p) (q := True) (f := fun st => foldFields handle st rest)
      (set st (some a)) (hrest.trans (within_of trivial r).symm)
    rw [field?, Option.toList_some, List.map_singleton, List.singleton_append, foldFields_cons,
      hsome a rfl, step]
    exact within_congr (by simp) r

/-- A repeated field is read element by element; `g` is what becomes of one. -/
theorem foldFields_repeated {handle : σ → Nat → Raw → Result σ} {n : Nat} {raw : α → Raw}
    (rest : List Field) (set : List β → σ) (g : α → Result β) :
    ∀ (vs : List α) (done : List β),
      (∀ done, ∀ a ∈ vs,
        handle (set done) n (raw a) = (g a).bind fun b => .ok (set (done ++ [b]))) →
      foldFields handle (set done) (fieldEach n raw vs ++ rest) =
        (vs.mapM g).bind fun bs => foldFields handle (set (done ++ bs)) rest
  | [], done, _ => by simp [fieldEach, pure, Except.pure, Except.bind]
  | a :: vs, done, h => by
    have ih := fun b => foldFields_repeated rest set g vs (done ++ [b])
      fun done c hc => h done c (List.mem_cons_of_mem a hc)
    rw [fieldEach, List.map_cons, List.cons_append, foldFields_cons,
      h done a List.mem_cons_self, ← fieldEach, List.mapM_cons]
    cases ha : g a with
    | error e => rfl
    | ok b =>
      rw [ok_bind, ok_bind, ih b]
      cases vs.mapM g with
      | error e => simp [bind, Except.bind]
      | ok bs => simp [bind, Except.bind, pure, Except.pure]

theorem mapM_within {g : α → Result β} (f : α → β) (p : α → Prop) [DecidablePred p] :
    ∀ vs : List α, (∀ a ∈ vs, g a = within (p a) (f a)) →
      vs.mapM g = within (∀ a ∈ vs, p a) (vs.map f)
  | [], _ => by
    rw [within_of (by simp)]
    rfl
  | a :: vs, h => by
    have ih := mapM_within f p vs fun b hb => h b (List.mem_cons_of_mem a hb)
    rw [List.mapM_cons, h a List.mem_cons_self, ih]
    refine (within_bind (f a) (within_map (vs.map f) (f a :: ·))).trans (within_congr ?_ _)
    rw [List.forall_mem_cons]

theorem mapM_ok {g : α → Result β} (f : α → β) (vs : List α) (h : ∀ a ∈ vs, g a = .ok (f a)) :
    vs.mapM g = .ok (vs.map f) := by
  rw [mapM_within f (fun _ => True) vs fun a ha => by rw [h a ha, within_of trivial]]
  exact within_of (fun _ _ => trivial) _

/-- A repeated field whose elements are read without fail. -/
theorem foldFields_repeated_ok {handle : σ → Nat → Raw → Result σ} {n : Nat} {raw : α → Raw}
    {rest : List Field} {r : Result σ} (set : List β → σ) (f : α → β) (vs : List α)
    (done : List β)
    (h : ∀ done, ∀ a ∈ vs, handle (set done) n (raw a) = .ok (set (done ++ [f a])))
    (hrest : foldFields handle (set (done ++ vs.map f)) rest = r) :
    foldFields handle (set done) (fieldEach n raw vs ++ rest) = r := by
  rw [foldFields_repeated rest set (fun a => .ok (f a)) vs done h, mapM_ok f vs fun _ _ => rfl, ok_bind,
    hrest]

end Fold

@[simp] theorem flag_ne_zero (b : Bool) : (b.toUInt64 != 0) = b := by cases b <;> rfl

theorem setWidth_signExtend {w v : Nat} (h : w ≤ v) (x : BitVec w) :
    (x.signExtend v).setWidth w = x := by
  refine BitVec.eq_of_getLsbD_eq fun i hi => ?_
  have hv : i < v := by omega
  rw [BitVec.getLsbD_setWidth, BitVec.getLsbD_signExtend, if_pos hi]
  simp [hi, hv]

/-- `i32::from(v) as u32 as i8` is the identity. -/
@[simp] theorem int8_narrow (v : Int8) : v.toInt32.toUInt32.toUInt8.toInt8 = v :=
  Int8.toBitVec_inj.mp (setWidth_signExtend (v := 32) (by omega) v.toBitVec)

/-- `i32::from(v) as u32 as i16` is the identity. -/
@[simp] theorem int16_narrow (v : Int16) : v.toInt32.toUInt32.toUInt16.toInt16 = v :=
  Int16.toBitVec_inj.mp (setWidth_signExtend (v := 32) (by omega) v.toBitVec)

/-! ## 2. Metadata -/

theorem numbered_metadataFields (md : MetaData) : Numbered (metadataFields md) := by
  simp only [metadataFields, numbered_append]
  refine ⟨⟨⟨⟨⟨⟨⟨?_, ?_⟩, ?_⟩, ?_⟩, ?_⟩, ?_⟩, ?_⟩, ?_⟩ <;> exact numbered_field? (by norm_num) _ _

theorem decodeMetadata_encodeMetadata (md : MetaData) (hlen : (encodeMetadata md).length < 2 ^ 63) :
    decodeMetadata (encodeMetadata md) = .ok md := by
  rw [encodeMetadata_eq] at hlen ⊢
  rw [decodeMetadata, metadataBody_eq, readFields_written _ _ (numbered_metadataFields md) hlen,
    metadataFields]
  simp only [List.append_assoc]
  rw [← List.append_nil (field? 8 _ _)]
  refine foldFields_optional (fun st v => { st with isMultiPart := v }) rfl
    (fun a _ => by simp [metadataField, Raw.flag]) ?_
  refine foldFields_optional (fun st v => { st with contentType := v }) rfl
    (fun a _ => by simp [metadataField, Raw.str]) ?_
  refine foldFields_optional (fun st v => { st with size := v }) rfl (fun a _ => rfl) ?_
  refine foldFields_optional (fun st v => { st with seq := v }) rfl (fun a _ => rfl) ?_
  refine foldFields_optional (fun st v => { st with fileName := v }) rfl
    (fun a _ => by simp [metadataField, Raw.str]) ?_
  refine foldFields_optional (fun st v => { st with fileType := v }) rfl
    (fun a _ => by simp [metadataField, Raw.str]) ?_
  refine foldFields_optional (fun st v => { st with md5 := v }) rfl
    (fun a _ => by simp [metadataField, Raw.str]) ?_
  refine foldFields_optional (fun st v => { st with description := v }) rfl
    (fun a _ => by simp [metadataField, Raw.str]) ?_
  rfl

/-! ## 3. DataSets -/

/-- The slots a written cell fills. -/
def cellSlots : DataSetValue → Slots
  | .null => {}
  | .int8 v => { intV := some v.toInt32.toUInt32 }
  | .int16 v => { intV := some v.toInt32.toUInt32 }
  | .int32 v => { intV := some v.toUInt32 }
  | .uint8 v => { intV := some v.toUInt32 }
  | .uint16 v => { intV := some v.toUInt32 }
  | .uint32 v => { intV := some v }
  | .int64 v => { longV := some v.toUInt64 }
  | .uint64 v => { longV := some v }
  | .dateTime v => { longV := some v.toUInt64 }
  | .float v => { floatV := some v }
  | .double v => { doubleV := some v }
  | .boolean v => { boolV := some v }
  | .string s => { stringV := some s }
  | .text s => { stringV := some s }

theorem foldFields_datasetvalue (cell : DataSetValue) :
    foldFields datasetvalueField {} (datasetvalueFields cell) = .ok (cellSlots cell) := by
  cases cell <;>
    simp [datasetvalueFields, foldFields_cons, datasetvalueField, cellSlots, Except.bind,
      Raw.uint32, Raw.flag, Raw.str]

theorem numbered_datasetvalueFields (cell : DataSetValue) :
    Numbered (datasetvalueFields cell) := by
  cases cell <;> simp [datasetvalueFields]

/-- A cell reads back in a column of its type, and a null cell in every column. -/
theorem decodeDatasetvalue_encodeDatasetvalue (cell : DataSetValue) (dt : DataType)
    (hdt : ∀ t, cell.datatype = some t → t = dt)
    (hlen : (encodeDatasetvalue cell).length < 2 ^ 63) :
    decodeDatasetvalue (encodeDatasetvalue cell) dt = .ok cell := by
  rw [encodeDatasetvalue_eq] at hlen ⊢
  rw [decodeDatasetvalue, datasetvalueBody_eq,
    readFields_written _ _ (numbered_datasetvalueFields cell) hlen, foldFields_datasetvalue]
  cases cell with
  | null => rfl
  | int8 v =>
    obtain rfl := hdt _ rfl
    simp [cellSlots, Slots.any, buildDatasetvalue, need, bind, Except.bind, pure, Except.pure]
  | _ =>
    obtain rfl := hdt _ rfl
    simp [cellSlots, Slots.any, buildDatasetvalue, need, bind, Except.bind, pure, Except.pure]

theorem foldFields_row :
    ∀ (cells : List DataSetValue) (types typesDone : List DataType) (done : List DataSetValue),
      done.length = typesDone.length → cells.length = types.length →
      (∀ p ∈ cells.zip types, ∀ t, p.1.datatype = some t → t = p.2) →
      (∀ cell ∈ cells, (encodeDatasetvalue cell).length < 2 ^ 63) →
      foldFields (rowField (typesDone ++ types)) done (rowFields cells) = .ok (done ++ cells)
  | [], _, _, done, _, _, _, _ => by simp [rowFields, fieldEach]
  | _ :: _, [], _, _, _, hlen, _, _ => absurd hlen (by simp)
  | cell :: cells, dt :: types, typesDone, done, hdone, hlen, hcells, hsize => by
    have hget : (typesDone ++ dt :: types)[done.length]? = some dt := by simp [hdone]
    have hcell := decodeDatasetvalue_encodeDatasetvalue cell dt
      (hcells (cell, dt) (by simp)) (hsize cell List.mem_cons_self)
    have ih := foldFields_row cells types (typesDone ++ [dt]) (done ++ [cell]) (by simp [hdone])
      (by simpa using hlen) (fun p hp => hcells p (List.mem_cons_of_mem _ hp))
      (fun c hc => hsize c (List.mem_cons_of_mem cell hc))
    rw [rowFields, fieldEach, List.map_cons, foldFields_cons, rowField, hget]
    simp only [hcell, bind, Except.bind, pure, Except.pure]
    rw [List.append_assoc, List.append_assoc] at ih
    exact ih

theorem decodeRow_encodeRow (row : List DataSetValue) (types : List DataType)
    (hwidth : row.length = types.length)
    (hcells : ∀ p ∈ row.zip types, ∀ t, p.1.datatype = some t → t = p.2)
    (hlen : (encodeRow row).length < 2 ^ 63) :
    decodeRow (encodeRow row) types = .ok row := by
  rw [encodeRow_eq] at hlen ⊢
  have hsize : ∀ cell ∈ row, (encodeDatasetvalue cell).length < 2 ^ 63 := fun cell hcell =>
    size_of_mem hlen (n := 1) (mem_fieldEach hcell)
  have hnum : Numbered (rowFields row) := numbered_fieldEach (by norm_num) _ _
  rw [decodeRow, rowBody_eq, readFields_written _ _ hnum hlen]
  exact foldFields_row row types [] [] rfl hwidth hcells hsize

theorem numbered_datasetFields (ds : DataSet) : Numbered (datasetFields ds) := by
  simp only [datasetFields, numbered_cons, numbered_append]
  refine ⟨by norm_num, ⟨?_, ?_⟩, ?_⟩ <;> exact numbered_fieldEach (by norm_num) _ _

theorem decodeDataset_encodeDataset (ds : DataSet) (hlen : (encodeDataset ds).length < 2 ^ 63) :
    decodeDataset (encodeDataset ds) = .ok ds := by
  rw [encodeDataset_eq] at hlen ⊢
  have hrows : (ds.rows.map encodeRow).mapM (fun slice => decodeRow slice ds.types) =
      .ok ds.rows := by
    rw [List.mapM_map]
    refine (mapM_ok id ds.rows fun row hrow => ?_).trans (by rw [List.map_id])
    obtain ⟨hwidth, hcells⟩ := ds.shape.2.2 row hrow
    refine decodeRow_encodeRow row ds.types (hwidth.trans ds.shape.1) hcells ?_
    exact size_of_mem hlen (n := 4)
      (List.mem_cons_of_mem _ (List.mem_append_right _ (mem_fieldEach hrow)))
  have hfold : foldFields datasetField {} (datasetFields ds) =
      .ok { columns := ds.columns, typeCodes := ds.types.map DataType.asU32,
            rowSlices := ds.rows.map encodeRow } := by
    rw [datasetFields, foldFields_cons, List.append_assoc, ← List.append_nil (fieldEach 4 _ _),
      datasetField, ok_bind]
    · refine foldFields_repeated_ok (fun l => ({ columns := l } : RawDataSet)) id ds.columns []
        (fun done a _ => by simp [datasetField, Raw.str]) ?_
      rw [List.nil_append, List.map_id]
      refine foldFields_repeated_ok
        (fun l => ({ columns := ds.columns, typeCodes := l } : RawDataSet))
        DataType.asU32 ds.types [] (fun done a _ => by simp [datasetField, Raw.uint32]) ?_
      rw [List.nil_append]
      exact foldFields_repeated_ok
        (fun l => (⟨ds.columns, ds.types.map DataType.asU32, l⟩ : RawDataSet)) encodeRow ds.rows []
        (fun done a _ => rfl) rfl
    all_goals simp
  have htypes : (ds.types.map DataType.asU32).mapM DataType.fromU32 = .ok ds.types :=
    by
    rw [List.mapM_map]
    exact (mapM_ok id ds.types fun ty _ => DataType.fromU32_asU32 ty).trans (by rw [List.map_id])
  rw [decodeDataset, datasetBody_eq, readFields_written _ _ (numbered_datasetFields ds) hlen, hfold]
  simp only [bind, Except.bind, htypes, hrows]
  exact DataSet.new_self ds

/-! ## 4. Parameters -/

/-- The slots a written parameter value fills. -/
def parameterSlots : ParameterValue → Slots
  | .int8 v => { intV := some v.toInt32.toUInt32 }
  | .int16 v => { intV := some v.toInt32.toUInt32 }
  | .int32 v => { intV := some v.toUInt32 }
  | .uint8 v => { intV := some v.toUInt32 }
  | .uint16 v => { intV := some v.toUInt32 }
  | .uint32 v => { intV := some v }
  | .int64 v => { longV := some v.toUInt64 }
  | .uint64 v => { longV := some v }
  | .dateTime v => { longV := some v.toUInt64 }
  | .float v => { floatV := some v }
  | .double v => { doubleV := some v }
  | .boolean v => { boolV := some v }
  | .string s => { stringV := some s }
  | .text s => { stringV := some s }

theorem foldFields_parameter (p : Parameter) :
    foldFields parameterField {} (parameterFields p) =
      .ok { name := some p.name, typeCode := some p.datatype.asU32,
            toSlots := (p.value.map parameterSlots).getD {} } := by
  obtain ⟨name, dt, value⟩ := p
  cases value with
  | none => simp [parameterFields, foldFields_cons, parameterField, Except.bind, Raw.uint32, Raw.str]
  | some v =>
    cases v <;>
      simp [parameterFields, parameterValueField, foldFields_cons, parameterField, parameterSlots,
        Except.bind, Raw.uint32, Raw.str, Raw.flag]

theorem numbered_parameterFields (p : Parameter) : Numbered (parameterFields p) := by
  simp only [parameterFields, numbered_cons]
  refine ⟨by norm_num, by norm_num, ?_⟩
  cases p.value with
  | none => simp
  | some v => cases v <;> simp [parameterValueField]

theorem decodeParameter_encodeParameter (p : Parameter) (hagrees : p.Agrees)
    (hlen : (encodeParameter p).length < 2 ^ 63) :
    decodeParameter (encodeParameter p) = .ok p := by
  rw [encodeParameter_eq] at hlen ⊢
  rw [decodeParameter, parameterBody_eq,
    readFields_written _ _ (numbered_parameterFields p) hlen, foldFields_parameter]
  obtain ⟨name, dt, value⟩ := p
  cases value with
  | none => simp [need, Slots.any, bind, Except.bind, pure, Except.pure]
  | some v =>
    obtain rfl : v.datatype = dt := hagrees v rfl
    cases v <;>
      simp [ParameterValue.datatype, parameterSlots, Slots.any, buildParameterValue, need, bind,
        Except.bind, pure, Except.pure]

end SparkplugB.Codec
