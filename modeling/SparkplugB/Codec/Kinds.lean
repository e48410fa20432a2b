/-
# The eleven field loops

Every decoder of `decode.rs` runs one loop, over the fields of one kind of message.  A `Kind` names
the loop: `Vars` is the type of its local variables, `Calls` what it calls or is given, `start`
its initial variables and `react` its reaction to a field.

Two facts hold of all eleven.

* **A loop is a bundle of independent loops** (`slotted`): what the fields of one number do
  depends on nothing but the variables that fields of this number set (`slot`).  So a loop that
  succeeds returns the same variables for every order of its fields that keeps the order within
  each number (`Slotted.foldFields_stable`).
* **A field that is not read changes nothing** (`react_unread`).
-/
import SparkplugB.Codec.Fields

namespace SparkplugB

namespace Reader

/-! ## 1. Loops whose variables come apart by field number -/

variable {σ : Type}

/-- The fields of one number, in their order. -/
def ofNum (n : Nat) (fs : List Field) : List Field := fs.filter fun f => f.num == n

theorem ofNum_cons_self (f : Field) (fs : List Field) :
    ofNum f.num (f :: fs) = f :: ofNum f.num fs := by
  simp [ofNum]

theorem ofNum_cons_of_ne {n : Nat} {f : Field} (h : f.num ≠ n) (fs : List Field) :
    ofNum n (f :: fs) = ofNum n fs := by
  simp [ofNum, h]

/-- `slot n` keeps the variables that fields of number `n` set, and these fields look at no
others. -/
structure Slotted (handle : σ → Nat → Raw → Result σ) (slot : Nat → σ → σ) : Prop where
  other : ∀ {st st' : σ} {m n : Nat} {raw : Raw}, handle st m raw = .ok st' → m ≠ n →
    slot n st' = slot n st
  own : ∀ (st : σ) (n : Nat) (raw : Raw),
    handle (slot n st) n raw = (handle st n raw).map (slot n)
  ext : ∀ {st st' : σ}, (∀ n, slot n st = slot n st') → st = st'

namespace Slotted

variable {handle : σ → Nat → Raw → Result σ} {slot : Nat → σ → σ}

/-- One loop gives a loop for every field number. -/
theorem foldFields_slot (hs : Slotted handle slot) (n : Nat) :
    ∀ {fs : List Field} {init st : σ}, foldFields handle init fs = .ok st →
      foldFields handle (slot n init) (ofNum n fs) = .ok (slot n st)
  | [], init, st, h => by
    rw [← Except.ok.inj h]
    rfl
  | f :: fs, init, st, h => by
    rw [foldFields_cons] at h
    cases hh : handle init f.num f.raw with
    | error e => rw [hh] at h; exact absurd h (by simp [Except.bind])
    | ok st1 =>
      rw [hh] at h
      have ih := hs.foldFields_slot n h
      by_cases hn : f.num = n
      · subst hn
        rw [ofNum_cons_self, foldFields_cons, hs.own, hh]
        exact ih
      · rw [ofNum_cons_of_ne hn, ← hs.other hh hn]
        exact ih

/-- The loops for the field numbers give one loop. -/
theorem foldFields_of_slots (hs : Slotted handle slot) :
    ∀ {fs : List Field} {init : σ},
      (∀ n, ∃ st, foldFields handle (slot n init) (ofNum n fs) = .ok st) →
      ∃ st, foldFields handle init fs = .ok st
  | [], init, _ => ⟨init, rfl⟩
  | f :: fs, init, h => by
    obtain ⟨t, ht⟩ := h f.num
    rw [ofNum_cons_self, foldFields_cons, hs.own] at ht
    cases hh : handle init f.num f.raw with
    | error e => rw [hh] at ht; exact absurd ht (by simp [Except.map, Except.bind])
    | ok st1 =>
      have hrest : ∀ n, ∃ st, foldFields handle (slot n st1) (ofNum n fs) = .ok st := by
        intro n
        by_cases hn : f.num = n
        · subst hn
          rw [hh] at ht
          exact ⟨t, ht⟩
        · obtain ⟨u, hu⟩ := h n
          rw [ofNum_cons_of_ne hn, ← hs.other hh hn] at hu
          exact ⟨u, hu⟩
      obtain ⟨st, hst⟩ := hs.foldFields_of_slots hrest
      refine ⟨st, ?_⟩
      rw [foldFields_cons, hh]
      exact hst

/-- **The order within each field number is all that counts.** -/
theorem foldFields_stable (hs : Slotted handle slot) {fs fs' : List Field}
    (h : ∀ n, ofNum n fs = ofNum n fs') {init st : σ} (hst : foldFields handle init fs = .ok st) :
    foldFields handle init fs' = .ok st := by
  have hslots : ∀ n, foldFields handle (slot n init) (ofNum n fs') = .ok (slot n st) := by
    intro n
    rw [← h n]
    exact hs.foldFields_slot n hst
  obtain ⟨st', hst'⟩ := hs.foldFields_of_slots fun n => ⟨slot n st, hslots n⟩
  have heq : st' = st := by
    refine hs.ext fun n => ?_
    have := hs.foldFields_slot n hst'
    rw [hslots n] at this
    exact (Except.ok.inj this).symm
  rw [hst', heq]

end Slotted

/-- A field that changes nothing can stand anywhere. -/
theorem foldFields_insert {handle : σ → Nat → Raw → Result σ} {f : Field}
    (hf : ∀ st, handle st f.num f.raw = .ok st) (post : List Field) :
    ∀ (pre : List Field) (init : σ),
      foldFields handle init (pre ++ f :: post) = foldFields handle init (pre ++ post)
  | [], init => by
    rw [List.nil_append, foldFields_cons, hf]
    rfl
  | g :: pre, init => by
    rw [List.cons_append, List.cons_append, foldFields_cons, foldFields_cons]
    congr 1
    funext st
    exact foldFields_insert hf post pre st

end Reader

namespace Codec

open Reader

/-! ## 2. The kinds of messages -/

/-- The messages a decoder runs a loop over. -/
inductive Kind where
  | payload
  | metric
  | metadata
  | propertyset
  | propertyvalue
  | propertysetlist
  | dataset
  | row
  | cell
  | template
  | parameter
  deriving DecidableEq, Repr

namespace Kind

/-- The local variables of the loop. -/
abbrev Vars : Kind → Type
  | payload => Payload
  | metric => RawMetric
  | metadata => MetaData
  | propertyset => RawPropertySet
  | propertyvalue => RawPropertyValue
  | propertysetlist => List PropertySet
  | dataset => RawDataSet
  | row => List DataSetValue
  | cell => Slots
  | template => Template
  | parameter => RawParameter

/-- What the loop is given: the decoder it calls at once, or the column types of a row. -/
abbrev Calls : Kind → Type
  | payload => Bytes → Result Metric
  | metric => Bytes → Result PropertySet
  | propertyset => Bytes → Result PropertyValue
  | propertysetlist => Bytes → Result PropertySet
  | row => List DataType
  | template => Bytes → Result Metric
  | metadata | propertyvalue | dataset | cell | parameter => Unit

/-- The variables before the first field. -/
def start : (k : Kind) → k.Vars
  | payload => {}
  | metric => {}
  | metadata => {}
  | propertyset => {}
  | propertyvalue => {}
  | propertysetlist => []
  | dataset => {}
  | row => []
  | cell => {}
  | template => {}
  | parameter => {}

/-- The reaction of the loop to a field. -/
def react : (k : Kind) → k.Calls → k.Vars → Nat → Raw → Result k.Vars
  | payload, c => payloadField c
  | metric, c => metricField c
  | metadata, _ => metadataField
  | propertyset, c => propertysetField c
  | propertyvalue, _ => propertyvalueField
  | propertysetlist, c => propertysetlistField c
  | dataset, _ => datasetField
  | row, c => rowField c
  | cell, _ => datasetvalueField
  | template, c => templateField c
  | parameter, _ => parameterField

/-- The pairs of field number and wire type that the loop reads. -/
def reads : Kind → Nat → Nat → Bool
  | payload, n, w => (n, w) ∈ [(1, 0), (2, 2), (3, 0), (4, 2), (5, 2)]
  | metric, n, w => (n, w) ∈ [(1, 2), (2, 0), (3, 0), (4, 0), (5, 0), (6, 0), (7, 0), (8, 2), (9, 2),
      (10, 0), (11, 0), (12, 5), (13, 1), (14, 0), (15, 2), (16, 2), (17, 2), (18, 2)]
  | metadata, n, w => (n, w) ∈ [(1, 0), (2, 2), (3, 0), (4, 0), (5, 2), (6, 2), (7, 2), (8, 2)]
  | propertyset, n, w => (n, w) ∈ [(1, 2), (2, 2)]
  | propertyvalue, n, w => (n, w) ∈ [(1, 0), (2, 0), (3, 0), (4, 0), (5, 5), (6, 1), (7, 0), (8, 2),
      (9, 2), (10, 2)]
  | propertysetlist, n, w => (n, w) ∈ [(1, 2)]
  | dataset, n, w => (n, w) ∈ [(1, 0), (2, 2), (3, 0), (3, 2), (4, 2)]
  | row, n, w => (n, w) ∈ [(1, 2)]
  | cell, n, w => (n, w) ∈ [(1, 0), (2, 0), (3, 5), (4, 1), (5, 0), (6, 2)]
  | template, n, w => (n, w) ∈ [(1, 2), (2, 2), (3, 2), (4, 2), (5, 0)]
  | parameter, n, w => (n, w) ∈ [(1, 2), (2, 0), (3, 0), (4, 0), (5, 5), (6, 1), (7, 0), (8, 2)]

/-- The kind of the message in a length-delimited field, where the decoder reads it as one. -/
def child : Kind → Nat → Option Kind
  | payload, 2 => some metric
  | metric, 8 => some metadata
  | metric, 9 => some propertyset
  | metric, 17 => some dataset
  | metric, 18 => some template
  | propertyset, 2 => some propertyvalue
  | propertyvalue, 9 => some propertyset
  | propertyvalue, 10 => some propertysetlist
  | propertysetlist, 1 => some propertyset
  | dataset, 4 => some row
  | row, 1 => some cell
  | template, 2 => some metric
  | template, 3 => some parameter
  | _, _ => none

end Kind

/-- `Slots` without the variables that no field of the numbers `i`, `l`, `f`, `d`, `b`, `s`
(in the order of the record) sets. -/
def Slots.only (st : Slots) (n i l f d b s : Nat) : Slots :=
  { intV := if n = i then st.intV else none
    longV := if n = l then st.longV else none
    floatV := if n = f then st.floatV else none
    doubleV := if n = d then st.doubleV else none
    boolV := if n = b then st.boolV else none
    stringV := if n = s then st.stringV else none }

/-- The variables that fields of number `n` set, the others reset. -/
def Kind.slot : (k : Kind) → Nat → k.Vars → k.Vars
  | .payload, n, (p : Payload) =>
    { timestamp := if n = 1 then p.timestamp else none
      metrics := if n = 2 then p.metrics else []
      seq := if n = 3 then p.seq else none
      uuid := if n = 4 then p.uuid else none
      body := if n = 5 then p.body else none }
  | .metric, n, (m : RawMetric) =>
    { name := if n = 1 then m.name else none
      «alias» := if n = 2 then m.alias else none
      timestamp := if n = 3 then m.timestamp else none
      datatype := if n = 4 then m.datatype else none
      isHistorical := if n = 5 then m.isHistorical else none
      isTransient := if n = 6 then m.isTransient else none
      isNull := if n = 7 then m.isNull else false
      metadata := if n = 8 then m.metadata else none
      properties := if n = 9 then m.properties else none
      raw :=
        { toSlots := m.raw.toSlots.only n 10 11 12 13 14 15
          bytesV := if n = 16 then m.raw.bytesV else none
          datasetV := if n = 17 then m.raw.datasetV else none
          templateV := if n = 18 then m.raw.templateV else none } }
  | .metadata, n, (md : MetaData) =>
    { isMultiPart := if n = 1 then md.isMultiPart else none
      contentType := if n = 2 then md.contentType else none
      size := if n = 3 then md.size else none
      seq := if n = 4 then md.seq else none
      fileName := if n = 5 then md.fileName else none
      fileType := if n = 6 then md.fileType else none
      md5 := if n = 7 then md.md5 else none
      description := if n = 8 then md.description else none }
  | .propertyset, n, (ps : RawPropertySet) =>
    { keys := if n = 1 then ps.keys else []
      values := if n = 2 then ps.values else [] }
  | .propertyvalue, n, (v : RawPropertyValue) =>
    { toSlots := v.toSlots.only n 3 4 5 6 7 8
      typeCode := if n = 1 then v.typeCode else none
      isNull := if n = 2 then v.isNull else false
      psSlice := if n = 9 then v.psSlice else none
      pslSlice := if n = 10 then v.pslSlice else none }
  | .propertysetlist, n, (sets : List PropertySet) => if n = 1 then sets else []
  | .dataset, n, (ds : RawDataSet) =>
    { columns := if n = 2 then ds.columns else []
      typeCodes := if n = 3 then ds.typeCodes else []
      rowSlices := if n = 4 then ds.rowSlices else [] }
  | .row, n, (cells : List DataSetValue) => if n = 1 then cells else []
  | .cell, n, (st : Slots) => st.only n 1 2 3 4 5 6
  | .template, n, (t : Template) =>
    { version := if n = 1 then t.version else none
      metrics := if n = 2 then t.metrics else []
      parameters := if n = 3 then t.parameters else []
      templateRef := if n = 4 then t.templateRef else none
      isDefinition := if n = 5 then t.isDefinition else false }
  | .parameter, n, (p : RawParameter) =>
    { toSlots := p.toSlots.only n 3 4 5 6 7 8
      name := if n = 1 then p.name else none
      typeCode := if n = 2 then p.typeCode else none }

/-- `Slots` put together from what the fields of the six numbers have set. -/
def Slots.join (f : Nat → Slots) (i l fl d b s : Nat) : Slots :=
  { intV := (f i).intV, longV := (f l).longV, floatV := (f fl).floatV, doubleV := (f d).doubleV,
    boolV := (f b).boolV, stringV := (f s).stringV }

/-- The variables put together from what the fields of each number have set. -/
def Kind.join : (k : Kind) → (Nat → k.Vars) → k.Vars
  | .payload, (f : Nat → Payload) =>
    { timestamp := (f 1).timestamp, metrics := (f 2).metrics, seq := (f 3).seq,
      uuid := (f 4).uuid, body := (f 5).body }
  | .metric, (f : Nat → RawMetric) =>
    { name := (f 1).name, «alias» := (f 2).alias, timestamp := (f 3).timestamp,
      datatype := (f 4).datatype, isHistorical := (f 5).isHistorical,
      isTransient := (f 6).isTransient, isNull := (f 7).isNull, metadata := (f 8).metadata,
      properties := (f 9).properties,
      raw :=
        { toSlots := Slots.join (fun n => (f n).raw.toSlots) 10 11 12 13 14 15
          bytesV := (f 16).raw.bytesV
          datasetV := (f 17).raw.datasetV
          templateV := (f 18).raw.templateV } }
  | .metadata, (f : Nat → MetaData) =>
    { isMultiPart := (f 1).isMultiPart, contentType := (f 2).contentType, size := (f 3).size,
      seq := (f 4).seq, fileName := (f 5).fileName, fileType := (f 6).fileType,
      md5 := (f 7).md5, description := (f 8).description }
  | .propertyset, (f : Nat → RawPropertySet) => { keys := (f 1).keys, values := (f 2).values }
  | .propertyvalue, (f : Nat → RawPropertyValue) =>
    { toSlots := Slots.join (fun n => (f n).toSlots) 3 4 5 6 7 8
      typeCode := (f 1).typeCode
      isNull := (f 2).isNull
      psSlice := (f 9).psSlice
      pslSlice := (f 10).pslSlice }
  | .propertysetlist, (f : Nat → List PropertySet) => f 1
  | .dataset, (f : Nat → RawDataSet) =>
    { columns := (f 2).columns, typeCodes := (f 3).typeCodes, rowSlices := (f 4).rowSlices }
  | .row, (f : Nat → List DataSetValue) => f 1
  | .cell, (f : Nat → Slots) => Slots.join f 1 2 3 4 5 6
  | .template, (f : Nat → Template) =>
    { version := (f 1).version, metrics := (f 2).metrics, parameters := (f 3).parameters,
      templateRef := (f 4).templateRef, isDefinition := (f 5).isDefinition }
  | .parameter, (f : Nat → RawParameter) =>
    { toSlots := Slots.join (fun n => (f n).toSlots) 3 4 5 6 7 8
      name := (f 1).name
      typeCode := (f 2).typeCode }

theorem Kind.join_slot (k : Kind) (st : k.Vars) : k.join (fun n => k.slot n st) = st := by
  cases k <;> rfl

/-! ## 3. What the loops have in common -/

/-- **A field that is not read changes nothing.** -/
theorem Kind.react_unread (k : Kind) (c : k.Calls) (st : k.Vars) {n : Nat} {raw : Raw}
    (h : k.reads n raw.wire = false) : k.react c st n raw = .ok st := by
  cases k <;> simp only [Kind.react] <;>
    simp only [payloadField, metricField, metadataField, propertysetField, propertyvalueField,
      propertysetlistField, datasetField, rowField, datasetvalueField, templateField,
      parameterField] <;>
    split <;> first | rfl | exact absurd h (by simp [Kind.reads, Raw.wire])

/-- **A loop is a bundle of independent loops.** -/
theorem Kind.slotted (k : Kind) (c : k.Calls) : Slotted (k.react c) k.slot where
  other := by
    intro st st' m n raw h hne
    have hne := hne.symm
    cases k <;> simp only [Kind.react] at h <;>
      simp only [payloadField, metricField, metadataField, propertysetField, propertyvalueField,
        propertysetlistField, datasetField, rowField, datasetvalueField, templateField,
        parameterField] at h
    case row =>
      split at h
      · split at h
        · obtain ⟨_, -, rfl⟩ := ok_of_map h
          simp [Kind.slot, hne]
        · exact absurd h (by simp)
      · rw [Except.ok.inj h]
    all_goals
      split at h <;> first
        | (obtain rfl := Except.ok.inj h; simp [Kind.slot, Slots.only, hne])
        | (obtain ⟨_, -, rfl⟩ := ok_of_map h; simp [Kind.slot, Slots.only, hne])
  own := by
    intro st n raw
    cases k <;> simp only [Kind.react] <;>
      simp only [payloadField, metricField, metadataField, propertysetField, propertyvalueField,
        propertysetlistField, datasetField, rowField, datasetvalueField, templateField,
        parameterField]
    case row =>
      split
      · rename_i b
        simp only [Kind.slot, if_true]
        split
        · rename_i dt _
          cases decodeDatasetvalue b dt <;> rfl
        · rfl
      · rfl
    all_goals
      split <;> first
        | rfl
        | (simp only [bind, Except.bind, pure, Except.pure, Kind.slot, if_true]; split <;> rfl)
  ext := by
    intro st st' h
    rw [← k.join_slot st, ← k.join_slot st', funext h]

end Codec

end SparkplugB
