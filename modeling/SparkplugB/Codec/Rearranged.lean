/-
# Editing a message field by field

`Edit here` changes the fields of one message, the payload itself or one nested in it, as `here`
allows, and encodes the enclosing messages anew.  Two kinds of edit leave what `decode` returns
as it is: to reorder the fields without changing the order of those with the same number
(`decode_reordered`), and to insert a field that the message's decoder does not read
(`decode_unread`).

The argument is one for both.  `Sim k b b'` says that the decoder of kind `k` returns for `b'` all
that it returns for `b`.  At the edited message the loops of the two sides end with the same
variables (`Kind.slotted`, `Kind.react_unread`).  Above it they end with variables that differ at
most in slices that are only decoded behind the loop, and these simulate each other (`Alike`);
what is built from alike variables is the same (`Sim.of_loop`).
-/
import SparkplugB.Codec.Kinds

namespace SparkplugB.Codec

open Reader

/-! ## 1. Edits -/

/-- A change of the fields of one message, at any depth. -/
inductive Edit (here : Kind → List Field → List Field → Prop) : Kind → Bytes → Bytes → Prop
  | here {k : Kind} {fs fs' : List Field} {bytes bytes' : Bytes} : Spells fs bytes →
      Spells fs' bytes' → here k fs fs' → Edit here k bytes bytes'
  | inside {k k' : Kind} {n : Nat} {pre post : List Field} {b b' bytes bytes' : Bytes} :
      Spells (pre ++ ⟨n, .len b⟩ :: post) bytes → Spells (pre ++ ⟨n, .len b'⟩ :: post) bytes' →
      k.child n = some k' → Edit here k' b b' → Edit here k bytes bytes'

theorem Edit.serialized {here : Kind → List Field → List Field → Prop} {k k' : Kind} {n : Nat}
    {b b' : Bytes} (pre post : List Field) (hk : k.child n = some k')
    (hfits : ∀ f ∈ pre ++ ⟨n, .len b⟩ :: post, f.Fits)
    (hfits' : ∀ f ∈ pre ++ ⟨n, .len b'⟩ :: post, f.Fits) (h : Edit here k' b b') :
    Edit here k (serialize (pre ++ ⟨n, .len b⟩ :: post))
      (serialize (pre ++ ⟨n, .len b'⟩ :: post)) :=
  .inside (spells_serialize hfits) (spells_serialize hfits') hk h

/-- The same fields in another order, those of each number in the same order. -/
def Reordered (_ : Kind) (fs fs' : List Field) : Prop :=
  fs.Perm fs' ∧ ∀ n, ofNum n fs = ofNum n fs'

/-- One more field, of a number and wire type that the decoder of the message does not read. -/
def WithUnread (k : Kind) (fs fs' : List Field) : Prop :=
  ∃ pre post f, fs = pre ++ post ∧ fs' = pre ++ f :: post ∧ k.reads f.num f.raw.wire = false

/-! ## 2. Simulation between messages -/

/-- Whatever the decoder of kind `k` returns for `b`, it returns for `b'`. -/
def Sim : Kind → Bytes → Bytes → Prop
  | .payload, b, b' => ∀ types p, decodePayload b types = .ok p → decodePayload b' types = .ok p
  | .metric, b, b' => ∀ types depth m, decodeMetric b types depth = .ok m →
      decodeMetric b' types depth = .ok m
  | .metadata, b, b' => ∀ md, decodeMetadata b = .ok md → decodeMetadata b' = .ok md
  | .propertyset, b, b' => ∀ depth ps, decodePropertyset b depth = .ok ps →
      decodePropertyset b' depth = .ok ps
  | .propertyvalue, b, b' => ∀ depth v, decodePropertyvalue b depth = .ok v →
      decodePropertyvalue b' depth = .ok v
  | .propertysetlist, b, b' => ∀ depth list, decodePropertysetlist b depth = .ok list →
      decodePropertysetlist b' depth = .ok list
  | .dataset, b, b' => ∀ ds, decodeDataset b = .ok ds → decodeDataset b' = .ok ds
  | .row, b, b' => ∀ types cells, decodeRow b types = .ok cells → decodeRow b' types = .ok cells
  | .cell, b, b' => ∀ dt v, decodeDatasetvalue b dt = .ok v → decodeDatasetvalue b' dt = .ok v
  | .template, b, b' => ∀ types depth t, decodeTemplate b types depth = .ok t →
      decodeTemplate b' types depth = .ok t
  | .parameter, b, b' => ∀ p, decodeParameter b = .ok p → decodeParameter b' = .ok p

theorem Sim.refl : ∀ (k : Kind) (b : Bytes), Sim k b b
  | .payload, _ => fun _ _ h => h
  | .metric, _ => fun _ _ _ h => h
  | .metadata, _ => fun _ h => h
  | .propertyset, _ => fun _ _ h => h
  | .propertyvalue, _ => fun _ _ h => h
  | .propertysetlist, _ => fun _ _ h => h
  | .dataset, _ => fun _ h => h
  | .row, _ => fun _ _ h => h
  | .cell, _ => fun _ _ h => h
  | .template, _ => fun _ _ _ h => h
  | .parameter, _ => fun _ h => h

/-- Slices that simulate each other, or none on both sides. -/
def SliceSim (k : Kind) : Option Bytes → Option Bytes → Prop := Option.Rel (Sim k)

theorem SliceSim.refl (k : Kind) : ∀ slice, SliceSim k slice slice
  | none => .none
  | some b => .some (Sim.refl k b)

/-- Variables that differ at most in slices decoded behind the loop. -/
def Kind.Alike : (k : Kind) → k.Vars → k.Vars → Prop
  | .metric, (m : RawMetric), (m' : RawMetric) =>
    ∃ ds t, m' = { m with raw.datasetV := ds, raw.templateV := t } ∧
      SliceSim .dataset m.raw.datasetV ds ∧ SliceSim .template m.raw.templateV t
  | .propertyvalue, (v : RawPropertyValue), (v' : RawPropertyValue) =>
    ∃ ps psl, v' = { v with psSlice := ps, pslSlice := psl } ∧
      SliceSim .propertyset v.psSlice ps ∧ SliceSim .propertysetlist v.pslSlice psl
  | .dataset, (ds : RawDataSet), (ds' : RawDataSet) =>
    ∃ rows, ds' = { ds with rowSlices := rows } ∧ List.Forall₂ (Sim .row) ds.rowSlices rows
  | .payload, st, st' | .metadata, st, st' | .propertyset, st, st' | .propertysetlist, st, st'
  | .row, st, st' | .cell, st, st' | .template, st, st' | .parameter, st, st' => st = st'

theorem Kind.Alike.refl (k : Kind) (st : k.Vars) : k.Alike st st := by
  cases k <;> first
    | rfl
    | exact ⟨_, _, rfl, SliceSim.refl _ _, SliceSim.refl _ _⟩
    | exact ⟨_, rfl, List.forall₂_same.mpr fun b _ => Sim.refl _ b⟩

/-- The calls a decoder of kind `k` gives its loop. -/
def Kind.Own : (k : Kind) → k.Calls → Prop
  | .payload, c => ∃ types, c = fun body => decodeMetric body types 0
  | .metric, c => ∃ depth, c = fun slice => decodePropertyset slice depth
  | .propertyset, c => ∃ depth, c = fun slice => decodePropertyvalue slice depth
  | .propertysetlist, c => ∃ depth, c = fun slice => decodePropertyset slice depth
  | .template, c => ∃ types depth, c = fun slice => decodeMetric slice types depth
  | .metadata, _ | .propertyvalue, _ | .dataset, _ | .row, _ | .cell, _ | .parameter, _ => True

/-! ## 3. Loops over related messages -/

theorem Kind.react_alike (k : Kind) (c : k.Calls) {st st' s : k.Vars} {n : Nat} {raw : Raw}
    (hst : k.Alike st st') (h : k.react c st n raw = .ok s) :
    ∃ s', k.react c st' n raw = .ok s' ∧ k.Alike s s' := by
  revert h
  cases k
  case metric =>
    obtain ⟨ds, t, rfl, hds, ht⟩ := hst
    simp only [Kind.react, metricField]
    split <;> intro h
    case h_17 =>
      obtain rfl := Except.ok.inj h
      exact ⟨_, rfl, _, _, rfl, SliceSim.refl _ _, ht⟩
    case h_18 =>
      obtain rfl := Except.ok.inj h
      exact ⟨_, rfl, _, _, rfl, hds, SliceSim.refl _ _⟩
    all_goals first
      | (obtain rfl := Except.ok.inj h; exact ⟨_, rfl, _, _, rfl, hds, ht⟩)
      | (obtain ⟨a, ha, rfl⟩ := ok_of_map h; rw [ha]; exact ⟨_, rfl, _, _, rfl, hds, ht⟩)
  case propertyvalue =>
    obtain ⟨ps, psl, rfl, hps, hpsl⟩ := hst
    simp only [Kind.react, propertyvalueField]
    split <;> intro h
    case h_9 =>
      obtain rfl := Except.ok.inj h
      exact ⟨_, rfl, _, _, rfl, SliceSim.refl _ _, hpsl⟩
    case h_10 =>
      obtain rfl := Except.ok.inj h
      exact ⟨_, rfl, _, _, rfl, hps, SliceSim.refl _ _⟩
    all_goals first
      | (obtain rfl := Except.ok.inj h; exact ⟨_, rfl, _, _, rfl, hps, hpsl⟩)
      | (obtain ⟨a, ha, rfl⟩ := ok_of_map h; rw [ha]; exact ⟨_, rfl, _, _, rfl, hps, hpsl⟩)
  case dataset =>
    obtain ⟨rows, rfl, hrows⟩ := hst
    simp only [Kind.react, datasetField]
    split <;> intro h
    case h_4 =>
      obtain rfl := Except.ok.inj h
      refine ⟨_, rfl, _, rfl, ?_⟩
      exact List.rel_append hrows (.cons (Sim.refl .row _) .nil)
    all_goals first
      | (obtain rfl := Except.ok.inj h; exact ⟨_, rfl, _, rfl, hrows⟩)
      | (obtain ⟨a, ha, rfl⟩ := ok_of_map h; rw [ha]; exact ⟨_, rfl, _, rfl, hrows⟩)
  all_goals
    intro h
    obtain rfl := hst
    exact ⟨s, h, rfl⟩

/-- The reaction to a nested message and to one that simulates it. -/
theorem Kind.react_child (k : Kind) {k' : Kind} (c : k.Calls) (hc : k.Own c) {st s : k.Vars}
    {n : Nat} {b b' : Bytes} (hk : k.child n = some k') (hb : Sim k' b b')
    (h : k.react c st n (.len b) = .ok s) :
    ∃ s', k.react c st n (.len b') = .ok s' ∧ k.Alike s s' := by
  unfold Kind.child at hk
  split at hk
  case h_14 => exact absurd hk (by simp)
  all_goals obtain rfl := Option.some.inj hk
  -- The payload and the metric, what they decode at once.
  · obtain ⟨types, rfl⟩ := hc
    exact ⟨s, map_mono (hb types 0) h, rfl⟩
  · exact ⟨s, map_mono hb h, Kind.Alike.refl .metric s⟩
  · obtain ⟨depth, rfl⟩ := hc
    exact ⟨s, map_mono (hb depth) h, Kind.Alike.refl .metric s⟩
  -- What the metric leaves for later.
  · obtain rfl := Except.ok.inj h
    exact ⟨_, rfl, _, _, rfl, .some hb, SliceSim.refl _ _⟩
  · obtain rfl := Except.ok.inj h
    exact ⟨_, rfl, _, _, rfl, SliceSim.refl _ _, .some hb⟩
  · obtain ⟨depth, rfl⟩ := hc
    exact ⟨s, map_mono (hb depth) h, rfl⟩
  · obtain rfl := Except.ok.inj h
    exact ⟨_, rfl, _, _, rfl, .some hb, SliceSim.refl _ _⟩
  · obtain rfl := Except.ok.inj h
    exact ⟨_, rfl, _, _, rfl, SliceSim.refl _ _, .some hb⟩
  · obtain ⟨depth, rfl⟩ := hc
    exact ⟨s, map_mono (hb depth) h, rfl⟩
  · obtain rfl := Except.ok.inj h
    refine ⟨_, rfl, _, rfl, ?_⟩
    exact List.rel_append (List.forall₂_same.mpr fun r _ => Sim.refl .row r) (.cons hb .nil)
  · refine ⟨s, ?_, rfl⟩
    simp only [Kind.react, rowField] at h ⊢
    split at h
    · exact map_mono (hb _) h
    · exact absurd h (by simp)
  · obtain ⟨types, depth, rfl⟩ := hc
    exact ⟨s, map_mono (hb types depth) h, rfl⟩
  · exact ⟨s, map_mono hb h, rfl⟩

/-- Loops over related fields, from related variables. -/
theorem foldFields_alike (k : Kind) (c : k.Calls) :
    ∀ {fs : List Field} {init init' st : k.Vars}, k.Alike init init' →
      foldFields (k.react c) init fs = .ok st →
      ∃ st', foldFields (k.react c) init' fs = .ok st' ∧ k.Alike st st'
  | [], init, init', st, hinit, h => by
    rw [← Except.ok.inj h]
    exact ⟨init', rfl, hinit⟩
  | f :: fs, init, init', st, hinit, h => by
    rw [foldFields_cons] at h
    obtain ⟨st1, h1, h⟩ := ok_of_bind h
    obtain ⟨st1', h1', halike⟩ := k.react_alike c hinit h1
    obtain ⟨st', h', hst'⟩ := foldFields_alike k c halike h
    refine ⟨st', ?_, hst'⟩
    rw [foldFields_cons, h1']
    exact h'

/-- A loop over a message in which one nested message gave way to one that simulates it. -/
theorem foldFields_child (k : Kind) {k' : Kind} (c : k.Calls) (hc : k.Own c) {n : Nat}
    {b b' : Bytes} (hk : k.child n = some k') (hb : Sim k' b b') (post : List Field) :
    ∀ {pre : List Field} {init st : k.Vars},
      foldFields (k.react c) init (pre ++ ⟨n, .len b⟩ :: post) = .ok st →
      ∃ st', foldFields (k.react c) init (pre ++ ⟨n, .len b'⟩ :: post) = .ok st' ∧ k.Alike st st'
  | [], init, st, h => by
    rw [List.nil_append, foldFields_cons] at h ⊢
    obtain ⟨st1, h1, h⟩ := ok_of_bind h
    obtain ⟨st1', h1', halike⟩ := k.react_child c hc hk hb h1
    obtain ⟨st', h', hst'⟩ := foldFields_alike k c halike h
    refine ⟨st', ?_, hst'⟩
    rw [h1']
    exact h'
  | f :: pre, init, st, h => by
    rw [List.cons_append, foldFields_cons] at h ⊢
    obtain ⟨st1, h1, h⟩ := ok_of_bind h
    obtain ⟨st', h', hst'⟩ := foldFields_child k c hc hk hb post h
    refine ⟨st', ?_, hst'⟩
    rw [h1]
    exact h'

/-! ## 4. What is built from alike variables -/

/-- The loop of kind `k` ends alike on both sides. -/
def LoopSim (k : Kind) (b b' : Bytes) : Prop :=
  ∀ c, k.Own c → ∀ st, readFields (byValue (k.react c)) k.start b = .ok st →
    ∃ st', readFields (byValue (k.react c)) k.start b' = .ok st' ∧ k.Alike st st'

theorem need_sim {k : Kind} {slice slice' : Option Bytes} (hs : SliceSim k slice slice')
    {msg : String} {α : Type} {f : Bytes → Result α} {a : α}
    (hf : ∀ b b' a, Sim k b b' → f b = .ok a → f b' = .ok a)
    (h : (need slice msg).bind f = .ok a) : (need slice' msg).bind f = .ok a := by
  cases hs with
  | none => exact h
  | some hb => exact hf _ _ a hb h

theorem buildMetricValue_sim {types : Option AliasRegistry} {depth : Nat} {dt : DataType}
    {raw : RawValue} {ds t : Option Bytes} {v : MetricValue}
    (hds : SliceSim .dataset raw.datasetV ds) (ht : SliceSim .template raw.templateV t)
    (h : buildMetricValue (fun slice => decodeTemplate slice types depth) dt raw = .ok v) :
    buildMetricValue (fun slice => decodeTemplate slice types depth) dt
      { raw with datasetV := ds, templateV := t } = .ok v := by
  cases dt
  case dataSet =>
    exact need_sim (f := fun slice => do pure (MetricValue.dataSet (← decodeDataset slice))) hds
      (fun b b' a hb h => map_mono hb h) h
  case template =>
    exact need_sim
      (f := fun slice => do pure (MetricValue.template (← decodeTemplate slice types depth))) ht
      (fun b b' a hb h => map_mono (hb types depth) h) h
  all_goals exact h

theorem buildPropertyvalue_sim {depth : Nat} {dt : DataType} {st : RawPropertyValue}
    {ps psl : Option Bytes} {v : PropertyValue} (hps : SliceSim .propertyset st.psSlice ps)
    (hpsl : SliceSim .propertysetlist st.pslSlice psl)
    (h : buildPropertyvalue (fun slice => decodePropertyset slice depth)
      (fun slice => decodePropertysetlist slice depth) dt st = .ok v) :
    buildPropertyvalue (fun slice => decodePropertyset slice depth)
      (fun slice => decodePropertysetlist slice depth) dt
      { st with psSlice := ps, pslSlice := psl } = .ok v := by
  cases dt
  case propertySet =>
    exact need_sim
      (f := fun slice => do pure (PropertyValue.propertySet (← decodePropertyset slice depth))) hps
      (fun b b' a hb h => map_mono (hb depth) h) h
  case propertySetList =>
    exact need_sim
      (f := fun slice => do pure (PropertyValue.propertySetList (← decodePropertysetlist slice depth))) hpsl
      (fun b b' a hb h => map_mono (hb depth) h) h
  all_goals exact h

theorem rows_sim {types : List DataType} {slices slices' : List Bytes}
    (h : List.Forall₂ (Sim .row) slices slices') :
    ∀ {rows : List (List DataSetValue)}, slices.mapM (fun slice => decodeRow slice types) = .ok rows →
      slices'.mapM (fun slice => decodeRow slice types) = .ok rows := by
  induction h with
  | nil => exact fun h => h
  | cons hb _ ih =>
    intro rows h
    rw [List.mapM_cons] at h ⊢
    obtain ⟨row, hrow, h⟩ := ok_of_bind h
    obtain ⟨rest, hrest, hrows⟩ := ok_of_map h
    simp only [hb types row hrow, ih hrest, bind, Except.bind, pure, Except.pure, ← hrows]

/-- Behind the loop, what alike variables give is the same. -/
theorem LoopSim.bind {k : Kind} {b b' : Bytes} (h : LoopSim k b b') {c : k.Calls} (hc : k.Own c)
    {α : Type} {a : α} {finish : k.Vars → Result α}
    (hfinish : ∀ st st', k.Alike st st' → finish st = .ok a → finish st' = .ok a)
    (ha : (readFields (byValue (k.react c)) k.start b).bind finish = .ok a) :
    (readFields (byValue (k.react c)) k.start b').bind finish = .ok a := by
  obtain ⟨st, hst, ha⟩ := ok_of_bind ha
  obtain ⟨st', hst', halike⟩ := h c hc st hst
  rw [hst']
  exact hfinish st st' halike ha

theorem Sim.of_loop {b b' : Bytes} : ∀ {k : Kind}, LoopSim k b b' → Sim k b b'
  | .payload, h => by
    intro types p hp
    rw [decodePayload, payloadBody_eq] at hp ⊢
    obtain ⟨p', hp', rfl⟩ := h _ ⟨types, rfl⟩ p hp
    exact hp'
  | .metric, h => by
    intro types depth m hm
    rw [decodeMetric] at hm ⊢
    split at hm
    · exact absurd hm (by simp)
    rename_i hdepth
    rw [dif_neg hdepth]
    rw [metricBody_eq] at hm ⊢
    refine h.bind ⟨depth + 1, rfl⟩ ?_ hm
    rintro st st' ⟨ds, t, rfl, hds, ht⟩ hm
    obtain ⟨dt, hdt, hm⟩ := ok_of_bind hm
    refine bind_of_ok hdt ?_
    cases hnull : (st : RawMetric).isNull with
    | true =>
      simp only [hnull, if_true] at hm ⊢
      exact hm
    | false =>
      simp only [hnull, Bool.false_eq_true, if_false] at hm ⊢
      obtain ⟨value, hvalue, hm⟩ := ok_of_bind hm
      exact bind_of_ok (buildMetricValue_sim hds ht hvalue) hm
  | .metadata, h => by
    intro md hmd
    rw [decodeMetadata, metadataBody_eq] at hmd ⊢
    obtain ⟨md', hmd', rfl⟩ := h () trivial md hmd
    exact hmd'
  | .propertyset, h => by
    intro depth ps hps
    rw [decodePropertyset] at hps ⊢
    split at hps
    · exact absurd hps (by simp)
    rename_i hdepth
    rw [dif_neg hdepth]
    rw [propertysetBody_eq] at hps ⊢
    refine h.bind ⟨depth + 1, rfl⟩ ?_ hps
    rintro st st' rfl hps
    exact hps
  | .propertyvalue, h => by
    intro depth v hv
    rw [decodePropertyvalue] at hv ⊢
    split at hv
    · exact absurd hv (by simp)
    rename_i hdepth
    rw [dif_neg hdepth]
    rw [propertyvalueBody_eq] at hv ⊢
    refine h.bind (c := ()) trivial ?_ hv
    rintro st st' ⟨ps, psl, rfl, hps, hpsl⟩ hv
    obtain ⟨code, hcode, hv⟩ := ok_of_bind hv
    obtain ⟨dt, hdt, hv⟩ := ok_of_bind hv
    refine bind_of_ok hcode ?_
    refine bind_of_ok hdt ?_
    cases hnull : (st : RawPropertyValue).isNull with
    | true =>
      simp only [hnull, if_true] at hv ⊢
      exact hv
    | false =>
      simp only [hnull, Bool.false_eq_true, if_false] at hv ⊢
      exact buildPropertyvalue_sim hps hpsl hv
  | .propertysetlist, h => by
    intro depth list hlist
    rw [decodePropertysetlist] at hlist ⊢
    split at hlist
    · exact absurd hlist (by simp)
    rename_i hdepth
    rw [dif_neg hdepth]
    rw [propertysetlistBody_eq] at hlist ⊢
    refine h.bind ⟨depth + 1, rfl⟩ ?_ hlist
    rintro st st' rfl hlist
    exact hlist
  | .dataset, h => by
    intro ds hds
    rw [decodeDataset, datasetBody_eq] at hds ⊢
    refine h.bind (c := ()) trivial ?_ hds
    rintro st st' ⟨slices, rfl, hslices⟩ hds
    obtain ⟨types, htypes, hds⟩ := ok_of_bind hds
    obtain ⟨rows, hrows, hds⟩ := ok_of_bind hds
    refine bind_of_ok htypes ?_
    exact bind_of_ok (rows_sim hslices hrows) hds
  | .row, h => by
    intro types cells hcells
    rw [decodeRow, rowBody_eq] at hcells ⊢
    obtain ⟨cells', hcells', rfl⟩ := h types trivial cells hcells
    exact hcells'
  | .cell, h => by
    intro dt v hv
    rw [decodeDatasetvalue, datasetvalueBody_eq] at hv ⊢
    refine h.bind (c := ()) trivial ?_ hv
    rintro st st' rfl hv
    exact hv
  | .template, h => by
    intro types depth t ht
    rw [decodeTemplate] at ht ⊢
    split at ht
    · exact absurd ht (by simp)
    rename_i hdepth
    rw [dif_neg hdepth]
    rw [templateBody_eq] at ht ⊢
    obtain ⟨t', ht', rfl⟩ := h _ ⟨types, depth + 1, rfl⟩ t ht
    exact ht'
  | .parameter, h => by
    intro p hp
    rw [decodeParameter, parameterBody_eq] at hp ⊢
    refine h.bind (c := ()) trivial ?_ hp
    rintro st st' rfl hp
    exact hp

/-! ## 5. Edits that keep the result -/

/-- An edit that keeps the result of the loop at the edited message keeps that of the decoder. -/
theorem Sim.of_edit {here : Kind → List Field → List Field → Prop}
    (hhere : ∀ {k : Kind} {fs fs' : List Field} {c : k.Calls} {st : k.Vars}, here k fs fs' →
      foldFields (k.react c) k.start fs = .ok st → foldFields (k.react c) k.start fs' = .ok st)
    {k : Kind} {b b' : Bytes} (h : Edit here k b b') : Sim k b b' := by
  induction h with
  | @here k fs fs' bytes bytes' hfs hfs' hedit =>
    refine Sim.of_loop fun c _ st hst => ⟨st, ?_, Kind.Alike.refl k st⟩
    rw [readFields_spells _ _ hfs] at hst
    rw [readFields_spells _ _ hfs']
    exact hhere hedit hst
  | inside hfs hfs' hk _ ih =>
    refine Sim.of_loop fun c hc st hst => ?_
    rw [readFields_spells _ _ hfs] at hst
    rw [readFields_spells _ _ hfs']
    exact foldFields_child _ c hc hk ih _ hst

end SparkplugB.Codec

namespace SparkplugB

open Codec Reader

/-- Fields with distinct numbers may come in any order. -/
theorem Codec.reordered_of_nodup (k : Kind) {fs fs' : List Field} (h : fs.Perm fs')
    (hnodup : (fs.map Field.num).Nodup) : Reordered k fs fs' := by
  refine ⟨h, fun n => ?_⟩
  have hperm : (ofNum n fs).Perm (ofNum n fs') := h.filter _
  have hle : (ofNum n fs).length ≤ 1 := by
    have hcount := List.nodup_iff_count_le_one.mp hnodup n
    rwa [List.count, List.countP_map, List.countP_eq_length_filter] at hcount
  match hfs : ofNum n fs, hle with
  | [], _ =>
    rw [hfs] at hperm
    exact hperm.nil_eq
  | [f], _ =>
    rw [hfs] at hperm
    exact (List.perm_singleton.mp hperm.symm).symm

-- A payload with one DataSet metric, of one column and one row.

def gridCell : List Field := [⟨1, .varint 5⟩]

def gridRow (cell : List Field) : List Field := [⟨1, .len (serialize cell)⟩]

def gridDataset (cell : List Field) : List Field :=
  [⟨2, .str "c"⟩, ⟨3, .varint 3⟩, ⟨4, .len (serialize (gridRow cell))⟩]

def gridMetric (dataset : List Field) : List Field :=
  [⟨1, .str "grid"⟩, ⟨4, .varint 16⟩, ⟨17, .len (serialize dataset)⟩]

def gridPayload (metric : List Field) : List Field :=
  [⟨3, .varint 0⟩, ⟨2, .len (serialize metric)⟩]

theorem decode_grid :
    ∃ p, decode (serialize (gridPayload (gridMetric (gridDataset gridCell)))) none = .ok p :=
  exists_of_isOk (by decide +kernel)

/-- **Field order does not matter.**  Whatever `decode` returns for a payload it returns after the
fields of its messages, at every depth and in any number of steps (`hedits`), were put in another
order that keeps the fields of each number in theirs; the lengths of the messages around are written
anew. -/
theorem decode_reordered {bytes bytes' : Bytes} {types : Option AliasRegistry} {p : Payload}
    (hedits : Relation.ReflTransGen (Edit Reordered .payload) bytes bytes')
    (hp : decode bytes types = .ok p) : decode bytes' types = .ok p := by
  induction hedits with
  | refl => exact hp
  | tail _ hedit ih =>
    refine Sim.of_edit ?_ hedit types p ih
    intro k fs fs' c st hfs hst
    exact (k.slotted c).foldFields_stable hfs.2 hst

/-- The rows before the column types, the value of the metric before its datatype. -/
theorem decode_reordered_grid :
    ∃ p, decode (serialize (gridPayload (gridMetric (gridDataset gridCell)))) none = .ok p ∧
      decode (serialize (gridPayload (gridMetric (gridDataset gridCell).reverse).reverse)) none =
        .ok p := by
  obtain ⟨p, hp⟩ := decode_grid
  refine ⟨p, hp, decode_reordered ?_ hp⟩
  have hrows : Edit Reordered .dataset (serialize (gridDataset gridCell))
      (serialize (gridDataset gridCell).reverse) :=
    .here (spells_serialize (by decide +kernel)) (spells_serialize (by decide +kernel))
      (reordered_of_nodup .dataset (List.reverse_perm _).symm (by decide +kernel))
  have hvalue : Edit Reordered .metric (serialize (gridMetric (gridDataset gridCell).reverse))
      (serialize (gridMetric (gridDataset gridCell).reverse).reverse) :=
    .here (spells_serialize (by decide +kernel)) (spells_serialize (by decide +kernel))
      (reordered_of_nodup .metric (List.reverse_perm _).symm (by decide +kernel))
  refine .tail (.single (Edit.serialized [⟨3, .varint 0⟩] [] rfl (by decide +kernel)
    (by decide +kernel) (Edit.serialized [⟨1, .str "grid"⟩, ⟨4, .varint 16⟩] [] rfl
      (by decide +kernel) (by decide +kernel) hrows))) ?_
  exact Edit.serialized [⟨3, .varint 0⟩] [] rfl (by decide +kernel) (by decide +kernel) hvalue

/-- **Unknown fields are skipped.**  Whatever `decode` returns for a payload it returns with one
more field, in any of its messages and anywhere among their fields (`hedit`), that the message's
decoder does not read: of an unknown number, or of a known one with another wire type. -/
theorem decode_unread {bytes bytes' : Bytes} {types : Option AliasRegistry} {p : Payload}
    (hedit : Edit WithUnread .payload bytes bytes') (hp : decode bytes types = .ok p) :
    decode bytes' types = .ok p := by
  refine Sim.of_edit ?_ hedit types p hp
  rintro k fs fs' c st ⟨pre, post, f, rfl, rfl, hunread⟩ hst
  rw [foldFields_insert fun st => k.react_unread c st hunread]
  exact hst

/-- A field of number 9 behind the value of the cell. -/
theorem decode_unread_grid :
    ∃ p, decode (serialize (gridPayload (gridMetric (gridDataset gridCell)))) none = .ok p ∧
      decode (serialize (gridPayload (gridMetric (gridDataset
        (gridCell ++ [⟨9, .len [1, 2, 3]⟩]))))) none = .ok p := by
  obtain ⟨p, hp⟩ := decode_grid
  refine ⟨p, hp, decode_unread ?_ hp⟩
  have hcell : Edit WithUnread .cell (serialize gridCell)
      (serialize (gridCell ++ [⟨9, .len [1, 2, 3]⟩])) :=
    .here (spells_serialize (by decide +kernel)) (spells_serialize (by decide +kernel))
      ⟨gridCell, [], ⟨9, .len [1, 2, 3]⟩, rfl, rfl, rfl⟩
  refine Edit.serialized [⟨3, .varint 0⟩] [] rfl (by decide +kernel) (by decide +kernel) ?_
  refine Edit.serialized [⟨1, .str "grid"⟩, ⟨4, .varint 16⟩] [] rfl (by decide +kernel)
    (by decide +kernel) ?_
  refine Edit.serialized [⟨2, .str "c"⟩, ⟨3, .varint 3⟩] [] rfl (by decide +kernel)
    (by decide +kernel) ?_
  exact Edit.serialized [] [] rfl (by decide +kernel) (by decide +kernel) hcell

end SparkplugB
