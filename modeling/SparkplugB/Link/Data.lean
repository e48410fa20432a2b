/-
# Data that follows its birth

A metric of data follows a birth if the birth declares its name with its datatype, and it is no
template.  On its way to the wire it keeps its name or takes the alias of the birth in its place;
either way a host that has the registry of the birth reads it, and gives it its name back.
-/
import SparkplugB.Codec.Survival
import SparkplugB.Edge.Dressing
import SparkplugB.Host.Engine

namespace SparkplugB

open AliasRegistry Codec

/-! ## 1. Metrics -/

/-- The birth declares a metric of this name and datatype, and the metric is no template, whose
members a registry does not tell apart by their template. -/
structure Follows (births : List Metric) (m : Metric) : Prop where
  plain : ∀ t, m.value ≠ .template t
  declared : ∃ n, m.name = some n ∧ ∃ b ∈ births, b.name = some n ∧
    b.value.datatype = m.value.datatype

/-- How `to_data_metrics` writes a metric of data: by its name, or in its place the alias that the
birth gave the name. -/
inductive Wired (births : List Metric) (m : Metric) : Metric → Prop
  | named : Wired births m m
  | aliased {b : Metric} {a : UInt64} (mem : b ∈ births) (name : b.name = m.name)
      (alias_eq : b.alias = some a) : Wired births m { m with «alias» := some a, name := none }

section Metrics

variable {births : List Metric} {m w : Metric}

theorem Follows.stampMetric (h : Follows births m) (ts : UInt64) :
    Follows births (stampMetric ts m) where
  plain t := by
    rw [(dressed_stampMetric ts m).value]
    exact h.plain t
  declared := by
    rw [(dressed_stampMetric ts m).value, (dressed_stampMetric ts m).name]
    exact h.declared

theorem Wired.stampMetric (h : Wired births m w) (ts : UInt64) :
    Wired births (stampMetric ts m) (stampMetric ts w) := by
  cases h with
  | named => exact .named
  | aliased mem name alias_eq =>
    have hw := Wired.aliased (m := SparkplugB.stampMetric ts m) mem
      (name.trans (dressed_stampMetric ts m).name.symm) alias_eq
    unfold SparkplugB.stampMetric at hw ⊢
    by_cases hts : m.timestamp.isNone = true
    · rw [if_pos hts] at hw ⊢
      rw [if_pos hts]
      exact hw
    · rw [if_neg hts] at hw ⊢
      rw [if_neg hts]
      exact hw

theorem Wired.value (h : Wired births m w) : w.value = m.value := by
  cases h <;> rfl

theorem Wired.wellFormed (h : Wired births m w) : w.WellFormed ↔ m.WellFormed := by
  unfold Metric.WellFormed
  rw [Metric.all_iff, Metric.all_iff, h.value]

theorem Wired.height (h : Wired births m w) : w.height = m.height := by
  rw [Metric.height_eq, Metric.height_eq, h.value]
  cases h <;> rfl

/-- Two metrics of the birth that have the name have one datatype. -/
theorem datatype_of_resolves (hres : (registryOf births).Resolves births)
    (hnames : (namesOf births).Nodup) {b b' : Metric} {n : String} (hb : b ∈ births)
    (hb' : b' ∈ births) (hn : b.name = some n) (hn' : b'.name = some n) :
    b.value.datatype = b'.value.datatype :=
  Option.some.inj ((hres.datatype hnames b hb n hn).symm.trans (hres.datatype hnames b' hb' n hn'))

/-- The registry of the birth recovers the datatype. -/
theorem Wired.recovers (hw : Wired births m w) (hf : Follows births m)
    (hres : (registryOf births).Resolves births) (hnames : (namesOf births).Nodup) :
    Recovers (registryOf births) w := by
  obtain ⟨n, hn, b, hb, hbn, hdt⟩ := hf.declared
  cases hw with
  | named =>
    show recoverDatatype (some (registryOf births)) m.name m.alias = _
    rw [hn, ← hdt]
    exact hres.datatype hnames b hb n hbn
  | aliased mem name alias_eq =>
    rename_i b' a
    have hn' : b'.name = some n := name.trans hn
    show (registryOf births).datatypeForAlias a = some m.value.datatype
    rw [(hres.named hnames b' mem n hn' a alias_eq).2,
      datatype_of_resolves hres hnames mem hb hn' hbn, hdt]

/-- A metric that has its name keeps it. -/
theorem resolveName_named (reg : AliasRegistry) {n : String} (hn : m.name = some n) :
    resolveName reg m = m := by
  unfold resolveName
  rw [hn]

/-- The registry of the birth gives the name back. -/
theorem Wired.resolveName (hw : Wired births m w) (hf : Follows births m)
    (hres : (registryOf births).Resolves births) (hnames : (namesOf births).Nodup) :
    ∃ alias?, resolveName (registryOf births) w = { m with «alias» := alias? } := by
  obtain ⟨n, hn, -⟩ := hf.declared
  cases hw with
  | named => exact ⟨m.alias, resolveName_named _ hn⟩
  | aliased mem name alias_eq =>
    rename_i b' a
    have hname := (hres.named hnames b' mem n (name.trans hn) a alias_eq).1
    refine ⟨some a, ?_⟩
    unfold SparkplugB.resolveName
    simp only [Option.bind_some, hname, hn]

end Metrics

/-! ## 2. Payloads -/

theorem forall₂_wired_stamp {births metrics wire : List Metric} (ts : UInt64)
    (h : List.Forall₂ (Wired births) metrics wire) :
    List.Forall₂ (Wired births) (stamp metrics ts) (stamp wire ts) := by
  unfold stamp
  rw [List.forall₂_map_left_iff, List.forall₂_map_right_iff]
  exact h.imp fun _ _ hw => hw.stampMetric ts

/-- **Data that follows its birth is read** by `decode` with the registry of the birth as it was
written, whether its metrics go by name or by alias.  The registry resolves what the birth declares
(`hres`), no name stands in it twice (`hnames`), and the codec can carry the data. -/
theorem decode_wired {births metrics : List Metric} {p : Payload}
    (hres : (registryOf births).Resolves births) (hnames : (namesOf births).Nodup)
    (hfollows : ∀ m ∈ metrics, Follows births m) (hencodable : Encodable metrics)
    (hwired : List.Forall₂ (Wired births) metrics p.metrics)
    (hsize : (encode p .data).length < 2 ^ 63) :
    decode (encode p .data) (some (registryOf births)) = .ok p := by
  have hall : ∀ w ∈ p.metrics, ∃ m ∈ metrics, Wired births m w := fun w hw =>
    exists_of_forall₂ hwired hw
  have hflat : p.Flat := by
    intro w hw t
    obtain ⟨m, hm, hmw⟩ := hall w hw
    rw [hmw.value]
    exact (hfollows m hm).plain t
  refine (decode_flat_iff hflat hsize).mpr ⟨fun w hw => ?_, ?_, fun w hw => ?_⟩
  · obtain ⟨m, hm, hmw⟩ := hall w hw
    exact hmw.wellFormed.mpr (hencodable m hm).1
  · refine (p.depth_le_iff MAX_DEPTH).mpr fun w hw => ?_
    obtain ⟨m, hm, hmw⟩ := hall w hw
    rw [hmw.height]
    exact (hencodable m hm).2
  · obtain ⟨m, hm, hmw⟩ := hall w hw
    exact hmw.recovers (hfollows m hm) hres hnames

/-- Data that has its names keeps them. -/
theorem resolveNames_named (births : List Metric) (reg : AliasRegistry) {metrics : List Metric}
    (hfollows : ∀ m ∈ metrics, Follows births m) : resolveNames reg metrics = metrics := by
  have hkeep : ∀ m ∈ metrics, resolveName reg m = id m := by
    intro m hm
    obtain ⟨n, hn, -⟩ := (hfollows m hm).declared
    exact resolveName_named reg hn
  exact (List.map_congr_left hkeep).trans (List.map_id metrics)

end SparkplugB
