/-
# How a birth is dressed for the wire

On its way to the wire a metric of a birth is given an alias, and a time stamp if it has none.
Nothing else about it changes, so a birth that the codec can carry still is one.  The aliases
count up from one metric to the next, so one birth never gives the same alias twice: there are
fewer metrics in a message than there are aliases.
-/
import SparkplugB.Codec.Survival
import SparkplugB.Edge.Runs

namespace SparkplugB

open Codec

/-! ## 1. Dressing -/

/-- The metric `m'` is `m` with an alias and a time stamp of its own: what `assign_aliases` and
`stamp` make of the metrics of a birth.  Its name and value are those of `m`. -/
def Dressed (m m' : Metric) : Prop :=
  ∃ alias? timestamp, m' = { m with «alias» := alias?, timestamp }

namespace Dressed

variable {m m' m'' : Metric}

theorem refl (m : Metric) : Dressed m m := ⟨m.alias, m.timestamp, rfl⟩

theorem trans (h : Dressed m m') (h' : Dressed m' m'') : Dressed m m'' := by
  obtain ⟨_, _, rfl⟩ := h
  obtain ⟨alias?, timestamp, rfl⟩ := h'
  exact ⟨alias?, timestamp, rfl⟩

theorem name (h : Dressed m m') : m'.name = m.name := by
  obtain ⟨_, _, rfl⟩ := h
  rfl

theorem value (h : Dressed m m') : m'.value = m.value := by
  obtain ⟨_, _, rfl⟩ := h
  rfl

theorem wellFormed (h : Dressed m m') : m'.WellFormed ↔ m.WellFormed := by
  unfold Metric.WellFormed
  rw [Metric.all_iff, Metric.all_iff, h.value]

theorem height (h : Dressed m m') : m'.height = m.height := by
  rw [Metric.height_eq, Metric.height_eq, h.value]
  obtain ⟨_, _, rfl⟩ := h
  rfl

end Dressed

theorem dressed_stampMetric (ts : UInt64) (m : Metric) : Dressed m (stampMetric ts m) := by
  unfold stampMetric
  split
  · exact ⟨m.alias, some ts, rfl⟩
  · exact .refl m

theorem alias_stampMetric (ts : UInt64) (m : Metric) : (stampMetric ts m).alias = m.alias := by
  unfold stampMetric
  split <;> rfl

theorem dressed_stamp (ts : UInt64) (metrics : List Metric) :
    List.Forall₂ Dressed metrics (stamp metrics ts) := by
  unfold stamp
  rw [List.forall₂_map_right_iff, List.forall₂_same]
  intro m _
  exact dressed_stampMetric ts m

theorem dressed_assign (a : Aliasing) (m : Metric) : Dressed m (a.assign m).1 := by
  unfold Aliasing.assign
  split
  · exact .refl m
  · split
    · exact .refl m
    · exact ⟨some a.nextAlias, m.timestamp, rfl⟩

theorem dressed_assignAll :
    ∀ (metrics : List Metric) (a : Aliasing),
      List.Forall₂ Dressed metrics (a.assignAll metrics).1 := by
  intro metrics
  induction metrics with
  | nil => exact fun _ => .nil
  | cons m rest ih => exact fun a => .cons (dressed_assign a m) (ih (a.assign m).2)

namespace EdgeNode

variable {S : Type}

/-- A birth as it is sent. -/
theorem dressed_sequenced (node : EdgeNode Recorder S) (metrics : List Metric) (ts : UInt64) :
    List.Forall₂ Dressed metrics (node.sequenced (node.aliased metrics).1 ts).metrics := by
  have hassign : List.Forall₂ Dressed metrics (node.aliased metrics).1 := by
    unfold aliased
    split
    · exact dressed_assignAll metrics node.aliasing
    · exact List.forall₂_same.mpr fun m _ => .refl m
  unfold sequenced stamp
  rw [List.forall₂_map_right_iff]
  exact hassign.imp fun m m' h => h.trans (dressed_stampMetric ts m')

end EdgeNode

/-- What a member of the second list is related to. -/
theorem exists_of_forall₂ {α β : Type} {R : α → β → Prop} {as : List α} {bs : List β}
    (h : List.Forall₂ R as bs) {b : β} (hb : b ∈ bs) : ∃ a ∈ as, R a b := by
  induction h with
  | nil => exact absurd hb List.not_mem_nil
  | cons hfirst hrest ih =>
    rcases List.mem_cons.mp hb with rfl | hb
    · exact ⟨_, List.mem_cons_self, hfirst⟩
    · obtain ⟨a, ha, hab⟩ := ih hb
      exact ⟨a, List.mem_cons_of_mem _ ha, hab⟩

theorem namesOf_of_dressed {metrics metrics' : List Metric}
    (h : List.Forall₂ Dressed metrics metrics') :
    AliasRegistry.namesOf metrics' = AliasRegistry.namesOf metrics := by
  unfold AliasRegistry.namesOf
  induction h with
  | nil => rfl
  | cons hdressed hrest ih => rw [List.filterMap_cons, List.filterMap_cons, hdressed.name, ih]

/-! ## 2. What a birth can carry -/

/-- Metrics the codec writes without loss and reads without reaching its nesting limit: no NUL in a
StringArray, fewer than `2 ^ 32` elements in a BooleanArray, template parameters with values of
their own datatype, and at most 32 levels of templates and property sets. -/
def Encodable (metrics : List Metric) : Prop := ∀ m ∈ metrics, m.WellFormed ∧ m.height ≤ 32

/-- Metrics that have no aliases of their own.  `assign_aliases` sets an alias for each named metric
if aliases are in use, and leaves the aliases of the source alone if they are not. -/
def Unaliased (metrics : List Metric) : Prop := ∀ m ∈ metrics, m.alias = none

instance : DecidablePred Encodable := fun metrics =>
  inferInstanceAs (Decidable (∀ m ∈ metrics, m.WellFormed ∧ m.height ≤ 32))

instance : DecidablePred Unaliased := fun metrics =>
  inferInstanceAs (Decidable (∀ m ∈ metrics, m.alias = none))

theorem Encodable.dressed {metrics metrics' : List Metric} (h : Encodable metrics)
    (hdressed : List.Forall₂ Dressed metrics metrics') : Encodable metrics' := by
  intro m' hm'
  obtain ⟨m, hm, hd⟩ := exists_of_forall₂ hdressed hm'
  rw [hd.wellFormed, hd.height]
  exact h m hm

/-- The metrics of an NBIRTH: those of the source, and the control metrics it lacks. -/
theorem mem_controlled {b : UInt8} {metrics : List Metric} {m : Metric}
    (h : m ∈ EdgeNode.controlled b metrics) :
    m ∈ metrics ∨ m = Metric.new NODE_CONTROL_REBIRTH (.boolean false) ∨
      m = Metric.new BDSEQ_METRIC_NAME (.int64 (Int64.ofNat b.toNat)) := by
  have hadd : ∀ (c : Bool) (xs : List Metric) (d : Metric),
      m ∈ (if c then xs else xs ++ [d]) → m ∈ xs ∨ m = d := by
    intro c xs d hm
    cases c with
    | true => exact .inl hm
    | false => simpa using hm
  rcases hadd _ _ _ h with h | h
  · rcases hadd _ _ _ h with h | h
    · exact .inl h
    · exact .inr (.inl h)
  · exact .inr (.inr h)

theorem Encodable.controlled {metrics : List Metric} (h : Encodable metrics) (b : UInt8) :
    Encodable (EdgeNode.controlled b metrics) := by
  intro m hm
  rcases mem_controlled hm with hm | rfl | rfl
  · exact h m hm
  · exact ⟨by decide, by decide⟩
  · exact ⟨(Metric.all_iff _ _).mpr ⟨trivial, trivial⟩, Nat.zero_le 32⟩

theorem Unaliased.controlled {metrics : List Metric} (h : Unaliased metrics) (b : UInt8) :
    Unaliased (EdgeNode.controlled b metrics) := by
  intro m hm
  rcases mem_controlled hm with hm | rfl | rfl
  · exact h m hm
  · rfl
  · rfl

/-- A payload has fewer metrics than its encoding has bytes. -/
theorem length_metrics_le (p : Payload) (o : EncodeOptions) :
    p.metrics.length ≤ (encode p o).length := by
  have hwritten : encode p o = serialize (payloadFields o.stripDatatypes p) :=
    encodePayload_eq o.stripDatatypes p
  rw [hwritten]
  refine le_trans ?_ (length_le_serialize _)
  simp only [payloadFields, fieldEach, List.length_append, List.length_map]
  omega

/-! ## 3. Aliases -/

/-- What one metric does to the count: a control metric, or one without a name, takes no alias. -/
theorem alias_assign (a : Aliasing) {m : Metric} (hplain : m.alias = none) :
    ((a.assign m).1.alias = none ∧ (a.assign m).2.nextAlias = a.nextAlias) ∨
      ((a.assign m).1.alias = some a.nextAlias ∧
        (a.assign m).2.nextAlias = a.nextAlias + 1) := by
  unfold Aliasing.assign
  split
  · exact .inl ⟨hplain, rfl⟩
  · split
    · exact .inl ⟨hplain, rfl⟩
    · exact .inr ⟨rfl, rfl⟩

/-- The aliases of a birth count up from the next one. -/
theorem alias_assignAll :
    ∀ (metrics : List Metric) (a : Aliasing), Unaliased metrics →
      ∀ m ∈ (a.assignAll metrics).1, ∀ al, m.alias = some al →
        ∃ i < metrics.length, al = a.nextAlias + UInt64.ofNat i := by
  intro metrics
  induction metrics with
  | nil =>
    intro a _ m hm
    exact absurd hm (by simp [Aliasing.assignAll])
  | cons b rest ih =>
    intro a hplain m hm al hal
    have hrest : Unaliased rest := fun m' hm' => hplain m' (List.mem_cons_of_mem b hm')
    have hfirst := alias_assign a (hplain b List.mem_cons_self)
    rcases List.mem_cons.mp hm with rfl | hm
    · rcases hfirst with ⟨hnone, -⟩ | ⟨hsome, -⟩
      · exact absurd (hnone.symm.trans hal) (by simp)
      · refine ⟨0, Nat.succ_pos _, ?_⟩
        rw [← Option.some.inj (hsome.symm.trans hal)]
        exact (UInt64.add_zero _).symm
    · obtain ⟨i, hi, rfl⟩ := ih (a.assign b).2 hrest m hm al hal
      rcases hfirst with ⟨-, hnext⟩ | ⟨-, hnext⟩
      · exact ⟨i, Nat.lt_succ_of_lt hi, by rw [hnext]⟩
      · refine ⟨i + 1, Nat.succ_lt_succ hi, ?_⟩
        rw [hnext, UInt64.ofNat_add, UInt64.add_assoc, UInt64.add_comm 1]
        rfl

/-- The two metrics do not share an alias. -/
def Apart (m m' : Metric) : Prop := ∀ al, m.alias = some al → m'.alias ≠ some al

instance : Std.Symm Apart where
  symm _ _ h al hal' hal := h al hal hal'

/-- **One birth never gives the same alias twice**, as long as it has fewer than `2 ^ 64` metrics
and these bring no aliases of their own: `next_alias` only counts up. -/
theorem distinct_assignAll :
    ∀ (metrics : List Metric) (a : Aliasing), Unaliased metrics → metrics.length < 2 ^ 64 →
      (a.assignAll metrics).1.Pairwise Apart := by
  intro metrics
  induction metrics with
  | nil => exact fun _ _ _ => .nil
  | cons b rest ih =>
    intro a hplain hlen
    rw [List.length_cons] at hlen
    have hrest : Unaliased rest := fun m' hm' => hplain m' (List.mem_cons_of_mem b hm')
    refine .cons ?_ (ih (a.assign b).2 hrest (by omega))
    intro m hm al hal hal'
    obtain ⟨i, hi, rfl⟩ := alias_assignAll rest (a.assign b).2 hrest m hm al hal'
    rcases alias_assign a (hplain b List.mem_cons_self) with ⟨hnone, -⟩ | ⟨hsome, hnext⟩
    · exact absurd (hnone.symm.trans hal) (by simp)
    · have hwrap := Option.some.inj (hsome.symm.trans hal)
      rw [hnext] at hwrap
      have hnat := congrArg UInt64.toNat hwrap
      have hlt := a.nextAlias.toNat_lt
      simp only [UInt64.toNat_add, UInt64.toNat_ofNat', UInt64.toNat_one] at hnat
      omega

namespace EdgeNode

variable {S : Type}

/-- **A birth binds no alias twice.** -/
theorem not_clashes_sequenced (node : EdgeNode Recorder S) {metrics : List Metric}
    (hplain : Unaliased metrics) (hlen : metrics.length < 2 ^ 64) (ts : UInt64) :
    ¬ AliasRegistry.Clashes (node.sequenced (node.aliased metrics).1 ts).metrics := by
  have hdistinct : (node.aliased metrics).1.Pairwise Apart := by
    unfold aliased
    split
    · exact distinct_assignAll metrics node.aliasing hplain hlen
    · refine List.pairwise_of_forall_mem_list ?_
      intro m hm m' _ al hal
      exact absurd ((hplain m hm).symm.trans hal) (by simp)
  rintro ⟨m, hm, m', hm', al, n, n', hal, hal', hn, hn', hne⟩
  obtain ⟨b, hb, rfl⟩ := List.mem_map.mp hm
  obtain ⟨b', hb', rfl⟩ := List.mem_map.mp hm'
  rw [alias_stampMetric] at hal hal'
  have hother : b ≠ b' := by
    rintro rfl
    exact hne (Option.some.inj (hn.symm.trans hn'))
  exact hdistinct.forall hb hb' hother al hal hal'

/-- Neither does one whose encoding fits in memory, since a metric takes at least one byte. -/
theorem not_clashes_of_size (node : EdgeNode Recorder S) {metrics : List Metric} {ts : UInt64}
    (hplain : Unaliased metrics)
    (hsize : (encode (node.sequenced (node.aliased metrics).1 ts) .birth).length < 2 ^ 63) :
    ¬ AliasRegistry.Clashes (node.sequenced (node.aliased metrics).1 ts).metrics := by
  refine node.not_clashes_sequenced hplain ?_ ts
  have hlength := length_metrics_le (node.sequenced (node.aliased metrics).1 ts) .birth
  rw [← (node.dressed_sequenced metrics ts).length_eq] at hlength
  omega

end EdgeNode

end SparkplugB
