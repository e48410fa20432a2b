/-
# The aliases of a birth sequence

One counter numbers the metrics of the NBIRTH and of every DBIRTH after it.  `CountsUp a metrics b`
says that these metrics, read in order, take the aliases from `a` on and leave `b` as the next one;
such stretches are put end to end.  A whole sequence counts up from `0`, so no alias is given twice
until the counter has gone all the way round.

The host binds the aliases of each birth in a registry of its own.  Whatever a source supplies, the
names and aliases of a birth that decodes are the ones that were sent: no birth of the sequence
binds one alias to two names, and none of them makes a host that is in step ask for a rebirth.
-/
import SparkplugB.Edge.Discipline
import SparkplugB.Link.Births

namespace SparkplugB

open AliasRegistry Codec HostApplication

/-! ## 1. Counting -/

/-- Whether `assign_aliases` gives the metric an alias: it has a name, and is no control metric. -/
def BearsAlias (m : Metric) : Prop :=
  m.name.any fun name => name ≠ NODE_CONTROL_REBIRTH ∧ name ≠ BDSEQ_METRIC_NAME

instance : DecidablePred BearsAlias := fun m =>
  inferInstanceAs (Decidable (Option.any _ m.name = true))

theorem Dressed.bearsAlias {m m' : Metric} (h : Dressed m m') : BearsAlias m' ↔ BearsAlias m := by
  unfold BearsAlias
  rw [h.name]

/-- The metrics take the aliases from `a` on, and `b` is the next one.  The counter is a `u64` that
wraps around. -/
inductive CountsUp : UInt64 → List Metric → UInt64 → Prop
  | nil {a} : CountsUp a [] a
  | skip {a b m rest} (hnone : m.alias = none) (hbears : ¬ BearsAlias m)
      (hrest : CountsUp a rest b) : CountsUp a (m :: rest) b
  | take {a b m rest} (hsome : m.alias = some a) (hbears : BearsAlias m)
      (hrest : CountsUp (a + 1) rest b) : CountsUp a (m :: rest) b

namespace CountsUp

variable {a b c : UInt64} {metrics rest : List Metric}

theorem append (h : CountsUp a metrics b) (h' : CountsUp b rest c) :
    CountsUp a (metrics ++ rest) c := by
  induction h with
  | nil => exact h'
  | skip hnone hbears _ ih => exact .skip hnone hbears (ih h')
  | take hsome hbears _ ih => exact .take hsome hbears (ih h')

/-- Time stamps do not matter. -/
theorem stamp (h : CountsUp a metrics b) (ts : UInt64) : CountsUp a (stamp metrics ts) b := by
  induction h with
  | nil => exact .nil
  | @skip a b m rest hnone hbears _ ih =>
    have hm := dressed_stampMetric ts m
    exact .skip ((alias_stampMetric ts m).trans hnone) (fun h => hbears (hm.bearsAlias.mp h)) ih
  | @take a b m rest hsome hbears _ ih =>
    have hm := dressed_stampMetric ts m
    exact .take ((alias_stampMetric ts m).trans hsome) (hm.bearsAlias.mpr hbears) ih

/-- The aliases, read in order. -/
theorem aliases (h : CountsUp a metrics b) :
    metrics.filterMap MetricOf.alias =
      (List.range (metrics.countP (BearsAlias ·))).map fun i => a + UInt64.ofNat i := by
  induction h with
  | nil => rfl
  | skip hnone hbears _ ih =>
    rw [List.filterMap_cons_none hnone, List.countP_cons_of_neg (by simpa using hbears), ih]
  | @take a b m rest hsome hbears _ ih =>
    rw [List.filterMap_cons_some hsome, List.countP_cons_of_pos (by simpa using hbears), ih,
      List.range_succ_eq_map, List.map_cons, List.map_map]
    refine congrArg₂ List.cons (UInt64.add_zero a).symm (List.map_congr_left fun i _ => ?_)
    show a + 1 + UInt64.ofNat i = a + UInt64.ofNat (i + 1)
    rw [UInt64.ofNat_add, UInt64.add_assoc, UInt64.add_comm 1]
    rfl

/-- Who has an alias. -/
theorem bearers (h : CountsUp a metrics b) : ∀ m ∈ metrics, m.alias ≠ none ↔ BearsAlias m := by
  induction h with
  | nil => exact fun m hm => absurd hm List.not_mem_nil
  | skip hnone hbears _ ih =>
    intro m hm
    rcases List.mem_cons.mp hm with rfl | hm
    · exact iff_of_false (fun h => h hnone) hbears
    · exact ih m hm
  | take hsome hbears _ ih =>
    intro m hm
    rcases List.mem_cons.mp hm with rfl | hm
    · exact iff_of_true (by simp [hsome]) hbears
    · exact ih m hm

end CountsUp

/-- The first `n` aliases are distinct as long as the counter has not gone round. -/
theorem nodup_range_ofNat (n : Nat) :
    ((List.range n).map UInt64.ofNat).Nodup ↔ n ≤ 2 ^ 64 := by
  constructor
  · intro h
    by_contra hlt
    have hinj := List.inj_on_of_nodup_map h
    have hwrap : (0 : Nat) = 2 ^ 64 :=
      hinj (List.mem_range.mpr (by omega)) (List.mem_range.mpr (by omega)) rfl
    exact absurd hwrap (by decide)
  · intro hle
    refine List.Nodup.map_on ?_ List.nodup_range
    intro i hi j hj heq
    rw [List.mem_range] at hi hj
    have hnat := congrArg UInt64.toNat heq
    rw [UInt64.toNat_ofNat_of_lt' (by simp only [UInt64.size]; omega),
      UInt64.toNat_ofNat_of_lt' (by simp only [UInt64.size]; omega)] at hnat
    exact hnat

/-! ## 2. What the edge hands out -/

/-- One metric, as `assign` numbers it. -/
theorem Aliasing.countsUp_assign (a : Aliasing) {m : Metric} (hplain : m.alias = none)
    {rest : List Metric} {b : UInt64} (hrest : CountsUp (a.assign m).2.nextAlias rest b) :
    CountsUp a.nextAlias ((a.assign m).1 :: rest) b := by
  unfold Aliasing.assign at hrest ⊢
  cases hname : m.name with
  | none =>
    rw [hname] at hrest
    exact .skip hplain (by simp [BearsAlias, hname]) hrest
  | some name =>
    rw [hname] at hrest
    dsimp only at hrest ⊢
    by_cases hcontrol : name = NODE_CONTROL_REBIRTH ∨ name = BDSEQ_METRIC_NAME
    · rw [if_pos hcontrol] at hrest ⊢
      refine .skip hplain ?_ hrest
      rcases hcontrol with rfl | rfl <;> simp [BearsAlias, hname]
    · rw [if_neg hcontrol] at hrest ⊢
      refine .take rfl ?_ hrest
      simpa [BearsAlias, hname, not_or] using hcontrol

theorem Aliasing.countsUp_assignAll :
    ∀ (metrics : List Metric) (a : Aliasing), Unaliased metrics →
      CountsUp a.nextAlias (a.assignAll metrics).1 (a.assignAll metrics).2.nextAlias := by
  intro metrics
  induction metrics with
  | nil => exact fun _ _ => .nil
  | cons m rest ih =>
    intro a hplain
    have hrest := ih (a.assign m).2 fun m' hm' => hplain m' (List.mem_cons_of_mem m hm')
    exact a.countsUp_assign (hplain m List.mem_cons_self) hrest

namespace Observed

variable {S : Type}

/-- What a birth sequence declares, in publish order, before aliases and time stamps: the control
metrics, then what the source supplies for the node and for each device. -/
def declared (s : Observed S) (source : DataSource) : List Metric :=
  EdgeNode.controlled s.engine.bdSeq source.nodeBirthMetrics ++
    s.engine.config.devices.flatMap fun device => source.deviceBirthMetrics device.str

/-- The metrics of all births of a birth sequence, in publish order. -/
def birthMetrics (s : Observed S) (source : DataSource) : List Metric :=
  (s.nodeBirthPayload source).metrics ++
    (s.birthsOfDevices source).flatMap fun birth => birth.2.metrics

/-- One birth goes on counting. -/
theorem countsUp_sequenced (node : EdgeNode Recorder S) {metrics : List Metric}
    (huse : node.config.useAliases = true) (hplain : Unaliased metrics) (ts : UInt64) :
    CountsUp node.aliasing.nextAlias (node.sequenced (node.aliased metrics).1 ts).metrics
      (node.aliased metrics).2.nextAlias := by
  have haliased : node.aliased metrics = node.aliasing.assignAll metrics := if_pos huse
  rw [haliased]
  exact (node.aliasing.countsUp_assignAll metrics hplain).stamp ts

/-- So does the loop over the devices. -/
theorem countsUp_deviceBirths (source : DataSource) :
    ∀ (devices : List DeviceId) (s : Observed S), s.engine.config.useAliases = true →
      (∀ device ∈ devices, Unaliased (source.deviceBirthMetrics device.str)) →
      ∃ b, CountsUp s.engine.aliasing.nextAlias
        ((deviceBirths source devices s).flatMap fun birth => birth.2.metrics) b := by
  intro devices
  induction devices with
  | nil => exact fun s _ _ => ⟨_, .nil⟩
  | cons device rest ih =>
    intro s huse hplain
    obtain ⟨b, hrest⟩ := ih (s.deviceBirth source device) huse
      fun d hd => hplain d (List.mem_cons_of_mem device hd)
    have hfirst := countsUp_sequenced s.engine huse (hplain device List.mem_cons_self) s.ms
    exact ⟨b, hfirst.append hrest⟩

/-- **A birth sequence counts up from zero.** -/
theorem countsUp_birth (s : Observed S) {source : DataSource}
    (huse : s.engine.config.useAliases = true) (hnode : Unaliased source.nodeBirthMetrics)
    (hdevice : ∀ device ∈ s.engine.config.devices,
      Unaliased (source.deviceBirthMetrics device.str)) :
    ∃ b, CountsUp 0 (s.birthMetrics source) b := by
  have hzero : s.engine.resetForBirth.aliasing.nextAlias = 0 := by
    unfold EdgeNode.resetForBirth
    rw [if_pos huse]
  have hfirst := countsUp_sequenced s.engine.resetForBirth huse
    (hnode.controlled s.engine.bdSeq) s.ms
  rw [hzero] at hfirst
  obtain ⟨b, hrest⟩ := countsUp_deviceBirths source s.engine.config.devices (s.nodeBirth source)
    huse hdevice
  exact ⟨b, hfirst.append hrest⟩

theorem dressed_metrics_deviceBirths (source : DataSource) :
    ∀ (devices : List DeviceId) (s : Observed S),
      List.Forall₂ Dressed (devices.flatMap fun device => source.deviceBirthMetrics device.str)
        ((deviceBirths source devices s).flatMap fun birth => birth.2.metrics) := by
  intro devices
  induction devices with
  | nil => exact fun _ => .nil
  | cons device rest ih =>
    intro s
    exact List.rel_append (s.engine.dressed_sequenced _ s.ms) (ih (s.deviceBirth source device))

/-- The births are what was declared, with aliases and time stamps. -/
theorem dressed_birthMetrics (s : Observed S) (source : DataSource) :
    List.Forall₂ Dressed (s.declared source) (s.birthMetrics source) :=
  List.rel_append (s.engine.resetForBirth.dressed_sequenced _ s.ms)
    (dressed_metrics_deviceBirths source s.engine.config.devices (s.nodeBirth source))

end Observed

/-! ## 3. What the host makes of it -/

theorem clashes_of_resembles {metrics metrics' : List Metric}
    (h : List.Forall₂ Resembles metrics metrics') (hclash : Clashes metrics') : Clashes metrics := by
  obtain ⟨m, hm, m', hm', al, n, n', hal, hal', hn, hn', hne⟩ := hclash
  obtain ⟨b, hb, hlike⟩ := exists_of_forall₂ h hm
  obtain ⟨b', hb', hlike'⟩ := exists_of_forall₂ h hm'
  exact ⟨b, hb, b', hb', al, n, n', hlike.aliases.symm.trans hal, hlike'.aliases.symm.trans hal',
    hlike.name.symm.trans hn, hlike'.name.symm.trans hn', hne⟩

/-- The host is in step with a message that bears the number `seq`: it follows the session and
expects that number.  An NBIRTH starts a session, so it needs nothing. -/
def NodeState.InStepFor (node : NodeState) (seq : Option UInt8) (m : NodeMessage) : Prop :=
  m.isSequenced = true → node.online = true ∧ seq = some node.expectedSeq

/-- The event of a birth. -/
def NodeMessage.birthEvent (group : GroupId) (edge : EdgeNodeId) (metrics : List Metric) :
    NodeMessage → HostEvent
  | .deviceBirth device => .deviceBirth group.str edge.str device.str metrics
  | _ => .nodeBirth group.str edge.str metrics

/-- The payload `p`, sent as the birth `m`, shows no host a duplicate alias: each host that is in
step and can read the bytes surfaces the birth, so it does not ask for a rebirth. -/
def Undisputed (T : Type) [MqttTransport T] (m : NodeMessage) (p : Payload) : Prop :=
  ∀ (group : GroupId) (edge : EdgeNodeId) (host : HostApplication T) (now : Reading) (q : Payload),
    decode (encode p .birth) none = .ok q →
    (host.node (key group edge)).InStepFor p.seq m →
    ((handleIncoming now ⟨(m.topic group edge).toString, encode p .birth⟩).run host).outcome =
      .ok (m.birthEvent group edge q.metrics)

variable {T : Type} [MqttTransport T]

theorem undisputed_nodeBirth {p : Payload} (hunique : ¬ Clashes p.metrics)
    (hsize : (encode p .birth).length < 2 ^ 63) : Undisputed T .birth p := by
  intro group edge host now q hdec _
  have hq : ¬ Clashes q.metrics := fun h =>
    hunique (clashes_of_resembles (resembles_of_decode hsize hdec) h)
  obtain ⟨verdict, after, ht, hreal⟩ :=
    handleIncoming_turn now host (NodeMessage.of_topic group edge .birth (encode p .birth))
  obtain ⟨-, rfl⟩ := ht.of_birth hdec
  have hdup : ((host.node (key group edge)).birth q).1 = false :=
    Bool.not_eq_true _ ▸ (not_congr (@bindAll_new_refuses_iff q.metrics)).mpr hq
  have hshows := hreal.shows
  rw [hdup] at hshows
  exact hshows

theorem undisputed_deviceBirth {p : Payload} {device : DeviceId} (hunique : ¬ Clashes p.metrics)
    (hsize : (encode p .birth).length < 2 ^ 63) : Undisputed T (.deviceBirth device) p := by
  intro group edge host now q hdec hstep
  obtain ⟨honline, hseq⟩ := hstep rfl
  have hq : ¬ Clashes q.metrics := fun h =>
    hunique (clashes_of_resembles (resembles_of_decode hsize hdec) h)
  obtain ⟨verdict, after, ht, hreal⟩ :=
    handleIncoming_turn now host (NodeMessage.of_topic group edge (.deviceBirth device) (encode p .birth))
  have hnumber := (header_of_decode hsize hdec).2
  rcases ht.of_read rfl honline hdec with ⟨-, -, rfl⟩ | ⟨hother, -, -⟩
  · have hdup : ¬ (new.bindAll q.metrics).2 = true := fun h => hq (bindAll_new_refuses_iff.mp h)
    have hshows := hreal.shows
    rw [NodeState.decision, if_neg hdup] at hshows
    exact hshows
  · exact absurd (hnumber.trans hseq) hother

namespace Observed

variable {S : Type}

theorem undisputed_deviceBirths (source : DataSource) :
    ∀ (devices : List DeviceId) (s : Observed S),
      (∀ device ∈ devices, Unaliased (source.deviceBirthMetrics device.str)) →
      (∀ birth ∈ deviceBirths source devices s, (encode birth.2 .birth).length < 2 ^ 63) →
      ∀ birth ∈ deviceBirths source devices s, Undisputed T (.deviceBirth birth.1) birth.2 := by
  intro devices
  induction devices with
  | nil =>
    intro s _ _ birth hbirth
    exact absurd hbirth List.not_mem_nil
  | cons device rest ih =>
    intro s hplain hsize birth hbirth
    rcases List.mem_cons.mp hbirth with rfl | hrest
    · have hfirst := hsize _ List.mem_cons_self
      exact undisputed_deviceBirth
        (s.engine.not_clashes_of_size (hplain device List.mem_cons_self) hfirst) hfirst
    · exact ih (s.deviceBirth source device) (fun d hd => hplain d (List.mem_cons_of_mem device hd))
        (fun b hb => hsize b (List.mem_cons_of_mem _ hb)) birth hrest

/-- What holds of the aliases of a birth sequence, and of the births at a host. -/
structure Numbered (T : Type) [MqttTransport T] (s : Observed S) (source : DataSource) : Prop where
  /-- The births are what the source declares, given aliases and time stamps. -/
  dressed : List.Forall₂ Dressed (s.declared source) (s.birthMetrics source)
  /-- The aliases, read in publish order. -/
  aliases : (s.birthMetrics source).filterMap MetricOf.alias =
    (List.range ((s.birthMetrics source).countP (BearsAlias ·))).map UInt64.ofNat
  unique : ((s.birthMetrics source).filterMap MetricOf.alias).Nodup ↔
    (s.birthMetrics source).countP (BearsAlias ·) ≤ 2 ^ 64
  bearers : ∀ m ∈ s.birthMetrics source, m.alias ≠ none ↔ BearsAlias m
  nodeBirth : (encode (s.nodeBirthPayload source) .birth).length < 2 ^ 63 →
    Undisputed T .birth (s.nodeBirthPayload source)
  deviceBirth : (∀ birth ∈ s.birthsOfDevices source, (encode birth.2 .birth).length < 2 ^ 63) →
    ∀ birth ∈ s.birthsOfDevices source, Undisputed T (.deviceBirth birth.1) birth.2

/-- **The aliases of a birth sequence are unique.**  `publish_birth_sequence` publishes the NBIRTH
and the DBIRTHs of `birthMessages`, in order, and their metrics are numbered `0`, `1`, `2` and so
on, whatever their names are and however often a device is configured.  The source brings no aliases
of its own (`hnode`, `hdevice`): `assign_aliases` would keep those. -/
theorem births_numbered (T : Type) [MqttTransport T] (s : Observed S) (source : DataSource)
    (huse : s.engine.config.useAliases = true) (hnode : Unaliased source.nodeBirthMetrics)
    (hdevice : ∀ device ∈ s.engine.config.devices,
      Unaliased (source.deviceBirthMetrics device.str)) :
    (EdgeNode.publishBirthSequence source).run s = .ok () (s.birth source) ∧
      (s.birth source).engine.transport.log =
        ((s.birthMessages source).map Entry.publish).reverse ++ s.engine.transport.log ∧
      s.Numbered T source := by
  refine ⟨EdgeNode.run_publishBirthSequence source s, log_birth s source, ?_⟩
  obtain ⟨b, hcount⟩ := countsUp_birth s huse hnode hdevice
  have haliases : (s.birthMetrics source).filterMap MetricOf.alias =
      (List.range ((s.birthMetrics source).countP (BearsAlias ·))).map UInt64.ofNat := by
    rw [hcount.aliases]
    exact List.map_congr_left fun i _ => UInt64.zero_add _
  exact {
    dressed := s.dressed_birthMetrics source
    aliases := haliases
    unique := by rw [haliases]; exact nodup_range_ofNat _
    bearers := hcount.bearers
    nodeBirth := fun hsize => undisputed_nodeBirth
      (s.engine.resetForBirth.not_clashes_of_size (hnode.controlled _) hsize) hsize
    deviceBirth := undisputed_deviceBirths source s.engine.config.devices (s.nodeBirth source)
      hdevice }

/-- A line with aliases on which one device is configured twice. -/
def twinLine : EdgeNodeConfig :=
  { pumpLine with
    devices := pumpLine.devices ++ pumpLine.devices
    useAliases := true }

def speed : Metric := Metric.new "speed" (.int32 40)

/-- A source whose births repeat one name. -/
def echoing : DataSource := ⟨[speed, speed], fun _ => [speed]⟩

/-- The twin line numbers the four metrics named `speed` from `0` to `3`. -/
theorem births_numbered_twins :
    (Observed.start twinLine (⟨0⟩ : InMemoryBdSeqStore) stopped).Numbered Recorder echoing ∧
      ((Observed.start twinLine (⟨0⟩ : InMemoryBdSeqStore) stopped).birthMetrics echoing).filterMap
        MetricOf.alias = [0, 1, 2, 3] := by
  have hdevice : ∀ device ∈ twinLine.devices, Unaliased (echoing.deviceBirthMetrics device.str) := by
    intro _ _ m hm
    obtain rfl := List.mem_singleton.mp hm
    rfl
  obtain ⟨-, -, h⟩ := births_numbered Recorder
    (Observed.start twinLine (⟨0⟩ : InMemoryBdSeqStore) stopped) echoing rfl (by decide) hdevice
  exact ⟨h, h.aliases.trans (by decide +kernel)⟩

end Observed

end SparkplugB
