/-
# Aliases that no host notices

An edge has one alias map, which the births of a sequence fill one after the other; a host has one
registry for the node and one for each device.  They agree on every name that no later birth of the
sequence declares again (`Registered`).  Where the data of a run keeps to such names, a host hears
of an edge with aliases what it hears of its twin without.
-/
import SparkplugB.Edge.Registry
import SparkplugB.Link.BirthAliases
import SparkplugB.Link.Commands
import SparkplugB.Link.Delivery
import SparkplugB.Link.Twins

namespace SparkplugB

open AliasRegistry Codec HostApplication Machine

/-! ## 1. The alias of a name -/

theorem declares_iff (b : Metric) : declares b = true ↔ BearsAlias b := by
  unfold declares BearsAlias
  cases b.name <;> simp

theorem aliasForName_announce (reg : AliasRegistry) (b : Metric) (n : String) :
    (announce reg b).aliasForName n =
      if declares b = true ∧ b.name = some n then b.alias.or (reg.aliasForName n)
      else reg.aliasForName n := by
  unfold announce declares
  cases hname : b.name with
  | none => simp
  | some name =>
    by_cases hcontrol : name = NODE_CONTROL_REBIRTH ∨ name = BDSEQ_METRIC_NAME
    · rcases hcontrol with rfl | rfl <;> simp
    · obtain ⟨hrebirth, hbdSeq⟩ := not_or.mp hcontrol
      simp [hrebirth, hbdSeq, aliasForName_bind]

/-- A name that none of the metrics declares keeps its alias. -/
theorem aliasForName_foldl_other {n : String} {bs : List Metric}
    (h : ∀ b ∈ bs, declares b = true → b.name ≠ some n) (reg : AliasRegistry) :
    (bs.foldl announce reg).aliasForName n = reg.aliasForName n := by
  induction bs generalizing reg with
  | nil => rfl
  | cons b rest ih =>
    obtain ⟨hfirst, hrest⟩ := List.forall_mem_cons.mp h
    rw [List.foldl_cons, ih hrest, aliasForName_announce,
      if_neg fun hboth => hfirst hboth.1 hboth.2]

/-- In the map that the births fill, a name has the alias of the last metric that declares it. -/
theorem aliasForName_of_last {before metrics after : List Metric} {b : Metric} {n : String}
    (hnames : (namesOf metrics).Nodup)
    (hbears : ∀ m ∈ metrics, m.alias ≠ none ↔ BearsAlias m) (hb : b ∈ metrics)
    (hn : b.name = some n) (hafter : ∀ m ∈ after, declares m = true → m.name ≠ some n) :
    ((before ++ metrics ++ after).foldl announce .new).aliasForName n = b.alias := by
  rw [List.foldl_append, aliasForName_foldl_other hafter]
  by_cases hdeclares : declares b = true
  · obtain ⟨pre, post, rfl⟩ := List.append_of_mem hb
    have hpost : ∀ m ∈ post, declares m = true → m.name ≠ some n := by
      intro m hm _ hmn
      rw [namesOf, List.filterMap_append, List.filterMap_cons_some hn] at hnames
      have hnotin := (List.nodup_cons.mp (List.nodup_append.mp hnames).2.1).1
      exact hnotin (List.mem_filterMap.mpr ⟨m, hm, hmn⟩)
    obtain ⟨a, ha⟩ := Option.ne_none_iff_exists'.mp ((hbears b hb).mpr ((declares_iff b).mp hdeclares))
    rw [← List.append_assoc, List.foldl_append, List.foldl_cons, aliasForName_foldl_other hpost,
      aliasForName_announce, if_pos ⟨hdeclares, hn⟩, ha]
    rfl
  · -- a control metric has no alias, and no birth binds its name
    have hnone : b.alias = none := by
      by_contra hsome
      exact hdeclares ((declares_iff b).mpr ((hbears b hb).mp hsome))
    have hnever : ∀ m ∈ before ++ metrics, declares m = true → m.name ≠ some n := by
      intro m _ hm hmn
      refine hdeclares ?_
      unfold declares at hm ⊢
      rw [hmn] at hm
      rw [hn]
      exact hm
    rw [aliasForName_foldl_other hnever, aliasForName_new, hnone]

namespace Observed

variable {S : Type}

theorem aliases_deviceBirths (source : DataSource) :
    ∀ (devices : List DeviceId) (s : Observed S), s.engine.config.useAliases = true →
      (devices.foldl (deviceBirth source) s).engine.aliasing.aliases =
        ((deviceBirths source devices s).flatMap fun birth => birth.2.metrics).foldl announce
          s.engine.aliasing.aliases := by
  intro devices
  induction devices with
  | nil => exact fun _ _ => rfl
  | cons device rest ih =>
    intro s huse
    have hfirst := aliases_aliased s.engine (source.deviceBirthMetrics device.str) s.ms huse
    rw [List.foldl_cons, ih (s.deviceBirth source device) huse, deviceBirths, List.flatMap_cons,
      List.foldl_append]
    exact congrArg (List.foldl announce · _) hfirst

/-- The alias map after a birth sequence: `publish_birth_sequence` empties it, and each birth binds
its metrics in turn. -/
theorem aliases_birth (s : Observed S) (source : DataSource)
    (huse : s.engine.config.useAliases = true) :
    (s.birth source).engine.aliasing.aliases =
      (s.birthMetrics source).foldl announce .new := by
  have hfresh : s.engine.resetForBirth.aliasing.aliases = .new := by
    unfold EdgeNode.resetForBirth
    rw [if_pos huse]
    rfl
  have hnode := aliases_aliased s.engine.resetForBirth
    (EdgeNode.controlled s.engine.bdSeq source.nodeBirthMetrics) s.ms huse
  rw [hfresh] at hnode
  have hdevices := aliases_deviceBirths source s.engine.config.devices (s.nodeBirth source) huse
  rw [birthMetrics, List.foldl_append]
  exact hdevices.trans (congrArg (List.foldl announce · _) hnode)

end Observed

/-! ## 2. Names that are declared again -/

/-- The devices that are born after the node, or after a device, in one birth sequence. -/
def later (devices : List DeviceId) : Option String → List DeviceId
  | none => devices
  | some device => (devices.dropWhile fun d => d.str ≠ device).tail

/-- A birth that comes later in the sequence declares the name again, so the edge's one map has the
alias of that birth for it. -/
def Redeclared (devices : List DeviceId) (r : Roster) (target : Option String) (n : String) : Prop :=
  ∃ device ∈ later devices target, ∃ b ∈ r.declared (some device.str),
    declares b = true ∧ b.name = some n

instance (devices : List DeviceId) (r : Roster) (target : Option String) (n : String) :
    Decidable (Redeclared devices r target n) :=
  inferInstanceAs (Decidable (∃ device ∈ later devices target,
    ∃ b ∈ r.declared (some device.str), declares b = true ∧ b.name = some n))

/-- The alias map of the edge agrees with the births on the roster, on the names that no later birth
declares again. -/
def Registered (e : Standing) (r : Roster) : Prop :=
  ∀ target, ∀ b ∈ r.declared target, ∀ n, b.name = some n →
    ¬ Redeclared e.config.devices r target n → e.aliasing.aliases.aliasForName n = b.alias

namespace Observed

variable {S : Type}

/-- The devices after one of them. -/
theorem later_append {pre post : List DeviceId} {device : DeviceId}
    (h : ∀ d ∈ pre, d.str ≠ device.str) :
    later (pre ++ device :: post) (some device.str) = post := by
  have hdrop : (pre ++ device :: post).dropWhile (fun d => d.str ≠ device.str) = device :: post := by
    rw [List.dropWhile_append_of_pos fun d hd => decide_eq_true (h d hd)]
    exact List.dropWhile_cons_of_neg (by simp)
  show ((pre ++ device :: post).dropWhile fun d => d.str ≠ device.str).tail = post
  rw [hdrop, List.tail_cons]

/-- What the DBIRTHs of distinct devices declare. -/
theorem declared_of_birth {s : Observed S} {source : DataSource}
    (hdevices : s.engine.config.devices.Nodup) {birth : DeviceId × Payload}
    (hbirth : birth ∈ s.birthsOfDevices source) :
    (s.birthRoster source).declared (some birth.1.str) = birth.2.metrics := by
  have hmap := map_fst_deviceBirths source s.engine.config.devices (s.nodeBirth source)
  have hdevice : birth.1 ∈ s.engine.config.devices := hmap ▸ List.mem_map_of_mem hbirth
  obtain ⟨p, -, hmem, hroster⟩ := exists_last_deviceBirth s source hdevice
  have hsame : (birth.1, p) = birth :=
    List.inj_on_of_nodup_map (hmap.symm ▸ hdevices) hmem hbirth rfl
  rw [Roster.declared, hroster, ← hsame]
  rfl

/-- Where the birth of a target stands in the sequence, and that what comes after it is declared by
later births. -/
theorem split_birthMetrics (s : Observed S) (source : DataSource)
    (hdevices : s.engine.config.devices.Nodup) (target : Option String)
    (hborn : (s.birthRoster source).declared target ≠ []) :
    ∃ before after,
      s.birthMetrics source = before ++ (s.birthRoster source).declared target ++ after ∧
      ∀ m ∈ after, ∃ device ∈ later s.engine.config.devices target,
        m ∈ (s.birthRoster source).declared (some device.str) := by
  have hmap : (s.birthsOfDevices source).map Prod.fst = s.engine.config.devices :=
    map_fst_deviceBirths source s.engine.config.devices (s.nodeBirth source)
  have hafter : ∀ after : List (DeviceId × Payload),
      (∀ birth ∈ after, birth ∈ s.birthsOfDevices source) →
      ∀ m ∈ after.flatMap (fun birth => birth.2.metrics),
        ∃ device ∈ after.map Prod.fst, m ∈ (s.birthRoster source).declared (some device.str) := by
    intro after hsub m hm
    obtain ⟨birth, hbirth, hin⟩ := List.mem_flatMap.mp hm
    refine ⟨birth.1, List.mem_map_of_mem hbirth, ?_⟩
    rw [declared_of_birth hdevices (hsub birth hbirth)]
    exact hin
  cases target with
  | none =>
    have hnode : (s.birthRoster source).declared none = (s.nodeBirthPayload source).metrics :=
      (bdSeq_enrol _ _).2
    refine ⟨[], (s.birthsOfDevices source).flatMap fun birth => birth.2.metrics, ?_, ?_⟩
    · rw [List.nil_append, hnode]
      rfl
    · intro m hm
      obtain ⟨device, hdevice, hmem⟩ := hafter _ (fun _ hbirth => hbirth) m hm
      exact ⟨device, hmap ▸ hdevice, hmem⟩
  | some device =>
    have hmem : ∃ birth ∈ s.birthsOfDevices source, birth.1.str = device := by
      by_contra hnone
      refine hborn ?_
      have hdevice : (s.birthRoster source).device device = none :=
        device_enrol_other _ _ fun birth hbirth heq => hnone ⟨birth, hbirth, heq⟩
      rw [Roster.declared, hdevice]
      rfl
    obtain ⟨birth, hbirth, rfl⟩ := hmem
    have hdeclared := declared_of_birth hdevices hbirth
    obtain ⟨before, after, hsplit⟩ := List.append_of_mem hbirth
    have hlist : s.engine.config.devices =
        before.map Prod.fst ++ birth.1 :: after.map Prod.fst := by
      rw [← hmap, hsplit, List.map_append, List.map_cons]
    have hfirst : ∀ d ∈ before.map Prod.fst, d.str ≠ birth.1.str := by
      rw [hlist] at hdevices
      exact fun d hd heq =>
        (List.nodup_append.mp hdevices).2.2 d hd birth.1 List.mem_cons_self (Ident.str_inj heq)
    refine ⟨(s.nodeBirthPayload source).metrics ++ before.flatMap fun birth => birth.2.metrics,
      after.flatMap fun birth => birth.2.metrics, ?_, ?_⟩
    · rw [birthMetrics, hsplit, hdeclared, List.flatMap_append, List.flatMap_cons]
      simp only [List.append_assoc]
    · rw [hlist, later_append hfirst]
      exact hafter after fun b hb => hsplit ▸ by simp [hb]

/-- After a birth sequence the map and the roster agree. -/
theorem registered_birth (s : Observed S) {source : DataSource}
    (huse : s.engine.config.useAliases = true)
    (hsource : source.Presents s.engine.config.devices) (hdevices : s.engine.config.devices.Nodup)
    (hnames : ∀ target, (namesOf ((s.birthRoster source).declared target)).Nodup) :
    Registered (s.birth source).standing (s.birthRoster source) := by
  have hconfig : (s.birth source).engine.config = s.engine.config :=
    EdgeNode.foldl_field EdgeNode.config (g := deviceBirth source) (fun _ _ => rfl)
      s.engine.config.devices (s.nodeBirth source)
  obtain ⟨_, hcount⟩ := countsUp_birth s huse hsource.1.2.1 fun d hd => (hsource.2 d hd).2.1
  intro target b hb n hn hfree
  have hfree' : ¬ Redeclared s.engine.config.devices (s.birthRoster source) target n :=
    hconfig ▸ hfree
  obtain ⟨before, after, hsplit, hafter⟩ :=
    split_birthMetrics s source hdevices target (List.ne_nil_of_mem hb)
  have hbears := hcount.bearers
  show (s.birth source).engine.aliasing.aliases.aliasForName n = b.alias
  rw [aliases_birth s source huse, hsplit]
  rw [hsplit] at hbears
  refine aliasForName_of_last (hnames target)
    (fun m hm => hbears m (List.mem_append_left _ (List.mem_append_right _ hm))) hb hn ?_
  intro m hm hdeclares hmn
  obtain ⟨device, hdevice, hmem⟩ := hafter m hm
  exact hfree' ⟨device, hdevice, m, hmem, hdeclares, hmn⟩

end Observed

namespace Told

variable {S : Type} [BdSeqStore S]

omit [BdSeqStore S] in
/-- What the map and the roster agree on, while neither changes. -/
theorem registered_of_same {e e' : Standing} {r r' : Roster} (h : Registered e r)
    (hconfig : e'.config = e.config) (haliasing : e'.aliasing = e.aliasing)
    (hroster : ∀ target, r'.declared target = r.declared target) : Registered e' r' := by
  intro target b hb n hn hfree
  rw [hroster] at hb
  rw [haliasing]
  refine h target b hb n hn fun hagain => hfree ?_
  obtain ⟨device, hdevice, m, hm, hboth⟩ := hagain
  exact ⟨device, hconfig ▸ hdevice, m, (hroster _).symm ▸ hm, hboth⟩

/-- The data of the call keeps to names that no later birth of the sequence declares again.  This
can be seen from the births, without the alias map. -/
def Unshadowed (x : Told S) (a : Action) : Prop :=
  ∀ target metrics, a.data? = some (target, metrics) → ∀ m ∈ metrics, ∀ n, m.name = some n →
    ¬ Redeclared x.edge.engine.config.devices x.roster target n

omit [BdSeqStore S] in
/-- Such data is written by the aliases of the birth it follows. -/
theorem writes_registered {x : Told S} (h : Registered x.edge.standing x.roster) {a : Action}
    (horderly : x.Orderly a) (hfree : x.Unshadowed a) : x.Writes a := by
  intro target metrics hdata
  unfold EdgeNode.toDataMetrics
  split
  · refine List.forall₂_map_right_iff.mpr (List.forall₂_same.mpr fun m hm => ?_)
    obtain ⟨n, hn, b, hb, hbn, -⟩ := (horderly.follows target metrics hdata m hm).declared
    have halias : x.edge.engine.aliasing.aliases.aliasForName n = b.alias :=
      h target b hb n hbn (hfree target metrics hdata m hm n hn)
    unfold toDataMetric
    rw [hn, Option.bind_some, halias]
    cases hal : b.alias with
    | none => exact .named
    | some al => exact .aliased hb (hbn.trans hn.symm) hal
  · exact List.forall₂_same.mpr fun _ _ => .named

end Told

/-- Data that is written so has its names again once it is heard. -/
theorem unaliased_resolveNames {births metrics wire : List Metric}
    (hres : (registryOf births).Resolves births) (hnames : (namesOf births).Nodup)
    (hfollows : ∀ m ∈ metrics, Follows births m)
    (hwired : List.Forall₂ (Wired births) metrics wire) :
    (resolveNames (registryOf births) wire).map Metric.unaliased = metrics.map Metric.unaliased := by
  induction hwired with
  | nil => rfl
  | cons hfirst _ ih =>
    obtain ⟨hm, hrest⟩ := List.forall_mem_cons.mp hfollows
    obtain ⟨al, hname⟩ := hfirst.resolveName hm hres hnames
    unfold resolveNames at ih ⊢
    rw [List.map_cons, List.map_cons, List.map_cons, ih hrest, hname]
    rfl

namespace Told

variable {S : Type} [BdSeqStore S]

/-- **One call is heard as it was meant**, but for the aliases: what the registry of the birth makes
of the aliases on the wire (`hwrites`) are the names of the caller. -/
theorem heard_unaliased {x : Told S} (h : x.Tracked) {a : Action}
    (hunled : x.edge.engine.config.Unled a) (hstays : a ≠ .disconnect) (horderly : x.Orderly a)
    (hwrites : x.Writes a) :
    ((x.edge.said a).map x.roster.heard).map Utterance.unaliased =
      (x.edge.meant a).map Utterance.unaliased := by
  have hdata : ∀ target metrics, a.data? = some (target, metrics) →
      (resolveNames (registryOf (x.roster.declared target))
        (stamp (x.edge.engine.toDataMetrics metrics) x.edge.ms)).map Metric.unaliased =
          (stamp metrics x.edge.ms).map Metric.unaliased := by
    intro target metrics hdata
    refine unaliased_resolveNames (h.tracks.resolves target) (h.tracks.names target) ?_
      (forall₂_wired_stamp x.edge.ms (hwrites target metrics hdata))
    intro m hm
    obtain ⟨b, hb, rfl⟩ := List.mem_map.mp hm
    exact (horderly.follows target metrics hdata b hb).stampMetric x.edge.ms
  unfold Observed.said Observed.meant Observed.uttered
  cases a with
  | connect source =>
    dsimp only
    split
    · cases x.edge.opened? with
      | none => rfl
      | some s' =>
        rw [Option.toList_some, List.flatMap_singleton, Observed.map_heard_births]
    · rfl
  | publishBirthSequence source => rw [Observed.map_heard_births]
  | publishNodeData metrics =>
    dsimp only
    split
    · exact congrArg (fun metrics' => [Utterance.nodeData
        { x.edge.engine.sequenced metrics x.edge.ms with metrics := metrics' }])
        (hdata none metrics rfl)
    · rfl
  | publishDeviceData device metrics =>
    dsimp only
    cases hid : x.edge.born? device with
    | none => rfl
    | some id =>
      obtain ⟨rfl, -⟩ := Observed.str_of_born? hid
      exact congrArg (fun metrics' => [Utterance.deviceData id
        { x.edge.engine.sequenced metrics x.edge.ms with metrics := metrics' }])
        (hdata (some id.str) metrics rfl)
  | publishDeviceDeath device =>
    dsimp only
    cases x.edge.born? device <;> rfl
  | handleIncoming message source =>
    dsimp only
    split
    · rw [Observed.map_heard_births]
    · rfl
  | disconnect => exact absurd rfl hstays

/-- What the call publishes refers to each metric by its name, or by the alias that the last birth
of its own node or device gave this name.  `to_data_metrics` looks the name up in the one map of the
edge, which does not tell the births apart. -/
def OwnAliases (x : Told S) (a : Action) : Prop := x.edge.said a ≠ [] → x.Writes a

/-- What is asked of a call of a run, whatever becomes of the names in its data: it stays connected
and hears nothing of the primary host, its births can be presented, its data follows the last birth,
and no message is longer than a buffer can be. -/
structure Audible (config : EdgeNodeConfig) (x : Told S) (a : Action) : Prop where
  unled : config.Unled a
  stays : a ≠ .disconnect
  presents : ∀ source, a.source? = some source → source.Presents config.devices
  orderly : x.Orderly a
  size : ∀ u ∈ x.edge.said a, u.bytes.length < 2 ^ 63

/-- **One call** that refers to its own births is heard as it was meant, but for the aliases. -/
theorem Audible.heard {x : Told S} {a : Action} (haudible : x.Audible x.edge.engine.config a)
    (h : x.Tracked) (hown : x.OwnAliases a) :
    x.Sendable a ∧ ((x.edge.said a).map x.roster.heard).map Utterance.unaliased =
      (x.edge.meant a).map Utterance.unaliased := by
  obtain ⟨hunled, hstays, hpresents, horderly, hsize⟩ := haudible
  by_cases hsaid : x.edge.said a = []
  · have hlength : (x.edge.said a).length = (x.edge.meant a).length :=
      Observed.length_uttered _ _ x.edge a
    have hmeant : x.edge.meant a = [] := by
      rw [hsaid] at hlength
      exact List.length_eq_zero_iff.mp hlength.symm
    rw [hsaid, hmeant]
    exact ⟨⟨hstays, hunled, hpresents, by simp [hsaid], horderly.stamped⟩, rfl⟩
  · have hwrites := hown hsaid
    exact ⟨sendable h hunled hstays hpresents horderly hwrites hsize,
      heard_unaliased h hunled hstays horderly hwrites⟩

/-- And the edge is tracked still, with the same configuration. -/
theorem Audible.next {config : EdgeNodeConfig} {x : Told S} {a : Action}
    (haudible : x.Audible config a) (h : x.Tracked ∧ x.edge.engine.config = config)
    (hown : x.OwnAliases a) :
    (x.call a).Tracked ∧ (x.call a).edge.engine.config = config := by
  obtain ⟨htracked, rfl⟩ := h
  exact ⟨(conveys_call (T := Recorder) htracked (haudible.heard htracked hown).1 haudible.size).2,
    x.edge.config_perform haudible.unled haudible.stays⟩

end Told

section Start

variable {S : Type} [BdSeqStore S] {config : EdgeNodeConfig} {store : S} {clock : Clock}
  {actions : List Action} {T : Type} [MqttTransport T]

end Start

/-! ## 4. Two edges -/

namespace Observed

variable {S : Type} [BdSeqStore S]

/-- What becomes of data does not matter to the roster. -/
theorem foldl_hear_uttered (write write' : List Metric → List Metric) (s : Observed S) (a : Action)
    (r : Roster) :
    (s.uttered write a).foldl Roster.hear r = (s.uttered write' a).foldl Roster.hear r := by
  unfold uttered
  cases a with
  | publishNodeData metrics =>
    dsimp only
    split <;> rfl
  | publishDeviceData device metrics =>
    dsimp only
    cases s.born? device <;> rfl
  | _ => rfl

end Observed

theorem Follows.of_unaliased {births births' : List Metric} {m : Metric} (h : Follows births m)
    (hsame : births.map Metric.unaliased = births'.map Metric.unaliased) : Follows births' m where
  plain := h.plain
  declared := by
    obtain ⟨n, hn, b, hb, hbn, hdt⟩ := h.declared
    have hmem : b.unaliased ∈ births'.map Metric.unaliased := hsame ▸ List.mem_map_of_mem hb
    obtain ⟨b', hb', heq⟩ := List.mem_map.mp hmem
    refine ⟨n, hn, b', hb', ?_, ?_⟩
    · exact (congrArg (fun m : Metric => m.name) heq).trans hbn
    · exact (congrArg (fun m : Metric => m.value.datatype) heq).trans hdt

namespace Told

variable {S : Type} [BdSeqStore S]

/-- Two edges that differ in their aliases alone, and rosters that do. -/
structure Twins (x y : Told S) : Prop where
  edges : x.edge.twin = y.edge.twin
  rosters : x.roster.unaliased = y.roster.unaliased

theorem Twins.call {x y : Told S} (h : x.Twins y) {a : Action} (ha : a.Reports) :
    (x.call a).Twins (y.call a) where
  edges := Observed.twin_perform h.edges ha
  rosters := by
    show ((x.edge.said a).foldl Roster.hear x.roster).unaliased =
      ((y.edge.said a).foldl Roster.hear y.roster).unaliased
    unfold Observed.said
    rw [Observed.foldl_hear_uttered _ id, Observed.foldl_hear_uttered (s := y.edge) _ id,
      Roster.unaliased_foldl_hear, Roster.unaliased_foldl_hear, h.rosters]
    exact congrArg (List.foldl Roster.hear _) (Observed.unaliased_meant h.edges ha)

omit [BdSeqStore S] in
/-- What is asked of a call says nothing about aliases. -/
theorem Twins.orderly {x y : Told S} (h : x.Twins y) {a : Action} (horderly : x.Orderly a) :
    y.Orderly a where
  follows target metrics hdata m hm := by
    refine (horderly.follows target metrics hdata m hm).of_unaliased ?_
    have hdeclared := congrArg (fun r : Roster => r.declared target) h.rosters
    simp only [Roster.unaliased_declared] at hdeclared
    exact hdeclared
  encodable := horderly.encodable
  stamped device hdeath := by
    have hms : x.edge.ms = y.edge.ms :=
      Observed.congr_twin (fun s => s.ms) (fun _ => rfl) h.edges
    exact hms ▸ horderly.stamped device hdeath

end Told

section Edges

variable {T S : Type} [MqttTransport T] [BdSeqStore S] {config : EdgeNodeConfig} {store : S}
  {clock : Clock} {actions : List Action}

end Edges

namespace HostApplication

end HostApplication

end SparkplugB
