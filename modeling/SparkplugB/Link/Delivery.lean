/-
# Lossless delivery

An edge that assigns no aliases and a host that hears each of its messages once and in order: the
host returns one event for each message, the one that the call of the edge meant, and nothing else.
The data has to follow the last birth of the node or of the device, and to be data the codec can
carry; the time stamp of a DDEATH has to fit into the event.
-/
import SparkplugB.Link.Data
import SparkplugB.Link.InStep

namespace SparkplugB

open AliasRegistry Codec HostApplication Machine

/-! ## 1. What is asked of a caller -/

/-- The data of a call: whose it is, the node's or that of a device, and its metrics. -/
def Action.data? : Action → Option (Option String × List Metric)
  | .publishNodeData metrics => some (none, metrics)
  | .publishDeviceData device metrics => some (some device, metrics)
  | _ => none

namespace Told

variable {S : Type} [BdSeqStore S]

/-- What is asked of the data of a call, and of its time.  The metrics follow the last birth of the
node or the device, and the codec can carry them: no NUL in an array of strings, for one.  A DDEATH
has a time stamp that an event has room for. -/
structure Orderly (x : Told S) (a : Action) : Prop where
  follows : ∀ target metrics, a.data? = some (target, metrics) →
    ∀ m ∈ metrics, Follows (x.roster.declared target) m
  encodable : ∀ target metrics, a.data? = some (target, metrics) → Encodable metrics
  stamped : ∀ device, a = .publishDeviceDeath device → x.edge.ms.toNat < 2 ^ 63

/-- The data of the call is written by the names and the aliases of the last birth of its own node
or device. -/
def Writes (x : Told S) (a : Action) : Prop :=
  ∀ target metrics, a.data? = some (target, metrics) →
    List.Forall₂ (Wired (x.roster.declared target)) metrics (x.edge.engine.toDataMetrics metrics)

/-- Data that is written so can be read. -/
theorem readable_said {x : Told S} (h : x.Tracked) {a : Action}
    (hunled : x.edge.engine.config.Unled a) (hstays : a ≠ .disconnect) (horderly : x.Orderly a) (hwrites : x.Writes a)
    (hsize : ∀ u ∈ x.edge.said a, u.bytes.length < 2 ^ 63) :
    ∀ u ∈ x.edge.said a, Readable x.roster u := by
  have hread : ∀ target metrics, a.data? = some (target, metrics) →
      ∀ p : Payload, p.metrics = stamp (x.edge.engine.toDataMetrics metrics) x.edge.ms →
        (encode p .data).length < 2 ^ 63 →
        decode (encode p .data) (some (registryOf (x.roster.declared target))) = .ok p := by
    intro target metrics hdata p hmetrics hlen
    have hdressed := dressed_stamp x.edge.ms metrics
    refine decode_wired (h.tracks.resolves target) (h.tracks.names target) ?_
      ((horderly.encodable target metrics hdata).dressed hdressed)
      (hmetrics ▸ forall₂_wired_stamp x.edge.ms (hwrites target metrics hdata)) hlen
    intro m hm
    obtain ⟨b, hb, rfl⟩ := List.mem_map.mp hm
    exact (horderly.follows target metrics hdata b hb).stampMetric x.edge.ms
  have htells := Observed.perform_tells x.edge.engine.toDataMetrics x.edge hunled hstays
  unfold Observed.said at hsize ⊢
  generalize x.edge.uttered x.edge.engine.toDataMetrics a = us at *
  generalize x.edge.perform a = s' at htells
  intro u hu
  cases htells with
  | silent same => exact absurd hu List.not_mem_nil
  | awaits waits => exact absurd hu List.not_mem_nil
  | births asks before after =>
    rcases List.mem_cons.mp hu with rfl | hu
    · trivial
    · obtain ⟨birth, -, rfl⟩ := List.mem_map.mp hu
      trivial
  | nodeData on =>
    obtain rfl := List.mem_singleton.mp hu
    exact hread none _ rfl _ rfl (hsize _ hu)
  | deviceData born =>
    rename_i device metrics
    obtain rfl := List.mem_singleton.mp hu
    exact hread (some device.str) metrics rfl _ rfl (hsize _ hu)
  | deviceDeath born =>
    obtain rfl := List.mem_singleton.mp hu
    trivial

omit [BdSeqStore S] in
/-- Without aliases, data is written as it is. -/
theorem writes_plain (x : Told S) (huse : x.edge.engine.config.useAliases = false) (a : Action) :
    x.Writes a := by
  intro target metrics _
  unfold EdgeNode.toDataMetrics
  rw [huse]
  exact List.forall₂_same.mpr fun _ _ => .named

/-- Without aliases, a call is heard as it was meant. -/
theorem heard_plain {x : Told S} {a : Action} (hunled : x.edge.engine.config.Unled a)
    (hstays : a ≠ .disconnect) (huse : x.edge.engine.config.useAliases = false) (horderly : x.Orderly a) :
    (x.edge.said a).map x.roster.heard = x.edge.meant a := by
  have hkeep : ∀ target metrics, a.data? = some (target, metrics) →
      ∀ reg, resolveNames reg (stamp metrics x.edge.ms) = stamp metrics x.edge.ms := by
    intro target metrics hdata reg
    refine resolveNames_named (x.roster.declared target) reg fun m hm => ?_
    obtain ⟨b, hb, rfl⟩ := List.mem_map.mp hm
    exact (horderly.follows target metrics hdata b hb).stampMetric x.edge.ms
  have htells := Observed.perform_tells id x.edge hunled hstays
  rw [Observed.said_plain huse]
  unfold Observed.meant
  generalize x.edge.uttered id a = us at *
  generalize x.edge.perform a = s' at htells
  cases htells with
  | silent same => rfl
  | awaits waits => rfl
  | births asks before after => exact Observed.map_heard_births _ _ _
  | nodeData on =>
    rename_i metrics
    have hmetrics := hkeep none metrics rfl (registryOf (x.roster.declared none))
    show [Utterance.nodeData { x.edge.engine.sequenced metrics x.edge.ms with
      metrics := resolveNames _ (stamp metrics x.edge.ms) }] = _
    rw [hmetrics]
    rfl
  | deviceData born =>
    rename_i device metrics
    have hmetrics := hkeep (some device.str) metrics rfl
      (registryOf (x.roster.declared (some device.str)))
    show [Utterance.deviceData device { x.edge.engine.sequenced metrics x.edge.ms with
      metrics := resolveNames _ (stamp metrics x.edge.ms) }] = _
    rw [hmetrics]
    rfl
  | deviceDeath born => rfl

/-- A call that can be sent. -/
theorem sendable {x : Told S} (h : x.Tracked) {a : Action}
    (hunled : x.edge.engine.config.Unled a) (hstays : a ≠ .disconnect)
    (hpresents : ∀ source, a.source? = some source →
      source.Presents x.edge.engine.config.devices)
    (horderly : x.Orderly a) (hwrites : x.Writes a)
    (hsize : ∀ u ∈ x.edge.said a, u.bytes.length < 2 ^ 63) : x.Sendable a where
  stays := hstays
  unled := hunled
  presents := hpresents
  readable := readable_said h hunled hstays horderly hwrites hsize
  stamped := horderly.stamped

/-! ## 2. Runs -/

/-- What is true of all that a run says is true of what each of its calls says. -/
theorem always_said {Q : Utterance → Prop} :
    ∀ (actions : List Action) (x : Told S), (∀ u ∈ x.edge.speech actions, Q u) →
      Always Told.call (fun x a => ∀ u ∈ x.edge.said a, Q u) x actions := by
  intro actions
  induction actions with
  | nil => exact fun _ _ => trivial
  | cons a rest ih =>
    exact fun x h => ⟨fun u hu => h u (List.mem_append_left _ hu),
      ih (x.call a) fun u hu => h u (List.mem_append_right _ hu)⟩

/-- A run whose calls are heard as they were meant. -/
theorem heard_eq_tale :
    ∀ (actions : List Action) (x : Told S),
      Always Told.call (fun x a => (x.edge.said a).map x.roster.heard = x.edge.meant a) x actions →
      x.heard actions = x.edge.tale actions := by
  intro actions
  induction actions with
  | nil => exact fun _ _ => rfl
  | cons a rest ih =>
    rintro x ⟨hfirst, hrest⟩
    rw [heard, Observed.tale, hfirst, ih (x.call a) hrest]
    rfl

/-- An edge that has said nothing, and the empty roster. -/
def start (config : EdgeNodeConfig) (store : S) (clock : Clock) : Told S :=
  ⟨.start config store clock, .empty⟩

omit [BdSeqStore S] in
theorem tracked_start {config : EdgeNodeConfig} (hdevices : config.devices.Nodup) (store : S)
    (clock : Clock) : (start config store clock).Tracked :=
  ⟨hdevices, tracks_empty rfl⟩

end Told

theorem mem_of_mem_published {log : List Entry} {message : OutboundMessage}
    (h : message ∈ published log) : .publish message ∈ log := by
  obtain ⟨e, he, hpublished⟩ := List.mem_filterMap.mp (List.mem_reverse.mp h)
  cases e with
  | publish m =>
    obtain rfl := Option.some.inj hpublished
    exact he
  | _ => exact absurd hpublished (by simp [Entry.published?])

section Start

variable {S : Type} [BdSeqStore S] {config : EdgeNodeConfig} {store : S} {clock : Clock}
  {actions : List Action}

/-- The journal of an edge that stays connected lists what it says. -/
theorem published_journal (hunled : ∀ a ∈ actions, config.Unled a)
    (hstays : .disconnect ∉ actions) :
    published (journal config store clock actions) =
      ((Observed.start config store clock).speech actions).map
        (Utterance.message config.group config.edge) := by
  have hspoken := Observed.spoken_run actions (.start config store clock) hunled rfl rfl hstays
  exact hspoken.trans (List.nil_append _)

theorem size_speech (hunled : ∀ a ∈ actions, config.Unled a) (hstays : .disconnect ∉ actions)
    (hsized : Sized (journal config store clock actions)) :
    ∀ u ∈ (Observed.start config store clock).speech actions, u.bytes.length < 2 ^ 63 := by
  intro u hu
  have hmem : u.message config.group config.edge ∈
      published (journal config store clock actions) := by
    rw [published_journal hunled hstays]
    exact List.mem_map_of_mem hu
  exact hsized _ (mem_of_mem_published hmem) _ (List.mem_singleton_self _)

variable {T : Type} [MqttTransport T]

/-- Hearing a run from its start. -/
theorem outcomes_heard (host : HostApplication T) (hunled : ∀ a ∈ actions, config.Unled a)
    (hdevices : config.devices.Nodup) (hstays : .disconnect ∉ actions)
    (hsend : Always Told.call Told.Sendable (.start config store clock) actions)
    (hsized : Sized (journal config store clock actions))
    {inputs : List (Reading × IncomingMessage)}
    (hheard : Delivers (published (journal config store clock actions)) inputs) :
    host.outcomes inputs = (((Told.start config store clock).heard actions).map
      (Utterance.event config.group config.edge)).map .ok := by
  have hconveys := Told.conveys_run (T := T) actions (.start config store clock)
    (Told.tracked_start hdevices store clock) rfl rfl hsend
    (size_speech hunled hstays hsized)
  rw [published_journal hunled hstays] at hheard
  exact (hconveys host inputs hheard fun hstarted => absurd hstarted (by
    simp [Told.start, Observed.start, Observed.standing, EdgeNode.new])).1

end Start

namespace HostApplication

/-- **Lossless delivery.**  The messages of an edge without aliases are those of its tale, and a
host that hears each of them once and in order returns the events of its tale and nothing else,
whatever it has heard before.  The run stays within one connection (`hstays`) and the edge waits for
no primary host (`hprimary`); births can be presented (`hsource`), data and deaths are orderly, and
no message is longer than a Rust buffer (`hsized`). -/
theorem lossless_delivery {T S : Type} [MqttTransport T] [BdSeqStore S] (host : HostApplication T)
    (config : EdgeNodeConfig) (store : S) (clock : Clock) (actions : List Action)
    (inputs : List (Reading × IncomingMessage)) (hplain : config.useAliases = false)
    (hprimary : config.primaryHostId = none) (hdevices : config.devices.Nodup)
    (hstays : .disconnect ∉ actions)
    (hsource : ∀ a ∈ actions, ∀ source, a.source? = some source → source.Presents config.devices)
    (horderly : Always Told.call Told.Orderly (.start config store clock) actions)
    (hsized : Sized (journal config store clock actions))
    (hheard : Delivers (published (journal config store clock actions)) inputs) :
    published (journal config store clock actions) =
        ((Observed.start config store clock).tale actions).map
          (Utterance.message config.group config.edge) ∧
      host.outcomes inputs = (((Observed.start config store clock).tale actions).map
        (Utterance.event config.group config.edge)).map .ok := by
  have hunled : ∀ a ∈ actions, config.Unled a := fun a _ => config.unled_of_none hprimary a
  -- at every call the edge is tracked, so its messages can be read and are heard as meant
  have hcalls : Always Told.call
      (fun x a => x.Sendable a ∧ (x.edge.said a).map x.roster.heard = x.edge.meant a)
      (.start config store clock) actions := by
    have hkeep : ∀ (x : Told S) (a : Action),
        (x.Tracked ∧ x.edge.engine.config = config) →
        ((a ≠ .disconnect ∧ ∀ source, a.source? = some source → source.Presents config.devices) ∧
          x.Orderly a ∧ ∀ u ∈ x.edge.said a, u.bytes.length < 2 ^ 63) →
        (x.Sendable a ∧ (x.edge.said a).map x.roster.heard = x.edge.meant a) ∧
          (x.call a).Tracked ∧ (x.call a).edge.engine.config = config := by
      rintro x a ⟨htracked, rfl⟩ ⟨⟨hstay, hpresents⟩, hcall, hsize⟩
      have hled := EdgeNodeConfig.unled_of_none hprimary a
      have hwrites := x.writes_plain hplain a
      have hsend := Told.sendable htracked hled hstay hpresents hcall hwrites hsize
      have hnext := (Told.conveys_call (T := T) htracked hsend hsize).2
      exact ⟨⟨hsend, Told.heard_plain hled hstay hplain hcall⟩, hnext,
        x.edge.config_perform hled hstay⟩
    refine always_of_invariant hkeep _ actions
      ⟨Told.tracked_start hdevices store clock, rfl⟩ (always_and _ actions ?_
        (always_and _ actions horderly ?_))
    · exact always_of_mem (fun a ha _ => ⟨fun heq => hstays (heq ▸ ha), hsource a ha⟩) _
    · exact Told.always_said actions _ (size_speech hunled hstays hsized)
  have hspeech := Observed.speech_plain actions (.start config store clock) hunled hplain hstays
  have htale := Told.heard_eq_tale actions _ (always_mono (fun _ _ h => h.2) _ actions hcalls)
  have hout := outcomes_heard host hunled hdevices hstays
    (always_mono (fun _ _ h => h.1) _ actions hcalls) hsized hheard
  refine ⟨?_, ?_⟩
  · rw [published_journal hunled hstays, hspeech]
  · rw [hout, htale]
    rfl

/-! ## 3. A line that reports -/

/-- The host, started. -/
def startedHost : HostApplication Recorder := ((start noon).run freshHost).state

/-- An NCMD that asks for a rebirth. -/
def rebirthCommand : IncomingMessage where
  topic := "spBv1.0/plant/NCMD/line"
  payload := encode (commandPayload noon [Metric.new NODE_CONTROL_REBIRTH (.boolean true)]) .birth

/-- The line reports the temperature and the speed of its pump, which dies, and is born again. -/
def reports : List Action :=
  [.connect metered, .publishNodeData [Metric.new "temperature" (.int32 22)],
    .publishDeviceData "pump" [Metric.new "rpm" (.int32 901)], .publishDeviceDeath "pump",
    .handleIncoming rebirthCommand metered]

/-- A call that carries no data and reports no death. -/
theorem orderly_of_silent {S : Type} [BdSeqStore S] (x : Told S) {a : Action}
    (hdata : a.data? = none) (hdeath : ∀ device, a ≠ .publishDeviceDeath device) : x.Orderly a where
  follows target metrics h := absurd (hdata.symm.trans h) (by simp)
  encodable target metrics h := absurd (hdata.symm.trans h) (by simp)
  stamped device h := absurd h (hdeath device)

/-- A call that carries one metric. -/
theorem orderly_of_metric {S : Type} [BdSeqStore S] (x : Told S) {a : Action}
    {target : Option String} {m : Metric} (hdata : a.data? = some (target, [m]))
    (hfollows : Follows (x.roster.declared target) m) (hencodable : Encodable [m])
    (hdeath : ∀ device, a ≠ .publishDeviceDeath device) : x.Orderly a where
  follows target' metrics h m' hm' := by
    obtain ⟨rfl, rfl⟩ := Prod.mk.inj (Option.some.inj (hdata.symm.trans h))
    rwa [List.mem_singleton.mp hm']
  encodable target' metrics h := by
    obtain ⟨rfl, rfl⟩ := Prod.mk.inj (Option.some.inj (hdata.symm.trans h))
    exact hencodable
  stamped device h := absurd h (hdeath device)

theorem lossless_delivery_reports :
    startedHost.outcomes ((published (journal pumpLine (⟨0⟩ : InMemoryBdSeqStore) stopped
        reports)).map fun message => (noon, message.delivered)) =
      (((Observed.start pumpLine (⟨0⟩ : InMemoryBdSeqStore) stopped).tale reports).map
        (Utterance.event pumpLine.group pumpLine.edge)).map .ok := by
  have horderly : Always Told.call Told.Orderly
      (.start pumpLine (⟨0⟩ : InMemoryBdSeqStore) stopped) reports := by
    refine ⟨orderly_of_silent _ rfl (by simp), orderly_of_metric _ rfl ⟨by simp [Metric.new],
        "temperature", rfl, by decide +kernel⟩ (by decide) (by simp),
      orderly_of_metric _ rfl ⟨by simp [Metric.new], "rpm", rfl, by decide +kernel⟩ (by decide)
        (by simp), ⟨by simp [Action.data?], by simp [Action.data?], fun _ _ => by decide +kernel⟩,
      orderly_of_silent _ rfl (by simp), trivial⟩
  have hsource : ∀ a ∈ reports, ∀ source, a.source? = some source →
      source.Presents pumpLine.devices := by
    have hpresents : metered.Presents pumpLine.devices := by decide
    simpa [reports, Action.source?] using hpresents
  exact (lossless_delivery startedHost pumpLine (⟨0⟩ : InMemoryBdSeqStore) stopped reports _ rfl rfl
    (by decide) (by simp [reports]) hsource horderly (by decide +kernel)
    (delivers_at noon _)).2

/-- What a host has to return, if no more is asked of the calls than `asked`: the events of the
tale, each once and in order. -/
def DeliversIf (asked : Told InMemoryBdSeqStore → Action → Prop) : Prop :=
  ∀ (config : EdgeNodeConfig) (clock : Clock) (actions : List Action)
    (inputs : List (Reading × IncomingMessage)), config.useAliases = false →
    config.primaryHostId = none → config.devices.Nodup → .disconnect ∉ actions →
    (∀ a ∈ actions, ∀ source, a.source? = some source → source.Presents config.devices) →
    Always Told.call asked (.start config ⟨0⟩ clock) actions →
    Sized (journal config (⟨0⟩ : InMemoryBdSeqStore) clock actions) →
    Delivers (published (journal config (⟨0⟩ : InMemoryBdSeqStore) clock actions)) inputs →
    startedHost.outcomes inputs =
      (((Observed.start config (⟨0⟩ : InMemoryBdSeqStore) clock).tale actions).map
        (Utterance.event config.group config.edge)).map .ok

/-- The arrays of strings in the data of an event. -/
def arraysOf : HostEvent → List (List String)
  | .nodeData _ _ metrics => metrics.map fun m =>
    match m.value with
    | .stringArray strings => strings
    | _ => []
  | _ => []

/-- The time of a death. -/
def deathOf : HostEvent → Option Int64
  | .deviceDeath _ _ _ timestamp => some timestamp
  | _ => none

/-- A source with a list of tags. -/
def tagging : DataSource := ⟨[Metric.new "tags" (.stringArray [])], fun _ => []⟩

/-- A string with a NUL, which ends a string on the wire. -/
def cutTags : List Action :=
  [.connect tagging, .publishNodeData [Metric.new "tags" (.stringArray ["a\u0000b"])]]

/-- The pump dies. -/
def pumpDies : List Action := [.connect silent, .publishDeviceDeath "pump"]

/-- A clock past the last time of an event. -/
def farClock : Clock := Stream'.const ⟨some (2 ^ 63), 0⟩

/-- **What is lost otherwise.**  Both conditions are needed: data that the codec cannot carry
arrives as other data, the string being cut at its NUL, and the time of a death that an event has no
room for is replaced by that of the host. -/
theorem not_deliversIf :
    (¬ DeliversIf fun x a =>
      (∀ target metrics, a.data? = some (target, metrics) →
        ∀ m ∈ metrics, Follows (x.roster.declared target) m) ∧
      ∀ device, a = .publishDeviceDeath device → x.edge.ms.toNat < 2 ^ 63) ∧
    ¬ DeliversIf fun x a =>
      (∀ target metrics, a.data? = some (target, metrics) →
        ∀ m ∈ metrics, Follows (x.roster.declared target) m) ∧
      ∀ target metrics, a.data? = some (target, metrics) → Encodable metrics := by
  refine ⟨fun claim => ?_, fun claim => ?_⟩
  · have hcut := claim pumpLine stopped cutTags _ rfl rfl (by decide) (by simp [cutTags]) (by
      have hpresents : tagging.Presents pumpLine.devices := by decide
      simpa [cutTags, Action.source?] using hpresents) (by
      refine ⟨⟨by simp [Action.data?], by simp⟩, ⟨fun target metrics h m hm => ?_, by simp⟩, trivial⟩
      obtain ⟨rfl, rfl⟩ := Prod.mk.inj (Option.some.inj h)
      obtain rfl := List.mem_singleton.mp hm
      exact ⟨by simp [Metric.new], "tags", rfl, by decide +kernel⟩) (by decide +kernel)
      (delivers_at noon _)
    have harrays := congrArg (List.map fun outcome : Result HostEvent =>
      outcome.toOption.map arraysOf) hcut
    revert harrays
    decide +kernel
  · have hfar := claim pumpLine farClock pumpDies _ rfl rfl (by decide) (by simp [pumpDies]) (by
      have hpresents : silent.Presents pumpLine.devices := by decide
      simpa [pumpDies, Action.source?] using hpresents) (by
      exact ⟨⟨by simp [Action.data?], by simp [Action.data?]⟩,
        ⟨by simp [Action.data?], by simp [Action.data?]⟩, trivial⟩) (by decide +kernel)
      (delivers_at noon _)
    have hdeath := congrArg (List.map fun outcome : Result HostEvent =>
      outcome.toOption.map deathOf) hfar
    revert hdeath
    decide +kernel

end HostApplication

end SparkplugB
