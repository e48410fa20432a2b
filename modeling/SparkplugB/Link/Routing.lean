/-
# Who hears what

A client hears a message if a filter matches its topic that the client has subscribed to in its
present session.  An edge handles any command it is handed: that the commands are its own, it leaves
to its subscriptions.

* **An edge** (`hears_iff`): in every run, an edge in a session hears the NCMDs of its node, the DCMDs
  of its devices and the STATE of its primary host, and nothing else.
* **A host** (`hears_everything`): once started it hears every topic of the namespace, whatever it
  handles.
-/
import SparkplugB.Edge.Effects
import SparkplugB.Host.Isolation
import SparkplugB.Lib.TopicFilter

namespace SparkplugB

open EStateM Mqtt

/-! ## 1. Sessions and subscriptions -/

/-- The filters of the present session, the latest first.  A new connection starts with none, for
every client of this crate asks for a clean start. -/
def filters : List Entry → List String
  | [] => []
  | .subscribe filter _ :: past => filter :: filters past
  | .connect _ :: _ => []
  | .disconnect :: _ => []
  | .publish _ :: past => filters past
  | .handled _ :: past => filters past

/-- A session is going on: the client has connected, and not disconnected since. -/
def inSession : List Entry → Bool
  | [] => false
  | .connect _ :: _ => true
  | .disconnect :: _ => false
  | .subscribe _ _ :: past => inSession past
  | .publish _ :: past => inSession past
  | .handled _ :: past => inSession past

/-- The broker hands the client messages on this topic, by one of its filters. -/
def hears (log : List Entry) (topic : String) : Bool := (filters log).any (topicMatches · topic)

theorem filters_published (messages : List OutboundMessage) (log : List Entry) :
    filters (messages.map Entry.publish ++ log) = filters log := by
  induction messages with
  | nil => rfl
  | cons message rest ih => exact ih

theorem filters_subscribed (topics : List String) (qos : Qos) (log : List Entry) :
    filters (topics.map (Entry.subscribe · qos) ++ log) = topics ++ filters log := by
  induction topics with
  | nil => rfl
  | cons topic rest ih => exact congrArg (topic :: ·) ih

/-- The filters of a client whose filters are topics. -/
theorem hears_of_plain {log : List Entry} {topics : List SparkplugTopic}
    (hfilters : filters log = (topics.map SparkplugTopic.toString).reverse)
    (hplain : ∀ t ∈ topics, Plain t.toString) (topic : String) :
    hears log topic = true ↔ ∃ t ∈ topics, topic = t.toString := by
  rw [hears, hfilters, List.any_reverse, List.any_eq_true]
  constructor
  · rintro ⟨filter, hfilter, hmatch⟩
    obtain ⟨t, ht, rfl⟩ := List.mem_map.mp hfilter
    exact ⟨t, ht, (matches_plain (hplain t ht) topic).mp hmatch⟩
  · rintro ⟨t, ht, rfl⟩
    exact ⟨_, List.mem_map_of_mem ht, (matches_plain (hplain t ht) _).mpr rfl⟩

namespace SparkplugTopic

theorem wild_eq_false {level : String} (hplus : '+' ∉ level.toList) (hhash : '#' ∉ level.toList) :
    wild level = false := by
  have hne : level ≠ "+" ∧ level ≠ "#" := by
    refine ⟨?_, ?_⟩
    · rintro rfl
      exact hplus (by decide)
    · rintro rfl
      exact hhash (by decide)
  simpa [wild] using hne

theorem wild_of_valid {level : String} (h : validateId level = .ok ()) : wild level = false := by
  obtain ⟨-, hplus, -, hhash⟩ := (validateId_ok_iff level).mp h
  exact wild_eq_false hplus hhash

theorem wild_asStr (ty : MessageType) : wild ty.asStr = false := by cases ty <;> rfl

/-- **No topic is a pattern**: `validate_id` admits no wildcards, so a filter that is a topic
matches that topic alone. -/
theorem plain_toString {t : SparkplugTopic} (h : t.Fits) : Plain t.toString := by
  have hlevels : levels t.toString = t.parts := tokens_toString h
  have hns : wild NAMESPACE = false := by decide
  intro level hlevel
  rw [hlevels] at hlevel
  cases t with
  | node group edge ty =>
    simp only [parts, List.mem_cons, List.not_mem_nil, or_false] at hlevel
    rcases hlevel with rfl | rfl | rfl | rfl
    · exact hns
    · exact wild_of_valid group.valid
    · exact wild_asStr ty
    · exact wild_of_valid edge.valid
  | device group edge device ty =>
    simp only [parts, List.mem_cons, List.not_mem_nil, or_false] at hlevel
    rcases hlevel with rfl | rfl | rfl | rfl | rfl
    · exact hns
    · exact wild_of_valid group.valid
    · exact wild_asStr ty
    · exact wild_of_valid edge.valid
    · exact wild_of_valid device.valid
  | hostState hostId =>
    simp only [parts, List.mem_cons, List.not_mem_nil, or_false] at hlevel
    rcases hlevel with rfl | rfl | rfl
    · exact hns
    · decide
    · exact wild_of_valid h

end SparkplugTopic

/-! ## 2. What an edge subscribes to -/

namespace EdgeNodeConfig

/-- The topics `subscribe_commands` subscribes an edge to, in order: its NCMD, the DCMD of each
device, and the STATE of its primary host. -/
def served (config : EdgeNodeConfig) : List SparkplugTopic :=
  .node config.group config.edge .nCmd ::
    (config.devices.map (.device config.group config.edge · .dCmd) ++
      config.primaryHostId.toList.map .hostState)

/-- The primary host, if there is one, has an id that can stand in a topic.  `connect` does not
check it, and takes `+`, for one. -/
def NamesHost (config : EdgeNodeConfig) : Prop :=
  ∀ hostId, config.primaryHostId = some hostId → validateId hostId = .ok ()

theorem fits_served {config : EdgeNodeConfig} (h : config.NamesHost) :
    ∀ t ∈ config.served, t.Fits := by
  intro t ht
  rcases List.mem_cons.mp ht with rfl | ht
  · exact ⟨rfl, by decide⟩
  · rcases List.mem_append.mp ht with ht | ht
    · obtain ⟨device, -, rfl⟩ := List.mem_map.mp ht
      exact rfl
    · obtain ⟨hostId, hhost, rfl⟩ := List.mem_map.mp ht
      exact h hostId (Option.mem_toList.mp hhost)

end EdgeNodeConfig

/-- The session goes on as it was, or it is over. -/
structure KeepsFilters {S : Type} (s s' : Observed S) : Prop where
  config : s'.engine.config = s.engine.config
  filters : inSession s'.engine.transport.log = inSession s.engine.transport.log ∧
      filters s'.engine.transport.log = filters s.engine.transport.log ∨
    inSession s'.engine.transport.log = false ∧ filters s'.engine.transport.log = []

namespace KeepsFilters

variable {S : Type}

instance : IsPreorder (Observed S) KeepsFilters where
  refl _ := ⟨rfl, .inl ⟨rfl, rfl⟩⟩
  trans _ _ _ h h' := by
    refine ⟨h'.config.trans h.config, ?_⟩
    rcases h'.filters with ⟨hsession, hfilters⟩ | hover
    · rw [hsession, hfilters]
      exact h.filters
    · exact .inr hover

/-- Every call but `connect`. -/
theorem effects : Effects (KeepsFilters : Observed S → Observed S → Prop) where
  clock _ _ := ⟨rfl, .inl ⟨rfl, rfl⟩⟩
  fields _ _ h := ⟨h.config, .inl ⟨congrArg (fun t => inSession t.log) h.transport,
    congrArg (fun t => SparkplugB.filters t.log) h.transport⟩⟩
  publish _ _ := ⟨rfl, .inl ⟨rfl, rfl⟩⟩
  disconnect _ := ⟨rfl, .inr ⟨rfl, rfl⟩⟩

theorem birth (source : DataSource) (s : Observed S) : KeepsFilters s (s.birth source) := by
  have hmoves := effects.publishBirthSequence source s
  rwa [EdgeNode.run_publishBirthSequence] at hmoves

theorem arrive (s : Observed S) (a : Action) : KeepsFilters s (s.arrive a) := by
  unfold Observed.arrive
  cases a.message? with
  | none => exact refl_of KeepsFilters s
  | some message => exact ⟨rfl, .inl ⟨rfl, rfl⟩⟩

end KeepsFilters

/-- In a session, an edge is subscribed to the topics of its configuration. -/
structure Tuned {S : Type} (config : EdgeNodeConfig) (s : Observed S) : Prop where
  configured : s.engine.config = config
  filters : filters s.engine.transport.log =
    if inSession s.engine.transport.log then (config.served.map SparkplugTopic.toString).reverse
    else []

namespace Tuned

variable {S : Type} {config : EdgeNodeConfig} {s s' : Observed S}

theorem keeps (h : Tuned config s) (hkeeps : KeepsFilters s s') : Tuned config s' := by
  refine ⟨hkeeps.config.trans h.configured, ?_⟩
  rcases hkeeps.filters with ⟨hsession, hfilters⟩ | ⟨hover, hnone⟩
  · rw [hfilters, hsession]
    exact h.filters
  · rw [hover, hnone]
    rfl

/-- The loop over the devices. -/
theorem filters_foldl (topic : DeviceId → String) :
    ∀ (devices : List DeviceId) (s : Observed S),
      let s' := devices.foldl (fun s' device => s'.subscribe (topic device)) s
      SparkplugB.filters s'.engine.transport.log =
          (devices.map topic).reverse ++ SparkplugB.filters s.engine.transport.log ∧
        inSession s'.engine.transport.log = inSession s.engine.transport.log ∧
        s'.engine.config = s.engine.config
  | [], _ => ⟨rfl, rfl, rfl⟩
  | device :: rest, s => by
    obtain ⟨hfilters, hsession, hconfig⟩ := filters_foldl topic rest (s.subscribe (topic device))
    refine ⟨?_, hsession, hconfig⟩
    rw [List.foldl_cons, hfilters, List.map_cons, List.reverse_cons, List.append_assoc]
    rfl

/-- Once the transport has connected. -/
theorem filters_connected (s : Observed S) :
    SparkplugB.filters s.connected.engine.transport.log =
        ((SparkplugTopic.node s.engine.config.group s.engine.config.edge .nCmd ::
          s.engine.config.devices.map
            (.device s.engine.config.group s.engine.config.edge · .dCmd)).map
          SparkplugTopic.toString).reverse ∧
      inSession s.connected.engine.transport.log = true ∧
      s.connected.engine.config = s.engine.config := by
  obtain ⟨hfilters, hsession, hconfig⟩ := filters_foldl
    (fun device => s.engine.deviceTopic device .dCmd) s.engine.config.devices
    ((s.tick.note (.connect (s.engine.connectOptions s.ms))).subscribe (s.engine.nodeTopic .nCmd))
  refine ⟨hfilters.trans ?_, hsession, hconfig⟩
  rw [List.map_cons, List.reverse_cons, List.map_map]
  rfl

/-- **A new session** is tuned, whatever was subscribed to before. -/
theorem session (source : DataSource) (s : Observed S) :
    Tuned s.engine.config (s.session source) := by
  obtain ⟨hfilters, hsession, hconfig⟩ := filters_connected s
  unfold Observed.session
  cases hprimary : s.engine.config.primaryHostId with
  | none =>
    refine keeps ⟨hconfig, ?_⟩ (KeepsFilters.birth source s.connected)
    rw [hsession, hfilters, if_pos rfl, EdgeNodeConfig.served, hprimary]
    simp
  | some hostId =>
    have hfront : "spBv1.0/STATE/" = NAMESPACE ++ "/" ++ STATE_TOKEN ++ "/" := rfl
    have hstate : s!"spBv1.0/STATE/{hostId}" = (SparkplugTopic.hostState hostId).toString :=
      congrArg (· ++ hostId) hfront
    refine ⟨hconfig, ?_⟩
    show s!"spBv1.0/STATE/{hostId}" :: SparkplugB.filters s.connected.engine.transport.log =
      if inSession s.connected.engine.transport.log then _ else _
    rw [hsession, hfilters, if_pos rfl, hstate, EdgeNodeConfig.served, hprimary]
    simp

variable [BdSeqStore S]

/-- **One call** keeps an edge tuned, whatever its outcome is. -/
theorem perform (h : Tuned config s) (a : Action) : Tuned config (s.perform a) := by
  by_cases ha : ∃ source, a = .connect source
  · obtain ⟨source, rfl⟩ := ha
    have harrive : s.arrive (.connect source) = s := rfl
    unfold Observed.perform Action.call
    rw [harrive]
    rcases EdgeNode.run_connect source s with ⟨e, store, bdSeq, -, hrun⟩ | ⟨bdSeq, -, store', -, -, hrun⟩
    · rw [hrun]
      exact ⟨h.configured, h.filters⟩
    · rw [hrun]
      exact h.configured ▸ session source (s.update (·.withBdSeq store' bdSeq))
  · have hmoves := KeepsFilters.effects.call (fun source heq => ha ⟨source, heq⟩) (s.arrive a)
    exact (h.keeps (KeepsFilters.arrive s a)).keeps hmoves

theorem run (h : Tuned config s) (actions : List Action) :
    Tuned config (Machine.run Observed.perform s actions) :=
  Machine.run_invariant (fun _ a h _ => h.perform a) s actions h
    (Machine.always_of_forall (P := fun _ _ => True) (fun _ _ => trivial) s actions)

omit [BdSeqStore S] in
theorem start (config : EdgeNodeConfig) (store : S) (clock : Clock) :
    Tuned config (.start config store clock) := ⟨rfl, rfl⟩

omit [BdSeqStore S] in
/-- What a tuned edge hears. -/
theorem hears_iff (h : Tuned config s) (hnames : config.NamesHost) (topic : String) :
    hears s.engine.transport.log topic = true ↔
      inSession s.engine.transport.log = true ∧ ∃ t ∈ config.served, topic = t.toString := by
  cases hsession : inSession s.engine.transport.log with
  | false =>
    have hnone := h.filters
    rw [hsession, if_neg (by decide)] at hnone
    simp [hears, hnone]
  | true =>
    have hall := h.filters
    rw [hsession, if_pos rfl] at hall
    rw [hears_of_plain hall fun t ht =>
      SparkplugTopic.plain_toString (EdgeNodeConfig.fits_served hnames t ht)]
    simp

end Tuned

/-! ## 3. What a host hears -/

/-- A message that a host with this configuration may publish: its own STATE, or a command. -/
inductive HostConfig.Sends (config : HostConfig) (message : OutboundMessage) : Prop
  | state (topic : message.topic = config.stateTopic)
  | nodeCommand {group : GroupId} {edge : EdgeNodeId}
      (topic : message.topic = (SparkplugTopic.node group edge .nCmd).toString)
  | deviceCommand {group : GroupId} {edge : EdgeNodeId} {device : DeviceId}
      (topic : message.topic = (SparkplugTopic.device group edge device .dCmd).toString)

/-- **A host speaks for no node**: by their topics its messages are no births, data or deaths. -/
theorem HostConfig.Sends.of_eq_none {config : HostConfig} {message : OutboundMessage}
    (h : config.Sends message) (hid : validateId config.hostId = .ok ()) :
    NodeMessage.of message.delivered = none := by
  have hparse : ∀ t : SparkplugTopic, t.Fits → NodeMessage.ofTopic t = none →
      message.topic = t.toString → NodeMessage.of message.delivered = none := by
    intro t ht hnone htopic
    have hof : NodeMessage.of message.delivered = NodeMessage.of ⟨t.toString, message.payload⟩ :=
      congrArg (fun topic => NodeMessage.of ⟨topic, message.payload⟩) htopic
    rw [hof, NodeMessage.of, SparkplugTopic.parse_toString ht]
    exact hnone
  cases h with
  | state htopic =>
    have hfront : "spBv1.0/STATE/" = NAMESPACE ++ "/" ++ STATE_TOKEN ++ "/" := rfl
    exact hparse (.hostState config.hostId) hid rfl
      (htopic.trans (congrArg (· ++ config.hostId) hfront))
  | @nodeCommand group edge htopic =>
    exact hparse (.node group edge .nCmd) ⟨rfl, by decide⟩ rfl htopic
  | @deviceCommand group edge device htopic =>
    exact hparse (.device group edge device .dCmd) rfl rfl htopic

namespace HostApplication

/-- The host has published some such messages, of the kinds that `Sends` allows, and kept its
configuration. -/
structure Speaks (host host' : HostApplication Recorder) : Prop where
  config : host'.config = host.config
  log : ∃ messages : List OutboundMessage, (∀ message ∈ messages, host.config.Sends message) ∧
    host'.transport.log = messages.map Entry.publish ++ host.transport.log

namespace Speaks

instance : IsPreorder (HostApplication Recorder) Speaks where
  refl _ := ⟨rfl, [], by simp, rfl⟩
  trans _ _ _ h h' := by
    obtain ⟨messages, hsends, hlog⟩ := h.log
    obtain ⟨messages', hsends', hlog'⟩ := h'.log
    refine ⟨h'.config.trans h.config, messages' ++ messages, fun message hmem => ?_, ?_⟩
    · rcases List.mem_append.mp hmem with hmem | hmem
      · exact h.config ▸ hsends' message hmem
      · exact hsends message hmem
    · rw [hlog', hlog, List.map_append, List.append_assoc]

variable {now : Reading} {group : GroupId} {edge : EdgeNodeId}

theorem of_nodes (host : HostApplication Recorder) (nodes : Std.ExtTreeMap String NodeState) :
    Speaks host { host with nodes } := ⟨rfl, [], by simp, rfl⟩

theorem publish {message : OutboundMessage} {host : HostApplication Recorder}
    (h : host.config.Sends message) :
    Speaks host ((onTransport (MqttTransport.publish message) : HostM Recorder Unit).run host).state :=
  ⟨rfl, [message], by simpa using h, rfl⟩

/-- An NCMD. -/
theorem publishNode (group : GroupId) (edge : EdgeNodeId) (payload : Bytes) :
    Moves Speaks (publishRaw (SparkplugTopic.node group edge .nCmd).toString payload :
      HostM Recorder Unit) := fun _ => publish (.nodeCommand rfl)

theorem rebirth : Moves Speaks (HostApplication.rebirth (T := Recorder) now group edge) := by
  refine moves_get_bind fun host => ?_
  rcases (host.node (key group edge)).takeRebirthSlot host.config.rebirthDebounce now.instant
    with ⟨allowed, node⟩
  cases allowed with
  | false => exact of_nodes host _
  | true =>
    have hsend : Moves Speaks (sendRebirth (T := Recorder) now group edge >>= fun _ =>
        pure (HostEvent.rebirthRequested group.str edge.str)) :=
      (publishNode group edge _).bind fun _ => moves_pure _
    exact trans_of Speaks (of_nodes host _) (hsend _)

theorem finish (step : Step) :
    Moves Speaks (HostApplication.finish (T := Recorder) now group edge step) := by
  cases step with
  | event e => exact moves_pure e
  | rebirth => exact rebirth

theorem whenReady {k : String} (ready : NodeState → Bool) (body : NodeM Step) :
    Moves Speaks (HostApplication.whenReady (T := Recorder) ready k body) := by
  refine moves_get_bind fun host => ?_
  cases host.nodes[k]? with
  | none => exact refl_of Speaks host
  | some node =>
    dsimp only
    by_cases hready : ready node = true
    · rw [if_pos hready]
      exact moves_focus (fun node host => of_nodes host _) body host
    · rw [if_neg hready]
      exact refl_of Speaks host

theorem onSequenced (m : NodeMessage) (bytes : Bytes) :
    Moves Speaks (HostApplication.onSequenced (T := Recorder) now group edge m bytes) :=
  (whenReady _ _).bind fun step => finish step

theorem onNodeBirth (bytes : Bytes) :
    Moves Speaks (HostApplication.onNodeBirth (T := Recorder) now group edge bytes) := by
  refine (moves_liftExcept _).bind fun p => moves_get_bind fun host => ?_
  rcases (host.node (key group edge)).birth p with ⟨duplicateAlias, node⟩
  cases duplicateAlias with
  | false => exact of_nodes host _
  | true => exact trans_of Speaks (of_nodes host _) (rebirth _)

theorem onNodeDeath (bytes : Bytes) :
    Moves Speaks (HostApplication.onNodeDeath (T := Recorder) now group edge bytes) := by
  refine (moves_liftExcept _).bind fun p => moves_get_bind fun host => ?_
  cases host.nodes[key group edge]? with
  | none => exact refl_of Speaks host
  | some node =>
    dsimp only
    split
    · exact of_nodes host _
    · exact refl_of Speaks host

theorem onHostState (hostId : String) (bytes : Bytes) :
    Moves Speaks (HostApplication.onHostState (T := Recorder) hostId bytes) := by
  have hpublish : Moves Speaks (publishStateBirth (T := Recorder)) :=
    moves_get_bind fun host => publish (.state rfl)
  refine moves_get_bind fun host => ?_
  by_cases hown : hostId = host.config.hostId
  · rw [if_pos hown]
    refine Moves.bind (moves_liftExcept _) (fun text =>
      Moves.bind (moves_liftExcept _) fun state => ?_) host
    rcases state.online with - | -
    · exact hpublish.bind fun _ => moves_pure _
    · exact moves_pure _
  · rw [if_neg hown]
    exact refl_of Speaks host

/-- **Handling a message** publishes, and does nothing else to the transport. -/
theorem handleIncoming (now : Reading) (message : IncomingMessage) :
    Moves Speaks (HostApplication.handleIncoming (T := Recorder) now message) := by
  refine (moves_liftExcept _).bind fun topic => ?_
  rcases topic with ⟨g, e, ty⟩ | ⟨g, e, d, ty⟩ | hostId
  · cases ty with
    | nBirth => exact onNodeBirth _
    | nData => exact onSequenced .data _
    | nDeath => exact onNodeDeath _
    | _ => exact moves_pure _
  · cases ty with
    | dBirth => exact onSequenced (.deviceBirth d) _
    | dData => exact onSequenced (.deviceData d) _
    | dDeath => exact onSequenced (.deviceDeath d) _
    | _ => exact moves_pure _
  · exact onHostState hostId _

theorem next (host : HostApplication Recorder) (input : Reading × IncomingMessage) :
    Speaks host (host.next input) := handleIncoming input.1 input.2 host

/-- A command of the user, to a node. -/
theorem publishNodeCommand (now : Reading) (group edge : String) (metrics : List Metric) :
    Moves Speaks (HostApplication.publishNodeCommand (T := Recorder) now group edge metrics) := by
  refine (moves_liftExcept _).bind fun group => (moves_liftExcept _).bind fun edge => ?_
  exact publishNode group edge _

/-- And to a device. -/
theorem publishDeviceCommand (now : Reading) (group edge device : String)
    (metrics : List Metric) :
    Moves Speaks
      (HostApplication.publishDeviceCommand (T := Recorder) now group edge device metrics) := by
  refine (moves_liftExcept _).bind fun group => (moves_liftExcept _).bind fun edge =>
    (moves_liftExcept _).bind fun device host => ?_
  exact publish (.deviceCommand rfl)

theorem filters {host host' : HostApplication Recorder} (h : Speaks host host') :
    SparkplugB.filters host'.transport.log = SparkplugB.filters host.transport.log := by
  obtain ⟨messages, -, hlog⟩ := h.log
  rw [hlog, filters_published]

end Speaks

end HostApplication

/-- A client of the whole namespace hears all of its topics. -/
theorem hears_everything {log : List Entry} (hall : "spBv1.0/#" ∈ filters log) {t : SparkplugTopic}
    (ht : t.Fits) : hears log t.toString = true := by
  refine List.any_eq_true.mpr ⟨_, hall, ?_⟩
  have hlevels : levels t.toString = t.parts := SparkplugTopic.tokens_toString ht
  rw [matches_subtree (by simp : [NAMESPACE] ≠ []) (by decide) (by decide), hlevels]
  cases t <;> exact List.prefix_append _ _

namespace HostApplication

/-- The loop over the filters. -/
theorem run_subscribes :
    ∀ (topics : List String) (host : HostApplication Recorder),
      (topics.forM fun topic => (onTransport (MqttTransport.subscribe topic .atMostOnce) :
          HostM Recorder Unit)).run host =
        .ok () { host with transport := { host.transport with
          log := (topics.map (Entry.subscribe · .atMostOnce)).reverse ++ host.transport.log } }
  | [], _ => rfl
  | topic :: rest, host => by
    have hfirst : (onTransport (MqttTransport.subscribe topic .atMostOnce) :
        HostM Recorder Unit).run host = .ok () { host with
          transport := host.transport.note (.subscribe topic .atMostOnce) } := rfl
    rw [List.forM_eq_forM, List.forM_cons, EStateM.bind_ok hfirst, ← List.forM_eq_forM,
      run_subscribes rest, List.map_cons, List.reverse_cons, List.append_assoc]
    rfl

/-- What `start` writes down. -/
theorem log_start (now : Reading) (host : HostApplication Recorder) :
    ∃ message opts, ((start now).run host).state.transport.log = .publish message ::
      ((host.config.groupSubscriptions.map (Entry.subscribe · .atMostOnce)).reverse ++
        .subscribe host.config.stateTopic .atLeastOnce :: .connect opts :: host.transport.log) := by
  have hconnect : ∀ (opts : ConnectOptions) (host : HostApplication Recorder),
      (onTransport (MqttTransport.connect opts) : HostM Recorder Unit).run host =
        .ok () { host with transport := host.transport.note (.connect opts) } := fun _ _ => rfl
  have hsubscribe : ∀ (topic : String) (qos : Qos) (host : HostApplication Recorder),
      (onTransport (MqttTransport.subscribe topic qos) : HostM Recorder Unit).run host =
        .ok () { host with transport := host.transport.note (.subscribe topic qos) } :=
    fun _ _ _ => rfl
  simp only [start, EStateM.run_bind, EStateM.run_modify, EStateM.run_get, hconnect, hsubscribe,
    run_subscribes]
  exact ⟨_, _, rfl⟩

/-- A host that starts is subscribed to all that its configuration names. -/
theorem mem_filters_start (now : Reading) (host : HostApplication Recorder) {topic : String}
    (h : topic ∈ host.config.groupSubscriptions) :
    topic ∈ filters ((start now).run host).state.transport.log := by
  obtain ⟨message, opts, hlog⟩ := log_start now host
  have hfilters : filters ((start now).run host).state.transport.log =
      host.config.groupSubscriptions.reverse ++ [host.config.stateTopic] := by
    rw [hlog, ← List.map_reverse]
    exact filters_subscribed _ _ _
  rw [hfilters]
  exact List.mem_append_left _ (List.mem_reverse.mpr h)

end HostApplication

end SparkplugB
