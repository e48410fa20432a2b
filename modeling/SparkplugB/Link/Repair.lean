/-
# The STATE of a host, seen from an edge

An edge that follows a primary host drops a STATE older than the last one it accepted.

* **Repair** (`repairReaches_iff`): a host that hears an OFFLINE STATE of its own id publishes its
  ONLINE STATE again, with the timestamp of its start.  This reaches an edge that waits exactly when
  the OFFLINE STATE was not later than the start of the host.
* **Shutdown** (`shutdown_ends_iff`): the OFFLINE STATE of `shutdown` carries the time at which the
  host is shut down, so it ends the session of an edge exactly when the clock of the host has not
  gone back behind the last STATE that the edge accepted.
-/
import SparkplugB.Codec.WireLaws
import SparkplugB.Edge.Gate
import SparkplugB.Host.Death
import SparkplugB.StateText

namespace SparkplugB

/-- A STATE that is read is addressed to its host, and its text is one. -/
theorem IncomingMessage.read_of_stateOf {message : IncomingMessage} {hostId : String}
    {state : StatePayload} (h : message.stateOf hostId = some state) :
    SparkplugTopic.parse message.topic = .ok (.hostState hostId) ∧
      ∃ text, fromUtf8 message.payload = some text ∧ StatePayload.parse text = .ok state := by
  unfold IncomingMessage.stateOf at h
  cases hparse : SparkplugTopic.parse message.topic with
  | error e =>
    rw [hparse] at h
    exact absurd h (by simp)
  | ok topic =>
    rw [hparse] at h
    cases topic with
    | hostState id =>
      dsimp only at h
      by_cases hid : id = hostId
      · rw [if_pos hid] at h
        obtain ⟨text, htext, hstate⟩ := Option.bind_eq_some_iff.mp h
        refine ⟨by rw [hid], text, htext, ?_⟩
        cases hread : StatePayload.parse text with
        | error e =>
          rw [hread] at hstate
          exact absurd hstate (by simp [Except.toOption])
        | ok state' =>
          rw [hread] at hstate
          exact congrArg Except.ok (Option.some.inj hstate)
      · rw [if_neg hid] at h
        exact absurd h (by simp)
    | _ => exact absurd h (by simp)

/-- A STATE of a host is read as such, on the topic of its id. -/
theorem HostConfig.stateOf_delivered {config : HostConfig}
    (hvalid : validateId config.hostId = .ok ()) {message : OutboundMessage} {state : StatePayload}
    (htopic : message.topic = config.stateTopic) (htext : message.payload = asBytes state.toJson) :
    message.delivered.stateOf config.hostId = some state := by
  have hparse : SparkplugTopic.parse message.delivered.topic = .ok (.hostState config.hostId) :=
    (congrArg SparkplugTopic.parse htopic).trans
      (SparkplugTopic.parse_toString (t := .hostState config.hostId) hvalid)
  have hpayload : message.delivered.payload = asBytes state.toJson := htext
  unfold IncomingMessage.stateOf
  rw [hparse]
  dsimp only
  rw [if_pos rfl, hpayload, fromUtf8_asBytes, Option.bind_some, StatePayload.parse_toJson]
  rfl

/-! ## 1. The host -/

namespace HostApplication

theorem stateOf_stateBirth {T : Type} (host : HostApplication T)
    (hvalid : validateId host.config.hostId = .ok ()) :
    host.stateBirth.delivered.stateOf host.config.hostId = some ⟨true, host.stateTs⟩ :=
  HostConfig.stateOf_delivered hvalid rfl rfl

/-- The OFFLINE STATE that `shutdown` publishes at `now`. -/
def stateDeath {T : Type} (host : HostApplication T) (now : Reading) : OutboundMessage where
  topic := host.config.stateTopic
  qos := .atLeastOnce
  retain := true
  payload := asBytes (StatePayload.toJson ⟨false, now.hostMs⟩)

/-- `shutdown` publishes it and closes the connection; the records of the nodes stay. -/
theorem run_shutdown (host : HostApplication Recorder) (now : Reading) :
    (shutdown now).run host =
      .ok () { host with
        transport := (host.transport.note (.publish (host.stateDeath now))).note .disconnect } :=
  rfl

theorem stateOf_stateDeath {T : Type} (host : HostApplication T) (now : Reading)
    (hvalid : validateId host.config.hostId = .ok ()) :
    (host.stateDeath now).delivered.stateOf host.config.hostId = some ⟨false, now.hostMs⟩ :=
  HostConfig.stateOf_delivered hvalid rfl rfl

/-- **Self-STATE repair**: `handle_incoming` answers an OFFLINE STATE of the host's own id with the
ONLINE STATE of its start, once more. -/
theorem next_ownOffline (host : HostApplication Recorder) (now : Reading)
    {message : IncomingMessage} {x : Int64}
    (offline : message.stateOf host.config.hostId = some ⟨false, x⟩) :
    host.next (now, message) =
      { host with transport := host.transport.note (.publish host.stateBirth) } := by
  obtain ⟨hparse, text, htext, hstate⟩ := IncomingMessage.read_of_stateOf offline
  unfold next handleIncoming onHostState
  simp only [hparse, htext, hstate, Option.elim, EStateM.run_bind, EStateM.run_liftExcept_ok,
    EStateM.run_get, if_true, Bool.false_eq_true, if_false]
  rfl

end HostApplication

/-! ## 2. The edge -/

namespace EdgeNode

variable {S : Type}

/-- What an edge does with a STATE of its primary host. -/
theorem run_handleIncoming_state (source : DataSource) {s : Observed S}
    {message : IncomingMessage} {hostId : String} {state : StatePayload}
    (hprimary : s.engine.config.primaryHostId = some hostId)
    (hstate : message.stateOf hostId = some state) :
    (handleIncoming message source).run s =
      if s.engine.lastStateTs.any (fun last => state.timestamp < last) then .ok .ignored s
      else .ok (.primaryHostState state) (s.followed source state) := by
  obtain ⟨hparse, text, htext, hread⟩ := IncomingMessage.read_of_stateOf hstate
  unfold handleIncoming
  rw [hparse, EStateM.bind_ok (EStateM.run_liftExcept_ok _ _)]
  show (onHostState source hostId message.payload).run s = _
  unfold onHostState
  rw [EStateM.bind_ok (run_self s), if_neg (not_not.mpr hprimary), htext, Option.elim,
    EStateM.bind_ok (EStateM.run_liftExcept_ok _ _), hread,
    EStateM.bind_ok (EStateM.run_liftExcept_ok _ _), run_onPrimaryState]

end EdgeNode

/-! ## 3. The repair -/

/-- The host answers the message with one publication, and this is accepted by the edge, once it has
handled the message too, and makes it publish its NBIRTH and the DBIRTHs of its devices. -/
def RepairReaches {S : Type} (host : HostApplication Recorder) (now : Reading)
    (edge : Observed S) (source : DataSource) (message : IncomingMessage) : Prop :=
  ∃ answer : OutboundMessage,
    (host.next (now, message)).transport.log = .publish answer :: host.transport.log ∧
    ∃ (state : StatePayload) (heard born : Observed S),
      heard = ((EdgeNode.handleIncoming message source).run edge).state ∧
      (EdgeNode.handleIncoming answer.delivered source).run heard =
        .ok (.primaryHostState state) born ∧
      state.online = true ∧ born.engine.state = .online ∧
      born.view.marks = heard.view.devices.reverse.map (fun d => .device d.str .dBirth) ++
        .node .nBirth :: heard.view.marks

variable {S : Type}

/-- The edge takes a timestamp for the last one it accepted. -/
def Observed.remember (x : Int64) (s : Observed S) : Observed S :=
  s.update fun node => { node with lastStateTs := some x }

/-- An ONLINE STATE at an edge that waits and has accepted one before. -/
theorem run_handleIncoming_online {s : Observed S} (source : DataSource)
    {message : IncomingMessage} {hostId : String} {last ts : Int64}
    (primary : s.engine.config.primaryHostId = some hostId)
    (waiting : s.engine.state = .waitingForPrimaryHost)
    (online : message.stateOf hostId = some ⟨true, ts⟩) (hlast : s.engine.lastStateTs = some last) :
    (EdgeNode.handleIncoming message source).run s =
      if ts < last then .ok .ignored s
      else .ok (.primaryHostState ⟨true, ts⟩) ((s.remember ts).birth source) := by
  rw [EdgeNode.run_handleIncoming_state source primary online, hlast]
  simp only [Option.any_some, decide_eq_true_eq, Observed.followed, if_true, if_pos waiting]
  rfl

/-- What the waiting edge makes of an OFFLINE STATE: it remembers the timestamp. -/
theorem heard_of_offline (source : DataSource) {edge : Observed S} {message : IncomingMessage}
    {hostId : String} {x : Int64}
    (primary : edge.engine.config.primaryHostId = some hostId)
    (waiting : edge.engine.state = .waitingForPrimaryHost)
    (offline : message.stateOf hostId = some ⟨false, x⟩)
    (notOlder : ∀ last, edge.engine.lastStateTs = some last → last ≤ x) :
    ((EdgeNode.handleIncoming message source).run edge).state =
      edge.remember x := by
  have hnew : ¬ edge.engine.lastStateTs.any (fun last => x < last) = true := by
    intro hold
    obtain ⟨last, hlast, hlt⟩ := (Option.any_eq_true _ _).mp hold
    exact Int64.not_lt.mpr (notOlder last hlast) (of_decide_eq_true hlt)
  rw [EdgeNode.run_handleIncoming_state source primary offline, if_neg hnew,
    EStateM.Result.state_ok]
  unfold Observed.followed
  dsimp only
  rw [if_neg Bool.false_ne_true, waiting, if_neg (by decide)]
  rfl

section Reaches

variable (host : HostApplication Recorder) (now : Reading) (edge : Observed S)
  (source : DataSource) {message : IncomingMessage} {x : Int64}
  (valid : validateId host.config.hostId = .ok ())
  (primary : edge.engine.config.primaryHostId = some host.config.hostId)
  (waiting : edge.engine.state = .waitingForPrimaryHost)
  (offline : message.stateOf host.config.hostId = some ⟨false, x⟩)
  (notOlder : ∀ last, edge.engine.lastStateTs = some last → last ≤ x)

include valid primary waiting offline notOlder

/-- The answer to an OFFLINE STATE later than the host's own timestamp is dropped. -/
theorem le_of_repairReaches (h : RepairReaches host now edge source message) :
    x ≤ host.stateTs := by
  obtain ⟨answer, hlog, state, heard, born, rfl, hborn, -⟩ := h
  rw [HostApplication.next_ownOffline host now offline] at hlog
  obtain rfl : host.stateBirth = answer := Entry.publish.inj (List.cons.inj hlog).1
  by_contra hlate
  rw [heard_of_offline source primary waiting offline notOlder,
    run_handleIncoming_online (s := edge.remember x) source primary waiting
      (HostApplication.stateOf_stateBirth host valid) rfl,
    if_pos (Int64.not_le.mp hlate)] at hborn
  exact absurd hborn (by simp)

/-- The answer to any other one makes the edge publish its births. -/
theorem repairReaches_of_le (hle : x ≤ host.stateTs) :
    RepairReaches host now edge source message := by
  have hheard := heard_of_offline source primary waiting offline notOlder
  have hrun := run_handleIncoming_online (s := edge.remember x) source primary waiting
    (HostApplication.stateOf_stateBirth host valid) rfl
  rw [if_neg (Int64.not_lt.mpr hle)] at hrun
  have hview := Observed.view_birth source ((edge.remember x).remember host.stateTs)
  refine ⟨host.stateBirth, ?_, ⟨true, host.stateTs⟩, edge.remember x, _, hheard.symm, hrun, rfl,
    rfl, ?_⟩
  · rw [HostApplication.next_ownOffline host now offline]
    rfl
  · rw [hview]
    rfl

/-- **The repair of a host's STATE reaches a waiting edge** exactly when the OFFLINE STATE is not
later than the timestamp the host has published since its start: the repair has that timestamp, and
the edge has remembered the OFFLINE one.  The edge waits for this host (`primary`, `waiting`), and
the OFFLINE STATE is news to it (`notOlder`). -/
theorem repairReaches_iff :
    RepairReaches host now edge source message ↔ x ≤ host.stateTs :=
  ⟨le_of_repairReaches host now edge source valid primary waiting offline notOlder,
    repairReaches_of_le host now edge source valid primary waiting offline notOlder⟩

end Reaches

/-! ## 4. The end of a session -/

/-- **A shutdown ends the session of an edge** that follows the host exactly when its OFFLINE STATE
is not older than the last one the edge accepted.  The edge then leaves as `disconnect` does, with
an NDEATH of its own; otherwise it drops the message as stale and stays online without its host. -/
theorem shutdown_ends_iff (host : HostApplication Recorder) (now : Reading) (edge : Observed S)
    (source : DataSource) (valid : validateId host.config.hostId = .ok ())
    (primary : edge.engine.config.primaryHostId = some host.config.hostId)
    (online : edge.engine.state = .online) :
    ∃ offline : OutboundMessage,
      ((HostApplication.shutdown now).run host).state.transport.log =
          .disconnect :: .publish offline :: host.transport.log ∧
        (((EdgeNode.handleIncoming offline.delivered source).run edge).state =
            (edge.remember now.hostMs).gone ↔
          ∀ last, edge.engine.lastStateTs = some last → last ≤ now.hostMs) := by
  refine ⟨host.stateDeath now, by rw [HostApplication.run_shutdown]; rfl, ?_⟩
  rw [EdgeNode.run_handleIncoming_state source primary (host.stateOf_stateDeath now valid)]
  by_cases hstale : edge.engine.lastStateTs.any (fun last => decide (now.hostMs < last)) = true
  · -- the edge has accepted a later STATE, and drops this one
    obtain ⟨last, hlast, hlt⟩ := (Option.any_eq_true _ _).mp hstale
    rw [if_pos hstale, EStateM.Result.state_ok]
    refine iff_of_false (fun hsame => ?_) fun hall => ?_
    · have hlog : edge.engine.transport.log = _ :: _ :: edge.engine.transport.log :=
        congrArg (fun s : Observed S => s.engine.transport.log) hsame
      have hlength := congrArg List.length hlog
      simp only [List.length_cons] at hlength
      omega
    · exact Int64.not_lt.mpr (hall last hlast) (of_decide_eq_true hlt)
  · rw [if_neg hstale, EStateM.Result.state_ok]
    refine iff_of_true ?_ fun last hlast => ?_
    · unfold Observed.followed
      dsimp only
      rw [if_neg Bool.false_ne_true, if_pos online]
      rfl
    · by_contra hle
      exact hstale ((Option.any_eq_true _ _).mpr
        ⟨last, hlast, decide_eq_true (Int64.not_le.mp hle)⟩)

/-! ## 5. A line that waits for its host -/

/-- The host, started at time 5. -/
def scadaHost : HostApplication Recorder := { freshHost with stateTs := 5 }

/-- The line has connected and waits. -/
def waitingLine : Observed InMemoryBdSeqStore :=
  (Observed.start gatedLine (⟨0⟩ : InMemoryBdSeqStore) stopped).perform (.connect silent)

/-- An OFFLINE STATE of the host. -/
def scadaOffline (x : Int64) : IncomingMessage where
  topic := "spBv1.0/STATE/scada"
  payload := asBytes (StatePayload.toJson ⟨false, x⟩)

theorem stateOf_scadaOffline (x : Int64) :
    (scadaOffline x).stateOf "scada" = some ⟨false, x⟩ := by
  have hparse : SparkplugTopic.parse "spBv1.0/STATE/scada" = .ok (.hostState "scada") := by
    decide +kernel
  unfold IncomingMessage.stateOf scadaOffline
  dsimp only
  rw [hparse]
  dsimp only
  rw [if_pos rfl]
  show (fromUtf8 (asBytes _)).bind _ = _
  rw [fromUtf8_asBytes, Option.bind_some, StatePayload.parse_toJson]
  rfl

/-- The will of an earlier session of the host is repaired. -/
theorem earlier_offline_repaired :
    RepairReaches scadaHost noon waitingLine silent (scadaOffline 3) := by
  have waiting : waitingLine.engine.state = .waitingForPrimaryHost := by decide +kernel
  have hnone : waitingLine.engine.lastStateTs = none := by decide +kernel
  refine (repairReaches_iff scadaHost noon waitingLine silent (by decide +kernel) rfl waiting
    (stateOf_scadaOffline 3) ?_).mpr (by decide)
  intro last hlast
  exact absurd (hnone.symm.trans hlast) (by simp)

/-- **A later OFFLINE is not repaired.**  Another instance of the host shuts down at time 7, after
the start of this one; the line drops the ONLINE STATE this one answers with. -/
theorem later_offline_not_repaired :
    ¬ ∀ (host : HostApplication Recorder) (now : Reading) (edge : Observed InMemoryBdSeqStore)
        (source : DataSource) (message : IncomingMessage) (x : Int64),
        validateId host.config.hostId = .ok () →
        edge.engine.config.primaryHostId = some host.config.hostId →
        edge.engine.state = .waitingForPrimaryHost →
        message.stateOf host.config.hostId = some ⟨false, x⟩ →
        (∀ last, edge.engine.lastStateTs = some last → last ≤ x) →
        RepairReaches host now edge source message := by
  intro claim
  have waiting : waitingLine.engine.state = .waitingForPrimaryHost := by decide +kernel
  have hnone : waitingLine.engine.lastStateTs = none := by decide +kernel
  have notOlder : ∀ last, waitingLine.engine.lastStateTs = some last → last ≤ 7 := by
    intro last hlast
    exact absurd (hnone.symm.trans hlast) (by simp)
  have hrepaired := claim scadaHost noon waitingLine silent (scadaOffline 7) 7 (by decide +kernel)
    rfl waiting (stateOf_scadaOffline 7) notOlder
  have hle := le_of_repairReaches scadaHost noon waitingLine silent (by decide +kernel) rfl waiting
    (stateOf_scadaOffline 7) notOlder hrepaired
  exact absurd hle (by decide)

end SparkplugB
