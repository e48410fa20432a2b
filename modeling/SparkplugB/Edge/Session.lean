/-
# Runs of the edge

The user calls the methods of the edge in any order, each time with a `DataSource` of their choice
where one is asked for.  An `Action` is one such call, and `perform` makes it on a transport
that keeps a journal; a message is written down before it is handled.  `Move` says once, case by
case, everything a call can do, and `perform_move` connects it to the methods.
-/
import SparkplugB.Edge.Runs
import SparkplugB.Lib.Run

namespace SparkplugB

/-! ## 1. The calls of a user -/

/-- One call of a public method of `EdgeNode`, with its arguments.  The `DataSource` may differ from
call to call, and `handle_incoming` may be handed any message whatever. -/
inductive Action where
  | connect (source : DataSource)
  | publishBirthSequence (source : DataSource)
  | publishNodeData (metrics : List Metric)
  | publishDeviceData (device : String) (metrics : List Metric)
  | publishDeviceDeath (device : String)
  | handleIncoming (message : IncomingMessage) (source : DataSource)
  | disconnect

namespace Action

/-- The method behind a call. -/
def call {T S : Type} [MqttTransport T] [BdSeqStore S] : Action → EdgeM T S Unit
  | connect source => EdgeNode.connect source
  | publishBirthSequence source => EdgeNode.publishBirthSequence source
  | publishNodeData metrics => EdgeNode.publishNodeData metrics
  | publishDeviceData device metrics => EdgeNode.publishDeviceData device metrics
  | publishDeviceDeath device => EdgeNode.publishDeviceDeath device
  | handleIncoming message source => do
    let _ ← EdgeNode.handleIncoming message source
  | disconnect => EdgeNode.disconnect

/-- The message a call hands to the edge. -/
def message? : Action → Option IncomingMessage
  | handleIncoming message _ => some message
  | _ => none

/-- The source a call is made with. -/
def source? : Action → Option DataSource
  | .connect source => some source
  | .publishBirthSequence source => some source
  | .handleIncoming _ source => some source
  | _ => none

/-- The call is one of `publish_birth_sequence` itself. -/
def isBirth : Action → Bool
  | publishBirthSequence _ => true
  | _ => false

end Action

/-- The STATE of the host `hostId` that a message carries: its topic is the STATE topic of this
host, its payload is UTF-8, and `StatePayload::parse` accepts the text. -/
def IncomingMessage.stateOf (message : IncomingMessage) (hostId : String) : Option StatePayload :=
  match SparkplugTopic.parse message.topic with
  | .ok (.hostState id) =>
    if id = hostId then
      (fromUtf8 message.payload).bind fun text => (StatePayload.parse text).toOption
    else none
  | _ => none

namespace Observed

variable {S : Type}

/-- An edge that `EdgeNode::new` has just created and that has not connected yet, with the store and
the readings of the clock that it is going to find. -/
def start (config : EdgeNodeConfig) (store : S) (clock : Clock) : Observed S :=
  ⟨.new config {} store, clock⟩

/-- Write down the message a call hands to the edge. -/
def arrive (s : Observed S) (a : Action) : Observed S :=
  match a.message? with
  | some message => s.note (.handled message)
  | none => s

/-- The edge after a call, whatever it returned.  A message that the call hands to the edge is
written down before it is handled, so that the journal says what the edge has heard and when. -/
def perform [BdSeqStore S] (s : Observed S) (a : Action) : Observed S :=
  (a.call.run (s.arrive a)).state

/-- The message is an NCMD that makes `handle_incoming` publish the births again: it can be decoded
with the alias map of the edge, it asks for a rebirth, and the debounce window of the last one has
passed. -/
def Triggers (s : Observed S) (message : IncomingMessage) : Prop :=
  (∃ group edge, SparkplugTopic.parse message.topic = .ok (.node group edge .nCmd)) ∧
    (∃ p, decode message.payload (some s.engine.aliasing.aliases) = .ok p ∧
      EdgeNode.isRebirth p = true) ∧
    s.engine.rebirthDue s.clock.head.instant = true

/-- `handle_incoming` accepts the message as a STATE of the primary host: it is one, and it is not
older than the last one the edge accepted. -/
def Accepts (s : Observed S) (message : IncomingMessage) (state : StatePayload) : Prop :=
  (∃ hostId, s.engine.config.primaryHostId = some hostId ∧
    message.stateOf hostId = some state) ∧
    ¬ s.engine.lastStateTs.any (fun last => state.timestamp < last) = true

/-- The message is a STATE of the primary host that is older than the last accepted one. -/
def Outdated (s : Observed S) (message : IncomingMessage) : Prop :=
  ∃ hostId state, s.engine.config.primaryHostId = some hostId ∧
    message.stateOf hostId = some state ∧
    s.engine.lastStateTs.any (fun last => state.timestamp < last) = true

/-- The call publishes the births of `source` on a connection with this bdSeq: it is a `connect` of
a node without a primary host, a call of `publish_birth_sequence` itself, an NCMD that triggers a
rebirth, or the ONLINE STATE that a node is waiting for. -/
def Births [BdSeqStore S] (s : Observed S) (source : DataSource) (bdSeq : UInt8) : Action → Prop
  | .connect src => src = source ∧ s.engine.config.primaryHostId = none ∧
    ∃ store, (BdSeqStore.loadNextDeath : EStateM String S UInt8).run s.engine.bdseqStore =
      .ok bdSeq store
  | .publishBirthSequence src => src = source ∧ bdSeq = s.engine.bdSeq
  | .handleIncoming message src => src = source ∧ bdSeq = s.engine.bdSeq ∧
    (s.Triggers message ∨
      ∃ state, s.Accepts message state ∧ state.online = true ∧
        s.engine.state = .waitingForPrimaryHost)
  | _ => False

/-! ## 2. What a call can do -/

/-- **Everything a call can do** to the edge: one constructor for each way through a method, with
the conditions under which it is taken and the state it leaves.  Every invariant of a run is proved
by cases on it, or through `Steady`, and no proof unfolds the engine again. -/
inductive Move [BdSeqStore S] (s : Observed S) : Action → Observed S → Prop
  | storeFails {source} (fails : s.StoreFails) (store : S) (bdSeq : UInt8) :
    Move s (.connect source) (s.update (·.withBdSeq store bdSeq))
  | connect {source bdSeq store store'}
      (load : (BdSeqStore.loadNextDeath : EStateM String S UInt8).run s.engine.bdseqStore =
        .ok bdSeq store)
      (save : (BdSeqStore.storeNextDeath (bdSeq + 1)).run store = .ok () store') :
    Move s (.connect source) ((s.update (·.withBdSeq store' bdSeq)).session source)
  | birth {source} : Move s (.publishBirthSequence source) (s.birth source)
  | nodeDataRefused {metrics} (off : s.engine.state ≠ .online) :
    Move s (.publishNodeData metrics) s
  | nodeData {metrics} (on : s.engine.state = .online) :
    Move s (.publishNodeData metrics)
      (s.sent (s.engine.dataMessage (s.engine.nodeTopic .nData) metrics s.ms))
  | deviceDataRefused {device metrics} : Move s (.publishDeviceData device metrics) s
  | deviceData {device : DeviceId} {metrics} (born : device.str ∈ s.engine.bornDevices) :
    Move s (.publishDeviceData device.str metrics)
      (s.sent (s.engine.dataMessage (s.engine.deviceTopic device .dData) metrics s.ms))
  | deviceDeathRefused {device} : Move s (.publishDeviceDeath device) s
  | deviceDeath {device : DeviceId} (born : device.str ∈ s.engine.bornDevices) :
    Move s (.publishDeviceDeath device.str)
      ((s.sent (s.engine.deviceDeathMessage device s.ms)).update fun node =>
        { node with bornDevices := s.engine.bornDevices.erase device.str })
  | unheeded {message source}
      (other : ∀ hostId, s.engine.config.primaryHostId = some hostId →
        message.stateOf hostId = none) :
    Move s (.handleIncoming message source) (s.note (.handled message))
  | debounced {message source}
      (other : ∀ hostId, message.stateOf hostId = none) :
    Move s (.handleIncoming message source) (s.note (.handled message)).debounced
  | rebirth {message source} (triggers : s.Triggers message) :
    Move s (.handleIncoming message source) ((s.note (.handled message)).rebirth source)
  | outdated {message source} (old : s.Outdated message) :
    Move s (.handleIncoming message source) (s.note (.handled message))
  | followed {message source state} (accepts : s.Accepts message state) :
    Move s (.handleIncoming message source) ((s.note (.handled message)).followed source state)
  | disconnect : Move s .disconnect s.gone

end Observed

/-! ## 3. The methods make these moves -/

theorem IncomingMessage.stateOf_of_parse {message : IncomingMessage} {topic : SparkplugTopic}
    {hostId : String} (hparse : SparkplugTopic.parse message.topic = .ok topic)
    (hother : topic ≠ .hostState hostId) : message.stateOf hostId = none := by
  unfold IncomingMessage.stateOf
  rw [hparse]
  cases topic with
  | hostState id =>
    have hid : id ≠ hostId := fun h => hother (by rw [h])
    simp only [if_neg hid]
  | _ => rfl

namespace EdgeNode

variable {S : Type}

/-- What `handle_incoming` does with a STATE. -/
theorem move_onHostState [BdSeqStore S] (s : Observed S) {message : IncomingMessage}
    (source : DataSource) {hostId : String}
    (hparse : SparkplugTopic.parse message.topic = .ok (.hostState hostId)) :
    s.Move (.handleIncoming message source)
      (((onHostState source hostId message.payload).run (s.note (.handled message))).state) := by
  have hof : ∀ id, message.stateOf id = if hostId = id then
      (fromUtf8 message.payload).bind fun text => (StatePayload.parse text).toOption else none := by
    intro id
    unfold IncomingMessage.stateOf
    rw [hparse]
  unfold onHostState
  rw [EStateM.bind_ok (run_self _)]
  by_cases hprimary : s.engine.config.primaryHostId = some hostId
  · have hnot : ¬ ((s.note (.handled message)).engine.config.primaryHostId ≠ some hostId) :=
      not_not.mpr hprimary
    rw [if_neg hnot]
    have hself := hof hostId
    rw [if_pos rfl] at hself
    -- a payload that is no STATE is an error that changes nothing
    have hbad : message.stateOf hostId = none →
        s.Move (.handleIncoming message source) (s.note (.handled message)) := by
      intro hnone
      refine .unheeded fun id hid => ?_
      obtain rfl : hostId = id := Option.some.inj (hprimary.symm.trans hid)
      exact hnone
    cases htext : fromUtf8 message.payload with
    | none =>
      rw [htext] at hself
      rw [Option.elim, EStateM.bind_error (EStateM.run_liftExcept_error _ _)]
      exact hbad hself
    | some text =>
      rw [htext, Option.bind_some] at hself
      rw [Option.elim, EStateM.bind_ok (EStateM.run_liftExcept_ok _ _)]
      cases hstate : StatePayload.parse text with
      | error e =>
        rw [hstate] at hself
        rw [EStateM.bind_error (EStateM.run_liftExcept_error _ _)]
        exact hbad hself
      | ok state =>
        rw [hstate] at hself
        rw [EStateM.bind_ok (EStateM.run_liftExcept_ok _ _), run_onPrimaryState]
        by_cases hold : s.engine.lastStateTs.any (fun last => state.timestamp < last) = true
        · rw [if_pos (show (s.note (.handled message)).engine.lastStateTs.any _ = true from hold)]
          exact .outdated ⟨hostId, state, hprimary, hself, hold⟩
        · rw [if_neg (show ¬ (s.note (.handled message)).engine.lastStateTs.any _ = true from hold)]
          exact .followed ⟨⟨hostId, hprimary, hself⟩, hold⟩
  · have hother : (s.note (.handled message)).engine.config.primaryHostId ≠ some hostId := hprimary
    rw [if_pos hother]
    refine .unheeded fun id hid => ?_
    rw [hof id, if_neg]
    rintro rfl
    exact hprimary hid

/-- What `handle_incoming` does with an NCMD. -/
theorem move_onNodeCommand [BdSeqStore S] (s : Observed S) {message : IncomingMessage}
    (source : DataSource) {group : GroupId} {edge : EdgeNodeId}
    (hparse : SparkplugTopic.parse message.topic = .ok (.node group edge .nCmd)) :
    s.Move (.handleIncoming message source)
      (((onNodeCommand source message.payload).run (s.note (.handled message))).state) := by
  have hstate : ∀ id, message.stateOf id = none := fun id =>
    IncomingMessage.stateOf_of_parse hparse (by simp)
  cases hdec : decode message.payload (some s.engine.aliasing.aliases) with
  | error e =>
    rw [run_onNodeCommand_error (s := s.note (.handled message)) hdec]
    exact .unheeded fun id _ => hstate id
  | ok p =>
    rw [run_onNodeCommand (s := s.note (.handled message)) hdec]
    by_cases hask : isRebirth p = true
    · rw [if_pos hask]
      by_cases hdue : s.engine.rebirthDue s.clock.head.instant = true
      · have hnow : (s.note (.handled message)).engine.rebirthDue
            (s.note (.handled message)).clock.head.instant = true := hdue
        rw [if_pos hnow]
        exact .rebirth ⟨⟨group, edge, hparse⟩, ⟨p, hdec, hask⟩, hdue⟩
      · have hnow : ¬ (s.note (.handled message)).engine.rebirthDue
            (s.note (.handled message)).clock.head.instant = true := hdue
        rw [if_neg hnow]
        exact .debounced hstate
    · rw [if_neg hask]
      exact .unheeded fun id _ => hstate id

theorem move_handleIncoming [BdSeqStore S] (s : Observed S) (message : IncomingMessage)
    (source : DataSource) :
    s.Move (.handleIncoming message source)
      (((handleIncoming message source).run (s.note (.handled message))).state) := by
  unfold handleIncoming
  cases hparse : SparkplugTopic.parse message.topic with
  | error e =>
    rw [EStateM.bind_error (EStateM.run_liftExcept_error _ _)]
    refine .unheeded fun id _ => ?_
    unfold IncomingMessage.stateOf
    rw [hparse]
  | ok topic =>
    rw [EStateM.bind_ok (EStateM.run_liftExcept_ok _ _)]
    have hquiet : (∀ id, topic ≠ .hostState id) →
        s.Move (.handleIncoming message source) (s.note (.handled message)) := fun h =>
      .unheeded fun id _ => IncomingMessage.stateOf_of_parse hparse (h id)
    cases topic with
    | hostState id => exact move_onHostState s source hparse
    | node group edge ty =>
      cases ty with
      | nCmd => exact move_onNodeCommand s source hparse
      | _ => exact hquiet fun id => by simp
    | device group edge device ty =>
      cases ty with
      | dCmd =>
        dsimp only
        rw [run_onDeviceCommand]
        exact hquiet fun id => by simp
      | _ => exact hquiet fun id => by simp

end EdgeNode

namespace Observed

variable {S : Type} [BdSeqStore S]

open EdgeNode in
/-- **Every call is one move**, whatever the call and the state of the edge are. -/
theorem perform_move (s : Observed S) (a : Action) : s.Move a (s.perform a) := by
  unfold perform
  cases a with
  | connect source =>
    rcases run_connect source s with ⟨e, store, bdSeq, hfails, h⟩ |
      ⟨bdSeq, store, store', hload, hsave, h⟩
    · show s.Move _ (((EdgeNode.connect source).run s).state)
      rw [h]
      exact .storeFails hfails store bdSeq
    · show s.Move _ (((EdgeNode.connect source).run s).state)
      rw [h]
      exact .connect hload hsave
  | publishBirthSequence source =>
    show s.Move _ (((EdgeNode.publishBirthSequence source).run s).state)
    rw [run_publishBirthSequence]
    exact .birth
  | publishNodeData metrics =>
    show s.Move _ (((EdgeNode.publishNodeData metrics).run s).state)
    by_cases hon : s.engine.state = .online
    · rw [run_publishNodeData hon]
      exact .nodeData hon
    · obtain ⟨e, h⟩ := run_publishNodeData_refused metrics hon
      rw [h]
      exact .nodeDataRefused hon
  | publishDeviceData device metrics =>
    show s.Move _ (((EdgeNode.publishDeviceData device metrics).run s).state)
    by_cases hborn : device ∈ s.engine.bornDevices
    · rw [run_publishDeviceData hborn]
      cases hid : (Ident.new device : Result DeviceId) with
      | error e => exact .deviceDataRefused
      | ok id =>
        obtain rfl := Ident.new_ok hid
        exact .deviceData hborn
    · obtain ⟨e, h⟩ := run_publishDeviceData_refused metrics (.inl hborn)
      rw [h]
      exact .deviceDataRefused
  | publishDeviceDeath device =>
    show s.Move _ (((EdgeNode.publishDeviceDeath device).run s).state)
    by_cases hborn : device ∈ s.engine.bornDevices
    · rw [run_publishDeviceDeath hborn]
      cases hid : (Ident.new device : Result DeviceId) with
      | error e => exact .deviceDeathRefused
      | ok id =>
        obtain rfl := Ident.new_ok hid
        exact .deviceDeath hborn
    · obtain ⟨e, h⟩ := run_publishDeviceDeath_refused (.inl hborn)
      rw [h]
      exact .deviceDeathRefused
  | handleIncoming message source =>
    have h := move_handleIncoming s message source
    have hcall : ((Action.handleIncoming message source).call.run
        (s.note (.handled message))).state =
        ((EdgeNode.handleIncoming message source).run (s.note (.handled message))).state := by
      show (EStateM.run (EdgeNode.handleIncoming message source >>= fun _ => pure ()) _).state = _
      rw [EStateM.run_bind]
      cases (EdgeNode.handleIncoming message source).run (s.note (.handled message)) <;> rfl
    show s.Move _ (((Action.handleIncoming message source).call.run
        (s.note (.handled message))).state)
    rw [hcall]
    exact h
  | disconnect =>
    show s.Move _ ((EdgeNode.disconnect.run s).state)
    rw [run_disconnect]
    exact .disconnect

/-! ## 4. Properties of every run -/

/-- A property of the edge that every elementary step keeps, if the sources of its births are `ok`
with the bdSeq of the connection.  A step reads the clock, assigns to fields that no message depends
on, or makes one call of the transport. -/
structure Steady (P : Observed S → Prop) (ok : UInt8 → DataSource → Prop) : Prop where
  tick {s} : P s → P s.tick
  fields {s} (f : EdgeNode Recorder S → EdgeNode Recorder S)
    (passive : ∀ node, (f node).config = node.config ∧ (f node).transport = node.transport ∧
      (f node).bdseqStore = node.bdseqStore ∧ (f node).seq = node.seq ∧
      (f node).bdSeq = node.bdSeq) : P s → P (s.update f)
  subscribe {s} (filter : String) : P s → P (s.subscribe filter)
  handled {s} (message : IncomingMessage) : P s → P (s.note (.handled message))
  disconnect {s} : P s → P (s.note .disconnect)
  storeFails {s} (store : S) (bdSeq : UInt8) : s.StoreFails → P s →
    P (s.update (·.withBdSeq store bdSeq))
  connect {s} {bdSeq : UInt8} {store store' : S} :
    (BdSeqStore.loadNextDeath : EStateM String S UInt8).run s.engine.bdseqStore =
      .ok bdSeq store →
    (BdSeqStore.storeNextDeath (bdSeq + 1)).run store = .ok () store' → P s →
    P ((s.update (·.withBdSeq store' bdSeq)).tick.note
      (.connect ((s.engine.withBdSeq store' bdSeq).connectOptions s.ms)))
  nodeBirth {s} {source : DataSource} : ok s.engine.bdSeq source → P s → P (s.nodeBirth source)
  deviceBirth {s} (source : DataSource) (device : DeviceId) : P s → P (s.deviceBirth source device)
  nodeDeath {s} : P s → P (s.tick.note (.publish (s.engine.ndeathMessage s.ms)))
  nodeData {s} (metrics : List Metric) : P s →
    P (s.sent (s.engine.dataMessage (s.engine.nodeTopic .nData) metrics s.ms))
  deviceData {s} (device : DeviceId) (metrics : List Metric) : P s →
    P (s.sent (s.engine.dataMessage (s.engine.deviceTopic device .dData) metrics s.ms))
  deviceDeath {s} (device : DeviceId) : P s →
    P (s.sent (s.engine.deviceDeathMessage device s.ms))

namespace Steady

variable {P : Observed S → Prop} {ok : UInt8 → DataSource → Prop} {s : Observed S}

theorem birth (h : Steady P ok) {source : DataSource} (hok : ok s.engine.bdSeq source) (hs : P s) :
    P (s.birth source) := by
  have hdevices : ∀ (devices : List DeviceId) (s : Observed S), P s →
      P (devices.foldl (Observed.deviceBirth source) s) := by
    intro devices
    induction devices with
    | nil => exact fun s hs => hs
    | cons device rest ih => exact fun s hs => ih _ (h.deviceBirth source device hs)
  exact h.fields _ (fun _ => ⟨rfl, rfl, rfl, rfl, rfl⟩) (hdevices _ _ (h.nodeBirth hok hs))

theorem gone (h : Steady P ok) (hs : P s) : P s.gone :=
  h.fields _ (fun _ => ⟨rfl, rfl, rfl, rfl, rfl⟩) (h.disconnect (h.nodeDeath hs))

theorem session (h : Steady P ok) {source : DataSource} {bdSeq : UInt8} {store store' : S}
    (hload : (BdSeqStore.loadNextDeath : EStateM String S UInt8).run s.engine.bdseqStore =
      .ok bdSeq store)
    (hsave : (BdSeqStore.storeNextDeath (bdSeq + 1)).run store = .ok () store')
    (hok : s.engine.config.primaryHostId = none → ok bdSeq source) (hs : P s) :
    P ((s.update (·.withBdSeq store' bdSeq)).session source) := by
  have hsubscribed : ∀ (topic : DeviceId → String) (devices : List DeviceId) (s : Observed S),
      P s → P (devices.foldl (fun s' device => s'.subscribe (topic device)) s) := by
    intro topic devices
    induction devices with
    | nil => exact fun s hs => hs
    | cons device rest ih => exact fun s hs => ih _ (h.subscribe (topic device) hs)
  have hconnected : P (s.update (·.withBdSeq store' bdSeq)).connected :=
    hsubscribed _ _ _ (h.subscribe _ (h.connect hload hsave hs))
  have hbdSeq : ∀ (topic : DeviceId → String) (devices : List DeviceId) (s : Observed S),
      (devices.foldl (fun s' device => s'.subscribe (topic device)) s).engine.bdSeq =
        s.engine.bdSeq := by
    intro topic devices
    induction devices with
    | nil => exact fun s => rfl
    | cons device rest ih => exact fun s => ih _
  unfold Observed.session
  have hprimary : (s.update (·.withBdSeq store' bdSeq)).engine.config.primaryHostId =
      s.engine.config.primaryHostId := rfl
  rw [hprimary]
  cases hhost : s.engine.config.primaryHostId with
  | some hostId =>
    exact h.fields _ (fun _ => ⟨rfl, rfl, rfl, rfl, rfl⟩) (h.subscribe _ hconnected)
  | none =>
    refine h.birth ?_ hconnected
    have hsame : (s.update (·.withBdSeq store' bdSeq)).connected.engine.bdSeq = bdSeq := hbdSeq _ _ _
    rw [hsame]
    exact hok hhost

/-- One call. -/
theorem perform (h : Steady P ok) (s : Observed S) (a : Action)
    (hok : ∀ source bdSeq, s.Births source bdSeq a → ok bdSeq source) (hs : P s) :
    P (s.perform a) := by
  have hdebounced : ∀ s : Observed S, P s → P s.debounced := by
    intro s hs
    unfold debounced
    split
    · exact h.tick hs
    · exact hs
  have hmove := s.perform_move a
  generalize s.perform a = s' at hmove ⊢
  cases hmove with
  | storeFails fails store bdSeq => exact h.storeFails store bdSeq fails hs
  | connect load save =>
    exact h.session load save (fun hprimary => hok _ _ ⟨rfl, hprimary, _, load⟩) hs
  | birth => exact h.birth (hok _ _ ⟨rfl, rfl⟩) hs
  | nodeDataRefused off => exact hs
  | nodeData on => exact h.nodeData _ hs
  | deviceDataRefused => exact hs
  | deviceData born => exact h.deviceData _ _ hs
  | deviceDeathRefused => exact hs
  | deviceDeath born =>
    exact h.fields _ (fun _ => ⟨rfl, rfl, rfl, rfl, rfl⟩) (h.deviceDeath _ hs)
  | unheeded other => exact h.handled _ hs
  | debounced other => exact hdebounced _ (h.handled _ hs)
  | @rebirth message source triggers =>
    have hsame : (s.note (.handled message)).debounced.engine.bdSeq = s.engine.bdSeq := by
      unfold debounced
      split <;> rfl
    refine h.fields _ (fun _ => ⟨rfl, rfl, rfl, rfl, rfl⟩) (h.tick (h.birth ?_ ?_))
    · rw [hsame]
      exact hok _ _ ⟨rfl, rfl, .inl triggers⟩
    · exact hdebounced _ (h.handled _ hs)
  | outdated old => exact h.handled _ hs
  | @followed message source state accepts =>
    have hset : P ((s.note (.handled message)).update fun node =>
        { node with lastStateTs := some state.timestamp }) :=
      h.fields _ (fun _ => ⟨rfl, rfl, rfl, rfl, rfl⟩) (h.handled _ hs)
    unfold followed
    dsimp only
    by_cases hon : state.online = true
    · rw [if_pos hon]
      by_cases hwait : (s.note (.handled message)).engine.state = .waitingForPrimaryHost
      · rw [if_pos hwait]
        exact h.birth (hok _ _ ⟨rfl, rfl, .inr ⟨state, accepts, hon, hwait⟩⟩) hset
      · rw [if_neg hwait]
        exact hset
    · rw [if_neg hon]
      by_cases honline : (s.note (.handled message)).engine.state = .online
      · rw [if_pos honline]
        exact h.gone hset
      · rw [if_neg honline]
        exact hset
  | disconnect => exact h.gone hs

/-- **The rule for runs of the edge.**  A steady property that holds in the beginning holds after
every list of calls whose births use sources that are `ok` when they are published. -/
theorem run (h : Steady P ok) (s : Observed S) (actions : List Action)
    (hok : Machine.Always Observed.perform
      (fun s a => ∀ source bdSeq, s.Births source bdSeq a → ok bdSeq source) s actions)
    (hs : P s) : P (Machine.run Observed.perform s actions) :=
  Machine.run_invariant (fun s a hs ha => h.perform s a ha hs) s actions hs hok

end Steady

end Observed

/-! ## 5. The journal of a run -/

/-- The journal of an edge that made these calls, the latest entry first: what it has connected
with, subscribed to and published, and the messages it was handed. -/
def journal {S : Type} [BdSeqStore S] (config : EdgeNodeConfig) (store : S) (clock : Clock)
    (actions : List Action) : List Entry :=
  (Machine.run Observed.perform (.start config store clock) actions).engine.transport.log

/-- What an entry gives to the broker. -/
def Entry.messages : Entry → List OutboundMessage
  | .connect opts => opts.will.toList
  | .publish message => [message]
  | _ => []

/-- No message of the journal, wills included, has `2 ^ 63` bytes or more.  A Rust buffer never has;
the codec's results need it, because lengths are written as varints of 64 bits. -/
def Sized (log : List Entry) : Prop :=
  ∀ e ∈ log, ∀ message ∈ e.messages, message.payload.length < 2 ^ 63

instance (log : List Entry) : Decidable (Sized log) :=
  inferInstanceAs (Decidable (∀ e ∈ log, ∀ message ∈ e.messages, message.payload.length < 2 ^ 63))

end SparkplugB
