/-
# What the methods of the edge do when every transport call succeeds

On the `Recorder` transport a method is a function of the engine and the clock readings to come.
Each lemma of this file writes that function out: what is sent, and what the engine looks like
afterwards.  Nothing after this file unfolds a method.
-/
import SparkplugB.Edge.Engine

namespace SparkplugB

/-- An edge on a transport that keeps a journal and answers every call, and its clock.  Runs of the
edge are stated on it wherever no call of the transport fails; `Faulty` is the transport that
may. -/
abbrev Observed (S : Type) := Timed (EdgeNode Recorder S)

namespace Observed

variable {S : Type}

/-- Take the next reading. -/
def tick (s : Observed S) : Observed S := { s with clock := s.clock.tail }

/-- What `now_ms()` returns next. -/
def ms (s : Observed S) : UInt64 := s.clock.head.edgeMs

/-- Write down one entry of the journal. -/
def note (e : Entry) (s : Observed S) : Observed S :=
  { s with engine := { s.engine with transport := s.engine.transport.note e } }

/-- Change fields of the engine. -/
def update (f : EdgeNode Recorder S → EdgeNode Recorder S) (s : Observed S) : Observed S :=
  { s with engine := f s.engine }

end Observed

namespace EdgeNode

variable {S : Type}

/-! ## 1. The primitives -/

@[simp] theorem run_self {T : Type} (s : Timed (EdgeNode T S)) :
    (self : EdgeM T S (EdgeNode T S)).run s = .ok s.engine s := rfl

@[simp] theorem run_assign (f : EdgeNode Recorder S → EdgeNode Recorder S) (s : Observed S) :
    (assign f).run s = .ok () (s.update f) := rfl

@[simp] theorem run_nowMs (s : Observed S) : nowMs.run s = .ok s.ms s.tick := rfl

/-- One sequence number consumed. -/
def advanceSeq (node : EdgeNode Recorder S) : EdgeNode Recorder S :=
  { node with seq := node.seq.nextValue.2 }

@[simp] theorem run_nextSeq (s : Observed S) :
    nextSeq.run s = .ok s.engine.seq.val (s.update advanceSeq) := rfl

@[simp] theorem run_connectCall (opts : ConnectOptions) (s : Observed S) :
    (onTransport (MqttTransport.connect opts)).run s = .ok () (s.note (.connect opts)) := rfl

@[simp] theorem run_subscribeCall (filter : String) (qos : Qos) (s : Observed S) :
    (onTransport (MqttTransport.subscribe filter qos)).run s =
      .ok () (s.note (.subscribe filter qos)) := rfl

@[simp] theorem run_disconnectCall (s : Observed S) :
    (onTransport MqttTransport.disconnect).run s = .ok () (s.note .disconnect) := rfl

@[simp] theorem run_publishRaw (topic : String) (payload : Bytes) (qos : Qos) (retain : Bool)
    (s : Observed S) :
    (publishRaw topic payload qos retain).run s =
      .ok () (s.note (.publish { topic, qos, retain, payload })) := rfl

/-- The metrics of a birth as they are sent, and the alias map after it. -/
def aliased (node : EdgeNode Recorder S) (metrics : List Metric) : List Metric × Aliasing :=
  if node.config.useAliases then node.aliasing.assignAll metrics else (metrics, node.aliasing)

@[simp] theorem run_assignAliases (metrics : List Metric) (s : Observed S) :
    (assignAliases metrics).run s =
      .ok (s.engine.aliased metrics).1
        (s.update fun node => { node with aliasing := (s.engine.aliased metrics).2 }) := by
  unfold assignAliases aliased
  by_cases h : s.engine.config.useAliases = true
  · simp [h]
  · simp [h, Observed.update]

/-! ## 2. Births -/

/-- The payload of a message that carries a sequence number, as `publish_birth_sequence` and
`publish_device_birth` build it: the metrics with their aliases and stamps, the time, and the number
that is due. -/
def sequenced (node : EdgeNode Recorder S) (metrics : List Metric) (ts : UInt64) : Payload where
  timestamp := some ts
  metrics := stamp metrics ts
  seq := some node.seq.val

/-- The DBIRTH of a device. -/
def deviceBirthMessage (node : EdgeNode Recorder S) (source : DataSource) (device : DeviceId)
    (ts : UInt64) : OutboundMessage where
  topic := node.deviceTopic device .dBirth
  qos := .atMostOnce
  retain := false
  payload := encode (node.sequenced (node.aliased (source.deviceBirthMetrics device.str)).1 ts)
    .birth

/-- The engine after a DBIRTH has been sent. -/
def afterDeviceBirth (node : EdgeNode Recorder S) (source : DataSource) (device : DeviceId)
    (ts : UInt64) : EdgeNode Recorder S :=
  { node with
    transport := node.transport.note (.publish (node.deviceBirthMessage source device ts))
    seq := node.seq.nextValue.2
    aliasing := (node.aliased (source.deviceBirthMetrics device.str)).2
    bornDevices := node.bornDevices ++ [device.str] }

end EdgeNode

namespace Observed

variable {S : Type}

/-- After `publish_device_birth` for one device: the DBIRTH is in the journal, its aliases are
assigned, its number is used, and the device is born. -/
def deviceBirth (source : DataSource) (s : Observed S) (device : DeviceId) : Observed S :=
  ⟨s.engine.afterDeviceBirth source device s.ms, s.clock.tail⟩

end Observed

namespace EdgeNode

variable {S : Type}

theorem run_publishDeviceBirth (source : DataSource) (device : DeviceId) (s : Observed S) :
    (publishDeviceBirth source device).run s = .ok () (s.deviceBirth source device) := by
  simp only [publishDeviceBirth, EStateM.run_bind, run_nowMs, run_assignAliases, run_nextSeq,
    run_self, run_publishRaw, run_assign]
  rfl

/-- The loop over the devices. -/
theorem run_deviceBirths (source : DataSource) :
    ∀ (devices : List DeviceId) (s : Observed S),
      (devices.forM (publishDeviceBirth source)).run s =
        .ok () (devices.foldl (Observed.deviceBirth source) s)
  | [], _ => rfl
  | device :: rest, s => by
    rw [List.forM_eq_forM, List.forM_cons, EStateM.bind_ok (run_publishDeviceBirth source device s),
      ← List.forM_eq_forM, run_deviceBirths source rest, List.foldl_cons]

/-- The NBIRTH, published on an engine that has been reset. -/
def nodeBirthMessage (node : EdgeNode Recorder S) (source : DataSource) (ts : UInt64) :
    OutboundMessage where
  topic := node.nodeTopic .nBirth
  qos := .atMostOnce
  retain := false
  payload := encode
    (node.sequenced (node.aliased (controlled node.bdSeq source.nodeBirthMetrics)).1 ts) .birth

/-- The engine after an NBIRTH has been sent. -/
def afterNodeBirth (node : EdgeNode Recorder S) (source : DataSource) (ts : UInt64) :
    EdgeNode Recorder S :=
  { node with
    transport := node.transport.note (.publish (node.nodeBirthMessage source ts))
    seq := node.seq.nextValue.2
    aliasing := (node.aliased (controlled node.bdSeq source.nodeBirthMetrics)).2 }

end EdgeNode

namespace Observed

variable {S : Type}

/-- After the NBIRTH of `publish_birth_sequence`: the engine has been reset, the NBIRTH is in the
journal, and the number 1 is due. -/
def nodeBirth (source : DataSource) (s : Observed S) : Observed S :=
  ⟨s.engine.resetForBirth.afterNodeBirth source s.ms, s.clock.tail⟩

/-- After `publish_birth_sequence`: the NBIRTH and the DBIRTH of every configured device are in the
journal, in this order, and the node is online. -/
def birth (source : DataSource) (s : Observed S) : Observed S :=
  (s.engine.config.devices.foldl (deviceBirth source) (s.nodeBirth source)).update
    fun node => { node with state := .online }

end Observed

namespace EdgeNode

variable {S : Type}

theorem run_publishBirthSequence (source : DataSource) (s : Observed S) :
    (publishBirthSequence source).run s = .ok () (s.birth source) := by
  simp only [publishBirthSequence, buildNodeBirthMetrics, EStateM.run_bind, run_assign, run_nowMs,
    run_assignAliases, run_nextSeq, run_self, run_publishRaw, run_deviceBirths]
  rfl

/-! ## 3. Sessions -/

/-- The NDEATH registered as the will, and published on a graceful disconnect. -/
def ndeathMessage (node : EdgeNode Recorder S) (ts : UInt64) : OutboundMessage where
  topic := node.nodeTopic .nDeath
  qos := .atLeastOnce
  retain := false
  payload := encode (node.ndeathPayload ts) .birth

/-- The options with which `connect` calls the transport: a clean start, and the NDEATH of this
connection as the will. -/
def connectOptions (node : EdgeNode Recorder S) (ts : UInt64) : ConnectOptions where
  clientId := node.config.clientId
  host := node.config.host
  port := node.config.port
  keepAliveSecs := node.config.keepAliveSecs
  cleanStart := true
  will := some (node.ndeathMessage ts)
  tls := node.config.tls

end EdgeNode

namespace Observed

variable {S : Type}

def subscribe (s : Observed S) (filter : String) : Observed S :=
  s.note (.subscribe filter .atLeastOnce)

/-- After the transport has connected with the NDEATH as its will, and the NCMD topic and the DCMD
topics are subscribed. -/
def connected (s : Observed S) : Observed S :=
  s.engine.config.devices.foldl (fun s' device => s'.subscribe (s.engine.deviceTopic device .dCmd))
    ((s.tick.note (.connect (s.engine.connectOptions s.ms))).subscribe (s.engine.nodeTopic .nCmd))

/-- After `connect`, once the store has given out a bdSeq: the node waits for its primary host if it
has one, and has published its births if it has none. -/
def session (source : DataSource) (s : Observed S) : Observed S :=
  match s.engine.config.primaryHostId with
  | some hostId => (s.connected.subscribe s!"spBv1.0/STATE/{hostId}").update
      fun node => { node with state := .waitingForPrimaryHost }
  | none => s.connected.birth source

/-- After `disconnect`: the NDEATH and the end of the connection are in the journal, and the node is
disconnected.  The list of born devices, the aliases and the numbers are left as they are. -/
def gone (s : Observed S) : Observed S :=
  ((s.tick.note (.publish (s.engine.ndeathMessage s.ms))).note .disconnect).update
    fun node => { node with state := .disconnected }

/-- `connect` will not get a bdSeq from the store, or will not get the next one saved. -/
def StoreFails [BdSeqStore S] (s : Observed S) : Prop :=
  (∃ e store, (BdSeqStore.loadNextDeath : EStateM String S UInt8).run s.engine.bdseqStore =
    .error e store) ∨
  ∃ bdSeq store e store',
    (BdSeqStore.loadNextDeath : EStateM String S UInt8).run s.engine.bdseqStore =
      .ok bdSeq store ∧
    (BdSeqStore.storeNextDeath (bdSeq + 1)).run store = .error e store'

end Observed

namespace EdgeNode

variable {S : Type}

theorem run_subscribeDevices (node : EdgeNode Recorder S) :
    ∀ (devices : List DeviceId) (s : Observed S),
      (devices.forM fun device => (onTransport (MqttTransport.subscribe
          (node.deviceTopic device .dCmd) .atLeastOnce) : EdgeM Recorder S Unit)).run s =
        .ok () (devices.foldl (fun (s' : Observed S) device =>
          s'.subscribe (node.deviceTopic device .dCmd)) s)
  | [], _ => rfl
  | device :: rest, s => by
    rw [List.forM_eq_forM, List.forM_cons, EStateM.bind_ok (run_subscribeCall _ _ s),
      ← List.forM_eq_forM, run_subscribeDevices node rest, List.foldl_cons]
    rfl

theorem run_disconnect (s : Observed S) : disconnect.run s = .ok () s.gone := by
  simp only [disconnect, EStateM.run_bind, run_nowMs, run_self, run_publishRaw, run_disconnectCall,
    run_assign]
  rfl

/-- Put back what a call on the store leaves. -/
def withStore (node : EdgeNode Recorder S) (store : S) : EdgeNode Recorder S :=
  { node with bdseqStore := store }

theorem run_onStore_ok {α : Type} {p : EStateM String S α} {s : Observed S} {a : α} {store : S}
    (h : p.run s.engine.bdseqStore = .ok a store) :
    (onStore p).run s = .ok a (s.update (·.withStore store)) := by
  refine EStateM.run_focus_ok _ _ ?_
  simp only [EStateM.adaptExcept, EStateM.run] at h ⊢
  rw [h]

theorem run_onStore_error {α : Type} {p : EStateM String S α} {s : Observed S} {e : String}
    {store : S} (h : p.run s.engine.bdseqStore = .error e store) :
    (onStore p).run s = .error (.io e) (s.update (·.withStore store)) := by
  refine EStateM.run_focus_error _ _ ?_
  simp only [EStateM.adaptExcept, EStateM.run] at h ⊢
  rw [h]

theorem run_openSession (source : DataSource) (s : Observed S) :
    (openSession source).run s = .ok () (s.session source) := by
  simp only [openSession, EStateM.run_bind, run_nowMs, run_self, run_connectCall,
    run_subscribeCall, run_subscribeDevices, Observed.session]
  cases hprimary : s.engine.config.primaryHostId with
  | some hostId =>
    have htick : s.tick.engine.config.primaryHostId = some hostId := hprimary
    simp only [htick, EStateM.run_bind, run_subscribeCall, run_assign]
    rfl
  | none =>
    have htick : s.tick.engine.config.primaryHostId = none := hprimary
    simp only [htick, run_publishBirthSequence]
    rfl

variable [BdSeqStore S]

/-- Set the bdSeq of the connection, and what the store became. -/
def withBdSeq (node : EdgeNode Recorder S) (store : S) (bdSeq : UInt8) : EdgeNode Recorder S :=
  { node with bdseqStore := store, bdSeq }

/-- `connect` on a transport that answers: either the store fails, and nothing but `bd_seq` and the
store has changed, or a session starts with the bdSeq the store has given out, once the next one has
been saved. -/
theorem run_connect (source : DataSource) (s : Observed S) :
    (∃ e store bdSeq, s.StoreFails ∧
      (connect source).run s = .error e (s.update (·.withBdSeq store bdSeq))) ∨
    ∃ bdSeq store store',
      (BdSeqStore.loadNextDeath : EStateM String S UInt8).run s.engine.bdseqStore =
        .ok bdSeq store ∧
      (BdSeqStore.storeNextDeath (bdSeq + 1)).run store = .ok () store' ∧
      (connect source).run s = .ok () ((s.update (·.withBdSeq store' bdSeq)).session source) := by
  unfold connect
  cases hload : (BdSeqStore.loadNextDeath : EStateM String S UInt8).run s.engine.bdseqStore with
  | error e store =>
    exact .inl ⟨.io e, store, s.engine.bdSeq, .inl ⟨e, store, hload⟩,
      EStateM.bind_error (run_onStore_error hload)⟩
  | ok bdSeq store =>
    rw [EStateM.bind_ok (run_onStore_ok hload), EStateM.bind_ok (run_assign _ _)]
    cases hstore : (BdSeqStore.storeNextDeath (bdSeq + 1)).run store with
    | error e store' =>
      exact .inl ⟨.io e, store', bdSeq, .inr ⟨bdSeq, store, e, store', hload, hstore⟩,
        EStateM.bind_error (run_onStore_error hstore)⟩
    | ok u store' =>
      refine .inr ⟨bdSeq, store, store', rfl, hstore, ?_⟩
      rw [EStateM.bind_ok (run_onStore_ok hstore)]
      exact run_openSession source (s.update (·.withBdSeq store' bdSeq))

end EdgeNode

/-! ## 4. Data -/

namespace EdgeNode

variable {S : Type}

/-- The message that carries data. -/
def dataMessage (node : EdgeNode Recorder S) (topic : String) (metrics : List Metric)
    (ts : UInt64) : OutboundMessage where
  topic
  qos := .atMostOnce
  retain := false
  payload := encode (node.sequenced (node.toDataMetrics metrics) ts) .data

/-- The DDEATH of a device. -/
def deviceDeathMessage (node : EdgeNode Recorder S) (device : DeviceId) (ts : UInt64) :
    OutboundMessage where
  topic := node.deviceTopic device .dDeath
  qos := .atMostOnce
  retain := false
  payload := encode (node.sequenced [] ts) .birth

/-- Whether the debounce window has passed at the next reading. -/
def rebirthDue (node : EdgeNode Recorder S) (now : Nat) : Bool :=
  node.lastRebirth.all fun at' => node.config.rebirthDebounce ≤ now - at'

end EdgeNode

namespace Observed

variable {S : Type}

/-- After a message with a sequence number has been published. -/
def sent (message : OutboundMessage) (s : Observed S) : Observed S :=
  (s.tick.note (.publish message)).update EdgeNode.advanceSeq

/-- The state in which `handle_incoming` has checked the debounce window: `rebirth_allowed` reads a
clock only when there is a last rebirth to compare with. -/
def debounced (s : Observed S) : Observed S := if s.engine.lastRebirth.isSome then s.tick else s

/-- After a rebirth: the births of the source have been published again, and the time of the rebirth
is noted, which is read only after the births. -/
def rebirth (source : DataSource) (s : Observed S) : Observed S :=
  (s.debounced.birth source).tick.update fun node =>
    { node with lastRebirth := some (s.debounced.birth source).clock.head.instant }

/-- After `handle_incoming` has accepted a STATE of the primary host: its timestamp is remembered;
an ONLINE one makes a waiting node publish its births, and an OFFLINE one makes an online node
disconnect. -/
def followed (source : DataSource) (state : StatePayload) (s : Observed S) : Observed S :=
  let s' := s.update fun node => { node with lastStateTs := some state.timestamp }
  if state.online then
    if s.engine.state = .waitingForPrimaryHost then s'.birth source else s'
  else
    if s.engine.state = .online then s'.gone else s'

end Observed

namespace EdgeNode

variable {S : Type}

/-- An edge that is not online refuses an NDATA. -/
theorem run_publishNodeData_refused {T : Type} [MqttTransport T] (metrics : List Metric)
    {s : Timed (EdgeNode T S)} (h : s.engine.state ≠ .online) :
    ∃ e, (publishNodeData metrics).run s = .error e s := by
  refine ⟨.invalidTopic "cannot publish NDATA before NBIRTH", ?_⟩
  unfold publishNodeData
  rw [EStateM.bind_ok (run_self s), if_pos h]
  rfl

theorem run_publishNodeData {metrics : List Metric} {s : Observed S}
    (h : s.engine.state = .online) :
    (publishNodeData metrics).run s =
      .ok () (s.sent (s.engine.dataMessage (s.engine.nodeTopic .nData) metrics s.ms)) := by
  simp only [publishNodeData, EStateM.run_bind, run_self, if_neg (not_not.mpr h), run_nowMs,
    run_nextSeq, run_publishRaw]
  rfl

/-- So it does a DDATA of a device that is not born, or whose name is no id. -/
theorem run_publishDeviceData_refused {T : Type} [MqttTransport T] {device : String}
    (metrics : List Metric) {s : Timed (EdgeNode T S)}
    (h : device ∉ s.engine.bornDevices ∨ ∀ id : DeviceId, Ident.new device ≠ .ok id) :
    ∃ e, (publishDeviceData device metrics).run s = .error e s := by
  unfold publishDeviceData
  rw [EStateM.bind_ok (run_self s)]
  by_cases hborn : device ∈ s.engine.bornDevices
  · rw [if_neg (not_not.mpr hborn)]
    cases hid : (Ident.new device : Result DeviceId) with
    | error e => exact ⟨e, rfl⟩
    | ok id => exact absurd hid (h.resolve_left (not_not.mpr hborn) id)
  · rw [if_pos hborn]
    exact ⟨_, rfl⟩

/-- A born device: the name of a device is checked once more. -/
theorem run_publishDeviceData {device : String} {metrics : List Metric} {s : Observed S}
    (h : device ∈ s.engine.bornDevices) :
    (publishDeviceData device metrics).run s =
      match (Ident.new device : Result DeviceId) with
      | .ok id =>
        .ok () (s.sent (s.engine.dataMessage (s.engine.deviceTopic id .dData) metrics s.ms))
      | .error e => .error e s := by
  simp only [publishDeviceData, EStateM.run_bind, run_self, if_neg (not_not.mpr h)]
  cases hid : (Ident.new device : Result DeviceId) with
  | error e => rfl
  | ok id =>
    simp only [EStateM.run_liftExcept_ok, run_nowMs, run_nextSeq, run_publishRaw]
    rfl

/-- `position` finds what `erase` removes. -/
theorem findIdx?_erase {d : String} {ds : List String} (h : d ∈ ds) :
    ∃ pos, ds.findIdx? (· = d) = some pos ∧ ds.erase d = ds.eraseIdx pos := by
  obtain ⟨pos, hpos⟩ : ∃ pos, ds.findIdx? (· = d) = some pos := by
    rw [← Option.isSome_iff_exists, List.findIdx?_isSome, List.any_eq_true]
    exact ⟨d, h, by simp⟩
  refine ⟨pos, hpos, ?_⟩
  rw [List.erase_eq_eraseP', List.eraseP_eq_eraseIdx]
  have hsame : ds.findIdx? (· == d) = some pos := hpos
  rw [hsame]

/-- And a DDEATH of such a device. -/
theorem run_publishDeviceDeath_refused {T : Type} [MqttTransport T] {device : String}
    {s : Timed (EdgeNode T S)}
    (h : device ∉ s.engine.bornDevices ∨ ∀ id : DeviceId, Ident.new device ≠ .ok id) :
    ∃ e, (publishDeviceDeath device).run s = .error e s := by
  unfold publishDeviceDeath
  rw [EStateM.bind_ok (run_self s)]
  by_cases hborn : device ∈ s.engine.bornDevices
  · obtain ⟨pos, hpos, -⟩ := findIdx?_erase hborn
    rw [hpos]
    cases hid : (Ident.new device : Result DeviceId) with
    | error e => exact ⟨e, rfl⟩
    | ok id => exact absurd hid (h.resolve_left (not_not.mpr hborn) id)
  · have hnone : s.engine.bornDevices.findIdx? (· = device) = none := by
      rw [List.findIdx?_eq_none_iff]
      intro d hd
      exact decide_eq_false fun heq => hborn (heq ▸ hd)
    rw [hnone]
    exact ⟨_, rfl⟩

/-- The first occurrence of a born device's name is removed. -/
theorem run_publishDeviceDeath {device : String} {s : Observed S}
    (h : device ∈ s.engine.bornDevices) :
    (publishDeviceDeath device).run s =
      match (Ident.new device : Result DeviceId) with
      | .ok id =>
        .ok () ((s.sent (s.engine.deviceDeathMessage id s.ms)).update fun node =>
          { node with bornDevices := s.engine.bornDevices.erase device })
      | .error e => .error e s := by
  obtain ⟨pos, hpos, herase⟩ := findIdx?_erase h
  unfold publishDeviceDeath
  rw [EStateM.bind_ok (run_self s), hpos, herase]
  cases hid : (Ident.new device : Result DeviceId) with
  | error e => rfl
  | ok id => rfl

/-! ## 5. Inbound messages -/

theorem run_rebirthAllowed (s : Observed S) :
    rebirthAllowed.run s = .ok (s.engine.rebirthDue s.clock.head.instant) s.debounced := by
  unfold rebirthAllowed Observed.debounced rebirthDue
  rw [EStateM.bind_ok (run_self s)]
  cases hlast : s.engine.lastRebirth with
  | none => rfl
  | some at' =>
    dsimp only
    rw [EStateM.bind_ok (Timed.run_instant s), EStateM.bind_ok (run_self _)]
    exact EStateM.run_pure _ _

theorem run_onNodeCommand_error {source : DataSource} {bytes : Bytes} {s : Observed S}
    {e : SparkplugError} (h : decode bytes (some s.engine.aliasing.aliases) = .error e) :
    (onNodeCommand source bytes).run s = .error e s := by
  unfold onNodeCommand
  rw [EStateM.bind_ok (run_self s), h, EStateM.bind_error (EStateM.run_liftExcept_error e s)]

theorem run_onNodeCommand {source : DataSource} {bytes : Bytes} {s : Observed S} {p : Payload}
    (h : decode bytes (some s.engine.aliasing.aliases) = .ok p) :
    (onNodeCommand source bytes).run s =
      if isRebirth p then
        if s.engine.rebirthDue s.clock.head.instant then .ok .rebirthed (s.rebirth source)
        else .ok .rebirthDebounced s.debounced
      else .ok (.nodeCommand p) s := by
  unfold onNodeCommand
  rw [EStateM.bind_ok (run_self s), h, EStateM.bind_ok (EStateM.run_liftExcept_ok p s)]
  by_cases hask : isRebirth p = true
  · rw [if_pos hask, if_pos hask, EStateM.bind_ok (run_rebirthAllowed s)]
    by_cases hdue : s.engine.rebirthDue s.clock.head.instant = true
    · rw [if_pos hdue, if_pos hdue, EStateM.bind_ok (run_publishBirthSequence source _),
        EStateM.bind_ok (Timed.run_instant _), EStateM.bind_ok (run_assign _ _)]
      rfl
    · rw [if_neg hdue, if_neg hdue]
      rfl
  · rw [if_neg hask, if_neg hask]
    rfl

/-- A DCMD changes nothing. -/
theorem run_onDeviceCommand (device : DeviceId) (bytes : Bytes) (s : Observed S) :
    ((onDeviceCommand device bytes).run s).state = s := by
  unfold onDeviceCommand
  rw [EStateM.bind_ok (run_self s)]
  cases decode bytes (some s.engine.aliasing.aliases) with
  | error e => rw [EStateM.bind_error (EStateM.run_liftExcept_error e s), EStateM.Result.state_error]
  | ok p => rw [EStateM.bind_ok (EStateM.run_liftExcept_ok p s), EStateM.run_pure,
      EStateM.Result.state_ok]

theorem run_onPrimaryState (source : DataSource) (state : StatePayload) (s : Observed S) :
    (onPrimaryState source state).run s =
      if s.engine.lastStateTs.any (fun last => state.timestamp < last) then .ok .ignored s
      else .ok (.primaryHostState state) (s.followed source state) := by
  unfold onPrimaryState
  rw [EStateM.bind_ok (run_self s)]
  by_cases hstale : s.engine.lastStateTs.any (fun last => state.timestamp < last) = true
  · rw [if_pos hstale, if_pos hstale]
    rfl
  · rw [if_neg hstale, if_neg hstale, EStateM.bind_ok (run_assign _ _)]
    have hfollow : (followPrimary source s.engine.state state.online).run
        (s.update fun node => { node with lastStateTs := some state.timestamp }) =
          .ok () (s.followed source state) := by
      unfold followPrimary Observed.followed
      by_cases hon : state.online = true
      · rw [if_pos hon, if_pos hon]
        by_cases hwait : s.engine.state = .waitingForPrimaryHost
        · rw [if_pos hwait, if_pos hwait, run_publishBirthSequence]
        · rw [if_neg hwait, if_neg hwait]
          rfl
      · rw [if_neg hon, if_neg hon]
        by_cases honline : s.engine.state = .online
        · rw [if_pos honline, if_pos honline, run_disconnect]
        · rw [if_neg honline, if_neg honline]
          rfl
    rw [EStateM.bind_ok hfollow]
    rfl

end EdgeNode

end SparkplugB
