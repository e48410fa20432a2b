/-
# The Host Application engine

`src/host.rs`.  A method on `&mut self` is a run of `HostM T`, which keeps what was changed
before an error.  The part of a handler that works on one node's record, `&mut NodeState`, is a
run over that record.  A call looks at each clock once at most, so what the clocks show is an
argument `now`.

Left out: `recv_and_handle`, which hands what `recv` returns to `handle_incoming`.
-/
import SparkplugB.Alias
import SparkplugB.Codec.Decode
import SparkplugB.Codec.Encode
import SparkplugB.State
import SparkplugB.Topic
import SparkplugB.Transport

namespace SparkplugB

/-! ## 1. Configuration and events -/

/-- `HostConfig`: who the host is, what it subscribes to, how it connects, and how long it waits
before it asks the same node for a rebirth again. -/
structure HostConfig where
  hostId : String
  groupSubscriptions : List String
  clientId : String
  host : String
  port : UInt16
  keepAliveSecs : UInt16
  rebirthDebounce : Duration
  tls : Option TlsConfig

namespace HostConfig

/-- `HostConfig::new`: a config for `hostId` that subscribes to the whole Sparkplug B namespace and
waits five seconds between rebirth requests. -/
def new (hostId : String) : HostConfig where
  hostId
  groupSubscriptions := ["spBv1.0/#"]
  clientId := s!"host-{hostId}"
  host := "localhost"
  port := 1883
  keepAliveSecs := 30
  rebirthDebounce := .fromSecs 5
  tls := none

def stateTopic (config : HostConfig) : String := s!"spBv1.0/STATE/{config.hostId}"

end HostConfig

/-- `HostEvent`: what `handle_incoming` tells the application about a message.  `ignored` is for
messages it need not know of, and for rebirth requests that the debounce window suppressed. -/
inductive HostEvent where
  | nodeBirth (group edge : String) (metrics : List Metric)
  | nodeData (group edge : String) (metrics : List Metric)
  | nodeDeath (group edge : String) (timestamp : Int64) (devices : List String)
  | deviceBirth (group edge device : String) (metrics : List Metric)
  | deviceData (group edge device : String) (metrics : List Metric)
  | deviceDeath (group edge device : String) (timestamp : Int64)
  | rebirthRequested (group edge : String)
  | ignored

/-! ## 2. Clock readings and payloads -/

/-- `now_ms` of `host.rs`: milliseconds since the epoch, 0 if the clock stands before it, and the
largest `i64` if the number does not fit. -/
def Reading.hostMs (now : Reading) : Int64 :=
  match now.sinceEpoch with
  | some ms => if ms < 2 ^ 63 then Int64.ofNat ms else Int64.maxValue
  | none => 0

/-- `i64::try_from` of a `u64`. -/
def toInt64? (v : UInt64) : Option Int64 := if v.toNat < 2 ^ 63 then some v.toInt64 else none

/-- `u64::try_from(..).unwrap_or(0)` of an `i64`. -/
def toUInt64OrZero (v : Int64) : UInt64 := if v < 0 then 0 else v.toUInt64

/-- `bdseq_of`: the value of the first metric that is named bdSeq, if it is an Int64, or a UInt64
that an `i64` can hold. -/
def bdseqOf (payload : Payload) : Option Int64 :=
  (payload.metrics.find? (fun m => m.name = some BDSEQ_METRIC_NAME)).bind fun m =>
    match m.value with
    | .int64 v => some v
    | .uint64 v => toInt64? v
    | _ => none

/-- When a death happened, as `on_node_death` and `on_device_death` compute it: the timestamp of the
payload, or the clock of the host where there is none that an `i64` can hold. -/
def deathTimestamp (now : Reading) (payload : Payload) : Int64 :=
  (payload.timestamp.bind toInt64?).getD now.hostMs

/-- What `resolve_names` does to one metric: a metric without a name takes the name its alias is
bound to, if it is bound. -/
def resolveName (aliases : AliasRegistry) (metric : Metric) : Metric :=
  match metric.name, metric.alias.bind aliases.nameForAlias with
  | none, some name => { metric with name := some name }
  | _, _ => metric

/-- `resolve_names`: fill in the names of alias-only DATA metrics from an alias registry. -/
def resolveNames (aliases : AliasRegistry) (metrics : List Metric) : List Metric :=
  metrics.map (resolveName aliases)

/-! ## 3. The record of an Edge Node -/

structure DeviceState where
  online : Bool
  aliases : AliasRegistry

/-- `DeviceState::default()`. -/
def DeviceState.default : DeviceState := ⟨false, .new⟩

structure NodeState where
  online : Bool
  bdSeq : Option Int64
  expectedSeq : UInt8
  aliases : AliasRegistry
  devices : Std.ExtTreeMap String DeviceState
  lastRebirth : Option Nat

/-- `Step`: the decision a handler reaches on the record of a node, before anything is published. -/
inductive Step where
  | event (e : HostEvent)
  | rebirth

/-- The part of a handler that works on `&mut NodeState`.  What it has changed before an error stays
changed. -/
abbrev NodeM := EStateM SparkplugError NodeState

namespace NodeState

/-- `NodeState::new`: a node that was not heard of, offline and without devices. -/
def new : NodeState where
  online := false
  bdSeq := none
  expectedSeq := 0
  aliases := .new
  devices := ∅
  lastRebirth := none

/-- The guard of `on_device_data`: the device is known and online. -/
def deviceOnline (node : NodeState) (device : DeviceId) : Bool :=
  (node.devices[device.str]?).any DeviceState.online

/-- `take_rebirth_slot`: check the debounce window, and record the attempt if it has passed.  The
subtraction is that of `Instant`s and stops at 0. -/
def takeRebirthSlot (node : NodeState) (debounce : Duration) (now : Nat) : Bool × NodeState :=
  let allowed := node.lastRebirth.all (fun at' => debounce ≤ now - at')
  (allowed, if allowed then { node with lastRebirth := some now } else node)

/-- What a sequence gap and an unreadable DATA payload do to the record: the session is invalid, and
nothing else is touched. -/
def offline (node : NodeState) : NodeState := { node with online := false }

/-- `expected_seq.wrapping_add(1)`, once a message carried the expected number. -/
def advance (node : NodeState) : NodeState := { node with expectedSeq := node.expectedSeq + 1 }

/-- The record after `on_node_birth` has bound the metrics of an NBIRTH, and whether `try_bind`
refused one of them.  If it did, the node is left offline; only the time of the last rebirth request
outlives the birth. -/
def birth (node : NodeState) (payload : Payload) : Bool × NodeState :=
  let (aliases, duplicateAlias) := node.aliases.clear.bindAll payload.metrics
  (duplicateAlias,
    { online := !duplicateAlias
      bdSeq := bdseqOf payload
      expectedSeq := payload.seq.getD 0 + 1
      aliases
      devices := ∅
      lastRebirth := node.lastRebirth })

/-- The devices a `NodeDeath` event names: the names of those that are online, sorted as Rust sorts
strings. -/
def onlineDevices (node : NodeState) : List String :=
  ((node.devices.toList.filter (fun d => d.2.online)).map Prod.fst).mergeSort
    (fun a b => decide (a ≤ b))

/-- The record after `on_node_death` has honoured an NDEATH: the node and all its devices are
offline. -/
def death (node : NodeState) : NodeState :=
  { node with
    online := false
    devices := node.devices.map (fun _ device => { device with online := false }) }

/-- Set the record of one device. -/
def putDevice (node : NodeState) (device : DeviceId) (state : DeviceState) : NodeState :=
  { node with devices := node.devices.insert device.str state }

/-- The body of `on_node_data` on an online node.  A payload that does not decode is treated like a
sequence gap. -/
def nodeData (group : GroupId) (edge : EdgeNodeId) (payload : Bytes) : NodeM Step := do
  let node ← get
  match decode payload (some node.aliases) with
  | .error _ =>
    set node.offline
    return .rebirth
  | .ok payload =>
    if payload.seq = some node.expectedSeq then do
      set node.advance
      return .event (.nodeData group.str edge.str (resolveNames node.aliases payload.metrics))
    else do
      set node.offline
      return .rebirth

/-- The body of `on_device_birth` on an online node.  The device is put online before its aliases
are bound, and it stays so when one of them is refused. -/
def deviceBirth (group : GroupId) (edge : EdgeNodeId) (device : DeviceId) (payload : Bytes) :
    NodeM Step := do
  let payload ← EStateM.liftExcept (decode payload none)
  let node ← get
  if payload.seq = some node.expectedSeq then do
    let state := (node.devices[device.str]?).getD .default
    let (aliases, dup) := state.aliases.clear.bindAll payload.metrics
    set (node.advance.putDevice device ⟨true, aliases⟩)
    return if dup then .rebirth
      else .event (.deviceBirth group.str edge.str device.str payload.metrics)
  else do
    set node.offline
    return .rebirth

/-- The body of `on_device_data` on an online node with the device online.  It differs from
`on_node_data` in the registry it reads with. -/
def deviceData (group : GroupId) (edge : EdgeNodeId) (device : DeviceId) (payload : Bytes) :
    NodeM Step := do
  let node ← get
  let state := (node.devices[device.str]?).getD .default
  match decode payload (some state.aliases) with
  | .error _ =>
    set node.offline
    return .rebirth
  | .ok payload =>
    if payload.seq = some node.expectedSeq then do
      set node.advance
      return .event (.deviceData group.str edge.str device.str
        (resolveNames state.aliases payload.metrics))
    else do
      set node.offline
      return .rebirth

/-- The body of `on_device_death` on an online node.  A device that is not known has no record to
change, and its death is surfaced all the same. -/
def deviceDeath (now : Reading) (group : GroupId) (edge : EdgeNodeId) (device : DeviceId)
    (payload : Bytes) : NodeM Step := do
  let payload ← EStateM.liftExcept (decode payload none)
  let node ← get
  if payload.seq = some node.expectedSeq then do
    set (match node.devices[device.str]? with
      | some state => node.advance.putDevice device { state with online := false }
      | none => node.advance)
    return .event (.deviceDeath group.str edge.str device.str (deathTimestamp now payload))
  else do
    set node.offline
    return .rebirth

end NodeState

/-! ## 4. The engine -/

/-- `HostApplication`: the configuration, the transport, one record for each Edge Node that was
heard of, under its `key`, and the timestamp of the STATE it publishes. -/
structure HostApplication (T : Type) where
  config : HostConfig
  transport : T
  nodes : Std.ExtTreeMap String NodeState
  stateTs : Int64

/-- A method on `&mut HostApplication`: what it has changed before an error stays changed. -/
abbrev HostM (T : Type) := EStateM SparkplugError (HostApplication T)

namespace HostApplication

variable {T : Type}

/-- `HostApplication::new`: a host that has heard of no node. -/
def new (config : HostConfig) (transport : T) : HostApplication T := ⟨config, transport, ∅, 0⟩

/-- `HostApplication::key`.  Neither id holds a `/`, so different nodes have different keys. -/
def key (group : GroupId) (edge : EdgeNodeId) : String := s!"{group.str}/{edge.str}"

/-- The record kept under `key`, created when there is none:
`entry(key).or_insert_with(NodeState::new)`. -/
def node (host : HostApplication T) (key : String) : NodeState := (host.nodes[key]?).getD .new

/-- Set the record kept under `key`. -/
def putNode (host : HostApplication T) (key : String) (node : NodeState) : HostApplication T :=
  { host with nodes := host.nodes.insert key node }

/-- A call on the transport. -/
def onTransport {α : Type} (p : EStateM SparkplugError T α) : HostM T α :=
  EStateM.focus transport (fun t host => { host with transport := t }) p

/-- The `match self.nodes.get_mut(&key)` of the sequenced handlers: run `body` on the record of a
node that is `ready`, and decide for a rebirth otherwise. -/
def whenReady (ready : NodeState → Bool) (key : String) (body : NodeM Step) : HostM T Step :=
  do
  match (← get).nodes[key]? with
  | some node =>
    if ready node then
      EStateM.focus (fun _ => node) (fun node host => host.putNode key node) body
    else return .rebirth
  | none => return .rebirth

variable [MqttTransport T]

/-- `publish_state_birth`: the retained ONLINE STATE, with the timestamp that `start` has noted. -/
def publishStateBirth : HostM T Unit := do
  let host ← get
  onTransport (MqttTransport.publish
    { topic := host.config.stateTopic
      qos := .atLeastOnce
      retain := true
      payload := asBytes (StatePayload.toJson ⟨true, host.stateTs⟩) })

/-- `start`: connect with the offline STATE as the will, subscribe to the own STATE topic and the
data namespace, then publish the retained ONLINE STATE, which shares the will's timestamp. -/
def start (now : Reading) : HostM T Unit := do
  modify fun host => { host with stateTs := now.hostMs }
  let host ← get
  let will : OutboundMessage :=
    { topic := host.config.stateTopic
      qos := .atLeastOnce
      retain := true
      payload := asBytes (StatePayload.toJson ⟨false, host.stateTs⟩) }
  onTransport (MqttTransport.connect
    { clientId := host.config.clientId
      host := host.config.host
      port := host.config.port
      keepAliveSecs := host.config.keepAliveSecs
      cleanStart := true
      will := some will
      tls := host.config.tls })
  onTransport (MqttTransport.subscribe host.config.stateTopic .atLeastOnce)
  host.config.groupSubscriptions.forM fun filter =>
    onTransport (MqttTransport.subscribe filter .atMostOnce)
  publishStateBirth

/-- `shutdown`: publish a retained OFFLINE STATE with the time of now, and disconnect. -/
def shutdown (now : Reading) : HostM T Unit := do
  let host ← get
  onTransport (MqttTransport.publish
    { topic := host.config.stateTopic
      qos := .atLeastOnce
      retain := true
      payload := asBytes (StatePayload.toJson ⟨false, now.hostMs⟩) })
  onTransport MqttTransport.disconnect

def publishRaw (topic : String) (payload : Bytes) : HostM T Unit :=
  onTransport (MqttTransport.publish { topic, qos := .atMostOnce, retain := false, payload })

/-- The payload of a command: its metrics and the time. -/
def commandPayload (now : Reading) (metrics : List Metric) : Payload where
  timestamp := some (toUInt64OrZero now.hostMs)
  metrics

/-- `publish_node_command`: publish an NCMD to an Edge Node, with datatypes, once its ids have been
checked. -/
def publishNodeCommand (now : Reading) (group edge : String) (metrics : List Metric) :
    HostM T Unit := do
  let group ← EStateM.liftExcept (Ident.new group)
  let edge ← EStateM.liftExcept (Ident.new edge)
  let topic ← EStateM.liftExcept (SparkplugTopic.mkNode group edge .nCmd)
  publishRaw topic.toString (encode (commandPayload now metrics) .birth)

/-- `publish_device_command`: publish a DCMD to a device, with datatypes, once its ids have been
checked. -/
def publishDeviceCommand (now : Reading) (group edge device : String) (metrics : List Metric) :
    HostM T Unit := do
  let group ← EStateM.liftExcept (Ident.new group)
  let edge ← EStateM.liftExcept (Ident.new edge)
  let device ← EStateM.liftExcept (Ident.new device)
  let topic ← EStateM.liftExcept (SparkplugTopic.mkDevice group edge device .dCmd)
  publishRaw topic.toString (encode (commandPayload now metrics) .birth)

/-- `send_rebirth`: publish an NCMD with `Node Control/Rebirth = true`. -/
def sendRebirth (now : Reading) (group : GroupId) (edge : EdgeNodeId) : HostM T Unit :=
  publishRaw (SparkplugTopic.node group edge .nCmd).toString
    (encode (commandPayload now [Metric.new NODE_CONTROL_REBIRTH (.boolean true)]) .birth)

/-- `rebirth`: ask the node for its births, unless the debounce window of the last request is still
open.  The slot is taken before the NCMD is published, whether this succeeds or not. -/
def rebirth (now : Reading) (group : GroupId) (edge : EdgeNodeId) : HostM T HostEvent := do
  let host ← get
  let (allowed, node) :=
    (host.node (key group edge)).takeRebirthSlot host.config.rebirthDebounce now.instant
  set (host.putNode (key group edge) node)
  if allowed then do
    sendRebirth now group edge
    return .rebirthRequested group.str edge.str
  else return .ignored

/-- `finish`: turn a `Step` into an event, asking for a rebirth where it says so. -/
def finish (now : Reading) (group : GroupId) (edge : EdgeNodeId) : Step → HostM T HostEvent
  | .event event => return event
  | .rebirth => rebirth now group edge

/-! ## 5. The handlers -/

/-- `on_node_birth`.  An NBIRTH that does not decode returns its error before the record is looked
at. -/
def onNodeBirth (now : Reading) (group : GroupId) (edge : EdgeNodeId) (payload : Bytes) :
    HostM T HostEvent := do
  let payload ← EStateM.liftExcept (decode payload none)
  let host ← get
  let (duplicateAlias, node) := (host.node (key group edge)).birth payload
  set (host.putNode (key group edge) node)
  if duplicateAlias then rebirth now group edge
  else return .nodeBirth group.str edge.str payload.metrics

/-- `on_node_data`: `nodeData` on an online node, a rebirth request on any other. -/
def onNodeData (now : Reading) (group : GroupId) (edge : EdgeNodeId) (payload : Bytes) :
    HostM T HostEvent := do
  let step ← whenReady (·.online) (key group edge) (NodeState.nodeData group edge payload)
  finish now group edge step

/-- `on_node_death`: an NDEATH is honoured on an online node whose bdSeq is known and is that of the
payload, and ignored otherwise. -/
def onNodeDeath (now : Reading) (group : GroupId) (edge : EdgeNodeId) (payload : Bytes) :
    HostM T HostEvent := do
  let decoded ← EStateM.liftExcept (decode payload none)
  let host ← get
  match host.nodes[key group edge]? with
  | some node =>
    if node.online ∧ node.bdSeq.isSome ∧ node.bdSeq = bdseqOf decoded then do
      set (host.putNode (key group edge) node.death)
      return .nodeDeath group.str edge.str (deathTimestamp now decoded) node.onlineDevices
    else return .ignored
  | none => return .ignored

/-- `on_device_birth`: `deviceBirth` on an online node, a rebirth request on any other. -/
def onDeviceBirth (now : Reading) (group : GroupId) (edge : EdgeNodeId) (device : DeviceId)
    (payload : Bytes) : HostM T HostEvent := do
  let step ← whenReady (·.online) (key group edge)
    (NodeState.deviceBirth group edge device payload)
  finish now group edge step

/-- `on_device_data`: `deviceData` if both the node and the device are online, a rebirth request
otherwise, which leaves the session valid. -/
def onDeviceData (now : Reading) (group : GroupId) (edge : EdgeNodeId) (device : DeviceId)
    (payload : Bytes) : HostM T HostEvent := do
  let step ← whenReady (fun node => node.online && node.deviceOnline device) (key group edge)
    (NodeState.deviceData group edge device payload)
  finish now group edge step

/-- `on_device_death`: `deviceDeath` on an online node, a rebirth request on any other. -/
def onDeviceDeath (now : Reading) (group : GroupId) (edge : EdgeNodeId) (device : DeviceId)
    (payload : Bytes) : HostM T HostEvent := do
  let step ← whenReady (·.online) (key group edge)
    (NodeState.deviceDeath now group edge device payload)
  finish now group edge step

/-- The STATE branch of `handle_incoming`, the repair of the own STATE: a retained OFFLINE for our
own host id means the broker still holds our prior will; re-assert ONLINE. -/
def onHostState (hostId : String) (payload : Bytes) : HostM T HostEvent := do
  if hostId = (← get).config.hostId then do
    let text ← EStateM.liftExcept ((fromUtf8 payload).elim (.error .invalidUtf8) .ok)
    let state ← EStateM.liftExcept (StatePayload.parse text)
    if state.online then return .ignored
    else do
      publishStateBirth
      return .ignored
  else return .ignored

/-- `handle_incoming`: handle one inbound message, advancing the state machine of the node it is
about.  Commands are the echo of what hosts publish, and are ignored. -/
def handleIncoming (now : Reading) (message : IncomingMessage) : HostM T HostEvent := do
  match ← EStateM.liftExcept (SparkplugTopic.parse message.topic) with
  | .hostState hostId => onHostState hostId message.payload
  | .node group edge ty =>
    match ty with
    | .nBirth => onNodeBirth now group edge message.payload
    | .nData => onNodeData now group edge message.payload
    | .nDeath => onNodeDeath now group edge message.payload
    | _ => return .ignored
  | .device group edge device ty =>
    match ty with
    | .dBirth => onDeviceBirth now group edge device message.payload
    | .dData => onDeviceData now group edge device message.payload
    | .dDeath => onDeviceDeath now group edge device message.payload
    | _ => return .ignored

end HostApplication

end SparkplugB
