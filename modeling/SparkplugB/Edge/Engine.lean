/-
# The Edge Node engine

`src/edge.rs`.  A method on `&mut self` is a run of `EdgeM T S`: it keeps what was changed before
an error, and takes the clock readings of the source one after the other.  The `DataSource` a
method borrows is an argument, so it may differ from call to call.

Left out: `recv_and_handle`, which hands what `recv` returns to `handle_incoming`.
-/
import SparkplugB.Alias
import SparkplugB.Codec.Decode
import SparkplugB.Codec.Encode
import SparkplugB.Sequence
import SparkplugB.State
import SparkplugB.Topic
import SparkplugB.Transport

namespace SparkplugB

/-! ## 1. Configuration, data and events -/

/-- `EdgeState`: where an Edge Node is in its life.  `waitingForPrimaryHost` is the state after
`connect` when a primary host is configured: the node is connected and has published no birth
yet. -/
inductive EdgeState where
  | disconnected
  | waitingForPrimaryHost
  | online
  deriving DecidableEq, Repr

/-- `EdgeNodeConfig`.  The ids are validated newtypes; `primary_host_id` is a plain string, which
nothing validates, and the devices may repeat. -/
structure EdgeNodeConfig where
  group : GroupId
  edge : EdgeNodeId
  devices : List DeviceId
  primaryHostId : Option String
  useAliases : Bool
  rebirthDebounce : Duration
  clientId : String
  host : String
  port : UInt16
  keepAliveSecs : UInt16
  tls : Option TlsConfig

/-- `EdgeNodeConfig::new`: build a config from strings, and fail at the first id, in the order
group, edge, devices, that is not valid.  The other fields have the defaults of the source. -/
def EdgeNodeConfig.new (group edge : String) (devices : List String) : Result EdgeNodeConfig := do
  return {
    group := ← Ident.new group
    edge := ← Ident.new edge
    devices := ← devices.mapM Ident.new
    primaryHostId := none
    useAliases := false
    rebirthDebounce := .fromSecs 5
    clientId := s!"{group}-{edge}"
    host := "localhost"
    port := 1883
    keepAliveSecs := 30
    tls := none }

/-- `DataSource`: what the application supplies to the engine, the metrics to publish in births.
The trait borrows itself immutably, so two functions stand for it. -/
structure DataSource where
  nodeBirthMetrics : List Metric
  deviceBirthMetrics : String → List Metric

/-- An event surfaced by `handleIncoming`. -/
inductive EdgeEvent where
  | rebirthed
  | rebirthDebounced
  | nodeCommand (payload : Payload)
  | deviceCommand (device : String) (payload : Payload)
  | primaryHostState (state : StatePayload)
  | ignored

/-- `now_ms()` of `edge.rs`: the milliseconds since the epoch, `u64::MAX` where they do not fit and
0 where the clock stands before the epoch. -/
def Reading.edgeMs (now : Reading) : UInt64 :=
  match now.sinceEpoch with
  | some ms => if ms < 2 ^ 64 then UInt64.ofNat ms else 0xFFFFFFFFFFFFFFFF
  | none => 0

/-- Stamp one metric that lacks a timestamp. -/
def stampMetric (ts : UInt64) (metric : Metric) : Metric :=
  if metric.timestamp.isNone then { metric with timestamp := some ts } else metric

/-- `stamp`: give every metric that lacks a timestamp the time `ts`, and leave the others alone. -/
def stamp (metrics : List Metric) (ts : UInt64) : List Metric := metrics.map (stampMetric ts)

/-! ## 2. Aliases -/

/-- The fields `aliases` and `next_alias` of an edge: its one alias map, which the node and all of
its devices share, and the next alias it hands out. -/
structure Aliasing where
  aliases : AliasRegistry
  nextAlias : UInt64

namespace Aliasing

/-- One round of `assign_aliases`: a metric with a name gets the next alias, and the map is told
name, alias and datatype.  The two control metrics and metrics without a name are passed over. -/
def assign (a : Aliasing) (metric : Metric) : Metric × Aliasing :=
  match metric.name with
  | none => (metric, a)
  | some name =>
    if name = NODE_CONTROL_REBIRTH ∨ name = BDSEQ_METRIC_NAME then (metric, a)
    else
      ({ metric with «alias» := some a.nextAlias },
        { aliases := a.aliases.bind name (some a.nextAlias) metric.value.datatype
          nextAlias := a.nextAlias + 1 })

/-- The loop of `assign_aliases`. -/
def assignAll (a : Aliasing) : List Metric → List Metric × Aliasing
  | [] => ([], a)
  | m :: rest =>
    let (m', a') := a.assign m
    let (rest', a'') := a'.assignAll rest
    (m' :: rest', a'')

end Aliasing

/-- One round of `to_data_metrics`: a metric whose name has an alias in the map goes out under the
alias, without its name; any other goes out as it is. -/
def toDataMetric (aliases : AliasRegistry) (m : Metric) : Metric :=
  match m.name.bind aliases.aliasForName with
  | some a => { m with «alias» := some a, name := none }
  | none => m

/-! ## 3. The engine -/

/-- `EdgeNode`: the engine over a transport `T` and a bdSeq store `S`.  `born_devices` is a list, as
in the source, so a device that is configured twice is in it twice; `Aliasing` holds the fields
`aliases` and `next_alias`. -/
structure EdgeNode (T S : Type) where
  config : EdgeNodeConfig
  transport : T
  bdseqStore : S
  seq : Seq
  bdSeq : UInt8
  aliasing : Aliasing
  bornDevices : List String
  lastRebirth : Option Nat
  lastStateTs : Option Int64
  state : EdgeState

/-- A method on `&mut EdgeNode`.  It threads the engine together with the clocks it reads, and an
error keeps the changes made before it, as an early return with `?` does. -/
abbrev EdgeM (T S : Type) := EStateM SparkplugError (Timed (EdgeNode T S))

namespace EdgeNode

variable {T S : Type}

/-- Create an engine. -/
def new (config : EdgeNodeConfig) (transport : T) (bdseqStore : S) : EdgeNode T S where
  config
  transport
  bdseqStore
  seq := .new
  bdSeq := 0
  aliasing := ⟨.new, 0⟩
  bornDevices := []
  lastRebirth := none
  lastStateTs := none
  state := .disconnected

/-- Read the fields of the engine. -/
def self : EdgeM T S (EdgeNode T S) := do return (← get).engine

/-- Assign to fields of the engine. -/
def assign (f : EdgeNode T S → EdgeNode T S) : EdgeM T S Unit :=
  modify fun s => { s with engine := f s.engine }

/-- `now_ms()`. -/
def nowMs : EdgeM T S UInt64 := do return (← Timed.read).edgeMs

/-- A call on the transport.  Its error is returned as it is, and what became of the transport is
put back into the engine. -/
def onTransport {α : Type} (p : EStateM SparkplugError T α) : EdgeM T S α :=
  EStateM.focus (fun s => s.engine.transport)
    (fun t s => { s with engine := { s.engine with transport := t } }) p

/-- A call on the bdSeq store, whose error text becomes `SparkplugError::Io`. -/
def onStore {α : Type} (p : EStateM String S α) : EdgeM T S α :=
  EStateM.focus (fun s => s.engine.bdseqStore)
    (fun store s => { s with engine := { s.engine with bdseqStore := store } })
    (EStateM.adaptExcept SparkplugError.io p)

/-- `self.seq.next_value()`. -/
def nextSeq : EdgeM T S UInt8 := do
  let node ← self
  assign fun node => { node with seq := node.seq.nextValue.2 }
  return node.seq.nextValue.1

def nodeTopic (node : EdgeNode T S) (ty : MessageType) : String :=
  (SparkplugTopic.node node.config.group node.config.edge ty).toString

def deviceTopic (node : EdgeNode T S) (device : DeviceId) (ty : MessageType) : String :=
  (SparkplugTopic.device node.config.group node.config.edge device ty).toString

/-- `ndeath_payload` at the time `ts`: a single `bdSeq` INT64 metric with the number of the present
connection, and no `seq`.  It is registered as the will and published on a graceful disconnect. -/
def ndeathPayload (node : EdgeNode T S) (ts : UInt64) : Payload where
  timestamp := some ts
  metrics := stamp [Metric.new BDSEQ_METRIC_NAME (.int64 (Int64.ofNat node.bdSeq.toNat))] ts

/-- `assign_aliases`: give out aliases for the metrics of a birth and record the bindings.  With
`use_aliases = false` nothing happens, so the map stays as it was created, empty. -/
def assignAliases (metrics : List Metric) : EdgeM T S (List Metric) := do
  let node ← self
  if node.config.useAliases then do
    let (metrics, aliasing) := node.aliasing.assignAll metrics
    assign fun node => { node with aliasing }
    return metrics
  else return metrics

/-- `to_data_metrics`: map data metrics to their on-wire form, by the aliases of the latest births
if there are any. -/
def toDataMetrics (node : EdgeNode T S) (metrics : List Metric) : List Metric :=
  if node.config.useAliases then metrics.map (toDataMetric node.aliasing.aliases) else metrics

/-- The first half of `build_node_birth_metrics`: the source's metrics, and the control metrics
`Node Control/Rebirth` and `bdSeq` unless the source supplies metrics of these names itself. -/
def controlled (bdSeq : UInt8) (metrics : List Metric) : List Metric :=
  let metrics :=
    if metrics.any (fun m => m.name = some NODE_CONTROL_REBIRTH) then metrics
    else metrics ++ [Metric.new NODE_CONTROL_REBIRTH (.boolean false)]
  if metrics.any (fun m => m.name = some BDSEQ_METRIC_NAME) then metrics
  else metrics ++ [Metric.new BDSEQ_METRIC_NAME (.int64 (Int64.ofNat bdSeq.toNat))]

def buildNodeBirthMetrics (source : DataSource) : EdgeM T S (List Metric) := do
  let node ← self
  assignAliases (controlled node.bdSeq source.nodeBirthMetrics)

/-- `rebirth_allowed`: whether the debounce window has passed since the last rebirth.  The clock is
read only if there was one. -/
def rebirthAllowed : EdgeM T S Bool := do
  match (← self).lastRebirth with
  | none => return true
  | some at' => do
    let now ← Timed.instant
    return (← self).config.rebirthDebounce ≤ now - at'

/-- The first lines of `publish_birth_sequence`: the sequence number, the aliases (if they are in
use) and the list of born devices start anew.  They are reset before anything is published, so also
when the NBIRTH fails. -/
def resetForBirth (node : EdgeNode T S) : EdgeNode T S :=
  { node with
    seq := node.seq.reset
    aliasing := if node.config.useAliases then ⟨node.aliasing.aliases.clear, 0⟩
      else node.aliasing
    bornDevices := [] }

variable [MqttTransport T]

def publishRaw (topic : String) (payload : Bytes) (qos : Qos) (retain : Bool) : EdgeM T S Unit :=
  onTransport (MqttTransport.publish { topic, qos, retain, payload })

/-! ## 4. Births -/

/-- `publish_device_birth`.  The aliases and the number are taken before the DBIRTH is published;
the device counts as born only once that has succeeded. -/
def publishDeviceBirth (source : DataSource) (device : DeviceId) : EdgeM T S Unit := do
  let ts ← nowMs
  let metrics ← assignAliases (source.deviceBirthMetrics device.str)
  let seq ← nextSeq
  let payload : Payload := { timestamp := some ts, metrics := stamp metrics ts, seq := some seq }
  publishRaw ((← self).deviceTopic device .dBirth) (encode payload .birth) .atMostOnce false
  assign fun node => { node with bornDevices := node.bornDevices ++ [device.str] }

/-- `publish_birth_sequence`: the NBIRTH with `seq = 0`, then the DBIRTH of each configured device
in order.  The node is online at the end only: a failure on the way leaves the state as it was. -/
def publishBirthSequence (source : DataSource) : EdgeM T S Unit := do
  assign resetForBirth
  let ts ← nowMs
  let metrics ← buildNodeBirthMetrics source
  let seq ← nextSeq
  let payload : Payload := { timestamp := some ts, metrics := stamp metrics ts, seq := some seq }
  publishRaw ((← self).nodeTopic .nBirth) (encode payload .birth) .atMostOnce false
  (← self).config.devices.forM (publishDeviceBirth source)
  assign fun node => { node with state := .online }

/-! ## 5. Sessions -/

variable [BdSeqStore S]

omit [BdSeqStore S] in
/-- `connect` behind the two calls on the store: register the NDEATH as the will, connect, subscribe
to the commands of the node and of each device, and either subscribe to the STATE of the primary
host and wait for it or publish the births. -/
def openSession (source : DataSource) : EdgeM T S Unit := do
  let ts ← nowMs
  let node ← self
  let will : OutboundMessage :=
    { topic := node.nodeTopic .nDeath
      qos := .atLeastOnce
      retain := false
      payload := encode (node.ndeathPayload ts) .birth }
  onTransport (MqttTransport.connect
    { clientId := node.config.clientId
      host := node.config.host
      port := node.config.port
      keepAliveSecs := node.config.keepAliveSecs
      cleanStart := true
      will := some will
      tls := node.config.tls })
  onTransport (MqttTransport.subscribe (node.nodeTopic .nCmd) .atLeastOnce)
  node.config.devices.forM fun device =>
    onTransport (MqttTransport.subscribe (node.deviceTopic device .dCmd) .atLeastOnce)
  match node.config.primaryHostId with
  | some hostId => do
    onTransport (MqttTransport.subscribe s!"spBv1.0/STATE/{hostId}" .atLeastOnce)
    assign fun node => { node with state := .waitingForPrimaryHost }
  | none => publishBirthSequence source

/-- `connect`: take the bdSeq of this connection from the store and save the next one before the
broker is spoken to, so that the next connection has another.  If either fails, no connection is
made; `bd_seq` may have changed. -/
def connect (source : DataSource) : EdgeM T S Unit := do
  let bdSeq ← onStore BdSeqStore.loadNextDeath
  assign fun node => { node with bdSeq }
  onStore (BdSeqStore.storeNextDeath (bdSeq + 1))
  openSession source

omit [BdSeqStore S] in
/-- `disconnect`: publish the NDEATH explicitly, so that the broker need not deliver the will, then
close the connection.  The state changes only when both have succeeded. -/
def disconnect : EdgeM T S Unit := do
  let ts ← nowMs
  let node ← self
  publishRaw (node.nodeTopic .nDeath) (encode (node.ndeathPayload ts) .birth) .atLeastOnce false
  onTransport MqttTransport.disconnect
  assign fun node => { node with state := .disconnected }

/-! ## 6. Data -/

/-- `publish_node_data`: an NDATA with the next sequence number.  It is refused unless the node is
online; the number is gone as soon as the payload is built, also if the publish fails. -/
def publishNodeData (metrics : List Metric) : EdgeM T S Unit := do
  let node ← self
  if node.state ≠ .online then throw (.invalidTopic "cannot publish NDATA before NBIRTH")
  else do
    let ts ← nowMs
    let seq ← nextSeq
    let payload : Payload :=
      { timestamp := some ts, metrics := stamp (node.toDataMetrics metrics) ts, seq := some seq }
    publishRaw (node.nodeTopic .nData) (encode payload .data) .atMostOnce false

/-- `publish_device_data`: a DDATA with the next sequence number.  It asks for a born device, not
for an online node; the name is validated once more, which cannot fail for a device of the
configuration. -/
def publishDeviceData (device : String) (metrics : List Metric) : EdgeM T S Unit := do
  let node ← self
  if device ∉ node.bornDevices then
    throw (.invalidTopic s!"device {debugStr device} is not born; cannot publish DDATA")
  else do
    let deviceId ← EStateM.liftExcept (Ident.new device)
    let ts ← nowMs
    let seq ← nextSeq
    let payload : Payload :=
      { timestamp := some ts, metrics := stamp (node.toDataMetrics metrics) ts, seq := some seq }
    publishRaw (node.deviceTopic deviceId .dData) (encode payload .data) .atMostOnce false

/-- `publish_device_death`: a DDEATH for a born device, which leaves the list of born devices (at
its first occurrence) once the message is published. -/
def publishDeviceDeath (device : String) : EdgeM T S Unit := do
  let node ← self
  match node.bornDevices.findIdx? (· = device) with
  | none => throw (.invalidTopic s!"device {debugStr device} is not born; cannot publish DDEATH")
  | some pos => do
    let deviceId ← EStateM.liftExcept (Ident.new device)
    let ts ← nowMs
    let seq ← nextSeq
    let payload : Payload := { timestamp := some ts, metrics := [], seq := some seq }
    publishRaw (node.deviceTopic deviceId .dDeath) (encode payload .birth) .atMostOnce false
    assign fun node => { node with bornDevices := node.bornDevices.eraseIdx pos }

/-! ## 7. Inbound messages -/

/-- Whether a command asks for a rebirth: it has a metric `Node Control/Rebirth` with the Boolean
value true, among whatever others. -/
def isRebirth (payload : Payload) : Bool :=
  payload.metrics.any fun m =>
    m.name = some NODE_CONTROL_REBIRTH && (match m.value with | .boolean b => b | _ => false)

/-- The NCMD branch of `handle_incoming`.  The command is decoded with the alias map of the edge; a
rebirth request publishes the births, in whatever state the node is, unless it is debounced, and
none of the other metrics of such a command is surfaced. -/
def onNodeCommand (source : DataSource) (bytes : Bytes) : EdgeM T S EdgeEvent := do
  let payload ← EStateM.liftExcept (decode bytes (some (← self).aliasing.aliases))
  if isRebirth payload then
    if ← rebirthAllowed then do
      publishBirthSequence source
      let now ← Timed.instant
      assign fun node => { node with lastRebirth := some now }
      return .rebirthed
    else return .rebirthDebounced
  else return .nodeCommand payload

/-- The DCMD branch of `handle_incoming`: the command is decoded with the same map and surfaced. -/
def onDeviceCommand (device : DeviceId) (bytes : Bytes) : EdgeM T S EdgeEvent := do
  let payload ← EStateM.liftExcept (decode bytes (some (← self).aliasing.aliases))
  return .deviceCommand device.str payload

/-- What `handle_incoming` does at an accepted STATE of the primary host in `state`: an ONLINE one
ends the wait with a birth sequence, an OFFLINE one ends the session of an online node; in other
states nothing happens. -/
def followPrimary (source : DataSource) (state : EdgeState) (online : Bool) : EdgeM T S Unit :=
  if online then
    if state = .waitingForPrimaryHost then publishBirthSequence source else return ()
  else
    if state = .online then disconnect else return ()

/-- The STATE branch of `handle_incoming`, for the primary host.  The timestamp is remembered before
anything is published. -/
def onPrimaryState (source : DataSource) (state : StatePayload) : EdgeM T S EdgeEvent := do
  let node ← self
  -- a STATE older than the last accepted one is dropped
  if node.lastStateTs.any (fun last => state.timestamp < last) then return .ignored
  else do
    assign fun node => { node with lastStateTs := some state.timestamp }
    followPrimary source node.state state.online
    return .primaryHostState state

/-- The STATE branch of `handle_incoming`.  A STATE of another host is ignored; a text that is not
UTF-8 or not a STATE is an error. -/
def onHostState (source : DataSource) (hostId : String) (bytes : Bytes) : EdgeM T S EdgeEvent :=
  do
  if (← self).config.primaryHostId ≠ some hostId then return .ignored
  else do
    let text ← EStateM.liftExcept ((fromUtf8 bytes).elim (.error .invalidUtf8) .ok)
    let state ← EStateM.liftExcept (StatePayload.parse text)
    onPrimaryState source state

/-- `handle_incoming`: handle one inbound message by the type in its topic.  Neither the group nor
the node of a command is compared with the edge's own; other messages than commands and STATE are
ignored. -/
def handleIncoming (message : IncomingMessage) (source : DataSource) : EdgeM T S EdgeEvent := do
  match ← EStateM.liftExcept (SparkplugTopic.parse message.topic) with
  | .node _ _ .nCmd => onNodeCommand source message.payload
  | .device _ _ device .dCmd => onDeviceCommand device message.payload
  | .hostState hostId => onHostState source hostId message.payload
  | _ => return .ignored

end EdgeNode

end SparkplugB
