/-
# What an edge says and what a host hears

Within a connection an edge says five things: that the node or a device of it was born, what their
metrics are, and that a device has died.  An `Utterance` is one of them, with the payload that is
written.  A host that holds the roster of the births hears each of them as the event it stands for,
the names of the metrics filled in from the births.
-/
import SparkplugB.Link.Births

namespace SparkplugB

open AliasRegistry Codec HostApplication

/-! ## 1. Utterances -/

/-- What an edge says in one message within a connection: its births, its data and the deaths of its
devices.  The NDEATH is not among them; the broker sends that. -/
inductive Utterance where
  | nodeBirth (p : Payload)
  | nodeData (p : Payload)
  | deviceBirth (device : DeviceId) (p : Payload)
  | deviceData (device : DeviceId) (p : Payload)
  | deviceDeath (device : DeviceId) (p : Payload)

namespace Utterance

def payload : Utterance → Payload
  | nodeBirth p | nodeData p | deviceBirth _ p | deviceData _ p | deviceDeath _ p => p

/-- The message of the node that it is, which a host tells from the topic. -/
def kind : Utterance → NodeMessage
  | nodeBirth _ => .birth
  | nodeData _ => .data
  | deviceBirth device _ => .deviceBirth device
  | deviceData device _ => .deviceData device
  | deviceDeath device _ => .deviceDeath device

/-- As `encode` writes it: births and deaths with `EncodeOptions::birth`, data without its
datatypes, with `EncodeOptions::data`. -/
def bytes (u : Utterance) : Bytes := encode u.payload (if u.kind.isData then .data else .birth)

/-- As it is published: on the topic of its kind, at most once and not retained. -/
def message (group : GroupId) (edge : EdgeNodeId) (u : Utterance) : OutboundMessage where
  topic := (u.kind.topic group edge).toString
  qos := .atMostOnce
  retain := false
  payload := u.bytes

/-- The event it stands for, which is what a host should return.  An event has the time stamp of a
DDEATH as an `i64`; a stamp from 2^63 on turns negative here. -/
def event (group : GroupId) (edge : EdgeNodeId) : Utterance → HostEvent
  | nodeBirth p => .nodeBirth group.str edge.str p.metrics
  | nodeData p => .nodeData group.str edge.str p.metrics
  | deviceBirth device p => .deviceBirth group.str edge.str device.str p.metrics
  | deviceData device p => .deviceData group.str edge.str device.str p.metrics
  | deviceDeath device p =>
    .deviceDeath group.str edge.str device.str (p.timestamp.getD 0).toInt64

theorem of_message (group : GroupId) (edge : EdgeNodeId) (u : Utterance) :
    NodeMessage.of (u.message group edge).delivered = some (group, edge, u.kind) :=
  NodeMessage.of_topic group edge u.kind _

end Utterance

/-! ## 2. Rosters -/

namespace Roster

/-- Nothing has been born. -/
def empty : Roster := ⟨none, [], fun _ => none⟩

/-- The roster after an utterance: an NBIRTH begins a new one, DBIRTHs and DDEATHs change the entry
of one device, and data changes nothing. -/
def hear (r : Roster) : Utterance → Roster
  | .nodeBirth p => .born p
  | .deviceBirth device p => r.bear device.str p.metrics
  | .deviceDeath device _ => r.bury device.str
  | .nodeData _ | .deviceData _ _ => r

/-- The metrics of the last birth of the node, or of a device; none if it was not born. -/
def declared (r : Roster) : Option String → List Metric
  | none => r.node
  | some device => (r.device device).elim [] Prod.snd

/-- A DDEATH takes nothing back that a birth has declared. -/
theorem declared_bury (r : Roster) (device : String) (target : Option String) :
    (r.bury device).declared target = r.declared target := by
  cases target with
  | none => rfl
  | some d =>
    rw [declared, declared, device_bury]
    by_cases hd : d = device
    · rw [if_pos hd]
      cases r.device d <;> rfl
    · rw [if_neg hd]

/-- An utterance as a host that holds the roster hears it: data with the names filled in, as
`resolve_names` does it with the registry of the birth. -/
def heard (r : Roster) : Utterance → Utterance
  | .nodeData p =>
    .nodeData { p with metrics := resolveNames (registryOf (r.declared none)) p.metrics }
  | .deviceData device p =>
    .deviceData device
      { p with metrics := resolveNames (registryOf (r.declared (some device.str))) p.metrics }
  | u => u

end Roster

namespace NodeState

variable {node : NodeState} {r : Roster} {seq : UInt8}

/-- The record after data. -/
theorem Holds.advance (h : node.Holds r seq) : node.advance.Holds r (seq + 1) where
  online := h.online
  bdSeq := h.bdSeq
  expectedSeq := congrArg (· + 1) h.expectedSeq
  aliases := h.aliases
  devices := h.devices

/-- The record after a DDEATH that was accepted. -/
theorem Holds.deviceDeath (h : node.Holds r seq) (device : DeviceId) (p : Payload) :
    (node.accepted p (.deviceDeath device)).Holds (r.bury device.str) (seq + 1) where
  online := (node.accepted_online p _).trans h.online
  bdSeq := (node.accepted_bdSeq p _).trans h.bdSeq
  expectedSeq := (node.accepted_expectedSeq p _).trans (congrArg (· + 1) h.expectedSeq)
  aliases := by
    rw [accepted]
    split <;> exact h.aliases
  devices d := by
    have hdevice := h.devices device.str
    rw [Roster.device_bury, accepted]
    cases hborn : r.device device.str with
    | none =>
      rw [hborn, Option.map_none] at hdevice
      rw [hdevice]
      by_cases hd : d = device.str
      · subst hd
        rw [if_pos rfl, hborn]
        exact hdevice
      · rw [if_neg hd]
        exact h.devices d
    | some b =>
      rw [hborn, Option.map_some] at hdevice
      rw [hdevice]
      dsimp only
      rw [getElem?_putDevice]
      by_cases hd : d = device.str
      · subst hd
        rw [if_pos rfl, if_pos rfl, hborn]
        rfl
      · rw [if_neg hd, if_neg hd]
        exact h.devices d

/-- The registry that data of a device on the roster is read with. -/
theorem Holds.registry_device (h : node.Holds r seq) {device : String} {b : Bool × List Metric}
    (hborn : r.device device = some b) :
    ((node.devices[device]?).getD .default).aliases =
      registryOf (r.declared (some device)) := by
  rw [h.devices, hborn, Roster.declared, hborn]
  rfl

end NodeState

/-! ## 3. What is heard -/

variable {T : Type} [MqttTransport T] {group : GroupId} {edge : EdgeNodeId} {r : Roster}
  {seq : UInt8} {p : Payload}

/-- NDATA that has the expected number and that the registry of the NBIRTH can read: `on_node_data`
surfaces it, with its names resolved. -/
theorem conveys_nodeData (hseq : p.seq = some seq)
    (hread : decode (encode p .data) (some (registryOf (r.declared none))) = .ok p) :
    Conveys T group edge (·.Holds r seq) [(Utterance.nodeData p).message group edge]
      [(r.heard (.nodeData p)).event group edge] (·.Holds r (seq + 1)) := by
  refine conveys_of_turn (Utterance.of_message group edge (.nodeData p))
    (fun _ _ hsame hR => hR.of_session hsame) ?_
  intro now node verdict after hR ht
  have hreads : node.reads .data (encode p .data) = .ok p := by
    show decode (encode p .data) (some node.aliases) = _
    rw [hR.aliases]
    exact hread
  rcases ht.of_read rfl hR.online hreads with ⟨-, rfl, rfl⟩ | ⟨hother, -, -⟩
  · refine ⟨?_, hR.advance⟩
    show Verdict.event (.nodeData group.str edge.str (resolveNames node.aliases p.metrics)) = _
    rw [hR.aliases]
    rfl
  · exact absurd (hseq.trans (congrArg some hR.expectedSeq.symm)) hother

/-- DDATA that has the expected number and that the registry of the DBIRTH can read, of a device
that is alive: `on_device_data` surfaces it. -/
theorem conveys_deviceData {device : DeviceId} {metrics : List Metric} (hseq : p.seq = some seq)
    (hborn : r.device device.str = some (true, metrics))
    (hread : decode (encode p .data) (some (registryOf (r.declared (some device.str)))) = .ok p) :
    Conveys T group edge (·.Holds r seq) [(Utterance.deviceData device p).message group edge]
      [(r.heard (.deviceData device p)).event group edge] (·.Holds r (seq + 1)) := by
  refine conveys_of_turn (Utterance.of_message group edge (.deviceData device p))
    (fun _ _ hsame hR => hR.of_session hsame) ?_
  intro now node verdict after hR ht
  have hregistry := hR.registry_device hborn
  have hreads : node.reads (.deviceData device) (encode p .data) = .ok p := by
    show decode (encode p .data)
      (some ((node.devices[device.str]?).getD .default).aliases) = _
    rw [hregistry]
    exact hread
  have halive : node.listens (.deviceData device) = true := by
    show (node.online && node.deviceOnline device) = true
    rw [hR.online, NodeState.deviceOnline, hR.devices, hborn]
    rfl
  rcases ht.of_read rfl halive hreads with ⟨-, rfl, rfl⟩ | ⟨hother, -, -⟩
  · refine ⟨?_, hR.advance⟩
    show Verdict.event (.deviceData group.str edge.str device.str
      (resolveNames ((node.devices[device.str]?).getD .default).aliases p.metrics)) = _
    rw [hregistry]
    rfl
  · exact absurd (hseq.trans (congrArg some hR.expectedSeq.symm)) hother

/-- A DDEATH that has the expected number: `on_device_death` surfaces it with its time stamp.  Were
the stamp too large for an `i64` (`hfits`), the event would have the time of the host. -/
theorem conveys_deviceDeath {device : DeviceId} {ts : UInt64} (hseq : p.seq = some seq)
    (hts : p.timestamp = some ts) (hfits : ts.toNat < 2 ^ 63)
    (hread : decode (encode p .birth) none = .ok p) :
    Conveys T group edge (·.Holds r seq) [(Utterance.deviceDeath device p).message group edge]
      [(Utterance.deviceDeath device p).event group edge]
      (·.Holds (r.bury device.str) (seq + 1)) := by
  refine conveys_of_turn (Utterance.of_message group edge (.deviceDeath device p))
    (fun _ _ hsame hR => hR.of_session hsame) ?_
  intro now node verdict after hR ht
  have hstamped : deathTimestamp now p = (p.timestamp.getD 0).toInt64 := by
    rw [deathTimestamp, hts, Option.bind_some, toInt64?, if_pos hfits]
    rfl
  have hreads : node.reads (.deviceDeath device) (encode p .birth) = .ok p := hread
  rcases ht.of_read rfl hR.online hreads with ⟨-, rfl, rfl⟩ | ⟨hother, -, -⟩
  · refine ⟨?_, hR.deviceDeath device p⟩
    show Verdict.event (.deviceDeath group.str edge.str device.str (deathTimestamp now p)) = _
    rw [hstamped]
    rfl
  · exact absurd (hseq.trans (congrArg some hR.expectedSeq.symm)) hother

end SparkplugB
