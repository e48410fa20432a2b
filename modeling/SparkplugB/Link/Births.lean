/-
# A birth sequence, from the edge to the host

A `Roster` is what the births of a session say: the metrics of the NBIRTH, and for each device
whether it is alive and what its last DBIRTH declared.  The edge writes it and the host keeps it:
`conveys_birth` says that the messages of one birth sequence leave every host, whatever its record
of the node was, with a record that holds the roster of that sequence and nothing else.
-/
import SparkplugB.Edge.Dressing
import SparkplugB.Link.Channel

namespace SparkplugB

open AliasRegistry Codec HostApplication

/-! ## 1. Rosters -/

/-- What the births of a session say: the bdSeq and the metrics of the NBIRTH, and for each device
that was born whether it is alive and its metrics. -/
structure Roster where
  bdSeq : Option Int64
  node : List Metric
  device : String → Option (Bool × List Metric)

namespace Roster

/-- After an NBIRTH. -/
def born (p : Payload) : Roster := ⟨bdseqOf p, p.metrics, fun _ => none⟩

/-- After a DBIRTH. -/
def bear (r : Roster) (device : String) (metrics : List Metric) : Roster :=
  { r with device := fun d => if d = device then some (true, metrics) else r.device d }

/-- After a DDEATH: the device is dead, and what it declared stays, as the host keeps its
registry. -/
def bury (r : Roster) (device : String) : Roster :=
  { r with
    device := fun d => if d = device then (r.device d).map fun b => (false, b.2) else r.device d }

theorem device_bear (r : Roster) (device d : String) (metrics : List Metric) :
    (r.bear device metrics).device d =
      if d = device then some (true, metrics) else r.device d := rfl

theorem device_bury (r : Roster) (device d : String) :
    (r.bury device).device d =
      if d = device then (r.device d).map fun b => (false, b.2) else r.device d := rfl

end Roster

/-- The record of a host holds a roster, and expects the number `next`: the node is online, and each
registry binds what the metrics of its birth declare. -/
structure NodeState.Holds (node : NodeState) (r : Roster) (next : UInt8) : Prop where
  online : node.online = true
  bdSeq : node.bdSeq = r.bdSeq
  expectedSeq : node.expectedSeq = next
  aliases : node.aliases = registryOf r.node
  devices : ∀ device : String,
    node.devices[device]? = (r.device device).map fun d => ⟨d.1, registryOf d.2⟩

namespace NodeState

/-- The time of the last rebirth request does not matter. -/
theorem Holds.of_session {node after : NodeState} {r : Roster} {next : UInt8}
    (hsame : node.session = after.session) (h : after.Holds r next) : node.Holds r next where
  online := (congrArg NodeState.online hsame).trans h.online
  bdSeq := (congrArg NodeState.bdSeq hsame).trans h.bdSeq
  expectedSeq := (congrArg NodeState.expectedSeq hsame).trans h.expectedSeq
  aliases := (congrArg NodeState.aliases hsame).trans h.aliases
  devices device :=
    (congrArg (fun node : NodeState => node.devices[device]?) hsame).trans (h.devices device)

/-- The record after an NBIRTH that binds no alias twice. -/
theorem holds_birth (node : NodeState) {p : Payload} {seq : UInt8}
    (hunique : ¬ Clashes p.metrics) (hseq : p.seq = some seq) :
    (node.birth p).1 = false ∧ (node.birth p).2.Holds (.born p) (seq + 1) := by
  have hdup : (node.birth p).1 = false := by
    have hrefuses := not_congr (@AliasRegistry.bindAll_new_refuses_iff p.metrics)
    exact Bool.not_eq_true _ ▸ hrefuses.mpr hunique
  have honline : (node.birth p).2.online = !(node.birth p).1 := rfl
  refine ⟨hdup, ⟨?_, rfl, ?_, rfl, ?_⟩⟩
  · rw [honline, hdup]
    rfl
  · show p.seq.getD 0 + 1 = seq + 1
    rw [hseq]
    rfl
  · intro device
    exact Std.ExtTreeMap.getElem?_empty

/-- The record after a DBIRTH that was accepted. -/
theorem Holds.deviceBirth {node : NodeState} {r : Roster} {seq : UInt8} (h : node.Holds r seq)
    (device : DeviceId) (p : Payload) :
    (node.accepted p (.deviceBirth device)).Holds (r.bear device.str p.metrics) (seq + 1) where
  online := (node.accepted_online p _).trans h.online
  bdSeq := (node.accepted_bdSeq p _).trans h.bdSeq
  expectedSeq := (node.accepted_expectedSeq p _).trans (congrArg (· + 1) h.expectedSeq)
  aliases := h.aliases
  devices d := by
    show (node.advance.putDevice device ⟨true, registryOf p.metrics⟩).devices[d]? = _
    rw [getElem?_putDevice, Roster.device_bear]
    by_cases hd : d = device.str
    · rw [if_pos hd, if_pos hd]
      rfl
    · rw [if_neg hd, if_neg hd]
      exact h.devices d

end NodeState

/-! ## 2. One birth -/

variable {T : Type} [MqttTransport T] {group : GroupId} {edge : EdgeNodeId}

/-- A birth that arrives: the codec can carry its metrics, `bind_metrics` refuses none of its
aliases, and it is no longer than a buffer can be. -/
structure Deliverable (p : Payload) : Prop where
  encodable : Encodable p.metrics
  unique : ¬ Clashes p.metrics
  size : (encode p .birth).length < 2 ^ 63

theorem Deliverable.decode {p : Payload} (h : Deliverable p) :
    decode (encode p .birth) none = .ok p :=
  decode_birth (fun m hm => (h.encodable m hm).1)
    ((p.depth_le_iff MAX_DEPTH).mpr fun m hm => (h.encodable m hm).2) h.size none

/-- An NBIRTH starts a session, whatever the record was: `on_node_birth` compares no numbers. -/
theorem conveys_nodeBirth {message : OutboundMessage} {p : Payload} {seq : UInt8}
    (hof : NodeMessage.of message.delivered = some (group, edge, .birth))
    (hwritten : message.payload = encode p .birth) (h : Deliverable p) (hseq : p.seq = some seq) :
    Conveys T group edge (fun _ => True) [message]
      [.nodeBirth group.str edge.str p.metrics] (·.Holds (.born p) (seq + 1)) := by
  refine conveys_of_turn hof (fun _ _ hsame hR => hR.of_session hsame) ?_
  intro now node verdict after _ ht
  rw [hwritten] at ht
  obtain ⟨rfl, rfl⟩ := ht.of_birth h.decode
  obtain ⟨hdup, hholds⟩ := node.holds_birth h.unique hseq
  exact ⟨by rw [hdup]; rfl, hholds⟩

/-- A DBIRTH with the number that is expected is surfaced by `on_device_birth`, and its device is on
the roster and alive. -/
theorem conveys_deviceBirth {message : OutboundMessage} {p : Payload} {seq : UInt8} {r : Roster}
    {device : DeviceId}
    (hof : NodeMessage.of message.delivered = some (group, edge, .deviceBirth device))
    (hwritten : message.payload = encode p .birth) (h : Deliverable p) (hseq : p.seq = some seq) :
    Conveys T group edge (·.Holds r seq) [message]
      [.deviceBirth group.str edge.str device.str p.metrics]
      (·.Holds (r.bear device.str p.metrics) (seq + 1)) := by
  refine conveys_of_turn hof (fun _ _ hsame hR => hR.of_session hsame) ?_
  intro now node verdict after hR ht
  rw [hwritten] at ht
  rcases ht.of_read rfl hR.online h.decode with ⟨-, rfl, rfl⟩ | ⟨hother, -, -⟩
  · refine ⟨?_, hR.deviceBirth device p⟩
    have hdup : ¬ (new.bindAll p.metrics).2 = true := fun hdup =>
      h.unique (bindAll_new_refuses_iff.mp hdup)
    rw [NodeState.decision, if_neg hdup]
    rfl
  · exact absurd (hseq.trans (congrArg some hR.expectedSeq.symm)) hother

/-! ## 3. A birth sequence -/

namespace Observed

variable {S : Type}

/-- The payload of the NBIRTH that `publish_birth_sequence` publishes first: the control metrics and
the source's, with aliases if they are in use. -/
def nodeBirthPayload (s : Observed S) (source : DataSource) : Payload :=
  s.engine.resetForBirth.sequenced
    (s.engine.resetForBirth.aliased
      (EdgeNode.controlled s.engine.bdSeq source.nodeBirthMetrics)).1 s.ms

/-- The payload of a DBIRTH, as `publish_device_birth` makes it from what the source supplies for
the device. -/
def deviceBirthPayload (s : Observed S) (source : DataSource) (device : DeviceId) : Payload :=
  s.engine.sequenced (s.engine.aliased (source.deviceBirthMetrics device.str)).1 s.ms

/-- The DBIRTHs of some devices. -/
def deviceBirths (source : DataSource) : List DeviceId → Observed S → List (DeviceId × Payload)
  | [], _ => []
  | device :: rest, s =>
    (device, s.deviceBirthPayload source device) :: deviceBirths source rest (s.deviceBirth source device)

/-- The DBIRTHs of a birth sequence, one for each device of the configuration, in its order. -/
def birthsOfDevices (s : Observed S) (source : DataSource) : List (DeviceId × Payload) :=
  deviceBirths source s.engine.config.devices (s.nodeBirth source)

/-- The message of a DBIRTH. -/
def birthMessage (group : GroupId) (edge : EdgeNodeId) (birth : DeviceId × Payload) :
    OutboundMessage where
  topic := ((NodeMessage.deviceBirth birth.1).topic group edge).toString
  qos := .atMostOnce
  retain := false
  payload := encode birth.2 .birth

/-- The messages of a birth sequence, in the order in which `publish_birth_sequence` publishes
them. -/
def birthMessages (s : Observed S) (source : DataSource) : List OutboundMessage :=
  s.engine.resetForBirth.nodeBirthMessage source s.ms ::
    (s.birthsOfDevices source).map (birthMessage s.engine.config.group s.engine.config.edge)

/-- The event of a DBIRTH. -/
def birthEvent (group : GroupId) (edge : EdgeNodeId) (birth : DeviceId × Payload) : HostEvent :=
  .deviceBirth group.str edge.str birth.1.str birth.2.metrics

/-- The events of a birth sequence, with the metrics as they were published. -/
def birthEvents (s : Observed S) (source : DataSource) : List HostEvent :=
  .nodeBirth s.engine.config.group.str s.engine.config.edge.str
      (s.nodeBirthPayload source).metrics ::
    (s.birthsOfDevices source).map (birthEvent s.engine.config.group s.engine.config.edge)

/-- The DBIRTHs on a roster. -/
def enrol (r : Roster) (births : List (DeviceId × Payload)) : Roster :=
  births.foldl (fun r birth => r.bear birth.1.str birth.2.metrics) r

/-- The roster of a birth sequence: that of a host which has heard the NBIRTH and every DBIRTH. -/
def birthRoster (s : Observed S) (source : DataSource) : Roster :=
  enrol (.born (s.nodeBirthPayload source)) (s.birthsOfDevices source)

/-- What `publish_device_birth` writes down, device by device: the messages of the DBIRTHs, in
order. -/
theorem log_deviceBirths (source : DataSource) (group : GroupId) (edge : EdgeNodeId) :
    ∀ (devices : List DeviceId) (s : Observed S), s.engine.config.group = group →
      s.engine.config.edge = edge →
      (devices.foldl (Observed.deviceBirth source) s).engine.transport.log =
        (((deviceBirths source devices s).map (birthMessage group edge)).map Entry.publish).reverse ++
          s.engine.transport.log := by
  intro devices
  induction devices with
  | nil => exact fun _ _ _ => rfl
  | cons device rest ih =>
    rintro s rfl rfl
    rw [List.foldl_cons, ih (s.deviceBirth source device) rfl rfl, deviceBirths, List.map_cons,
      List.map_cons, List.reverse_cons, List.append_assoc]
    rfl

theorem log_birth (s : Observed S) (source : DataSource) :
    (s.birth source).engine.transport.log =
      ((s.birthMessages source).map Entry.publish).reverse ++ s.engine.transport.log := by
  have hlog := log_deviceBirths source s.engine.config.group s.engine.config.edge
    s.engine.config.devices (s.nodeBirth source) rfl rfl
  rw [birthMessages, List.map_cons, List.reverse_cons, List.append_assoc]
  exact hlog

/-- The births of a sequence can all be sent: the codec can carry what the source supplies, which
brings no aliases of its own, and no message is longer than a buffer can be. -/
structure BirthFits (s : Observed S) (source : DataSource) : Prop where
  node : Encodable source.nodeBirthMetrics ∧ Unaliased source.nodeBirthMetrics
  device : ∀ device ∈ s.engine.config.devices,
    Encodable (source.deviceBirthMetrics device.str) ∧
      Unaliased (source.deviceBirthMetrics device.str)
  size : ∀ message ∈ s.birthMessages source, message.payload.length < 2 ^ 63

/-- A birth that is dressed and short enough arrives. -/
theorem deliverable_sequenced (node : EdgeNode Recorder S) {metrics : List Metric} {ts : UInt64}
    (hencodable : Encodable metrics) (hplain : Unaliased metrics)
    (hsize : (encode (node.sequenced (node.aliased metrics).1 ts) .birth).length < 2 ^ 63) :
    Deliverable (node.sequenced (node.aliased metrics).1 ts) where
  encodable := hencodable.dressed (node.dressed_sequenced metrics ts)
  unique := node.not_clashes_of_size hplain hsize
  size := hsize

/-- The NBIRTH of a sequence that fits arrives. -/
theorem deliverable_nodeBirth (s : Observed S) {source : DataSource} (h : s.BirthFits source) :
    Deliverable (s.nodeBirthPayload source) :=
  deliverable_sequenced s.engine.resetForBirth (h.node.1.controlled _) (h.node.2.controlled _)
    (h.size _ List.mem_cons_self)

/-- The DBIRTHs of devices whose metrics fit arrive. -/
theorem deliverable_deviceBirths (source : DataSource) :
    ∀ (devices : List DeviceId) (s : Observed S),
      (∀ device ∈ devices, Encodable (source.deviceBirthMetrics device.str) ∧
        Unaliased (source.deviceBirthMetrics device.str)) →
      (∀ birth ∈ deviceBirths source devices s, (encode birth.2 .birth).length < 2 ^ 63) →
      ∀ birth ∈ deviceBirths source devices s, Deliverable birth.2 := by
  intro devices
  induction devices with
  | nil =>
    intro s _ _ birth hbirth
    exact absurd hbirth (by simp [deviceBirths])
  | cons device rest ih =>
    intro s hfits hsize birth hbirth
    rcases List.mem_cons.mp hbirth with rfl | hrest
    · obtain ⟨hencodable, hplain⟩ := hfits device List.mem_cons_self
      exact deliverable_sequenced s.engine hencodable hplain (hsize _ List.mem_cons_self)
    · exact ih (s.deviceBirth source device) (fun d hd => hfits d (List.mem_cons_of_mem device hd))
        (fun b hb => hsize b (List.mem_cons_of_mem _ hb)) birth hrest

/-- The DBIRTHs of a sequence that fits arrive. -/
theorem deliverable_deviceBirth (s : Observed S) {source : DataSource} (h : s.BirthFits source)
    {birth : DeviceId × Payload} (hbirth : birth ∈ s.birthsOfDevices source) :
    Deliverable birth.2 :=
  deliverable_deviceBirths source s.engine.config.devices (s.nodeBirth source) h.device
    (fun _ hb => h.size _ (List.mem_cons_of_mem _ (List.mem_map_of_mem hb))) birth hbirth

/-- The DBIRTHs are heard one after the other. -/
theorem conveys_deviceBirths (source : DataSource) :
    ∀ (devices : List DeviceId) (s : Observed S) (r : Roster),
      (∀ birth ∈ deviceBirths source devices s, Deliverable birth.2) →
      Conveys T group edge (·.Holds r s.engine.seq.val)
        ((deviceBirths source devices s).map (birthMessage group edge))
        ((deviceBirths source devices s).map (birthEvent group edge))
        (·.Holds (enrol r (deviceBirths source devices s))
          (devices.foldl (Observed.deviceBirth source) s).engine.seq.val) := by
  intro devices
  induction devices with
  | nil => exact fun _ _ _ => conveys_nil
  | cons device rest ih =>
    intro s r hdeliverable
    have hfirst : Conveys T group edge (·.Holds r s.engine.seq.val)
        [birthMessage group edge (device, s.deviceBirthPayload source device)]
        [birthEvent group edge (device, s.deviceBirthPayload source device)] _ :=
      conveys_deviceBirth (NodeMessage.of_topic group edge (.deviceBirth device) _) rfl
        (hdeliverable _ List.mem_cons_self) rfl
    exact hfirst.append (ih (s.deviceBirth source device) _
      fun birth hbirth => hdeliverable birth (List.mem_cons_of_mem _ hbirth))

/-- **A birth sequence is heard**, by every host and whatever its record of the node was: each birth
is surfaced as it was published, and afterwards the record holds the roster of the sequence. -/
theorem conveys_birth (s : Observed S) {source : DataSource} (h : s.BirthFits source) :
    Conveys T s.engine.config.group s.engine.config.edge (fun _ => True)
      (s.birthMessages source) (s.birthEvents source)
      (·.Holds (s.birthRoster source) (s.birth source).engine.seq.val) := by
  have hnode : Conveys T s.engine.config.group s.engine.config.edge (fun _ => True)
      [s.engine.resetForBirth.nodeBirthMessage source s.ms]
      [.nodeBirth s.engine.config.group.str s.engine.config.edge.str
        (s.nodeBirthPayload source).metrics] (·.Holds (.born (s.nodeBirthPayload source)) (0 + 1)) :=
    conveys_nodeBirth (NodeMessage.of_topic s.engine.config.group s.engine.config.edge .birth _)
      rfl (deliverable_nodeBirth s h) rfl
  exact hnode.append (conveys_deviceBirths source s.engine.config.devices (s.nodeBirth source)
    (.born (s.nodeBirthPayload source)) fun _ hbirth => deliverable_deviceBirth s h hbirth)

end Observed

end SparkplugB
