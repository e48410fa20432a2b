/-
# Resynchronisation

A host that has lost its way asks for a rebirth, and whatever its record of the node has become by
then, one birth sequence sets it right: the record says what the edge is and what its births
declare, and nothing of the session before is left.
-/
import SparkplugB.Edge.BdSeq
import SparkplugB.Edge.Faults
import SparkplugB.Link.Births

namespace SparkplugB

open AliasRegistry Codec HostApplication Machine

/-! ## 1. The last birth of a device -/

theorem exists_last {α : Type} {l : List α} (P : α → Bool) (h : ∃ x ∈ l, P x = true) :
    ∃ before x after, l = before ++ x :: after ∧ P x = true ∧ ∀ y ∈ after, P y = false := by
  obtain ⟨x, hx, hP⟩ := h
  obtain ⟨y, hy⟩ := Option.isSome_iff_exists.mp
    (List.find?_isSome.mpr ⟨x, List.mem_reverse.mpr hx, hP⟩)
  obtain ⟨hPy, pre, post, hsplit, hpre⟩ := List.find?_eq_some_iff_append.mp hy
  refine ⟨post.reverse, y, pre.reverse, ?_, hPy, ?_⟩
  · have hrev := congrArg List.reverse hsplit
    rw [List.reverse_reverse] at hrev
    rw [hrev, List.reverse_append, List.reverse_cons, List.append_assoc]
    rfl
  · intro z hz
    simpa using hpre z (List.mem_reverse.mp hz)

namespace Observed

/-- A device that is not among the births keeps its place on the roster. -/
theorem device_enrol_other {device : String} :
    ∀ (births : List (DeviceId × Payload)) (r : Roster),
      (∀ birth ∈ births, birth.1.str ≠ device) → (enrol r births).device device = r.device device := by
  intro births
  induction births with
  | nil => exact fun _ _ => rfl
  | cons birth rest ih =>
    intro r hother
    have hrest := ih (r.bear birth.1.str birth.2.metrics) fun b hb =>
      hother b (List.mem_cons_of_mem birth hb)
    have hne : device ≠ birth.1.str := Ne.symm (hother birth List.mem_cons_self)
    rw [Roster.device_bear, if_neg hne] at hrest
    exact hrest

/-- The last birth of a device counts. -/
theorem device_enrol_last (r : Roster) (before after : List (DeviceId × Payload))
    (birth : DeviceId × Payload) (hlast : ∀ b ∈ after, b.1.str ≠ birth.1.str) :
    (enrol r (before ++ birth :: after)).device birth.1.str = some (true, birth.2.metrics) := by
  have hsplit : enrol r (before ++ birth :: after) =
      enrol ((enrol r before).bear birth.1.str birth.2.metrics) after := by
    rw [enrol, List.foldl_append, List.foldl_cons]
    rfl
  rw [hsplit, device_enrol_other after _ hlast, Roster.device_bear, if_pos rfl]

theorem bdSeq_enrol (births : List (DeviceId × Payload)) (r : Roster) :
    (enrol r births).bdSeq = r.bdSeq ∧ (enrol r births).node = r.node := by
  induction births generalizing r with
  | nil => exact ⟨rfl, rfl⟩
  | cons birth rest ih => exact ih (r.bear birth.1.str birth.2.metrics)

variable {S : Type}

/-- Every device is born, in the order of the configuration. -/
theorem map_fst_deviceBirths (source : DataSource) :
    ∀ (devices : List DeviceId) (s : Observed S),
      (deviceBirths source devices s).map Prod.fst = devices := by
  intro devices
  induction devices with
  | nil => exact fun _ => rfl
  | cons device rest ih =>
    intro s
    rw [deviceBirths, List.map_cons, ih]

theorem bornDevices_foldl (source : DataSource) :
    ∀ (devices : List DeviceId) (s : Observed S),
      (devices.foldl (Observed.deviceBirth source) s).engine.bornDevices =
        s.engine.bornDevices ++ devices.map Ident.str := by
  intro devices
  induction devices with
  | nil => exact fun s => (List.append_nil _).symm
  | cons device rest ih =>
    intro s
    rw [List.foldl_cons, ih, List.map_cons, ← List.singleton_append, ← List.append_assoc]
    rfl

/-- After a birth sequence the devices of the configuration are born, and no other. -/
theorem bornDevices_birth (s : Observed S) (source : DataSource) :
    (s.birth source).engine.bornDevices = s.engine.config.devices.map Ident.str := by
  have hborn := bornDevices_foldl source s.engine.config.devices (s.nodeBirth source)
  exact hborn.trans (List.nil_append _)

/-- The roster of a birth sequence carries the bdSeq of the connection. -/
theorem bdSeq_birthRoster (s : Observed S) {source : DataSource}
    (hfit : source.BdSeqFits s.engine.bdSeq) :
    (s.birthRoster source).bdSeq = some (Int64.ofNat s.engine.bdSeq.toNat) := by
  rw [birthRoster, (bdSeq_enrol _ _).1]
  have hpayload : bdseqOf (s.nodeBirthPayload source) =
      bdseqOf { metrics := EdgeNode.controlled s.engine.bdSeq source.nodeBirthMetrics } :=
    EdgeNode.bdseqOf_sequenced s.engine.resetForBirth _ s.ms
  exact hpayload.trans (bdseqOf_controlled hfit)

end Observed

/-! ## 2. The record after a birth sequence -/

/-- The last of the messages that says `m` about the node. -/
def LastOf (group : GroupId) (edge : EdgeNodeId) (messages : List OutboundMessage) (m : NodeMessage)
    (message : OutboundMessage) : Prop :=
  NodeMessage.of message.delivered = some (group, edge, m) ∧
    ∃ before after, messages = before ++ message :: after ∧
      ∀ later ∈ after, NodeMessage.of later.delivered ≠ some (group, edge, m)

/-- The record of a host says what the edge is: online, with its next number, its bdSeq and the
devices that are born and no others.  Its registries resolve what the last births among the messages
declare. -/
structure Resynchronised {S : Type} (node : NodeState) (edge : EdgeNode Recorder S)
    (messages : List OutboundMessage) : Prop where
  online : node.online = true
  expectedSeq : node.expectedSeq = edge.seq.val
  bdSeq : node.bdSeq = some (Int64.ofNat edge.bdSeq.toNat)
  devices : ∀ device : String,
    (∃ state, node.devices[device]? = some state ∧ state.online = true) ↔
      device ∈ edge.bornDevices
  noDevice : ∀ device : String, device ∉ edge.bornDevices → node.devices[device]? = none
  aliases : ∃ message p,
    LastOf edge.config.group edge.config.edge messages .birth message ∧
      decode message.payload none = .ok p ∧ node.aliases.Resolves p.metrics
  deviceAliases : ∀ device ∈ edge.config.devices, ∃ message p state,
    LastOf edge.config.group edge.config.edge messages (.deviceBirth device) message ∧
      decode message.payload none = .ok p ∧ node.devices[device.str]? = some state ∧
      state.aliases.Resolves p.metrics

namespace Observed

variable {S : Type}

/-- The messages of a birth sequence are those the edge has written down. -/
theorem eq_birthMessages {s : Observed S} {source : DataSource} {messages : List OutboundMessage}
    (h : (s.birth source).engine.transport.log =
      (messages.map Entry.publish).reverse ++ s.engine.transport.log) :
    messages = s.birthMessages source := by
  rw [log_birth] at h
  have hmap := List.reverse_injective (List.append_cancel_right h)
  have hinj : Function.Injective Entry.publish := fun _ _ heq => Entry.publish.inj heq
  exact (List.map_injective_iff.mpr hinj hmap).symm

theorem of_birthMessage (group : GroupId) (edge : EdgeNodeId) (birth : DeviceId × Payload) :
    NodeMessage.of (birthMessage group edge birth).delivered =
      some (group, edge, .deviceBirth birth.1) :=
  NodeMessage.of_topic group edge (.deviceBirth birth.1) _

/-- The NBIRTH is the last one of its kind. -/
theorem lastOf_nodeBirth (s : Observed S) (source : DataSource) :
    LastOf s.engine.config.group s.engine.config.edge (s.birthMessages source) .birth
      (s.engine.resetForBirth.nodeBirthMessage source s.ms) := by
  refine ⟨NodeMessage.of_topic s.engine.config.group s.engine.config.edge .birth _, [], _, rfl, ?_⟩
  intro later hlater
  obtain ⟨birth, -, rfl⟩ := List.mem_map.mp hlater
  rw [of_birthMessage]
  simp

/-- The last DBIRTH of a device that is configured. -/
theorem exists_last_deviceBirth (s : Observed S) (source : DataSource) {device : DeviceId}
    (hdevice : device ∈ s.engine.config.devices) :
    ∃ p, LastOf s.engine.config.group s.engine.config.edge (s.birthMessages source)
        (.deviceBirth device)
        (birthMessage s.engine.config.group s.engine.config.edge (device, p)) ∧
      (device, p) ∈ s.birthsOfDevices source ∧
      (s.birthRoster source).device device.str = some (true, p.metrics) := by
  have hmem : ∃ birth ∈ s.birthsOfDevices source, decide (birth.1.str = device.str) = true := by
    have hmap := map_fst_deviceBirths source s.engine.config.devices (s.nodeBirth source)
    rw [← hmap] at hdevice
    obtain ⟨birth, hbirth, rfl⟩ := List.mem_map.mp hdevice
    exact ⟨birth, hbirth, by simp⟩
  obtain ⟨before, ⟨device', p⟩, after, hsplit, hsame, hafter⟩ := exists_last _ hmem
  obtain rfl : device' = device := Ident.str_inj (of_decide_eq_true hsame)
  have hlast : ∀ b ∈ after, b.1.str ≠ device'.str := fun b hb =>
    of_decide_eq_false (hafter b hb)
  refine ⟨p, ⟨of_birthMessage _ _ (device', p), ?_⟩, ?_, ?_⟩
  · refine ⟨s.engine.resetForBirth.nodeBirthMessage source s.ms ::
        before.map (birthMessage s.engine.config.group s.engine.config.edge),
      after.map (birthMessage s.engine.config.group s.engine.config.edge), ?_, ?_⟩
    · rw [birthMessages, hsplit, List.map_append, List.map_cons]
      rfl
    · intro later hlater
      obtain ⟨birth, hbirth, rfl⟩ := List.mem_map.mp hlater
      rw [of_birthMessage]
      intro heq
      simp only [Option.some.injEq, Prod.mk.injEq, NodeMessage.deviceBirth.injEq, true_and] at heq
      exact hlast birth hbirth (congrArg Ident.str heq)
  · rw [hsplit]
    exact List.mem_append_right _ List.mem_cons_self
  · rw [birthRoster, hsplit]
    exact device_enrol_last _ before after (device', p) hlast

end Observed

namespace HostApplication

variable {T S : Type} [MqttTransport T]

open Observed in
/-- **Resynchronisation**, from any state of the host and of the edge: after the messages of one
birth sequence, heard in order, the host's record of the node says what the edge is and what its
births declare.  The source supplies what the codec can carry, without aliases of its own (`hnode`,
`hdevice`) and without a bdSeq (`hbdSeq`), which `publish_birth_sequence` would keep. -/
theorem resynchronised (host : HostApplication T) {s s' : Observed S} {source : DataSource}
    {messages : List OutboundMessage} {inputs : List (Reading × IncomingMessage)}
    (hnode : Encodable source.nodeBirthMetrics ∧ Unaliased source.nodeBirthMetrics)
    (hdevice : ∀ device ∈ s.engine.config.devices,
      Encodable (source.deviceBirthMetrics device.str) ∧
        Unaliased (source.deviceBirthMetrics device.str))
    (hbdSeq : ∀ m ∈ source.nodeBirthMetrics, m.name ≠ some BDSEQ_METRIC_NAME)
    (hrun : (EdgeNode.publishBirthSequence source).run s = .ok () s')
    (hsent : s'.engine.transport.log =
      (messages.map Entry.publish).reverse ++ s.engine.transport.log)
    (hsize : ∀ message ∈ messages, message.payload.length < 2 ^ 63)
    (hheard : Delivers messages inputs) :
    Resynchronised ((run next host inputs).node
      (key s.engine.config.group s.engine.config.edge)) s'.engine messages := by
  rw [EdgeNode.run_publishBirthSequence] at hrun
  obtain rfl : s.birth source = s' := (EStateM.Result.ok.inj hrun).2
  obtain rfl := eq_birthMessages hsent
  have hfits : s.BirthFits source := ⟨hnode, hdevice, hsize⟩
  obtain ⟨-, hholds⟩ := conveys_birth s hfits host inputs hheard trivial
  have hconfig : (s.birth source).engine.config = s.engine.config :=
    EdgeNode.foldl_field EdgeNode.config (g := Observed.deviceBirth source) (fun _ _ => rfl)
      s.engine.config.devices (s.nodeBirth source)
  have hsameBdSeq : (s.birth source).engine.bdSeq = s.engine.bdSeq :=
    EdgeNode.foldl_field EdgeNode.bdSeq (g := Observed.deviceBirth source) (fun _ _ => rfl)
      s.engine.config.devices (s.nodeBirth source)
  have hplace : ∀ device : DeviceId, device ∈ s.engine.config.devices →
      ∃ p, LastOf s.engine.config.group s.engine.config.edge (s.birthMessages source)
          (.deviceBirth device)
          (birthMessage s.engine.config.group s.engine.config.edge (device, p)) ∧
        (device, p) ∈ s.birthsOfDevices source ∧
        ((run next host inputs).node
          (key s.engine.config.group s.engine.config.edge)).devices[device.str]? =
            some ⟨true, registryOf p.metrics⟩ := by
    intro device hdevice
    obtain ⟨p, hlast, hmem, hroster⟩ := exists_last_deviceBirth s source hdevice
    exact ⟨p, hlast, hmem, by rw [hholds.devices, hroster]; rfl⟩
  have hunconfigured : ∀ device : String, device ∉ (s.birth source).engine.bornDevices →
      ((run next host inputs).node
        (key s.engine.config.group s.engine.config.edge)).devices[device]? = none := by
    intro device hunborn
    rw [bornDevices_birth] at hunborn
    rw [hholds.devices, birthRoster, device_enrol_other]
    · rfl
    · intro birth hbirth heq
      refine hunborn (List.mem_map.mpr ⟨birth.1, ?_, heq⟩)
      rw [← map_fst_deviceBirths source s.engine.config.devices (s.nodeBirth source)]
      exact List.mem_map_of_mem hbirth
  refine ⟨hholds.online, hholds.expectedSeq, ?_, ?_, hunconfigured, ?_, ?_⟩
  · rw [hholds.bdSeq, hsameBdSeq]
    refine bdSeq_birthRoster s fun hany => ?_
    obtain ⟨m, hm, hname⟩ := List.any_eq_true.mp hany
    exact absurd (of_decide_eq_true hname) (hbdSeq m hm)
  · intro device
    constructor
    · rintro ⟨state, hstate, -⟩
      by_contra hunborn
      exact absurd (hstate.symm.trans (hunconfigured device hunborn)) (by simp)
    · intro hborn
      rw [bornDevices_birth] at hborn
      obtain ⟨device, hmem, rfl⟩ := List.mem_map.mp hborn
      obtain ⟨p, -, -, hrecord⟩ := hplace device hmem
      exact ⟨_, hrecord, rfl⟩
  · rw [hconfig]
    have hpayload := deliverable_nodeBirth s hfits
    refine ⟨_, s.nodeBirthPayload source, lastOf_nodeBirth s source, hpayload.decode, ?_⟩
    rw [hholds.aliases, birthRoster, (bdSeq_enrol _ _).2]
    exact resolves_registryOf hpayload.unique
  · rw [hconfig]
    intro device hdevice
    obtain ⟨p, hlast, hmem, hrecord⟩ := hplace device hdevice
    have hpayload := deliverable_deviceBirth s hfits hmem
    exact ⟨_, p, _, hlast, hpayload.decode, hrecord, resolves_registryOf hpayload.unique⟩

/-- A line with a pump that assigns aliases. -/
def meteredLine : Observed InMemoryBdSeqStore :=
  .start { pumpLine with useAliases := true } (⟨0⟩ : InMemoryBdSeqStore) stopped

open Observed in
/-- A host that has heard another NBIRTH of the line before. -/
theorem resynchronised_metered :
    Resynchronised ((run next hostOfLine
        ((meteredLine.birthMessages metered).map fun message => (noon, message.delivered))).node
          (key pumpLine.group pumpLine.edge))
      (meteredLine.birth metered).engine (meteredLine.birthMessages metered) := by
  have hsize : ∀ message ∈ meteredLine.birthMessages metered, message.payload.length < 2 ^ 63 := by
    decide +kernel
  have hnode : Encodable metered.nodeBirthMetrics ∧ Unaliased metered.nodeBirthMetrics := by
    decide
  have hdevice : ∀ device ∈ meteredLine.engine.config.devices,
      Encodable (metered.deviceBirthMetrics device.str) ∧
        Unaliased (metered.deviceBirthMetrics device.str) := by decide
  exact @resynchronised Recorder InMemoryBdSeqStore _ hostOfLine meteredLine
    (meteredLine.birth metered) metered _ _ hnode hdevice (by decide)
    (EdgeNode.run_publishBirthSequence metered meteredLine) (log_birth meteredLine metered) hsize
    (delivers_at noon _)

end HostApplication

end SparkplugB
