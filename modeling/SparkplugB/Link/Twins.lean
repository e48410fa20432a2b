/-
# Two edges that differ in their aliases

The aliases of an edge go into what it sends and nowhere else.  `twin` takes them away, with the
journal and the option to assign them, and `twin_perform` says that every call commutes with it: what
an edge does next, and what its calls mean, depends on its twin alone.
-/
import SparkplugB.Codec.Extension
import SparkplugB.Link.InStep

namespace SparkplugB

open Codec

/-! ## 1. What is left without aliases -/

def Metric.unaliased (m : Metric) : Metric := { m with «alias» := none }

def Payload.unaliased (p : Payload) : Payload :=
  { p with metrics := p.metrics.map Metric.unaliased }

namespace Utterance

def unaliased : Utterance → Utterance
  | nodeBirth p => .nodeBirth p.unaliased
  | nodeData p => .nodeData p.unaliased
  | deviceBirth device p => .deviceBirth device p.unaliased
  | deviceData device p => .deviceData device p.unaliased
  | deviceDeath device p => .deviceDeath device p.unaliased

end Utterance

/-- The event with the aliases of its metrics cleared. -/
def HostEvent.unaliased : HostEvent → HostEvent
  | .nodeBirth group edge metrics => .nodeBirth group edge (metrics.map Metric.unaliased)
  | .nodeData group edge metrics => .nodeData group edge (metrics.map Metric.unaliased)
  | .deviceBirth group edge device metrics =>
    .deviceBirth group edge device (metrics.map Metric.unaliased)
  | .deviceData group edge device metrics =>
    .deviceData group edge device (metrics.map Metric.unaliased)
  | e => e

def Roster.unaliased (r : Roster) : Roster where
  bdSeq := r.bdSeq
  node := r.node.map Metric.unaliased
  device d := (r.device d).map fun b => (b.1, b.2.map Metric.unaliased)

theorem Utterance.event_unaliased (group : GroupId) (edge : EdgeNodeId) (u : Utterance) :
    u.unaliased.event group edge = (u.event group edge).unaliased := by
  cases u <;> rfl

theorem bdseqOf_unaliased (p : Payload) : bdseqOf p.unaliased = bdseqOf p := by
  unfold bdseqOf Payload.unaliased
  rw [List.find?_map]
  cases hfind : p.metrics.find? ((fun m : Metric => decide (m.name = some BDSEQ_METRIC_NAME)) ∘
      Metric.unaliased) with
  | none =>
    have hsame : p.metrics.find? (fun m : Metric => decide (m.name = some BDSEQ_METRIC_NAME)) = none :=
      hfind
    rw [hsame]
    rfl
  | some m =>
    have hsame : p.metrics.find? (fun m : Metric => decide (m.name = some BDSEQ_METRIC_NAME)) =
        some m := hfind
    rw [hsame]
    rfl

namespace Roster

theorem unaliased_declared (r : Roster) (target : Option String) :
    r.unaliased.declared target = (r.declared target).map Metric.unaliased := by
  cases target with
  | none => rfl
  | some device =>
    show ((r.device device).map _).elim [] Prod.snd = _
    cases h : r.device device with
    | none =>
      rw [declared, h]
      rfl
    | some b =>
      rw [declared, h]
      rfl

theorem unaliased_hear (r : Roster) (u : Utterance) :
    (r.hear u).unaliased = r.unaliased.hear u.unaliased := by
  cases u with
  | nodeBirth p =>
    show Roster.mk _ _ _ = Roster.mk _ _ _
    rw [bdseqOf_unaliased]
    rfl
  | deviceBirth device p =>
    refine congrArg (Roster.mk r.bdSeq (r.node.map Metric.unaliased)) (funext fun d => ?_)
    show Option.map _ (if d = device.str then _ else _) = if d = device.str then _ else _
    split <;> rfl
  | deviceDeath device p =>
    refine congrArg (Roster.mk r.bdSeq (r.node.map Metric.unaliased)) (funext fun d => ?_)
    show Option.map _ (if d = device.str then _ else _) = if d = device.str then _ else _
    split
    · show Option.map _ (Option.map _ (r.device d)) = Option.map _ (Option.map _ (r.device d))
      rw [Option.map_map, Option.map_map]
      rfl
    · rfl
  | nodeData p => rfl
  | deviceData device p => rfl

theorem unaliased_foldl_hear (us : List Utterance) (r : Roster) :
    (us.foldl hear r).unaliased = (us.map Utterance.unaliased).foldl hear r.unaliased := by
  induction us generalizing r with
  | nil => rfl
  | cons u us ih =>
    rw [List.foldl_cons, ih, unaliased_hear, List.map_cons, List.foldl_cons]

end Roster

/-! ## 2. What is sent -/

theorem unaliased_stamp (ts : UInt64) (metrics : List Metric) :
    (stamp metrics ts).map Metric.unaliased = stamp (metrics.map Metric.unaliased) ts := by
  unfold stamp
  rw [List.map_map, List.map_map]
  refine List.map_congr_left fun m _ => ?_
  show (stampMetric ts m).unaliased = stampMetric ts m.unaliased
  unfold stampMetric
  by_cases hts : m.timestamp.isNone = true
  · rw [if_pos hts]
    exact (if_pos hts).symm
  · rw [if_neg hts]
    exact (if_neg hts).symm

theorem unaliased_assignAll :
    ∀ (metrics : List Metric) (a : Aliasing),
      (a.assignAll metrics).1.map Metric.unaliased = metrics.map Metric.unaliased := by
  intro metrics
  induction metrics with
  | nil => exact fun _ => rfl
  | cons m rest ih =>
    intro a
    have hfirst : (a.assign m).1.unaliased = m.unaliased := by
      unfold Aliasing.assign
      split
      · rfl
      · split <;> rfl
    show (a.assign m).1.unaliased :: ((a.assign m).2.assignAll rest).1.map Metric.unaliased = _
    rw [hfirst, ih]
    rfl

namespace EdgeNode

variable {S : Type}

/-- A birth, but for its aliases. -/
theorem unaliased_sequenced (node : EdgeNode Recorder S) (metrics : List Metric) (ts : UInt64) :
    (node.sequenced (node.aliased metrics).1 ts).unaliased = (node.sequenced metrics ts).unaliased := by
  have hmetrics : (node.aliased metrics).1.map Metric.unaliased = metrics.map Metric.unaliased := by
    unfold aliased
    split
    · exact unaliased_assignAll metrics node.aliasing
    · rfl
  show Payload.mk _ ((stamp (node.aliased metrics).1 ts).map Metric.unaliased) _ _ _ =
    Payload.mk _ ((stamp metrics ts).map Metric.unaliased) _ _ _
  rw [unaliased_stamp, unaliased_stamp, hmetrics]
  rfl

end EdgeNode

/-! ## 3. The twin of an edge -/

namespace Observed

variable {S : Type}

/-- The edge without its aliases and its journal, and with `use_aliases` off: what two edges have in
common that differ in their aliases. -/
def twin (s : Observed S) : Observed S where
  engine := { s.engine with
    config := { s.engine.config with useAliases := false }
    transport := {}
    aliasing := ⟨.new, 0⟩ }
  clock := s.clock

/-- What depends on the twin alone is equal for edges with equal twins. -/
theorem congr_twin {α : Type} (f : Observed S → α) (hf : ∀ s, f s = f s.twin) {s s' : Observed S}
    (h : s.twin = s'.twin) : f s = f s' := by
  rw [hf s, hf s', h]

@[simp] theorem twin_note (e : Entry) (s : Observed S) : (s.note e).twin = s.twin := rfl

@[simp] theorem twin_sent (message : OutboundMessage) (s : Observed S) :
    (s.sent message).twin = (s.tick.update EdgeNode.advanceSeq).twin := rfl

theorem twin_connected (s : Observed S) : s.connected.twin = s.twin.tick := by
  have hloop : ∀ (topic : DeviceId → String) (devices : List DeviceId) (s : Observed S),
      (devices.foldl (fun s' device => s'.subscribe (topic device)) s).twin = s.twin := by
    intro topic devices
    induction devices with
    | nil => exact fun s => rfl
    | cons device rest ih => exact fun s => ih (s.subscribe (topic device))
  exact hloop _ _ _

theorem twin_deviceBirths (source : DataSource) :
    ∀ (devices : List DeviceId) {s s' : Observed S}, s.twin = s'.twin →
      (devices.foldl (deviceBirth source) s).twin = (devices.foldl (deviceBirth source) s').twin := by
  intro devices
  induction devices with
  | nil => exact fun h => h
  | cons device rest ih =>
    intro s s' h
    exact ih (congr_twin (fun x => (x.deviceBirth source device).twin) (fun _ => rfl) h)

theorem twin_birth (source : DataSource) {s s' : Observed S} (h : s.twin = s'.twin) :
    (s.birth source).twin = (s'.birth source).twin := by
  have hdevices : s.engine.config.devices = s'.engine.config.devices :=
    congr_twin (fun x => x.engine.config.devices) (fun _ => rfl) h
  have hnode : (s.nodeBirth source).twin = (s'.nodeBirth source).twin :=
    congr_twin (fun x => (x.nodeBirth source).twin) (fun _ => rfl) h
  have hfold := twin_deviceBirths source s.engine.config.devices hnode
  unfold birth
  rw [hdevices] at hfold ⊢
  exact congr_twin (fun x => (x.update fun node => { node with state := .online }).twin)
    (fun _ => rfl) hfold

theorem twin_debounced {s s' : Observed S} (h : s.twin = s'.twin) :
    s.debounced.twin = s'.debounced.twin := by
  have hlast : s.engine.lastRebirth = s'.engine.lastRebirth :=
    congr_twin (fun x => x.engine.lastRebirth) (fun _ => rfl) h
  unfold debounced
  rw [hlast]
  split
  · exact congr_twin (fun x => x.tick.twin) (fun _ => rfl) h
  · exact h

theorem twin_rebirth (source : DataSource) {s s' : Observed S} (h : s.twin = s'.twin) :
    (s.rebirth source).twin = (s'.rebirth source).twin := by
  have hbirth := twin_birth source (twin_debounced h)
  exact congr_twin (fun x => (x.tick.update fun node =>
    { node with lastRebirth := some x.clock.head.instant }).twin) (fun _ => rfl) hbirth

theorem twin_session (source : DataSource) {s s' : Observed S} (h : s.twin = s'.twin) :
    (s.session source).twin = (s'.session source).twin := by
  have hprimary : s.engine.config.primaryHostId = s'.engine.config.primaryHostId :=
    congr_twin (fun x => x.engine.config.primaryHostId) (fun _ => rfl) h
  have hconnected : s.connected.twin = s'.connected.twin := by
    rw [twin_connected, twin_connected, h]
  unfold session
  rw [hprimary]
  cases s'.engine.config.primaryHostId with
  | none => exact twin_birth source hconnected
  | some hostId =>
    exact congr_twin (fun x => (x.update fun node =>
      { node with state := .waitingForPrimaryHost }).twin) (fun _ => rfl) hconnected

/-! ## 4. Calls -/

/-- The edge after it has asked the store for a bdSeq. -/
def tried [BdSeqStore S] (s : Observed S) : Observed S :=
  match (BdSeqStore.loadNextDeath : EStateM String S UInt8).run s.engine.bdseqStore with
  | .ok bdSeq store =>
    s.update (·.withBdSeq ((BdSeqStore.storeNextDeath (bdSeq + 1)).run store).state bdSeq)
  | .error _ store => s.update (·.withBdSeq store s.engine.bdSeq)

end Observed

/-- An NCMD that asks for a rebirth, and can be read without a registry.  `handle_incoming` does not
look whose NCMD it is. -/
def IncomingMessage.AsksRebirth (message : IncomingMessage) : Prop :=
  (∃ group edge, SparkplugTopic.parse message.topic = .ok (.node group edge .nCmd)) ∧
    ∃ p, decode message.payload none = .ok p ∧ EdgeNode.isRebirth p = true

/-- The calls within a connection.  Of the messages, only those that ask for a rebirth: other
commands are read with the registry of the edge, which aliases are part of. -/
def Action.Reports : Action → Prop
  | .handleIncoming message _ => message.AsksRebirth
  | .disconnect => False
  | _ => True

theorem Action.Reports.unled {a : Action} (h : a.Reports) (config : EdgeNodeConfig) :
    config.Unled a := by
  intro message hostId hmessage _
  cases a with
  | handleIncoming m source =>
    obtain rfl := Option.some.inj hmessage
    obtain ⟨⟨group, edge, hparse⟩, -⟩ := h
    exact IncomingMessage.stateOf_of_parse hparse (by simp)
  | _ => exact absurd hmessage (by simp [Action.message?])

namespace Observed

variable {S : Type} [BdSeqStore S]

omit [BdSeqStore S] in
/-- Such an NCMD asks every edge, if a rebirth is due; its registry does not matter. -/
theorem asksRebirth_eq {message : IncomingMessage} (h : message.AsksRebirth) (s : Observed S) :
    s.asksRebirth message = s.engine.rebirthDue s.clock.head.instant := by
  obtain ⟨⟨group, edge, hparse⟩, p, hdec, hask⟩ := h
  unfold asksRebirth
  rw [hparse]
  dsimp only
  rw [decode_of_none hdec]
  show (EdgeNode.isRebirth p && _) = _
  rw [hask, Bool.true_and]

theorem perform_connect (source : DataSource) (s : Observed S) :
    s.perform (.connect source) = if s.opened?.isSome then s.tried.session source else s.tried := by
  show ((EdgeNode.connect source).run s).state = _
  unfold EdgeNode.connect
  cases hload : (BdSeqStore.loadNextDeath : EStateM String S UInt8).run s.engine.bdseqStore with
  | error e store =>
    rw [EStateM.bind_error (EdgeNode.run_onStore_error hload),
      opened?_of_fails (.inl ⟨e, store, hload⟩), tried, hload]
    rfl
  | ok bdSeq store =>
    have htried : s.tried = s.update (·.withBdSeq
        ((BdSeqStore.storeNextDeath (bdSeq + 1)).run store).state bdSeq) := by rw [tried, hload]
    rw [EStateM.bind_ok (EdgeNode.run_onStore_ok hload), EStateM.bind_ok (EdgeNode.run_assign _ _)]
    cases hstore : (BdSeqStore.storeNextDeath (bdSeq + 1)).run store with
    | error e store' =>
      rw [hstore] at htried
      rw [EStateM.bind_error (EdgeNode.run_onStore_error hstore),
        opened?_of_fails (.inr ⟨bdSeq, store, e, store', hload, hstore⟩), htried]
      rfl
    | ok u store' =>
      rw [hstore] at htried
      rw [EStateM.bind_ok (EdgeNode.run_onStore_ok hstore), EdgeNode.run_openSession,
        opened?_of_ok hload hstore, htried]
      rfl

theorem perform_publishNodeData (metrics : List Metric) (s : Observed S) :
    s.perform (.publishNodeData metrics) =
      if s.engine.state = .online then
        s.sent (s.engine.dataMessage (s.engine.nodeTopic .nData) metrics s.ms)
      else s := by
  by_cases hon : s.engine.state = .online
  · rw [if_pos hon]
    exact congrArg EStateM.Result.state (EdgeNode.run_publishNodeData hon)
  · rw [if_neg hon]
    obtain ⟨e, h⟩ := EdgeNode.run_publishNodeData_refused metrics hon
    exact congrArg EStateM.Result.state h

omit [BdSeqStore S] in
/-- A device that is not born, or whose name is no id. -/
theorem refused_of_born? {s : Observed S} {device : String} (h : s.born? device = none) :
    device ∉ s.engine.bornDevices ∨ ∀ id : DeviceId, Ident.new device ≠ .ok id := by
  by_cases hborn : device ∈ s.engine.bornDevices
  · refine .inr fun id hid => ?_
    rw [born?, if_pos hborn, hid] at h
    exact absurd h (by simp [Except.toOption])
  · exact .inl hborn

theorem perform_publishDeviceData (device : String) (metrics : List Metric) (s : Observed S) :
    s.perform (.publishDeviceData device metrics) =
      (s.born? device).elim s fun id =>
        s.sent (s.engine.dataMessage (s.engine.deviceTopic id .dData) metrics s.ms) := by
  cases hid : s.born? device with
  | none =>
    obtain ⟨e, h⟩ := EdgeNode.run_publishDeviceData_refused metrics (refused_of_born? hid)
    exact congrArg EStateM.Result.state h
  | some id =>
    obtain ⟨rfl, hborn⟩ := str_of_born? hid
    have h := @EdgeNode.run_publishDeviceData S id.str metrics s hborn
    rw [Ident.new_str] at h
    exact congrArg EStateM.Result.state h

theorem perform_publishDeviceDeath (device : String) (s : Observed S) :
    s.perform (.publishDeviceDeath device) =
      (s.born? device).elim s fun id =>
        (s.sent (s.engine.deviceDeathMessage id s.ms)).update fun node =>
          { node with bornDevices := s.engine.bornDevices.erase device } := by
  cases hid : s.born? device with
  | none =>
    obtain ⟨e, h⟩ := EdgeNode.run_publishDeviceDeath_refused (refused_of_born? hid)
    exact congrArg EStateM.Result.state h
  | some id =>
    obtain ⟨rfl, hborn⟩ := str_of_born? hid
    have h := @EdgeNode.run_publishDeviceDeath S id.str s hborn
    rw [Ident.new_str] at h
    exact congrArg EStateM.Result.state h

theorem perform_asksRebirth {message : IncomingMessage} (h : message.AsksRebirth)
    (source : DataSource) (s : Observed S) :
    s.perform (.handleIncoming message source) =
      if s.engine.rebirthDue s.clock.head.instant then (s.note (.handled message)).rebirth source
      else (s.note (.handled message)).debounced := by
  obtain ⟨⟨group, edge, hparse⟩, p, hdec, hask⟩ := h
  have hrun := @EdgeNode.run_onNodeCommand S source message.payload (s.note (.handled message)) p
    (decode_of_none hdec _)
  rw [if_pos hask] at hrun
  show (EStateM.run (EdgeNode.handleIncoming message source >>= fun _ => pure ())
    (s.note (.handled message))).state = _
  rw [EStateM.run_bind, EdgeNode.handleIncoming_nodeCommand hparse, hrun]
  by_cases hdue : s.engine.rebirthDue s.clock.head.instant = true
  · have hdue' : (s.note (.handled message)).engine.rebirthDue
        (s.note (.handled message)).clock.head.instant = true := hdue
    rw [if_pos hdue, if_pos hdue']
    rfl
  · have hdue' : ¬ (s.note (.handled message)).engine.rebirthDue
        (s.note (.handled message)).clock.head.instant = true := hdue
    rw [if_neg hdue, if_neg hdue']
    rfl

/-- What the store answers depends on the twin. -/
theorem twin_tried {s s' : Observed S} (h : s.twin = s'.twin) :
    s.tried.twin = s'.tried.twin ∧ s.opened?.isSome = s'.opened?.isSome := by
  have hstore : s.engine.bdseqStore = s'.engine.bdseqStore :=
    congr_twin (fun x => x.engine.bdseqStore) (fun _ => rfl) h
  have hset : ∀ (store : S) (bdSeq : UInt8), (s.update (·.withBdSeq store bdSeq)).twin =
      (s'.update (·.withBdSeq store bdSeq)).twin := fun store bdSeq =>
    congr_twin (fun x => (x.update (·.withBdSeq store bdSeq)).twin) (fun _ => rfl) h
  have hbdSeq : s.engine.bdSeq = s'.engine.bdSeq :=
    congr_twin (fun x => x.engine.bdSeq) (fun _ => rfl) h
  unfold tried opened?
  rw [hstore, hbdSeq]
  cases (BdSeqStore.loadNextDeath : EStateM String S UInt8).run s'.engine.bdseqStore with
  | error e store => exact ⟨hset store _, rfl⟩
  | ok bdSeq store =>
    refine ⟨hset _ bdSeq, ?_⟩
    dsimp only
    cases (BdSeqStore.storeNextDeath (bdSeq + 1)).run store <;> rfl

/-- **Every call commutes with taking the aliases away**: edges with equal twins have equal twins
after it. -/
theorem twin_perform {s s' : Observed S} (h : s.twin = s'.twin) {a : Action} (ha : a.Reports) :
    (s.perform a).twin = (s'.perform a).twin := by
  have hborn : ∀ device, s.born? device = s'.born? device := fun device =>
    congr_twin (fun x => x.born? device) (fun _ => rfl) h
  cases a with
  | connect source =>
    obtain ⟨htried, hopened⟩ := twin_tried h
    rw [perform_connect, perform_connect, hopened]
    split
    · exact twin_session source htried
    · exact htried
  | publishBirthSequence source =>
    have hperform : ∀ x : Observed S, x.perform (.publishBirthSequence source) = x.birth source :=
      fun x => congrArg EStateM.Result.state (EdgeNode.run_publishBirthSequence source x)
    rw [hperform, hperform]
    exact twin_birth source h
  | publishNodeData metrics =>
    have hstate : s.engine.state = s'.engine.state :=
      congr_twin (fun x => x.engine.state) (fun _ => rfl) h
    rw [perform_publishNodeData, perform_publishNodeData, hstate]
    split
    · exact congr_twin (fun x => (x.tick.update EdgeNode.advanceSeq).twin) (fun _ => rfl) h
    · exact h
  | publishDeviceData device metrics =>
    rw [perform_publishDeviceData, perform_publishDeviceData, hborn]
    cases s'.born? device with
    | none => exact h
    | some id => exact congr_twin (fun x => (x.tick.update EdgeNode.advanceSeq).twin) (fun _ => rfl) h
  | publishDeviceDeath device =>
    rw [perform_publishDeviceDeath, perform_publishDeviceDeath, hborn]
    cases s'.born? device with
    | none => exact h
    | some id =>
      exact congr_twin (fun x => ((x.tick.update EdgeNode.advanceSeq).update fun node =>
        { node with bornDevices := x.engine.bornDevices.erase device }).twin) (fun _ => rfl) h
  | handleIncoming message source =>
    have hdue : s.engine.rebirthDue s.clock.head.instant =
        s'.engine.rebirthDue s'.clock.head.instant :=
      congr_twin (fun x => x.engine.rebirthDue x.clock.head.instant) (fun _ => rfl) h
    have hnote : (s.note (.handled message)).twin = (s'.note (.handled message)).twin := h
    rw [perform_asksRebirth ha, perform_asksRebirth ha, hdue]
    split
    · exact twin_rebirth source hnote
    · exact twin_debounced hnote
  | disconnect => exact ha.elim

/-! ## 5. What a call means -/

omit [BdSeqStore S] in
theorem unaliased_deviceBirths (source : DataSource) :
    ∀ (devices : List DeviceId) {s s' : Observed S}, s.twin = s'.twin →
      (deviceBirths source devices s).map (fun birth => (birth.1, birth.2.unaliased)) =
        (deviceBirths source devices s').map fun birth => (birth.1, birth.2.unaliased) := by
  intro devices
  induction devices with
  | nil => exact fun _ => rfl
  | cons device rest ih =>
    intro s s' h
    have hpayload : (s.deviceBirthPayload source device).unaliased =
        (s'.deviceBirthPayload source device).unaliased := by
      unfold deviceBirthPayload
      rw [EdgeNode.unaliased_sequenced, EdgeNode.unaliased_sequenced]
      exact congr_twin (fun x => (x.engine.sequenced (source.deviceBirthMetrics device.str)
        x.ms).unaliased) (fun _ => rfl) h
    have hnext := ih (congr_twin (fun x => (x.deviceBirth source device).twin) (fun _ => rfl) h)
    rw [deviceBirths, deviceBirths, List.map_cons, List.map_cons, hnext, hpayload]

omit [BdSeqStore S] in
/-- The births of a sequence, but for their aliases. -/
theorem unaliased_births (source : DataSource) {s s' : Observed S} (h : s.twin = s'.twin) :
    (s.births source).map Utterance.unaliased = (s'.births source).map Utterance.unaliased := by
  have hnode : (s.nodeBirthPayload source).unaliased = (s'.nodeBirthPayload source).unaliased := by
    unfold nodeBirthPayload
    rw [EdgeNode.unaliased_sequenced, EdgeNode.unaliased_sequenced]
    exact congr_twin (fun x => (x.engine.resetForBirth.sequenced
      (EdgeNode.controlled x.engine.bdSeq source.nodeBirthMetrics) x.ms).unaliased) (fun _ => rfl) h
  have hdevices : s.engine.config.devices = s'.engine.config.devices :=
    congr_twin (fun x => x.engine.config.devices) (fun _ => rfl) h
  have hbirths := unaliased_deviceBirths source s.engine.config.devices
    (congr_twin (fun x => (x.nodeBirth source).twin) (fun _ => rfl) h)
  have hmap := congrArg (List.map fun birth : DeviceId × Payload =>
    Utterance.deviceBirth birth.1 birth.2) hbirths
  rw [List.map_map, List.map_map] at hmap
  unfold births birthsOfDevices
  rw [List.map_cons, List.map_cons, List.map_map, List.map_map, ← hdevices]
  exact List.cons_eq_cons.mpr ⟨congrArg Utterance.nodeBirth hnode, hmap⟩

/-- **What a call means depends on the twin**, but for the aliases of the births, which a source's
metrics are given on the way. -/
theorem unaliased_meant {s s' : Observed S} (h : s.twin = s'.twin) {a : Action} (ha : a.Reports) :
    (s.meant a).map Utterance.unaliased = (s'.meant a).map Utterance.unaliased := by
  have hborn : ∀ device, s.born? device = s'.born? device := fun device =>
    congr_twin (fun x => x.born? device) (fun _ => rfl) h
  have hsequenced : ∀ metrics, s.engine.sequenced metrics s.ms = s'.engine.sequenced metrics s'.ms :=
    fun metrics => congr_twin (fun x => x.engine.sequenced metrics x.ms) (fun _ => rfl) h
  unfold meant uttered
  cases a with
  | connect source =>
    have hprimary : s.engine.config.primaryHostId = s'.engine.config.primaryHostId :=
      congr_twin (fun x => x.engine.config.primaryHostId) (fun _ => rfl) h
    have hstore : s.engine.bdseqStore = s'.engine.bdseqStore :=
      congr_twin (fun x => x.engine.bdseqStore) (fun _ => rfl) h
    have hset : ∀ (store : S) (bdSeq : UInt8), (s.update (·.withBdSeq store bdSeq)).connected.twin =
        (s'.update (·.withBdSeq store bdSeq)).connected.twin := fun store bdSeq => by
      rw [twin_connected, twin_connected]
      exact congr_twin (fun x => (x.update (·.withBdSeq store bdSeq)).twin.tick) (fun _ => rfl) h
    dsimp only
    rw [hprimary]
    split
    · unfold opened?
      rw [hstore]
      cases (BdSeqStore.loadNextDeath : EStateM String S UInt8).run s'.engine.bdseqStore with
      | error e store => rfl
      | ok bdSeq store =>
        dsimp only
        cases (BdSeqStore.storeNextDeath (bdSeq + 1)).run store with
        | error e store' => rfl
        | ok u store' =>
          rw [Option.toList_some, Option.toList_some, List.flatMap_singleton,
            List.flatMap_singleton]
          exact unaliased_births source (hset store' bdSeq)
    · rfl
  | publishBirthSequence source => exact unaliased_births source h
  | publishNodeData metrics =>
    have hstate : s.engine.state = s'.engine.state :=
      congr_twin (fun x => x.engine.state) (fun _ => rfl) h
    dsimp only
    rw [hstate, hsequenced]
  | publishDeviceData device metrics =>
    dsimp only
    rw [hborn, hsequenced]
  | publishDeviceDeath device =>
    dsimp only
    rw [hborn, hsequenced]
  | handleIncoming message source =>
    have hdue : s.engine.rebirthDue s.clock.head.instant =
        s'.engine.rebirthDue s'.clock.head.instant :=
      congr_twin (fun x => x.engine.rebirthDue x.clock.head.instant) (fun _ => rfl) h
    dsimp only
    rw [asksRebirth_eq ha, asksRebirth_eq ha, hdue]
    split
    · exact unaliased_births source (twin_debounced h)
    · rfl
  | disconnect => rfl

end Observed

end SparkplugB
