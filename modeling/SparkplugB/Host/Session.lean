/-
# What one message does to the record of one node

The abstract view of the host: each Edge Node has a session of its own, and a message addressed
to the node is one `Turn` of it.  `Turn` says once, case by case, everything a handler can do to
the record; `handleIncoming_turn` and `handleIncoming_elsewhere` connect it to the engine, for
the node a message is addressed to and for every other node.  The time of the last rebirth
request is not part of the session.
-/
import SparkplugB.Host.Engine
import SparkplugB.Lib.Frame

namespace SparkplugB

/-! ## 1. Messages about a node -/

/-- The messages that concern a node's session: its births, its data and its deaths, and those of
its devices. -/
inductive NodeMessage where
  | birth
  | data
  | death
  | deviceBirth (device : DeviceId)
  | deviceData (device : DeviceId)
  | deviceDeath (device : DeviceId)
  deriving DecidableEq

namespace NodeMessage

/-- What a topic says about whose session it concerns: nothing for commands and STATE messages. -/
def ofTopic : SparkplugTopic → Option (GroupId × EdgeNodeId × NodeMessage)
  | .node group edge .nBirth => some (group, edge, birth)
  | .node group edge .nData => some (group, edge, data)
  | .node group edge .nDeath => some (group, edge, death)
  | .device group edge device .dBirth => some (group, edge, deviceBirth device)
  | .device group edge device .dData => some (group, edge, deviceData device)
  | .device group edge device .dDeath => some (group, edge, deviceDeath device)
  | _ => none

/-- Whose session an incoming message concerns. -/
def of (message : IncomingMessage) : Option (GroupId × EdgeNodeId × NodeMessage) :=
  match SparkplugTopic.parse message.topic with
  | .ok topic => ofTopic topic
  | .error _ => none

/-- The topic of a message of the node. -/
def topic (group : GroupId) (edge : EdgeNodeId) : NodeMessage → SparkplugTopic
  | birth => .node group edge .nBirth
  | data => .node group edge .nData
  | death => .node group edge .nDeath
  | deviceBirth device => .device group edge device .dBirth
  | deviceData device => .device group edge device .dData
  | deviceDeath device => .device group edge device .dDeath

theorem fits_topic (group : GroupId) (edge : EdgeNodeId) (m : NodeMessage) :
    (m.topic group edge).Fits := by
  cases m <;> simp [topic, SparkplugTopic.Fits, MessageType.hasDevice]

/-- A message published on its topic concerns the session of the node. -/
theorem of_topic (group : GroupId) (edge : EdgeNodeId) (m : NodeMessage) (bytes : Bytes) :
    of ⟨(m.topic group edge).toString, bytes⟩ = some (group, edge, m) := by
  unfold of
  rw [SparkplugTopic.parse_toString (fits_topic group edge m)]
  cases m <;> rfl

/-- Whether the message takes a sequence number after its NBIRTH: neither NBIRTH nor NDEATH does. -/
def isSequenced : NodeMessage → Bool
  | birth | death => false
  | _ => true

/-- NDATA and DDATA: the handlers treat one that does not decode as a loss, while the others return
the error. -/
def isData : NodeMessage → Bool
  | data | deviceData _ => true
  | _ => false

end NodeMessage

/-- `NodeState` less the time of the last rebirth request, which outlives sessions and which no
decision about a session depends on. -/
def NodeState.session (node : NodeState) : NodeState := { node with lastRebirth := none }

namespace NodeState

@[simp] theorem session_online (node : NodeState) : node.session.online = node.online := rfl

@[simp] theorem session_bdSeq (node : NodeState) : node.session.bdSeq = node.bdSeq := rfl

@[simp] theorem session_expectedSeq (node : NodeState) :
    node.session.expectedSeq = node.expectedSeq := rfl

@[simp] theorem session_aliases (node : NodeState) : node.session.aliases = node.aliases := rfl

@[simp] theorem session_devices (node : NodeState) : node.session.devices = node.devices := rfl

@[simp] theorem takeRebirthSlot_session (node : NodeState) (debounce : Duration) (now : Nat) :
    (node.takeRebirthSlot debounce now).2.session = node.session := by
  simp only [takeRebirthSlot]
  split <;> rfl

/-- Whether a handler of a sequenced message runs its body on this record: the guard of its `match`.
DDATA is the one that also looks at the device. -/
def listens (node : NodeState) : NodeMessage → Bool
  | .deviceData device => node.online && node.deviceOnline device
  | _ => node.online

theorem online_of_listens {node : NodeState} {m : NodeMessage} (h : node.listens m = true) :
    node.online = true := by
  cases m with
  | deviceData device => exact (Bool.and_eq_true _ _ ▸ h).1
  | _ => exact h

/-- The registry that the handler passes to `decode`: that of the node for NDATA, that of the device
for DDATA, and none for births and deaths. -/
def registry (node : NodeState) : NodeMessage → Option AliasRegistry
  | .data => some node.aliases
  | .deviceData device => some ((node.devices[device.str]?).getD .default).aliases
  | _ => none

/-- The payload, as this record reads it. -/
def reads (node : NodeState) (message : NodeMessage) (bytes : Bytes) : Result Payload :=
  decode bytes (node.registry message)

/-- The record after a sequenced message that carried the expected number.  A DBIRTH puts its device
online even if it binds one alias to two names. -/
def accepted (node : NodeState) (payload : Payload) : NodeMessage → NodeState
  | .deviceBirth device =>
    node.advance.putDevice device ⟨true, (AliasRegistry.new.bindAll payload.metrics).1⟩
  | .deviceDeath device =>
    match node.devices[device.str]? with
    | some state => node.advance.putDevice device { state with online := false }
    | none => node.advance
  | _ => node.advance

/-- The decision about a sequenced message that carried the expected number: an event, but for a
DBIRTH that binds one alias to two names. -/
def decision (node : NodeState) (now : Reading) (group : GroupId) (edge : EdgeNodeId)
    (payload : Payload) : NodeMessage → Step
  | .deviceBirth device =>
    if (AliasRegistry.new.bindAll payload.metrics).2 then .rebirth
    else .event (.deviceBirth group.str edge.str device.str payload.metrics)
  | .deviceDeath device =>
    .event (.deviceDeath group.str edge.str device.str (deathTimestamp now payload))
  | .deviceData device =>
    .event (.deviceData group.str edge.str device.str
      (resolveNames ((node.devices[device.str]?).getD .default).aliases payload.metrics))
  | _ => .event (.nodeData group.str edge.str (resolveNames node.aliases payload.metrics))

theorem getElem?_putDevice (node : NodeState) (device : DeviceId) (state : DeviceState)
    (d : String) :
    (node.putDevice device state).devices[d]? =
      if d = device.str then some state else node.devices[d]? := by
  show (node.devices.insert device.str state)[d]? = _
  rw [Std.ExtTreeMap.getElem?_insert]
  by_cases hd : d = device.str
  · subst hd
    rw [if_pos rfl, if_pos Std.ReflCmp.compare_self]
  · rw [if_neg hd, if_neg]
    rw [Std.LawfulEqCmp.compare_eq_iff_eq]
    exact Ne.symm hd

@[simp] theorem accepted_online (node : NodeState) (payload : Payload) (message : NodeMessage) :
    (node.accepted payload message).online = node.online := by
  cases message <;> simp only [accepted] <;> first | rfl | (split <;> rfl)

@[simp] theorem accepted_bdSeq (node : NodeState) (payload : Payload) (message : NodeMessage) :
    (node.accepted payload message).bdSeq = node.bdSeq := by
  cases message <;> simp only [accepted] <;> first | rfl | (split <;> rfl)

@[simp] theorem accepted_expectedSeq (node : NodeState) (payload : Payload)
    (message : NodeMessage) :
    (node.accepted payload message).expectedSeq = node.expectedSeq + 1 := by
  cases message <;> simp only [accepted] <;> first | rfl | (split <;> rfl)

end NodeState

/-! ## 2. The turns of a session -/

/-- What the host makes of a message, before the debounce window and the transport have their say on
a rebirth request. -/
inductive Verdict where
  | event (e : HostEvent)
  | rebirth
  | ignored
  | failed (e : SparkplugError)

/-- The verdict a handler's decision becomes. -/
def Step.verdict : Step → Verdict
  | .event e => .event e
  | .rebirth => .rebirth

/-- **Everything a message can do** to the record of the node it is addressed to: one constructor
for each way through a handler, with the conditions under which it is taken.  Every invariant of a
host is proved by cases on it, and no proof unfolds a handler again. -/
inductive Turn (now : Reading) (group : GroupId) (edge : EdgeNodeId) (node : NodeState)
    (bytes : Bytes) : NodeMessage → Verdict → NodeState → Prop
  | birthUnreadable {e} (h : decode bytes none = .error e) :
    Turn now group edge node bytes .birth (.failed e) node
  | birth {p} (h : decode bytes none = .ok p) (unique : (node.birth p).1 = false) :
    Turn now group edge node bytes .birth
      (.event (.nodeBirth group.str edge.str p.metrics)) (node.birth p).2
  | birthAmbiguous {p} (h : decode bytes none = .ok p) (dup : (node.birth p).1 = true) :
    Turn now group edge node bytes .birth .rebirth (node.birth p).2
  | deathUnreadable {e} (h : decode bytes none = .error e) :
    Turn now group edge node bytes .death (.failed e) node
  | death {p} (h : decode bytes none = .ok p) (online : node.online = true)
      (known : node.bdSeq.isSome = true) (same : node.bdSeq = bdseqOf p) :
    Turn now group edge node bytes .death
      (.event (.nodeDeath group.str edge.str (deathTimestamp now p) node.onlineDevices))
      node.death
  | deathStale {p} (h : decode bytes none = .ok p)
      (stale : ¬ (node.online = true ∧ node.bdSeq.isSome = true ∧ node.bdSeq = bdseqOf p)) :
    Turn now group edge node bytes .death .ignored node
  | deaf {m} (seq : m.isSequenced = true) (h : node.listens m = false) :
    Turn now group edge node bytes m .rebirth node
  | unreadable {m e} (seq : m.isSequenced = true) (data : m.isData = false)
      (on : node.listens m = true) (h : node.reads m bytes = .error e) :
    Turn now group edge node bytes m (.failed e) node
  | malformed {m e} (data : m.isData = true) (on : node.listens m = true)
      (h : node.reads m bytes = .error e) :
    Turn now group edge node bytes m .rebirth node.offline
  | gap {m p} (seq : m.isSequenced = true) (on : node.listens m = true)
      (h : node.reads m bytes = .ok p) (other : p.seq ≠ some node.expectedSeq) :
    Turn now group edge node bytes m .rebirth node.offline
  | accept {m p} (seq : m.isSequenced = true) (on : node.listens m = true)
      (h : node.reads m bytes = .ok p) (next : p.seq = some node.expectedSeq) :
    Turn now group edge node bytes m (node.decision now group edge p m).verdict
      (node.accepted p m)

namespace Turn

variable {now : Reading} {group : GroupId} {edge : EdgeNodeId} {node after : NodeState}
  {bytes : Bytes} {verdict : Verdict} {p : Payload}

/-- An NBIRTH that does not decode changes nothing. -/
theorem of_birth_error (h : Turn now group edge node bytes .birth verdict after)
    {e : SparkplugError} (hdec : decode bytes none = .error e) :
    verdict = .failed e ∧ after = node := by
  cases h with
  | birthUnreadable h' =>
    obtain rfl := Except.error.inj (h'.symm.trans hdec)
    exact ⟨rfl, rfl⟩
  | birth h' _ => exact absurd (h'.symm.trans hdec) (by simp)
  | birthAmbiguous h' _ => exact absurd (h'.symm.trans hdec) (by simp)
  | deaf seq _ => exact absurd seq (by decide)
  | unreadable seq _ _ _ => exact absurd seq (by decide)
  | malformed data _ _ => exact absurd data (by decide)
  | gap seq _ _ _ => exact absurd seq (by decide)
  | accept seq _ _ _ => exact absurd seq (by decide)

/-- An NBIRTH that decodes starts a session. -/
theorem of_birth (h : Turn now group edge node bytes .birth verdict after)
    (hdec : decode bytes none = .ok p) :
    after = (node.birth p).2 ∧ verdict = if (node.birth p).1 then .rebirth
      else .event (.nodeBirth group.str edge.str p.metrics) := by
  cases h with
  | birthUnreadable h' => exact absurd (h'.symm.trans hdec) (by simp)
  | birth h' unique =>
    obtain rfl := Except.ok.inj (h'.symm.trans hdec)
    exact ⟨rfl, by rw [unique]; rfl⟩
  | birthAmbiguous h' dup =>
    obtain rfl := Except.ok.inj (h'.symm.trans hdec)
    exact ⟨rfl, by rw [dup]; rfl⟩
  | deaf seq _ => exact absurd seq (by decide)
  | unreadable seq _ _ _ => exact absurd seq (by decide)
  | malformed data _ _ => exact absurd data (by decide)
  | gap seq _ _ _ => exact absurd seq (by decide)
  | accept seq _ _ _ => exact absurd seq (by decide)

/-- An NDEATH that decodes is honoured or goes by. -/
theorem of_death (h : Turn now group edge node bytes .death verdict after)
    (hdec : decode bytes none = .ok p) :
    (node.online = true ∧ node.bdSeq.isSome = true ∧ node.bdSeq = bdseqOf p) ∧
        after = node.death ∧ verdict = .event
          (.nodeDeath group.str edge.str (deathTimestamp now p) node.onlineDevices) ∨
      ¬ (node.online = true ∧ node.bdSeq.isSome = true ∧ node.bdSeq = bdseqOf p) ∧
        after = node ∧ verdict = .ignored := by
  cases h with
  | deathUnreadable h' => exact absurd (h'.symm.trans hdec) (by simp)
  | death h' online known same =>
    obtain rfl := Except.ok.inj (h'.symm.trans hdec)
    exact .inl ⟨⟨online, known, same⟩, rfl, rfl⟩
  | deathStale h' stale =>
    obtain rfl := Except.ok.inj (h'.symm.trans hdec)
    exact .inr ⟨stale, rfl, rfl⟩
  | deaf seq _ => exact absurd seq (by decide)
  | unreadable seq _ _ _ => exact absurd seq (by decide)
  | malformed data _ _ => exact absurd data (by decide)
  | gap seq _ _ _ => exact absurd seq (by decide)
  | accept seq _ _ _ => exact absurd seq (by decide)

/-- A sequenced message that is listened to and can be read: the sequence check decides. -/
theorem of_read {m : NodeMessage} (h : Turn now group edge node bytes m verdict after)
    (seq : m.isSequenced = true) (on : node.listens m = true)
    (hreads : node.reads m bytes = .ok p) :
    (p.seq = some node.expectedSeq ∧ after = node.accepted p m ∧
        verdict = (node.decision now group edge p m).verdict) ∨
      (p.seq ≠ some node.expectedSeq ∧ after = node.offline ∧ verdict = .rebirth) := by
  cases h with
  | birthUnreadable _ => exact absurd seq (by decide)
  | birth _ _ => exact absurd seq (by decide)
  | birthAmbiguous _ _ => exact absurd seq (by decide)
  | deathUnreadable _ => exact absurd seq (by decide)
  | death _ _ _ _ => exact absurd seq (by decide)
  | deathStale _ _ => exact absurd seq (by decide)
  | deaf _ h' => exact absurd (h'.symm.trans on) (by decide)
  | unreadable _ _ _ h' => exact absurd (h'.symm.trans hreads) (by simp)
  | malformed _ _ h' => exact absurd (h'.symm.trans hreads) (by simp)
  | gap _ _ h' other =>
    obtain rfl := Except.ok.inj (h'.symm.trans hreads)
    exact .inr ⟨other, rfl, rfl⟩
  | accept _ _ h' next =>
    obtain rfl := Except.ok.inj (h'.symm.trans hreads)
    exact .inl ⟨next, rfl, rfl⟩

end Turn

/-- What the caller sees of a verdict.  A rebirth request may be suppressed by the debounce
window, and its NCMD may fail to be published. -/
def Verdict.Shows (group : GroupId) (edge : EdgeNodeId) :
    Verdict → Except SparkplugError HostEvent → Prop
  | .event e, outcome => outcome = .ok e
  | .rebirth, outcome =>
    outcome = .ok .ignored ∨ outcome = .ok (.rebirthRequested group.str edge.str) ∨
      ∃ e, outcome = .error e
  | .ignored, outcome => outcome = .ok .ignored
  | .failed e, outcome => outcome = .error e

/-! ## 3. The engine takes turns -/

namespace HostApplication

variable {T : Type}

theorem node_putNode (host : HostApplication T) (k k' : String) (n : NodeState) :
    (host.putNode k n).node k' = if k = k' then n else host.node k' := by
  unfold putNode node
  rw [Std.ExtTreeMap.getElem?_insert]
  by_cases h : k = k'
  · simp [h]
  · simp [h]

/-- The key of a node determines its ids. -/
theorem key_injective {g g' : GroupId} {e e' : EdgeNodeId} (h : key g e = key g' e') :
    g = g' ∧ e = e' := by
  have hsplit : ∀ (g : GroupId) (e : EdgeNodeId),
      SparkplugTopic.tokens (key g e) = [g.str, e.str] := by
    intro g e
    have hkey : key g e = g.str ++ "/" ++ e.str := rfl
    rw [hkey, SparkplugTopic.tokens_cons _ g.slash_notMem,
      SparkplugTopic.tokens_last e.slash_notMem]
  have hlist : [g.str, e.str] = [g'.str, e'.str] := by rw [← hsplit, h, hsplit]
  obtain ⟨hg, hrest⟩ := List.cons.inj hlist
  obtain ⟨he, -⟩ := List.cons.inj hrest
  exact ⟨Ident.str_inj hg, Ident.str_inj he⟩

/-- A transport call leaves every record alone. -/
theorem node_onTransport {α : Type} (p : EStateM SparkplugError T α) (host : HostApplication T)
    (k : String) : ((onTransport p).run host).state.node k = host.node k := by
  rw [onTransport, EStateM.state_run_focus]
  rfl

/-- What handling did, seen from the node under `key`: its new session, the verdict shown to the
caller, and nothing about any other node. -/
structure Realises (host : HostApplication T) (group : GroupId) (edge : EdgeNodeId)
    (verdict : Verdict) (after : NodeState)
    (result : EStateM.Result SparkplugError (HostApplication T) HostEvent) : Prop where
  session : (result.state.node (key group edge)).session = after.session
  elsewhere : ∀ k, k ≠ key group edge → result.state.node k = host.node k
  shows : verdict.Shows group edge result.outcome

/-- What does not look at the time of the last request is the same of the two records. -/
theorem Realises.same {host : HostApplication T} {group : GroupId} {edge : EdgeNodeId}
    {verdict : Verdict} {after : NodeState}
    {result : EStateM.Result SparkplugError (HostApplication T) HostEvent}
    (h : Realises host group edge verdict after result) {α : Type} (f : NodeState → α)
    (hf : ∀ node, f node.session = f node) :
    f (result.state.node (key group edge)) = f after := by
  rw [← hf, h.session, hf]

/-- The two hosts are the same but for how they store their records: a record that was never kept is
as good as the one `NodeState::new` gives. -/
structure Matches (host host' : HostApplication T) : Prop where
  config : host.config = host'.config
  transport : host.transport = host'.transport
  stateTs : host.stateTs = host'.stateTs
  node : ∀ k, host.node k = host'.node k

variable [MqttTransport T] {now : Reading} {group : GroupId} {edge : EdgeNodeId}

theorem node_sendRebirth (now : Reading) (group : GroupId) (edge : EdgeNodeId)
    (host : HostApplication T) (k : String) :
    ((sendRebirth now group edge).run host).state.node k = host.node k :=
  node_onTransport _ host k

/-- `rebirth` touches nothing but the time of the last request. -/
theorem rebirth_realises (now : Reading) (host : HostApplication T) :
    Realises host group edge .rebirth (host.node (key group edge))
      ((rebirth now group edge).run host) := by
  unfold rebirth
  simp only [EStateM.run_bind, EStateM.run_get]
  obtain ⟨allowed, node, hslot⟩ : ∃ allowed node, (host.node (key group edge)).takeRebirthSlot
      host.config.rebirthDebounce now.instant = (allowed, node) := ⟨_, _, rfl⟩
  have hsession : node.session = (host.node (key group edge)).session :=
    (congrArg (fun slot => slot.2.session) hslot).symm.trans
      (NodeState.takeRebirthSlot_session _ _ _)
  have hat : ((host.putNode (key group edge) node).node (key group edge)).session =
      (host.node (key group edge)).session := by
    rw [node_putNode, if_pos rfl, hsession]
  have haway : ∀ k, k ≠ key group edge →
      (host.putNode (key group edge) node).node k = host.node k := by
    intro k hk
    rw [node_putNode, if_neg (Ne.symm hk)]
  rw [hslot]
  cases allowed with
  | false => exact ⟨hat, haway, .inl rfl⟩
  | true =>
    simp only [EStateM.run_set, if_true, EStateM.run_bind]
    have hkeep := node_sendRebirth now group edge (host.putNode (key group edge) node)
    cases hsent : (sendRebirth now group edge).run (host.putNode (key group edge) node) with
    | ok u host' =>
      rw [hsent] at hkeep
      refine ⟨?_, fun k hk => ?_, .inr (.inl rfl)⟩
      · exact (congrArg NodeState.session (hkeep _)).trans hat
      · exact (hkeep k).trans (haway k hk)
    | error e host' =>
      rw [hsent] at hkeep
      refine ⟨?_, fun k hk => ?_, .inr (.inr ⟨e, rfl⟩)⟩
      · exact (congrArg NodeState.session (hkeep _)).trans hat
      · exact (hkeep k).trans (haway k hk)

/-- What is left to do after a turn. -/
def settle (now : Reading) (group : GroupId) (edge : EdgeNodeId) : Verdict → HostM T HostEvent
  | .event event => return event
  | .rebirth => rebirth now group edge
  | .ignored => return .ignored
  | .failed e => throw e

theorem finish_eq_settle (now : Reading) (step : Step) :
    finish (T := T) now group edge step = settle now group edge step.verdict := by
  cases step <;> rfl

/-- Settling a turn adds nothing to it but the rebirth request. -/
theorem settle_realises (now : Reading) (host : HostApplication T) (verdict : Verdict)
    (after : NodeState) :
    Realises host group edge verdict after
      ((settle now group edge verdict).run (host.putNode (key group edge) after)) := by
  have hat : (host.putNode (key group edge) after).node (key group edge) = after := by
    rw [node_putNode, if_pos rfl]
  have haway : ∀ k, k ≠ key group edge →
      (host.putNode (key group edge) after).node k = host.node k := by
    intro k hk
    rw [node_putNode, if_neg (Ne.symm hk)]
  cases verdict with
  | event e => exact ⟨congrArg NodeState.session hat, haway, rfl⟩
  | ignored => exact ⟨congrArg NodeState.session hat, haway, rfl⟩
  | failed e => exact ⟨congrArg NodeState.session hat, haway, rfl⟩
  | rebirth =>
    have h : Realises (host.putNode (key group edge) after) group edge .rebirth _ _ :=
      rebirth_realises now (host.putNode (key group edge) after)
    rw [hat] at h
    exact ⟨h.session, fun k hk => (h.elsewhere k hk).trans (haway k hk), h.shows⟩

omit [MqttTransport T] in
/-- Running a handler's body on the record of a node that is ready. -/
theorem run_whenReady (ready : NodeState → Bool) (hnew : ready .new = false) (k : String)
    (body : NodeM Step) (host : HostApplication T) :
    (whenReady ready k body).run host =
      if ready (host.node k) then
        match body.run (host.node k) with
        | .ok step node => .ok step (host.putNode k node)
        | .error e node => .error e (host.putNode k node)
      else .ok .rebirth host := by
  rcases hk : host.nodes[k]? with - | n
  · have hnode : host.node k = .new := by rw [node, hk]; rfl
    simp [whenReady, hk, hnode, hnew]
  · have hnode : host.node k = n := by rw [node, hk]; rfl
    by_cases hready : ready n = true
    · cases hbody : body.run n with
      | ok step n' =>
        have hrun := EStateM.run_focus_ok (fun _ => n)
          (fun n (host : HostApplication T) => host.putNode k n) (s := host) hbody
        simp [whenReady, hk, hnode, hready, hbody, hrun]
      | error e n' =>
        have hrun := EStateM.run_focus_error (fun _ => n)
          (fun n (host : HostApplication T) => host.putNode k n) (s := host) hbody
        simp [whenReady, hk, hnode, hready, hbody, hrun]
    · simp [whenReady, hk, hnode, hready]

/-- The body that handles a sequenced message. -/
def body (now : Reading) (group : GroupId) (edge : EdgeNodeId) (bytes : Bytes) :
    NodeMessage → NodeM Step
  | .deviceBirth device => NodeState.deviceBirth group edge device bytes
  | .deviceData device => NodeState.deviceData group edge device bytes
  | .deviceDeath device => NodeState.deviceDeath now group edge device bytes
  | _ => NodeState.nodeData group edge bytes

/-- A body on a payload it cannot read. -/
theorem body_error {m : NodeMessage} {bytes : Bytes} {node : NodeState} {e : SparkplugError}
    (seq : m.isSequenced = true) (h : node.reads m bytes = .error e) :
    (body now group edge bytes m).run node =
      if m.isData then .ok .rebirth node.offline else .error e node := by
  cases m with
  | birth => exact absurd seq (by decide)
  | death => exact absurd seq (by decide)
  | data =>
    have hdec : decode bytes (some node.aliases) = .error e := h
    simp [body, NodeState.nodeData, hdec, NodeMessage.isData]
  | deviceData device =>
    have hdec : decode bytes (some ((node.devices[device.str]?).getD .default).aliases) =
      .error e := h
    simp [body, NodeState.deviceData, hdec, NodeMessage.isData]
  | deviceBirth device =>
    have hdec : decode bytes none = .error e := h
    simp [body, NodeState.deviceBirth, hdec, NodeMessage.isData]
  | deviceDeath device =>
    have hdec : decode bytes none = .error e := h
    simp [body, NodeState.deviceDeath, hdec, NodeMessage.isData]

/-- A body on a payload it reads: the sequence check decides. -/
theorem body_ok {m : NodeMessage} {bytes : Bytes} {node : NodeState} {p : Payload}
    (seq : m.isSequenced = true) (h : node.reads m bytes = .ok p) :
    (body now group edge bytes m).run node =
      if p.seq = some node.expectedSeq then
        .ok (node.decision now group edge p m) (node.accepted p m)
      else .ok .rebirth node.offline := by
  cases m with
  | birth => exact absurd seq (by decide)
  | death => exact absurd seq (by decide)
  | data =>
    have hdec : decode bytes (some node.aliases) = .ok p := h
    by_cases hs : p.seq = some node.expectedSeq <;>
      simp [body, NodeState.nodeData, hdec, hs, NodeState.decision, NodeState.accepted]
  | deviceData device =>
    have hdec : decode bytes (some ((node.devices[device.str]?).getD .default).aliases) =
      .ok p := h
    by_cases hs : p.seq = some node.expectedSeq <;>
      simp [body, NodeState.deviceData, hdec, hs, NodeState.decision, NodeState.accepted]
  | deviceBirth device =>
    have hdec : decode bytes none = .ok p := h
    by_cases hs : p.seq = some node.expectedSeq
    · simp [body, NodeState.deviceBirth, hdec, hs, NodeState.decision, NodeState.accepted]
      rfl
    · simp [body, NodeState.deviceBirth, hdec, hs]
  | deviceDeath device =>
    have hdec : decode bytes none = .ok p := h
    by_cases hs : p.seq = some node.expectedSeq
    · rcases hstate : node.devices[device.str]? with - | state <;>
        simp [body, NodeState.deviceDeath, hdec, hs, hstate, NodeState.decision, NodeState.accepted]
    · simp [body, NodeState.deviceDeath, hdec, hs]

/-- The handlers of sequenced messages have one shape. -/
def onSequenced (now : Reading) (group : GroupId) (edge : EdgeNodeId) (m : NodeMessage)
    (bytes : Bytes) : HostM T HostEvent := do
  let step ← whenReady (fun node => node.listens m) (key group edge) (body now group edge bytes m)
  finish now group edge step

omit [MqttTransport T] in
theorem Matches.refl (host : HostApplication T) : Matches host host := ⟨rfl, rfl, rfl, fun _ => rfl⟩

omit [MqttTransport T] in
theorem Matches.putNode {host host' : HostApplication T} (h : Matches host host') (k : String)
    (n : NodeState) : Matches (host.putNode k n) (host'.putNode k n) where
  config := h.config
  transport := h.transport
  stateTs := h.stateTs
  node k' := by rw [node_putNode, node_putNode, h.node k']

omit [MqttTransport T] in
/-- Writing back a record that was not there changes nothing. -/
theorem Matches.putNode_self (host : HostApplication T) (k : String) :
    Matches host (host.putNode k (host.node k)) where
  config := rfl
  transport := rfl
  stateTs := rfl
  node k' := by
    rw [node_putNode]
    split
    · next hk => rw [hk]
    · rfl

omit [MqttTransport T] in
theorem onTransport_matches {α : Type} (p : EStateM SparkplugError T α) :
    EStateM.Alike Matches (onTransport p) (onTransport p) := by
  intro host host' h
  unfold onTransport
  cases hp : p.run host.transport with
  | ok a t =>
    rw [EStateM.run_focus_ok _ _ hp, EStateM.run_focus_ok _ _ (h.transport ▸ hp)]
    exact .ok a ⟨h.config, rfl, h.stateTs, h.node⟩
  | error e t =>
    rw [EStateM.run_focus_error _ _ hp, EStateM.run_focus_error _ _ (h.transport ▸ hp)]
    exact .error e ⟨h.config, rfl, h.stateTs, h.node⟩

theorem rebirth_matches (now : Reading) :
    EStateM.Alike Matches (rebirth (T := T) now group edge) (rebirth now group edge) := by
  refine EStateM.alike_get_bind fun host host' h => ?_
  rw [h.node, h.config]
  rcases (host'.node (key group edge)).takeRebirthSlot host'.config.rebirthDebounce now.instant
    with ⟨allowed, node⟩
  cases allowed with
  | false => exact .ok _ (h.putNode _ node)
  | true =>
    have hsend : EStateM.Alike Matches
        (sendRebirth (T := T) now group edge >>= fun _ =>
          pure (HostEvent.rebirthRequested group.str edge.str))
        (sendRebirth now group edge >>= fun _ =>
          pure (HostEvent.rebirthRequested group.str edge.str)) :=
      (onTransport_matches _).bind fun _ => EStateM.alike_pure _
    exact hsend _ _ (h.putNode _ node)

/-- Settling a turn that left the record as it was. -/
theorem settle_matches (now : Reading) (host : HostApplication T) (verdict : Verdict) :
    EStateM.Result.Alike Matches ((settle now group edge verdict).run host)
      ((settle now group edge verdict).run
        (host.putNode (key group edge) (host.node (key group edge)))) := by
  have hself := Matches.putNode_self host (key group edge)
  cases verdict with
  | event e => exact .ok e hself
  | ignored => exact .ok _ hself
  | failed e => exact .error e hself
  | rebirth => exact rebirth_matches now _ _ hself

omit [MqttTransport T] in
theorem alike_matches_refl {α : Type}
    (result : EStateM.Result SparkplugError (HostApplication T) α) :
    EStateM.Result.Alike Matches result result := by
  cases result with
  | ok a host => exact .ok a (.refl host)
  | error e host => exact .error e (.refl host)

/-- Handling was a turn of the node's session, and then settled what the turn left to do.  This
keeps track of the whole host, `Realises` of one record. -/
def Takes (now : Reading) (host : HostApplication T) (group : GroupId) (edge : EdgeNodeId)
    (m : NodeMessage) (bytes : Bytes)
    (result : EStateM.Result SparkplugError (HostApplication T) HostEvent) : Prop :=
  ∃ verdict after, Turn now group edge (host.node (key group edge)) bytes m verdict after ∧
    EStateM.Result.Alike Matches result
      ((settle now group edge verdict).run (host.putNode (key group edge) after))

theorem onSequenced_takes (host : HostApplication T) {m : NodeMessage} {bytes : Bytes}
    (seq : m.isSequenced = true) :
    Takes now host group edge m bytes ((onSequenced now group edge m bytes).run host) := by
  have hnew : NodeState.new.listens m = false := by
    cases m <;> rfl
  simp only [onSequenced, EStateM.run_bind, run_whenReady (fun node => node.listens m) hnew]
  rcases hon : (host.node (key group edge)).listens m with - | -
  · -- not ready: the record is untouched and a rebirth is requested
    exact ⟨.rebirth, _, .deaf seq hon, settle_matches now host .rebirth⟩
  · cases hreads : (host.node (key group edge)).reads m bytes with
    | error e =>
      simp only [if_true, body_error seq hreads]
      rcases hdata : m.isData with - | -
      · exact ⟨.failed e, _, .unreadable seq hdata hon hreads, .error e (.refl _)⟩
      · exact ⟨.rebirth, _, .malformed hdata hon hreads, alike_matches_refl _⟩
    | ok p =>
      simp only [if_true, body_ok seq hreads]
      by_cases hnext : p.seq = some (host.node (key group edge)).expectedSeq
      · simp only [if_pos hnext, finish_eq_settle]
        exact ⟨_, _, .accept seq hon hreads hnext, alike_matches_refl _⟩
      · simp only [if_neg hnext]
        exact ⟨.rebirth, _, .gap seq hon hreads hnext, alike_matches_refl _⟩

theorem onNodeBirth_takes (host : HostApplication T) (bytes : Bytes) :
    Takes now host group edge .birth bytes ((onNodeBirth now group edge bytes).run host) := by
  unfold onNodeBirth
  cases hdec : decode bytes none with
  | error e => exact ⟨.failed e, _, .birthUnreadable hdec, settle_matches now host (.failed e)⟩
  | ok p =>
    simp only [EStateM.run_bind, EStateM.run_liftExcept_ok, EStateM.run_get, EStateM.run_set]
    rcases hdup : ((host.node (key group edge)).birth p).1 with - | -
    · exact ⟨_, _, .birth hdec hdup, alike_matches_refl _⟩
    · exact ⟨.rebirth, _, .birthAmbiguous hdec hdup, alike_matches_refl _⟩

theorem onNodeDeath_takes (host : HostApplication T) (bytes : Bytes) :
    Takes now host group edge .death bytes ((onNodeDeath now group edge bytes).run host) := by
  unfold onNodeDeath
  cases hdec : decode bytes none with
  | error e => exact ⟨.failed e, _, .deathUnreadable hdec, settle_matches now host (.failed e)⟩
  | ok p =>
    simp only [EStateM.run_bind, EStateM.run_liftExcept_ok, EStateM.run_get]
    rcases hk : host.nodes[key group edge]? with - | n
    · have hnode : host.node (key group edge) = .new := by rw [node, hk]; rfl
      refine ⟨.ignored, _, .deathStale hdec ?_, settle_matches now host .ignored⟩
      rw [hnode]
      exact fun h => absurd h.1 (by decide)
    · have hnode : host.node (key group edge) = n := by rw [node, hk]; rfl
      by_cases hhonour : n.online = true ∧ n.bdSeq.isSome = true ∧ n.bdSeq = bdseqOf p
      · simp only [if_pos hhonour, EStateM.run_bind, EStateM.run_set, EStateM.run_pure]
        rw [Takes, hnode]
        exact ⟨_, _, .death hdec hhonour.1 hhonour.2.1 hhonour.2.2, alike_matches_refl _⟩
      · simp only [if_neg hhonour]
        refine ⟨.ignored, _, .deathStale hdec ?_, settle_matches now host .ignored⟩
        rw [hnode]
        exact hhonour

/-- **Handling is a turn, settled.**  `handle_incoming`, on any host and any message addressed to a
node, is one turn of that node's session, and all that is left to do after it is to settle the
verdict. -/
theorem handleIncoming_takes (now : Reading) (host : HostApplication T) {message : IncomingMessage}
    {m : NodeMessage} (hof : NodeMessage.of message = some (group, edge, m)) :
    Takes now host group edge m message.payload ((handleIncoming now message).run host) := by
  unfold NodeMessage.of at hof
  unfold handleIncoming
  cases hparse : SparkplugTopic.parse message.topic with
  | error e => rw [hparse] at hof; exact absurd hof (by simp)
  | ok topic =>
    rw [hparse] at hof
    simp only [EStateM.run_bind, EStateM.run_liftExcept_ok]
    rcases topic with ⟨g, e, ty⟩ | ⟨g, e, d, ty⟩ | hostId
    · cases ty <;> simp only [NodeMessage.ofTopic, Option.some.injEq, Prod.mk.injEq,
        reduceCtorEq] at hof
      · obtain ⟨rfl, rfl, rfl⟩ := hof
        exact onNodeBirth_takes host _
      · obtain ⟨rfl, rfl, rfl⟩ := hof
        exact onNodeDeath_takes host _
      · obtain ⟨rfl, rfl, rfl⟩ := hof
        exact onSequenced_takes host rfl
    · cases ty <;> simp only [NodeMessage.ofTopic, Option.some.injEq, Prod.mk.injEq,
        reduceCtorEq] at hof
      · obtain ⟨rfl, rfl, rfl⟩ := hof
        exact onSequenced_takes host rfl
      · obtain ⟨rfl, rfl, rfl⟩ := hof
        exact onSequenced_takes host rfl
      · obtain ⟨rfl, rfl, rfl⟩ := hof
        exact onSequenced_takes host rfl
    · exact absurd hof (by simp [NodeMessage.ofTopic])

/-- **The engine takes turns.**  `handle_incoming` on a message addressed to a node is one turn of
that node's session, and touches no other node.  `hof` says only that the topic is one of the
node's. -/
theorem handleIncoming_turn (now : Reading) (host : HostApplication T) {message : IncomingMessage}
    {m : NodeMessage} (hof : NodeMessage.of message = some (group, edge, m)) :
    ∃ verdict after,
      Turn now group edge (host.node (key group edge)) message.payload m verdict after ∧
      Realises host group edge verdict after ((handleIncoming now message).run host) := by
  obtain ⟨verdict, after, ht, halike⟩ := handleIncoming_takes now host hof
  have hreal : Realises host group edge verdict after _ := settle_realises now host verdict after
  refine ⟨verdict, after, ht, ?_, fun k hk => ?_, ?_⟩
  · rw [halike.state.node]
    exact hreal.session
  · rw [halike.state.node]
    exact hreal.elsewhere k hk
  · rw [halike.outcome]
    exact hreal.shows

/-- The ONLINE STATE of a host. -/
def stateBirth (host : HostApplication T) : OutboundMessage where
  topic := host.config.stateTopic
  qos := .atLeastOnce
  retain := true
  payload := asBytes (StatePayload.toJson ⟨true, host.stateTs⟩)

/-- What is left of the host's own STATE: nothing has changed, or its ONLINE STATE was published. -/
theorem onHostState_state (host : HostApplication T) (hostId : String) (bytes : Bytes) :
    ((onHostState hostId bytes).run host).state = host ∨
      ((onHostState hostId bytes).run host).state = (publishStateBirth.run host).state := by
  unfold onHostState
  simp only [EStateM.run_bind, EStateM.run_get]
  by_cases hown : hostId = host.config.hostId
  · rw [if_pos hown]
    cases htext : (fromUtf8 bytes).elim (.error SparkplugError.invalidUtf8) Except.ok with
    | error e => exact .inl rfl
    | ok text =>
      simp only [EStateM.run_bind, EStateM.run_liftExcept_ok]
      cases hstate : StatePayload.parse text with
      | error e => exact .inl rfl
      | ok state =>
        simp only [EStateM.run_liftExcept_ok]
        rcases state.online with - | -
        · simp only [Bool.false_eq_true, if_false, EStateM.run_bind]
          right
          cases (publishStateBirth (T := T)).run host <;> rfl
        · exact .inl rfl
  · rw [if_neg hown]
    exact .inl rfl

theorem onHostState_ignored (host : HostApplication T) (hostId : String) (bytes : Bytes)
    {event : HostEvent} (h : ((onHostState hostId bytes).run host).outcome = .ok event) :
    event = .ignored := by
  unfold onHostState at h
  simp only [EStateM.run_bind, EStateM.run_get] at h
  by_cases hown : hostId = host.config.hostId
  · rw [if_pos hown] at h
    cases htext : (fromUtf8 bytes).elim (.error SparkplugError.invalidUtf8) Except.ok with
    | error e =>
      rw [htext] at h
      exact absurd h (by simp)
    | ok text =>
      rw [htext] at h
      simp only [EStateM.run_bind, EStateM.run_liftExcept_ok] at h
      cases hstate : StatePayload.parse text with
      | error e =>
        rw [hstate] at h
        exact absurd h (by simp)
      | ok state =>
        rw [hstate] at h
        simp only [EStateM.run_liftExcept_ok] at h
        rcases honline : state.online with - | -
        · simp only [honline, Bool.false_eq_true, if_false, EStateM.run_bind] at h
          cases hsent : (publishStateBirth (T := T)).run host with
          | ok u host' =>
            rw [hsent] at h
            exact (Except.ok.inj h).symm
          | error e host' =>
            rw [hsent] at h
            exact absurd h (by simp)
        · rw [honline] at h
          exact (Except.ok.inj h).symm
  · rw [if_neg hown] at h
    exact (Except.ok.inj h).symm

/-- A message that concerns no session shows the caller nothing. -/
theorem handleIncoming_ignored (now : Reading) (host : HostApplication T)
    {message : IncomingMessage} {event : HostEvent} (hof : NodeMessage.of message = none)
    (h : ((handleIncoming now message).run host).outcome = .ok event) : event = .ignored := by
  unfold NodeMessage.of at hof
  unfold handleIncoming at h
  cases hparse : SparkplugTopic.parse message.topic with
  | error e =>
    rw [hparse] at h
    exact absurd h (by simp)
  | ok topic =>
    rw [hparse] at hof h
    simp only [EStateM.run_bind, EStateM.run_liftExcept_ok] at h
    rcases topic with ⟨g, e, ty⟩ | ⟨g, e, d, ty⟩ | hostId
    · cases ty <;> first | exact (Except.ok.inj h).symm | exact absurd hof (by simp [NodeMessage.ofTopic])
    · cases ty <;> first | exact (Except.ok.inj h).symm | exact absurd hof (by simp [NodeMessage.ofTopic])
    · exact onHostState_ignored host hostId _ h

theorem handleIncoming_state (now : Reading) (host : HostApplication T) {message : IncomingMessage}
    (hof : NodeMessage.of message = none) :
    ((handleIncoming now message).run host).state = host ∨
      ((handleIncoming now message).run host).state = (publishStateBirth.run host).state := by
  unfold NodeMessage.of at hof
  unfold handleIncoming
  cases hparse : SparkplugTopic.parse message.topic with
  | error e => exact .inl rfl
  | ok topic =>
    rw [hparse] at hof
    simp only [EStateM.run_bind, EStateM.run_liftExcept_ok]
    rcases topic with ⟨g, e, ty⟩ | ⟨g, e, d, ty⟩ | hostId
    · cases ty <;> first | exact .inl rfl | exact absurd hof (by simp [NodeMessage.ofTopic])
    · cases ty <;> first | exact .inl rfl | exact absurd hof (by simp [NodeMessage.ofTopic])
    · exact onHostState_state host hostId _

/-- A message that concerns no session leaves every record alone. -/
theorem handleIncoming_elsewhere (now : Reading) (host : HostApplication T) {message : IncomingMessage}
    (hof : NodeMessage.of message = none) (k : String) :
    ((handleIncoming now message).run host).state.node k = host.node k := by
  rcases handleIncoming_state now host hof with hstate | hstate
  · rw [hstate]
  · rw [hstate, publishStateBirth, EStateM.run_bind, EStateM.run_get]
    exact node_onTransport _ host k

end HostApplication

end SparkplugB
