/-
# Rebirth requests

A handler asks for a rebirth when it finds an anomaly, and the debounce window decides whether it is
requested.  `Ledger` is a transport that keeps account of every publish it is asked for, whatever
it answers, so `Tries` says of one step of a run that the host tried to publish the NCMD of a node.

A step tries exactly at an anomaly of the node whose window has passed (`tries_iff`), and only a step
that tries moves the time of the last request (`lastRebirth_next`).  So the host is a debounced
machine for each node apart.
-/
import SparkplugB.Host.Death
import SparkplugB.Lib.Debounce

namespace SparkplugB

open Machine EStateM

/-! ## 1. Anomalies -/

namespace NodeState

/-- The host finds an anomaly in the message: an NBIRTH or an accepted DBIRTH that binds one alias
twice, a message the record is not ready for, or one that invalidates the session.  A birth or death
that a ready record cannot decode is none, and neither is any NDEATH. -/
def Anomalous (node : NodeState) (bytes : Bytes) : NodeMessage → Prop
  | .birth => ∃ p, decode bytes none = .ok p ∧ (node.birth p).1 = true
  | .death => False
  | m => node.listens m = false ∨ node.Loses m bytes ∨
      ∃ p, node.reads m bytes = .ok p ∧ p.seq = some node.expectedSeq ∧
        (∃ device, m = .deviceBirth device) ∧ (AliasRegistry.new.bindAll p.metrics).2 = true

/-- The debounce window has passed since `last_rebirth`, or there was no request yet. -/
def Due (node : NodeState) (window : Duration) (now : Nat) : Prop :=
  ∀ t, node.lastRebirth = some t → window ≤ now - t

theorem takeRebirthSlot_eq (node : NodeState) (window : Duration) (now : Nat) :
    (node.Due window now ∧
        node.takeRebirthSlot window now = (true, { node with lastRebirth := some now })) ∨
      (¬ node.Due window now ∧ node.takeRebirthSlot window now = (false, node)) := by
  unfold Due takeRebirthSlot
  cases hlast : node.lastRebirth with
  | none => exact .inl ⟨fun t ht => absurd ht (by simp), rfl⟩
  | some t =>
    by_cases hdue : window ≤ now - t
    · refine .inl ⟨fun t' ht' => Option.some.inj ht' ▸ hdue, ?_⟩
      simp [hdue]
    · refine .inr ⟨fun h => hdue (h t rfl), ?_⟩
      simp [hdue]

end NodeState

namespace Turn

variable {now : Reading} {group : GroupId} {edge : EdgeNodeId} {node after : NodeState}
  {bytes : Bytes} {m : NodeMessage} {verdict : Verdict}

theorem anomalous_iff (seq : m.isSequenced = true) :
    node.Anomalous bytes m ↔ node.listens m = false ∨ node.Loses m bytes ∨
      ∃ p, node.reads m bytes = .ok p ∧ p.seq = some node.expectedSeq ∧
        (∃ device, m = .deviceBirth device) ∧ (AliasRegistry.new.bindAll p.metrics).2 = true := by
  cases m with
  | birth => exact absurd seq (by decide)
  | death => exact absurd seq (by decide)
  | _ => rfl

/-- A turn asks for a rebirth exactly at an anomaly. -/
theorem verdict_iff (h : Turn now group edge node bytes m verdict after) :
    verdict = .rebirth ↔ node.Anomalous bytes m := by
  cases h with
  | birthUnreadable h =>
    refine iff_of_false (by simp) ?_
    rintro ⟨p, hp, -⟩
    exact absurd (h.symm.trans hp) (by simp)
  | birth h unique =>
    refine iff_of_false (by simp) ?_
    rintro ⟨p, hp, hdup⟩
    obtain rfl := Except.ok.inj (h.symm.trans hp)
    exact absurd (unique.symm.trans hdup) (by decide)
  | birthAmbiguous h dup => exact iff_of_true rfl ⟨_, h, dup⟩
  | deathUnreadable h => exact iff_of_false (by simp) id
  | death h online known same => exact iff_of_false (by simp) id
  | deathStale h stale => exact iff_of_false (by simp) id
  | deaf seq h => exact iff_of_true rfl ((anomalous_iff seq).mpr (.inl h))
  | unreadable seq data on h =>
    refine iff_of_false (by simp) fun hanom => ?_
    rcases (anomalous_iff seq).mp hanom with hdeaf | ⟨-, -, hloses⟩ | ⟨p, hp, -⟩
    · exact absurd (hdeaf.symm.trans on) (by decide)
    · rw [h] at hloses
      exact absurd (data.symm.trans hloses) (by decide)
    · exact absurd (h.symm.trans hp) (by simp)
  | malformed data on h =>
    have seq : m.isSequenced = true := by
      cases m <;> first | rfl | exact absurd data (by decide)
    refine iff_of_true rfl ((anomalous_iff seq).mpr (.inr (.inl ⟨seq, on, ?_⟩)))
    rw [h]
    exact data
  | gap seq on h other =>
    refine iff_of_true rfl ((anomalous_iff seq).mpr (.inr (.inl ⟨seq, on, ?_⟩)))
    rw [h]
    exact other
  | @accept _ p seq on h next =>
    rw [anomalous_iff seq]
    have hkept : ¬ node.Loses m bytes := by
      rintro ⟨-, -, hloses⟩
      rw [h] at hloses
      exact hloses next
    constructor
    · intro hverdict
      cases m with
      | deviceBirth device =>
        refine .inr (.inr ⟨p, h, next, ⟨device, rfl⟩, ?_⟩)
        by_contra hdup
        rw [NodeState.decision, if_neg hdup] at hverdict
        exact absurd hverdict (by simp [Step.verdict])
      | _ => exact absurd hverdict (by simp [NodeState.decision, Step.verdict])
    · rintro (hdeaf | hloses | ⟨q, hq, -, ⟨device, rfl⟩, hdup⟩)
      · exact absurd (hdeaf.symm.trans on) (by decide)
      · exact absurd hloses hkept
      · obtain rfl := Except.ok.inj (h.symm.trans hq)
        rw [NodeState.decision, if_pos hdup]
        rfl

/-- No turn touches the time of the last request. -/
theorem lastRebirth (h : Turn now group edge node bytes m verdict after) :
    after.lastRebirth = node.lastRebirth := by
  cases h with
  | accept seq on h next =>
    cases m with
    | deviceDeath device =>
      rw [NodeState.accepted]
      split <;> rfl
    | _ => rfl
  | _ => rfl

end Turn

/-! ## 2. A transport that keeps account -/

/-- A publish that was asked for, and the error it failed with. -/
structure Attempt where
  message : OutboundMessage
  failure : Option SparkplugError

/-- A transport that keeps account of what it is asked to publish, the latest first, and gives the
answers prepared for the calls to come.  It stands for every transport, as far as one run can
tell. -/
structure Ledger where
  attempts : List Attempt
  answers : Stream' (Option SparkplugError)

namespace Ledger

/-- The transport after a call. -/
def after (t : Ledger) (messages : List OutboundMessage) : Ledger where
  attempts := messages.map (⟨·, t.answers.head⟩) ++ t.attempts
  answers := t.answers.tail

/-- A call with these messages. -/
def call (messages : List OutboundMessage) : EStateM SparkplugError Ledger Unit := fun t =>
  match t.answers.head with
  | none => .ok () (t.after messages)
  | some e => .error e (t.after messages)

instance : MqttTransport Ledger where
  connect _ := call []
  subscribe _ _ := call []
  publish message := call [message]
  disconnect := call []
  recv := do
    call []
    return none

end Ledger

namespace HostApplication

variable {group : GroupId} {edge : EdgeNodeId}

/-- The NCMD that asks a node for a rebirth. -/
def rebirthRequest (now : Reading) (group : GroupId) (edge : EdgeNodeId) : OutboundMessage where
  topic := (SparkplugTopic.node group edge .nCmd).toString
  qos := .atMostOnce
  retain := false
  payload := encode (commandPayload now [Metric.new NODE_CONTROL_REBIRTH (.boolean true)]) .birth

/-- What the transport was asked to publish while a message was handled. -/
def asked (host : HostApplication Ledger) (input : Reading × IncomingMessage) : List Attempt :=
  (host.next input).transport.attempts.take
    ((host.next input).transport.attempts.length - host.transport.attempts.length)

/-- While the message was handled, the host tried to publish a rebirth NCMD of the node, whatever
the transport answered. -/
def Tries (group : GroupId) (edge : EdgeNodeId) (host : HostApplication Ledger)
    (input : Reading × IncomingMessage) : Prop :=
  ∃ attempt ∈ host.asked input, ∃ now, attempt.message = rebirthRequest now group edge

/-- It did publish one: the transport reported no error. -/
def Sends (group : GroupId) (edge : EdgeNodeId) (host : HostApplication Ledger)
    (input : Reading × IncomingMessage) : Prop :=
  ∃ attempt ∈ host.asked input, (∃ now, attempt.message = rebirthRequest now group edge) ∧
    attempt.failure = none

/-- The message is an anomaly of the node. -/
def Wants (group : GroupId) (edge : EdgeNodeId) (host : HostApplication Ledger)
    (input : Reading × IncomingMessage) : Prop :=
  ∃ m, NodeMessage.of input.2 = some (group, edge, m) ∧
    (host.node (key group edge)).Anomalous input.2.payload m

/-- The debounce window of the node has passed. -/
def Due (group : GroupId) (edge : EdgeNodeId) (host : HostApplication Ledger)
    (input : Reading × IncomingMessage) : Prop :=
  (host.node (key group edge)).Due host.config.rebirthDebounce input.1.instant

theorem asked_of_append {host : HostApplication Ledger} {input : Reading × IncomingMessage}
    {new : List Attempt}
    (h : (host.next input).transport.attempts = new ++ host.transport.attempts) :
    host.asked input = new := by
  rw [asked, h, List.length_append, Nat.add_sub_cancel, List.take_left]

/-- Commands to different nodes are different messages. -/
theorem rebirthRequest_injective {now now' : Reading} {g g' : GroupId} {e e' : EdgeNodeId}
    (h : rebirthRequest now g e = rebirthRequest now' g' e') : g = g' ∧ e = e' := by
  have htopic := SparkplugTopic.toString_injective (t := .node g e .nCmd) (u := .node g' e' .nCmd)
    ⟨rfl, by decide⟩ ⟨rfl, by decide⟩ (congrArg OutboundMessage.topic h)
  obtain ⟨rfl, rfl, -⟩ := SparkplugTopic.node.inj htopic
  exact ⟨rfl, rfl⟩

/-! ## 3. One step -/

/-- The host once the transport has been asked to publish a message. -/
def handed (host : HostApplication Ledger) (message : OutboundMessage) : HostApplication Ledger :=
  { host with transport := host.transport.after [message] }

/-- The host after it has asked for the rebirth of a node. -/
def requested (host : HostApplication Ledger) (now : Reading) (group : GroupId)
    (edge : EdgeNodeId) : HostApplication Ledger :=
  (host.putNode (key group edge)
    { host.node (key group edge) with lastRebirth := some now.instant }).handed
    (rebirthRequest now group edge)

/-- A publish of the host, whatever it is answered. -/
theorem run_publish (host : HostApplication Ledger) (message : OutboundMessage) :
    (onTransport (MqttTransport.publish message)).run host =
      match host.transport.answers.head with
      | none => .ok () (host.handed message)
      | some e => .error e (host.handed message) := by
  have hcall : (MqttTransport.publish message).run host.transport =
      match host.transport.answers.head with
      | none => .ok () (host.transport.after [message])
      | some e => .error e (host.transport.after [message]) := rfl
  rw [onTransport]
  cases hanswer : host.transport.answers.head with
  | none =>
    rw [hanswer] at hcall
    rw [run_focus_ok _ _ hcall]
    rfl
  | some e =>
    rw [hanswer] at hcall
    rw [run_focus_error _ _ hcall]
    rfl

/-- A request whose window has passed. -/
theorem run_rebirth_due (host : HostApplication Ledger) {now : Reading}
    (hdue : (host.node (key group edge)).Due host.config.rebirthDebounce now.instant) :
    (rebirth now group edge).run host =
      match host.transport.answers.head with
      | none => .ok (.rebirthRequested group.str edge.str) (host.requested now group edge)
      | some e => .error e (host.requested now group edge) := by
  rcases NodeState.takeRebirthSlot_eq (host.node (key group edge)) host.config.rebirthDebounce
    now.instant with ⟨-, hslot⟩ | ⟨hnot, -⟩
  · have hsend : (sendRebirth now group edge).run (host.putNode (key group edge)
        { host.node (key group edge) with lastRebirth := some now.instant }) =
      match host.transport.answers.head with
      | none => .ok () (host.requested now group edge)
      | some e => .error e (host.requested now group edge) := run_publish _ _
    simp only [rebirth, EStateM.run_bind, EStateM.run_get, hslot, EStateM.run_set, if_true]
    rw [hsend]
    cases host.transport.answers.head <;> rfl
  · exact absurd hdue hnot

/-- A request that comes too early. -/
theorem run_rebirth_early (host : HostApplication Ledger) {now : Reading}
    (hearly : ¬ (host.node (key group edge)).Due host.config.rebirthDebounce now.instant) :
    (rebirth now group edge).run host =
      .ok .ignored (host.putNode (key group edge) (host.node (key group edge))) := by
  rcases NodeState.takeRebirthSlot_eq (host.node (key group edge)) host.config.rebirthDebounce
    now.instant with ⟨hdue, -⟩ | ⟨-, hslot⟩
  · exact absurd hdue hearly
  · simp only [rebirth, EStateM.run_bind, EStateM.run_get, hslot]
    rfl

theorem due_putNode {host : HostApplication Ledger} {now : Reading} {after : NodeState}
    (hlast : after.lastRebirth = (host.node (key group edge)).lastRebirth) :
    ((host.putNode (key group edge) after).node (key group edge)).Due
        (host.putNode (key group edge) after).config.rebirthDebounce now.instant ↔
      (host.node (key group edge)).Due host.config.rebirthDebounce now.instant := by
  rw [node_putNode, if_pos rfl]
  unfold NodeState.Due
  rw [hlast]
  rfl

variable {host : HostApplication Ledger} {input : Reading × IncomingMessage} {m : NodeMessage}

/-- An anomaly whose window has passed. -/
theorem next_due (hof : NodeMessage.of input.2 = some (group, edge, m))
    (hanom : (host.node (key group edge)).Anomalous input.2.payload m)
    (hdue : Due group edge host input) :
    (host.next input).config = host.config ∧
      (host.next input).transport = host.transport.after [rebirthRequest input.1 group edge] ∧
      ((host.next input).node (key group edge)).lastRebirth = some input.1.instant ∧
      host.outcome input = match host.transport.answers.head with
        | none => .ok (.rebirthRequested group.str edge.str)
        | some e => .error e := by
  obtain ⟨verdict, after, ht, halike⟩ := handleIncoming_takes input.1 host hof
  obtain rfl := ht.verdict_iff.mpr hanom
  have hrun : (settle input.1 group edge .rebirth).run (host.putNode (key group edge) after) = _ :=
    run_rebirth_due (host.putNode (key group edge) after)
      ((due_putNode ht.lastRebirth).mpr hdue)
  have hlast : (((host.putNode (key group edge) after).requested input.1 group edge).node
      (key group edge)).lastRebirth = some input.1.instant := by
    show (((host.putNode (key group edge) after).putNode (key group edge) _).node
      (key group edge)).lastRebirth = _
    rw [node_putNode, if_pos rfl]
  rw [hrun] at halike
  have hanswer : (host.putNode (key group edge) after).transport.answers.head =
    host.transport.answers.head := rfl
  rw [hanswer] at halike
  have hstate := halike.state
  have houtcome := halike.outcome
  cases hhead : host.transport.answers.head with
  | none =>
    rw [hhead] at hstate houtcome
    exact ⟨hstate.config, hstate.transport,
      (congrArg NodeState.lastRebirth (hstate.node _)).trans hlast, houtcome⟩
  | some e =>
    rw [hhead] at hstate houtcome
    exact ⟨hstate.config, hstate.transport,
      (congrArg NodeState.lastRebirth (hstate.node _)).trans hlast, houtcome⟩

/-- An anomaly that comes too early. -/
theorem next_early (hof : NodeMessage.of input.2 = some (group, edge, m))
    (hanom : (host.node (key group edge)).Anomalous input.2.payload m)
    (hearly : ¬ Due group edge host input) :
    (host.next input).config = host.config ∧ (host.next input).transport = host.transport ∧
      ((host.next input).node (key group edge)).lastRebirth =
        (host.node (key group edge)).lastRebirth ∧
      host.outcome input = .ok .ignored := by
  obtain ⟨verdict, after, ht, halike⟩ := handleIncoming_takes input.1 host hof
  obtain rfl := ht.verdict_iff.mpr hanom
  have hrun : (settle input.1 group edge .rebirth).run (host.putNode (key group edge) after) = _ :=
    run_rebirth_early (host.putNode (key group edge) after)
      ((not_congr (due_putNode ht.lastRebirth)).mpr hearly)
  rw [hrun] at halike
  have hstate := halike.state
  refine ⟨hstate.config, hstate.transport, ?_, halike.outcome⟩
  have hnode := congrArg NodeState.lastRebirth (hstate.node (key group edge))
  rw [Result.state_ok, node_putNode, if_pos rfl, node_putNode, if_pos rfl, ht.lastRebirth] at hnode
  exact hnode

/-- No anomaly. -/
theorem next_calm (hof : NodeMessage.of input.2 = some (group, edge, m))
    (hcalm : ¬ (host.node (key group edge)).Anomalous input.2.payload m) :
    (host.next input).config = host.config ∧ (host.next input).transport = host.transport ∧
      ((host.next input).node (key group edge)).lastRebirth =
        (host.node (key group edge)).lastRebirth := by
  obtain ⟨verdict, after, ht, halike⟩ := handleIncoming_takes input.1 host hof
  have hstate := halike.state
  have hsettled : ((settle input.1 group edge verdict).run
      (host.putNode (key group edge) after)).state = host.putNode (key group edge) after := by
    cases verdict with
    | rebirth => exact absurd (ht.verdict_iff.mp rfl) hcalm
    | _ => rfl
  rw [hsettled] at hstate
  refine ⟨hstate.config, hstate.transport, ?_⟩
  have hnode := congrArg NodeState.lastRebirth (hstate.node (key group edge))
  rw [node_putNode, if_pos rfl, ht.lastRebirth] at hnode
  exact hnode

/-- A message that concerns no node: the ONLINE STATE of the host is all it can publish. -/
theorem next_none (hof : NodeMessage.of input.2 = none) :
    (host.next input).config = host.config ∧
      ((host.next input).transport = host.transport ∨
        (host.next input).transport = host.transport.after [host.stateBirth]) := by
  rcases handleIncoming_state input.1 host hof with hstate | hstate
  · have hnext : host.next input = host := hstate
    rw [hnext]
    exact ⟨rfl, .inl rfl⟩
  · have hpublish : (publishStateBirth.run host).state = host.handed host.stateBirth := by
      rw [publishStateBirth, EStateM.run_bind, EStateM.run_get]
      show ((onTransport (MqttTransport.publish host.stateBirth)).run host).state = _
      rw [run_publish]
      cases host.transport.answers.head <;> rfl
    have hnext : host.next input = host.handed host.stateBirth := hstate.trans hpublish
    rw [hnext]
    exact ⟨rfl, .inr rfl⟩

theorem asked_of_transport {messages : List OutboundMessage}
    (h : (host.next input).transport = host.transport.after messages) :
    host.asked input = messages.map (⟨·, host.transport.answers.head⟩) :=
  asked_of_append (congrArg Ledger.attempts h)

theorem asked_of_same (h : (host.next input).transport = host.transport) :
    host.asked input = [] :=
  asked_of_append (congrArg Ledger.attempts h)

/-- What a step asks the transport for: the NCMD of a node at an anomaly whose window has passed, and
no other NCMD. -/
theorem asked_cases (host : HostApplication Ledger) (input : Reading × IncomingMessage) :
    (∃ group edge, Wants group edge host input ∧ Due group edge host input ∧
        host.asked input =
          [⟨rebirthRequest input.1 group edge, host.transport.answers.head⟩]) ∨
      ((∀ group edge, Wants group edge host input → ¬ Due group edge host input) ∧
        (host.asked input = [] ∨
          host.asked input = [⟨host.stateBirth, host.transport.answers.head⟩])) := by
  rcases hof : NodeMessage.of input.2 with - | ⟨group, edge, m⟩
  · refine .inr ⟨?_, ?_⟩
    · rintro group edge ⟨m, hm, -⟩
      exact absurd (hof.symm.trans hm) (by simp)
    · obtain ⟨-, hsame | hstate⟩ := next_none hof
      · exact .inl (asked_of_same hsame)
      · exact .inr (asked_of_transport hstate)
  · have hunique : ∀ g e, Wants g e host input →
        g = group ∧ e = edge ∧ (host.node (key group edge)).Anomalous input.2.payload m := by
      rintro g e ⟨m', hm', hanom⟩
      have heq := Option.some.inj (hof.symm.trans hm')
      obtain ⟨rfl, rfl, rfl⟩ : group = g ∧ edge = e ∧ m = m' := by
        simpa [Prod.ext_iff] using heq
      exact ⟨rfl, rfl, hanom⟩
    by_cases hanom : (host.node (key group edge)).Anomalous input.2.payload m
    · by_cases hdue : Due group edge host input
      · obtain ⟨-, htransport, -⟩ := next_due hof hanom hdue
        exact .inl ⟨group, edge, ⟨m, hof, hanom⟩, hdue, asked_of_transport htransport⟩
      · obtain ⟨-, hsame, -⟩ := next_early hof hanom hdue
        refine .inr ⟨fun g e hwants => ?_, .inl (asked_of_same hsame)⟩
        obtain ⟨rfl, rfl, -⟩ := hunique g e hwants
        exact hdue
    · obtain ⟨-, hsame, -⟩ := next_calm hof hanom
      refine .inr ⟨fun g e hwants => ?_, .inl (asked_of_same hsame)⟩
      exact absurd (hunique g e hwants).2.2 hanom

/-- **When a request is tried**: at an anomaly of the node whose window has passed. -/
theorem tries_iff : Tries group edge host input ↔
    Wants group edge host input ∧ Due group edge host input := by
  rcases asked_cases host input with ⟨g, e, hwants, hdue, hasked⟩ | ⟨hnot, hasked⟩
  · constructor
    · rintro ⟨attempt, hmem, now, hmessage⟩
      rw [hasked, List.mem_singleton] at hmem
      obtain ⟨rfl, rfl⟩ := rebirthRequest_injective (hmem ▸ hmessage)
      exact ⟨hwants, hdue⟩
    · rintro ⟨⟨m, hm, hanom⟩, hdue'⟩
      obtain ⟨m', hm', -⟩ := hwants
      obtain ⟨rfl, rfl, -⟩ : g = group ∧ e = edge ∧ m' = m := by
        simpa [Prod.ext_iff] using Option.some.inj (hm'.symm.trans hm)
      exact ⟨_, hasked ▸ List.mem_singleton_self _, input.1, rfl⟩
  · refine iff_of_false ?_ fun h => hnot group edge h.1 h.2
    rintro ⟨attempt, hmem, now, hmessage⟩
    rcases hasked with hasked | hasked <;> rw [hasked] at hmem
    · exact absurd hmem List.not_mem_nil
    · rw [List.mem_singleton] at hmem
      have hretain : true = false := congrArg OutboundMessage.retain (hmem ▸ hmessage)
      exact absurd hretain (by decide)

/-- A step asks the transport for one publish at most. -/
theorem length_asked_le (host : HostApplication Ledger) (input : Reading × IncomingMessage) :
    (host.asked input).length ≤ 1 := by
  rcases asked_cases host input with ⟨_, _, -, -, hasked⟩ | ⟨-, hasked | hasked⟩ <;>
    simp [hasked]

theorem config_next (host : HostApplication Ledger) (input : Reading × IncomingMessage) :
    (host.next input).config = host.config := by
  rcases hof : NodeMessage.of input.2 with - | ⟨group, edge, m⟩
  · exact (next_none hof).1
  · by_cases hanom : (host.node (key group edge)).Anomalous input.2.payload m
    · by_cases hdue : Due group edge host input
      · exact (next_due hof hanom hdue).1
      · exact (next_early hof hanom hdue).1
    · exact (next_calm hof hanom).1

/-- **What resets the window** of a node: trying to publish its NCMD, which notes the time, and
nothing else. -/
theorem lastRebirth_next (group : GroupId) (edge : EdgeNodeId) (host : HostApplication Ledger)
    (input : Reading × IncomingMessage) :
    (Tries group edge host input →
        ((host.next input).node (key group edge)).lastRebirth = some input.1.instant) ∧
      (¬ Tries group edge host input →
        ((host.next input).node (key group edge)).lastRebirth =
          (host.node (key group edge)).lastRebirth) := by
  constructor
  · intro htries
    obtain ⟨⟨m, hof, hanom⟩, hdue⟩ := tries_iff.mp htries
    exact (next_due hof hanom hdue).2.2.1
  · intro hnot
    by_cases haddressed : ∃ m, NodeMessage.of input.2 = some (group, edge, m)
    · obtain ⟨m, hof⟩ := haddressed
      by_cases hanom : (host.node (key group edge)).Anomalous input.2.payload m
      · have hearly : ¬ Due group edge host input := fun hdue =>
          hnot (tries_iff.mpr ⟨⟨m, hof, hanom⟩, hdue⟩)
        exact (next_early hof hanom hearly).2.2.1
      · exact (next_calm hof hanom).2.2
    · have helse : (host.next input).node (key group edge) = host.node (key group edge) :=
        node_next_elsewhere host fun m hm => haddressed ⟨m, hm⟩
      rw [helse]

/-! ## 4. Runs -/

/-- **Each node is debounced apart**: its requests, its window and its clock are an instance of
`Debounced`. -/
theorem debounced (group : GroupId) (edge : EdgeNodeId) :
    Debounced next (Tries group edge) (fun input => input.1.instant)
      (fun host => (host.node (key group edge)).lastRebirth)
      (fun host : HostApplication Ledger => host.config.rebirthDebounce) where
  due _ _ h := (tries_iff.mp h).2
  sets host input := (lastRebirth_next group edge host input).1
  keeps host input := (lastRebirth_next group edge host input).2
  window_next host input := congrArg HostConfig.rebirthDebounce (host.config_next input)

/-- A host that has not asked for any rebirth yet. -/
def Unasked (host : HostApplication Ledger) : Prop :=
  ∀ k, (host.node k).lastRebirth = none

/-- The clock readings of a run do not decrease. -/
def Clocked (inputs : List (Reading × IncomingMessage)) : Prop :=
  inputs.Pairwise fun input input' => input.1.instant ≤ input'.1.instant

/-- What holds of the requests of a run, for every node: they are a window apart, at most one goes
out per message, and what was held back was held back by an earlier one of the same node. -/
structure RateLimited (host : HostApplication Ledger) (inputs : List (Reading × IncomingMessage)) :
    Prop where
  /-- Two NCMDs that the host published, or tried to publish, for one node are a window apart. -/
  spaced : ∀ group edge pre first mid second post,
    inputs = pre ++ first :: (mid ++ second :: post) →
    Tries group edge (run next host pre) first →
    Tries group edge (run next host (pre ++ first :: mid)) second →
    first.1.instant + host.config.rebirthDebounce ≤ second.1.instant
  /-- No step publishes two. -/
  single : ∀ pre input post, inputs = pre ++ input :: post →
    ((run next host pre).asked input).length ≤ 1
  /-- A message that does not lead to an NCMD of the node leaves its window as it is. -/
  kept : ∀ group edge pre input post, inputs = pre ++ input :: post →
    ¬ Tries group edge (run next host pre) input →
    ((run next host (pre ++ [input])).node (key group edge)).lastRebirth =
      ((run next host pre).node (key group edge)).lastRebirth
  /-- What is held back was held back by an NCMD of the same node. -/
  suppressed : ∀ group edge pre input post, inputs = pre ++ input :: post →
    Wants group edge (run next host pre) input → ¬ Tries group edge (run next host pre) input →
    ∃ before earlier between, pre = before ++ earlier :: between ∧
      Tries group edge (run next host before) earlier ∧
      input.1.instant - earlier.1.instant < host.config.rebirthDebounce

/-- **Rebirth requests are rate limited**, for each node apart, over every run of a host that has
asked for none yet (`hfresh`), whatever it handles and whatever the transport answers.  `hclock` is
what `Instant` promises: its readings do not go back. -/
theorem requests_rateLimited (host : HostApplication Ledger) (hfresh : host.Unasked)
    (inputs : List (Reading × IncomingMessage)) (hclock : Clocked inputs) :
    host.RateLimited inputs where
  spaced group edge pre first mid second post heq hfirst hsecond :=
    (debounced group edge).spaced (heq ▸ hclock) hfirst hsecond
  single pre input post _ := length_asked_le _ input
  kept group edge pre input post _ hnot := by
    rw [run_append]
    exact (lastRebirth_next group edge (run next host pre) input).2 hnot
  suppressed group edge pre input post _ hwants hnot := by
    have hearly : ¬ Due group edge (run next host pre) input := fun hdue =>
      hnot (tries_iff.mpr ⟨hwants, hdue⟩)
    have hwindow : (run next host pre).config.rebirthDebounce = host.config.rebirthDebounce :=
      (debounced group edge).window_run host pre
    unfold Due NodeState.Due at hearly
    rw [hwindow] at hearly
    push Not at hearly
    obtain ⟨t, hlast, hlt⟩ := hearly
    rcases (debounced group edge).last_run hlast with hfirst | ⟨before, earlier, between, heq, htries, rfl⟩
    · exact absurd ((hfresh _).symm.trans hfirst) (by simp)
    · exact ⟨before, earlier, between, heq, htries, hlt⟩

end HostApplication

/-! ## 5. A line that was never born -/

open HostApplication

/-- A host whose transport fails first, and then never again. -/
def strainedHost : HostApplication Ledger :=
  .new (.new "scada") ⟨[], Stream'.cons (some (.transport "connection lost")) (Stream'.const none)⟩

theorem unasked_strainedHost : strainedHost.Unasked := by
  intro k
  have hnone : strainedHost.nodes[k]? = none := Std.ExtTreeMap.getElem?_empty
  rw [HostApplication.node, hnone]
  rfl

/-- A reading of the clocks, some nanoseconds after noon. -/
def afternoon (instant : Nat) : Reading := ⟨some 1700000000000, instant⟩

/-- An NDATA of the line. -/
def unbornData : IncomingMessage := lineMessage .nData (some 1) .data

/-- Of three messages of a line that was never born, the first and the last are followed by an NCMD. -/
theorem requests_rateLimited_line :
    strainedHost.RateLimited [(afternoon 0, unbornData), (afternoon 1, unbornData),
        (afternoon 5000000000, unbornData)] ∧
      (run next strainedHost [(afternoon 0, unbornData), (afternoon 1, unbornData),
        (afternoon 5000000000, unbornData)]).transport.attempts.length = 2 :=
  ⟨requests_rateLimited strainedHost unasked_strainedHost _
    (by unfold Clocked; simp [afternoon]), by decide +kernel⟩

end SparkplugB
