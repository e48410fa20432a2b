/-
# What a failed birth leaves behind

An NBIRTH may fail to decode, and an NBIRTH or a DBIRTH may bind one alias to two names.  In
either case the application should hear nothing more of that session before the next birth.  A
node that is offline stays so until an NBIRTH of it is surfaced (`offline_until_birth`), so the
rule holds exactly where the failed birth takes the node offline: not for an NBIRTH that does not
decode while the node is online, and not for a DBIRTH.
-/
import SparkplugB.Codec.Survival
import SparkplugB.Host.Death

namespace SparkplugB

open Machine

namespace HostEvent

/-- Whose message the event shows the application. -/
def sender : HostEvent → Option (String × String)
  | .nodeBirth group edge _ | .nodeData group edge _ | .nodeDeath group edge _ _
  | .deviceBirth group edge _ _ | .deviceData group edge _ _ | .deviceDeath group edge _ _ =>
    some (group, edge)
  | _ => none

/-- An NDATA, DBIRTH, DDATA or DDEATH of the node is surfaced. -/
def OfSession (group : GroupId) (edge : EdgeNodeId) : HostEvent → Prop
  | .nodeData g e _ | .deviceBirth g e _ _ | .deviceData g e _ _ | .deviceDeath g e _ _ =>
    g = group.str ∧ e = edge.str
  | _ => False

/-- A birth is surfaced: the one of the node or the device whose birth the message `m` is. -/
def IsBirth (group : GroupId) (edge : EdgeNodeId) : NodeMessage → HostEvent → Prop
  | .birth, .nodeBirth g e _ => g = group.str ∧ e = edge.str
  | .deviceBirth device, .deviceBirth g e d _ => g = group.str ∧ e = edge.str ∧ d = device.str
  | _, _ => False

/-- Data is surfaced: of the node or of the device whose birth the message `m` is. -/
def IsDataAfter (group : GroupId) (edge : EdgeNodeId) : NodeMessage → HostEvent → Prop
  | .birth, .nodeData g e _ => g = group.str ∧ e = edge.str
  | .deviceBirth device, .deviceData g e d _ => g = group.str ∧ e = edge.str ∧ d = device.str
  | _, _ => False

instance (group : GroupId) (edge : EdgeNodeId) : DecidablePred (OfSession group edge) :=
  fun event => by cases event <;> first | exact instDecidableFalse | exact instDecidableAnd

instance (group : GroupId) (edge : EdgeNodeId) (m : NodeMessage) :
    DecidablePred (IsBirth group edge m) :=
  fun event => by
    cases m <;> cases event <;> first | exact instDecidableFalse | exact instDecidableAnd

instance (group : GroupId) (edge : EdgeNodeId) (m : NodeMessage) :
    DecidablePred (IsDataAfter group edge m) :=
  fun event => by
    cases m <;> cases event <;> first | exact instDecidableFalse | exact instDecidableAnd

theorem OfSession.sender {group : GroupId} {edge : EdgeNodeId} {event : HostEvent}
    (h : event.OfSession group edge) : event.sender = some (group.str, edge.str) := by
  cases event <;> simp_all [OfSession, HostEvent.sender]

theorem IsBirth.sender {group : GroupId} {edge : EdgeNodeId} {m : NodeMessage}
    {event : HostEvent} (h : event.IsBirth group edge m) :
    event.sender = some (group.str, edge.str) := by
  cases m <;> cases event <;> simp_all [IsBirth, HostEvent.sender]

theorem IsDataAfter.ofSession {group : GroupId} {edge : EdgeNodeId} {m : NodeMessage}
    {event : HostEvent} (h : event.IsDataAfter group edge m) : event.OfSession group edge := by
  cases m <;> cases event <;> simp_all [IsDataAfter, OfSession]

end HostEvent

/-! ## 1. Turns that surface something -/

/-- What a turn surfaces, it surfaces for its own node. -/
theorem Turn.sender {now : Reading} {group : GroupId} {edge : EdgeNodeId} {node after : NodeState}
    {bytes : Bytes} {m : NodeMessage} {event : HostEvent}
    (h : Turn now group edge node bytes m (.event event) after) :
    event.sender = some (group.str, edge.str) := by
  generalize hv : Verdict.event event = verdict at h
  cases h with
  | birth _ _ => cases hv; rfl
  | death _ _ _ _ => cases hv; rfl
  | @accept m p _ _ _ _ =>
    cases m with
    | deviceBirth device =>
      simp only [NodeState.decision] at hv
      split at hv <;> cases hv
      rfl
    | _ => cases hv; rfl
  | _ => cases hv

/-- A verdict that shows an event with a sender is that event. -/
theorem Verdict.Shows.eq_event {group : GroupId} {edge : EdgeNodeId} {verdict : Verdict}
    {event : HostEvent} (h : verdict.Shows group edge (.ok event))
    (hsender : event.sender.isSome = true) : verdict = .event event := by
  cases verdict with
  | event event' => exact congrArg Verdict.event (Except.ok.inj h).symm
  | rebirth =>
    rcases h with h | h | ⟨_, h⟩ <;> cases h <;>
      exact absurd hsender (by simp [HostEvent.sender])
  | ignored =>
    cases h
    exact absurd hsender (by simp [HostEvent.sender])
  | failed e => cases h

/-- An event out of a session is surfaced while the node is online. -/
theorem Turn.online_of_session {now : Reading} {group : GroupId} {edge : EdgeNodeId}
    {node after : NodeState} {bytes : Bytes} {m : NodeMessage} {event : HostEvent}
    (h : Turn now group edge node bytes m (.event event) after)
    (hevent : event.OfSession group edge) : node.online = true := by
  generalize hv : Verdict.event event = verdict at h
  cases h with
  | birth _ _ => cases hv; exact hevent.elim
  | death _ online _ _ => exact online
  | accept _ on _ _ => exact NodeState.online_of_listens on
  | _ => cases hv

/-- A surfaced birth binds every alias to one name. -/
theorem Turn.unique_of_birth {now : Reading} {group : GroupId} {edge : EdgeNodeId}
    {node after : NodeState} {bytes : Bytes} {m m' : NodeMessage} {event : HostEvent}
    (h : Turn now group edge node bytes m' (.event event) after)
    (hevent : event.IsBirth group edge m) {p : Payload} (hp : decode bytes none = .ok p) :
    ¬ AliasRegistry.Clashes p.metrics := by
  rw [← AliasRegistry.bindAll_new_refuses_iff]
  generalize hv : Verdict.event event = verdict at h
  cases h with
  | birth hdec unique =>
    obtain rfl := Except.ok.inj (hdec.symm.trans hp)
    exact fun hclash => absurd (unique.symm.trans hclash) (by decide)
  | death _ _ _ _ => cases hv; cases m <;> exact hevent.elim
  | @accept m' q _ _ hreads _ =>
    cases m' with
    | deviceBirth device =>
      obtain rfl : q = p := Except.ok.inj (hreads.symm.trans hp)
      intro hclash
      rw [NodeState.decision, if_pos hclash] at hv
      cases hv
    | data => cases hv; cases m <;> exact hevent.elim
    | deviceData device => cases hv; cases m <;> exact hevent.elim
    | deviceDeath device => cases hv; cases m <;> exact hevent.elim
    | _ => cases hv; cases m <;> exact hevent.elim
  | _ => cases hv

/-- A turn that surfaces no NBIRTH leaves an offline node offline. -/
theorem Turn.offline {now : Reading} {group : GroupId} {edge : EdgeNodeId}
    {node after : NodeState} {bytes : Bytes} {m : NodeMessage} {verdict : Verdict}
    (h : Turn now group edge node bytes m verdict after) (hoff : node.online = false)
    (hquiet : ∀ event, verdict = .event event → ¬ event.IsBirth group edge .birth) :
    after.online = false := by
  cases h with
  | birthUnreadable _ => exact hoff
  | birth _ _ => exact absurd ⟨rfl, rfl⟩ (hquiet _ rfl)
  | birthAmbiguous _ dup => exact Bool.not_eq_false' _ ▸ dup
  | deathUnreadable _ => exact hoff
  | death _ _ _ _ => rfl
  | deathStale _ _ => exact hoff
  | deaf _ _ => exact hoff
  | unreadable _ _ _ _ => exact hoff
  | malformed _ _ _ => rfl
  | gap _ _ _ _ => rfl
  | accept _ on _ _ =>
    exact absurd (hoff.symm.trans (NodeState.online_of_listens on)) (by decide)

/-! ## 2. Runs that surface nothing -/

namespace HostApplication

variable {T : Type} [MqttTransport T] {group : GroupId} {edge : EdgeNodeId}

/-- Handling the message surfaces an event of this kind: `handle_incoming` returns it. -/
def Surfaces (kind : HostEvent → Prop) (host : HostApplication T)
    (input : Reading × IncomingMessage) : Prop :=
  ∃ event, host.outcome input = .ok event ∧ kind event

/-- What is surfaced for a node comes out of a turn of the node. -/
theorem turn_of_surfaced (host : HostApplication T) {input : Reading × IncomingMessage}
    {event : HostEvent} (hout : host.outcome input = .ok event)
    (hsender : event.sender = some (group.str, edge.str)) :
    ∃ m after, NodeMessage.of input.2 = some (group, edge, m) ∧
      Turn input.1 group edge (host.node (key group edge)) input.2.payload m (.event event)
        after := by
  rcases hof : NodeMessage.of input.2 with - | ⟨g, e, m⟩
  · obtain rfl := handleIncoming_ignored input.1 host hof hout
    exact absurd hsender (by simp [HostEvent.sender])
  · obtain ⟨verdict, after, hturn, hreal⟩ := handleIncoming_turn input.1 host hof
    have hshows : verdict.Shows g e (host.outcome input) := hreal.shows
    rw [hout] at hshows
    obtain rfl := hshows.eq_event (by rw [hsender]; rfl)
    have hids := hturn.sender.symm.trans hsender
    simp only [Option.some.injEq, Prod.mk.injEq] at hids
    obtain ⟨rfl, rfl⟩ : g = group ∧ e = edge := key_injective (by simp only [key, hids])
    exact ⟨m, after, rfl, hturn⟩

/-- While a node is offline, nothing out of a session of it is surfaced. -/
theorem online_of_surfaced (host : HostApplication T) {input : Reading × IncomingMessage}
    (h : host.Surfaces (HostEvent.OfSession group edge) input) :
    (host.node (key group edge)).online = true := by
  obtain ⟨event, hout, hevent⟩ := h
  obtain ⟨m, after, -, hturn⟩ := turn_of_surfaced host hout hevent.sender
  exact hturn.online_of_session hevent

/-- One message that is not surfaced as an NBIRTH leaves an offline node offline: only
`on_node_birth` ever sets the flag. -/
theorem offline_step (host : HostApplication T) {input : Reading × IncomingMessage}
    (hoff : (host.node (key group edge)).online = false)
    (hquiet : ¬ host.Surfaces (HostEvent.IsBirth group edge .birth) input) :
    ((host.next input).node (key group edge)).online = false := by
  by_cases hof : ∃ m, NodeMessage.of input.2 = some (group, edge, m)
  · obtain ⟨m, hof⟩ := hof
    obtain ⟨verdict, after, hturn, hreal⟩ := handleIncoming_turn input.1 host hof
    have hon : ((host.next input).node (key group edge)).online = after.online :=
      hreal.same NodeState.online fun _ => rfl
    rw [hon]
    refine hturn.offline hoff ?_
    rintro event rfl hevent
    exact hquiet ⟨event, hreal.shows, hevent⟩
  · rw [node_next_elsewhere host fun m hm => hof ⟨m, hm⟩]
    exact hoff

/-- **An offline node stays offline** through every run in which no NBIRTH of it is surfaced. -/
theorem offline_until_birth (host : HostApplication T)
    (messages : List (Reading × IncomingMessage))
    (hoff : (host.node (key group edge)).online = false)
    (hquiet : Always next
      (fun host input => ¬ host.Surfaces (HostEvent.IsBirth group edge .birth) input)
      host messages) :
    ((run next host messages).node (key group edge)).online = false :=
  run_invariant (fun host _ hs hq => offline_step host hs hq) host messages hoff hquiet

/-! ## 3. DATA without metrics -/

/-- A DATA message without metrics. -/
def bareData (now : Reading) (group : GroupId) (edge : EdgeNodeId) (m : NodeMessage)
    (seq : UInt8) : Reading × IncomingMessage :=
  (now, ⟨(m.topic group edge).toString, encode { seq := some seq } .data⟩)

/-- The event it becomes. -/
def bareEvent (group : GroupId) (edge : EdgeNodeId) : NodeMessage → HostEvent
  | .deviceData device => .deviceData group.str edge.str device.str []
  | _ => .nodeData group.str edge.str []

/-- On a record that listens, DATA with the expected number is surfaced, whatever the registry
holds: without metrics there is nothing to look up. -/
theorem outcome_bareData (now : Reading) (host : HostApplication T) {m : NodeMessage}
    (data : m.isData = true) (listens : (host.node (key group edge)).listens m = true) :
    host.outcome (bareData now group edge m (host.node (key group edge)).expectedSeq) =
      .ok (bareEvent group edge m) := by
  have hreads : (host.node (key group edge)).reads m
      (encode { seq := some (host.node (key group edge)).expectedSeq } .data) =
        .ok { seq := some (host.node (key group edge)).expectedSeq } :=
    decode_encode_bare _ _
  obtain ⟨verdict, after, hturn, hreal⟩ := handleIncoming_turn now host
    (NodeMessage.of_topic group edge m
      (encode { seq := some (host.node (key group edge)).expectedSeq } .data))
  generalize hbytes : encode _ EncodeOptions.data = bytes at hturn hreal hreads
  cases hturn with
  | birthUnreadable _ => exact absurd data (by decide)
  | birth _ _ => exact absurd data (by decide)
  | birthAmbiguous _ _ => exact absurd data (by decide)
  | deathUnreadable _ => exact absurd data (by decide)
  | death _ _ _ _ => exact absurd data (by decide)
  | deathStale _ _ => exact absurd data (by decide)
  | deaf _ h => exact absurd (h.symm.trans listens) (by decide)
  | unreadable _ _ _ h => exact absurd (h.symm.trans hreads) (by simp)
  | malformed _ _ h => exact absurd (h.symm.trans hreads) (by simp)
  | gap _ _ h other =>
    obtain rfl := Except.ok.inj (h.symm.trans hreads)
    exact absurd rfl other
  | accept _ _ h _ =>
    obtain rfl := Except.ok.inj (h.symm.trans hreads)
    have hshows : host.outcome (now, ⟨(m.topic group edge).toString, bytes⟩) =
        .ok (bareEvent group edge m) := by
      cases m with
      | data => exact hreal.shows
      | deviceData device => exact hreal.shows
      | _ => exact absurd data (by simp [NodeMessage.isData])
    rw [bareData, hbytes]
    exact hshows

/-! ## 4. An NBIRTH that does not decode -/

/-- **An undecodable NBIRTH ends the session** of a node exactly when the node was offline already.
`on_node_birth` returns the error and leaves the record as it was, so whatever the old session would
have surfaced is surfaced still.  The session has ended if, over all messages to come, nothing of
the node is surfaced before an NBIRTH of it is. -/
theorem undecodable_birth_ends_iff (host : HostApplication T) {birth : Reading × IncomingMessage}
    {e : SparkplugError} (addressed : NodeMessage.of birth.2 = some (group, edge, .birth))
    (undecodable : decode birth.2.payload none = .error e) :
    (∀ messages input,
      Always next
        (fun host input => ¬ host.Surfaces (HostEvent.IsBirth group edge .birth) input)
        (host.next birth) messages →
      ¬ (run next (host.next birth) messages).Surfaces (HostEvent.OfSession group edge) input) ↔
    (host.node (key group edge)).online = false := by
  have hsession : ((host.next birth).node (key group edge)).session =
      (host.node (key group edge)).session := by
    obtain ⟨verdict, after, hturn, hreal⟩ := handleIncoming_turn birth.1 host addressed
    cases hturn with
    | birthUnreadable _ => exact hreal.session
    | birth h _ => exact absurd (h.symm.trans undecodable) (by simp)
    | birthAmbiguous h _ => exact absurd (h.symm.trans undecodable) (by simp)
    | deaf seq _ => exact absurd seq (by decide)
    | unreadable seq _ _ _ => exact absurd seq (by decide)
    | malformed data _ _ => exact absurd data (by decide)
    | gap seq _ _ _ => exact absurd seq (by decide)
    | accept seq _ _ _ => exact absurd seq (by decide)
  have hsame : ((host.next birth).node (key group edge)).online =
      (host.node (key group edge)).online := by
    simpa only [NodeState.session_online] using congrArg NodeState.online hsession
  constructor
  · -- the next NDATA of the old session would be surfaced
    intro hsilent
    by_contra hon
    have honline : ((host.next birth).node (key group edge)).online = true :=
      hsame.trans (Bool.not_eq_false _ ▸ hon)
    exact hsilent [] (bareData birth.1 group edge .data _) trivial
      ⟨_, outcome_bareData birth.1 (host.next birth) rfl honline, rfl, rfl⟩
  · intro hoff messages input hquiet hsurf
    have hstays := offline_until_birth (host.next birth) messages (hsame.trans hoff) hquiet
    exact absurd (hstays.symm.trans (online_of_surfaced _ hsurf)) (by decide)

/-! ## 5. A birth that binds one alias to two names -/

/-- The message is a birth that `try_bind` refuses, since it binds one alias to two names: an
NBIRTH, or a DBIRTH that passes the sequence check of an online node. -/
def IsCorruptBirth (group : GroupId) (edge : EdgeNodeId) (m : NodeMessage)
    (host : HostApplication T) (input : Reading × IncomingMessage) : Prop :=
  NodeMessage.of input.2 = some (group, edge, m) ∧
    ∃ p, decode input.2.payload none = .ok p ∧ AliasRegistry.Clashes p.metrics ∧
      (m = .birth ∨ (∃ device, m = .deviceBirth device) ∧
        (host.node (key group edge)).online = true ∧
        p.seq = some (host.node (key group edge)).expectedSeq)

/-- Handling the message surfaces a birth of the node or device whose birth `m` is, and that birth
binds every alias to one name. -/
def SurfacesCleanBirth (group : GroupId) (edge : EdgeNodeId) (m : NodeMessage)
    (host : HostApplication T) (input : Reading × IncomingMessage) : Prop :=
  host.Surfaces (HostEvent.IsBirth group edge m) input ∧
    ∀ p, decode input.2.payload none = .ok p → ¬ AliasRegistry.Clashes p.metrics

/-- Every surfaced birth is clean. -/
theorem surfacesCleanBirth_of_surfaces (host : HostApplication T) {m : NodeMessage}
    {input : Reading × IncomingMessage}
    (h : host.Surfaces (HostEvent.IsBirth group edge m) input) :
    SurfacesCleanBirth group edge m host input := by
  refine ⟨h, fun p hp => ?_⟩
  obtain ⟨event, hout, hevent⟩ := h
  obtain ⟨m', after, -, hturn⟩ := turn_of_surfaced host hout hevent.sender
  exact hturn.unique_of_birth hevent hp

/-- What a corrupt birth leaves behind: `on_node_birth` takes the node offline, while
`on_device_birth` leaves the node and the device online. -/
theorem listens_of_corruptBirth (host : HostApplication T) {m : NodeMessage}
    {birth : Reading × IncomingMessage} (corrupt : IsCorruptBirth group edge m host birth) :
    (m = .birth ∧ ((host.next birth).node (key group edge)).online = false) ∨
      ∃ device, m = .deviceBirth device ∧
        ((host.next birth).node (key group edge)).listens (.deviceData device) = true := by
  obtain ⟨addressed, p, hp, hclash, hkind⟩ := corrupt
  have hdup := AliasRegistry.bindAll_new_refuses_iff.mpr hclash
  obtain ⟨verdict, after, hturn, hreal⟩ := handleIncoming_turn birth.1 host addressed
  have hon : ((host.next birth).node (key group edge)).online = after.online :=
    hreal.same NodeState.online fun _ => rfl
  rcases hkind with rfl | ⟨⟨device, rfl⟩, online, next⟩
  · refine .inl ⟨rfl, hon.trans ?_⟩
    cases hturn with
    | birthUnreadable h => exact absurd (h.symm.trans hp) (by simp)
    | birth h unique =>
      obtain rfl := Except.ok.inj (h.symm.trans hp)
      exact absurd (unique.symm.trans hdup) (by decide)
    | birthAmbiguous _ dup => exact Bool.not_eq_false' _ ▸ dup
    | deaf seq _ => exact absurd seq (by decide)
    | unreadable seq _ _ _ => exact absurd seq (by decide)
    | malformed data _ _ => exact absurd data (by decide)
    | gap seq _ _ _ => exact absurd seq (by decide)
    | accept seq _ _ _ => exact absurd seq (by decide)
  · refine .inr ⟨device, rfl, ?_⟩
    have hlistens : ((host.next birth).node (key group edge)).listens (.deviceData device) =
        after.listens (.deviceData device) :=
      hreal.same (fun node => node.listens (.deviceData device)) fun _ => rfl
    rw [hlistens]
    cases hturn with
    | deaf _ h => exact absurd (h.symm.trans online) Bool.false_ne_true
    | unreadable _ _ _ h => exact absurd (h.symm.trans hp) (by simp)
    | malformed data _ _ => exact absurd data Bool.false_ne_true
    | gap _ _ h other =>
      obtain rfl := Except.ok.inj (h.symm.trans hp)
      exact absurd next other
    | accept _ _ _ _ => simp [NodeState.listens, NodeState.deviceOnline, NodeState.accepted,
        NodeState.putDevice, NodeState.advance, online]

/-- **Exactly when a corrupt birth silences its data**: when it is an NBIRTH.  To silence means
that, over all messages to come, no data of the node or device is surfaced before a clean birth of
it is.  After a corrupt DBIRTH a DDATA in sequence is surfaced at once, on any host. -/
theorem corrupt_birth_silences_iff (host : HostApplication T) {m : NodeMessage}
    {birth : Reading × IncomingMessage} (corrupt : IsCorruptBirth group edge m host birth) :
    (∀ messages input,
      Always next (fun host input => ¬ SurfacesCleanBirth group edge m host input)
        (host.next birth) messages →
      ¬ (run next (host.next birth) messages).Surfaces (HostEvent.IsDataAfter group edge m)
        input) ↔ m = .birth := by
  rcases listens_of_corruptBirth host corrupt with ⟨rfl, hoff⟩ | ⟨device, rfl, hlistens⟩
  · refine iff_of_true (fun messages input hquiet hsurf => ?_) rfl
    have hnone := always_mono (fun host input hclean hbirth =>
      hclean (surfacesCleanBirth_of_surfaces host hbirth)) _ _ hquiet
    have hstays := offline_until_birth (host.next birth) messages hoff hnone
    obtain ⟨event, hout, hevent⟩ := hsurf
    have hon := online_of_surfaced _ ⟨event, hout, hevent.ofSession⟩
    exact absurd (hstays.symm.trans hon) (by decide)
  · -- DATA of the device that comes next is resolved with the half-filled registry
    refine iff_of_false (fun hsilent => ?_) (by simp)
    exact hsilent [] (bareData birth.1 group edge (.deviceData device) _) trivial
      ⟨_, outcome_bareData birth.1 (host.next birth) rfl hlistens, rfl, rfl, rfl⟩

end HostApplication

/-! ## 6. The line of the plant again -/

open HostApplication

instance {T : Type} [MqttTransport T] (kind : HostEvent → Prop) [DecidablePred kind]
    (host : HostApplication T) (input : Reading × IncomingMessage) :
    Decidable (host.Surfaces kind input) :=
  match h : host.outcome input with
  | .ok event =>
    decidable_of_iff (kind event) ⟨fun hk => ⟨event, h, hk⟩, fun ⟨_, h', hk⟩ =>
      Except.ok.inj (h.symm.trans h') ▸ hk⟩
  | .error _ => isFalse fun ⟨_, h', _⟩ => absurd (h.symm.trans h') (by simp)

/-- An NBIRTH of the line that is not a protobuf message. -/
def garbledBirth : IncomingMessage where
  topic := (SparkplugTopic.node plant line .nBirth).toString
  payload := [255]

theorem garbledBirth_undecodable : ∃ e, decode garbledBirth.payload none = .error e :=
  exists_error _ (by decide +kernel)

/-- A host that has not heard of the line may pass over the garbled NBIRTH: an NDATA of the line after
it is not surfaced. -/
theorem garbled_birth_ends_nothing :
    ¬ (freshHost.next (noon, garbledBirth)).Surfaces (HostEvent.OfSession plant line)
      (noon, lineMessage .nData (some 1) .data) := by
  obtain ⟨e, he⟩ := garbledBirth_undecodable
  have addressed : NodeMessage.of ((noon, garbledBirth) : Reading × IncomingMessage).2 =
      some (plant, line, .birth) := by decide +kernel
  exact (undecodable_birth_ends_iff freshHost addressed he).mpr (by decide +kernel) [] _
    (always_nil _)

/-- **The old session goes on.**  The line is born, its next NBIRTH does not decode, and an NDATA
that fits the old session is surfaced. -/
theorem old_session_survives_garbled_birth :
    ¬ ∀ (before messages : List (Reading × IncomingMessage)) (birth input : Reading × IncomingMessage)
        (e : SparkplugError),
        NodeMessage.of birth.2 = some (plant, line, .birth) →
        decode birth.2.payload none = .error e →
        Always next
          (fun host input => ¬ host.Surfaces (HostEvent.IsBirth plant line .birth) input)
          ((run next freshHost before).next birth) messages →
        ¬ (run next ((run next freshHost before).next birth) messages).Surfaces
          (HostEvent.OfSession plant line) input := by
  intro claim
  obtain ⟨e, he⟩ := garbledBirth_undecodable
  have hsurf : (run next ((run next freshHost [(noon, lineMessage .nBirth (some 0) .birth)]).next
      (noon, garbledBirth)) []).Surfaces (HostEvent.OfSession plant line)
      (noon, lineMessage .nData (some 1) .data) := by decide +kernel
  exact claim _ [] _ _ e (by decide +kernel) he trivial hsurf

/-- A birth in which alias 7 stands for two names. -/
def twoNames (seq : UInt8) : Payload where
  seq := some seq
  metrics := [{ Metric.new "inlet" (.int32 20) with «alias» := some 7 },
    { Metric.new "outlet" (.int32 40) with «alias» := some 7 }]

def boiler : DeviceId := ⟨"boiler", by decide⟩

def corruptNodeBirth : IncomingMessage where
  topic := (SparkplugTopic.node plant line .nBirth).toString
  payload := encode (twoNames 0) .birth

def corruptDeviceBirth : IncomingMessage where
  topic := (SparkplugTopic.device plant line boiler .dBirth).toString
  payload := encode (twoNames 1) .birth

/-- DATA of the boiler under the alias alone. -/
def boilerData : IncomingMessage where
  topic := (SparkplugTopic.device plant line boiler .dData).toString
  payload := encode
    { seq := some 2
      metrics := [{ Metric.new "outlet" (.int32 41) with name := none, «alias» := some 7 }] } .data

theorem isCorrupt_nodeBirth :
    IsCorruptBirth plant line .birth freshHost (noon, corruptNodeBirth) := by
  obtain ⟨p, hp, hclash⟩ := exists_ok (decode corruptNodeBirth.payload none)
    (fun p => decide (AliasRegistry.Clashes p.metrics)) (by decide +kernel)
  exact ⟨by decide +kernel, p, hp, of_decide_eq_true hclash, .inl rfl⟩

theorem isCorrupt_deviceBirth :
    IsCorruptBirth plant line (.deviceBirth boiler) hostOfLine (noon, corruptDeviceBirth) := by
  obtain ⟨p, hp, htest⟩ := exists_ok (decode corruptDeviceBirth.payload none)
    (fun p => decide (AliasRegistry.Clashes p.metrics) && decide (p.seq = some 1))
    (by decide +kernel)
  rw [Bool.and_eq_true, decide_eq_true_eq, decide_eq_true_eq] at htest
  have hexpected : (hostOfLine.node (key plant line)).expectedSeq = 1 := by decide +kernel
  refine ⟨by decide +kernel, p, hp, htest.1, .inr ⟨⟨boiler, rfl⟩, by decide +kernel, ?_⟩⟩
  rw [hexpected]
  exact htest.2

/-- The corrupt NBIRTH silences the line: its next NDATA is not surfaced. -/
theorem corrupt_nodeBirth_silences :
    ¬ (freshHost.next (noon, corruptNodeBirth)).Surfaces
      (HostEvent.IsDataAfter plant line .birth) (noon, lineMessage .nData (some 1) .data) :=
  (corrupt_birth_silences_iff freshHost isCorrupt_nodeBirth).mpr rfl [] _ (always_nil _)

/-- **The corrupt DBIRTH silences nothing**: the boiler's alias 7 stands for two names, the host has
asked for a rebirth, and the boiler's next DDATA is surfaced. -/
theorem data_after_corrupt_deviceBirth :
    ¬ ∀ (before messages : List (Reading × IncomingMessage)) (birth input : Reading × IncomingMessage)
        (m : NodeMessage),
        IsCorruptBirth plant line m (run next freshHost before) birth →
        Always next (fun host input => ¬ SurfacesCleanBirth plant line m host input)
          ((run next freshHost before).next birth) messages →
        ¬ (run next ((run next freshHost before).next birth) messages).Surfaces
          (HostEvent.IsDataAfter plant line m) input := by
  intro claim
  have hsurf : (hostOfLine.next (noon, corruptDeviceBirth)).Surfaces
      (HostEvent.IsDataAfter plant line (.deviceBirth boiler)) (noon, boilerData) := by
    decide +kernel
  exact claim [(noon, lineMessage .nBirth (some 0) .birth)] [] (noon, corruptDeviceBirth) _ _
    isCorrupt_deviceBirth trivial hsurf

end SparkplugB
