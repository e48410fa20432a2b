/-
# What a host hears of each edge

A host deals with each edge as if there were no other, and the broker keeps the messages of an edge in
order.  So each edge of a network has a channel of its own to the host, and what is known of a host at
the end of a channel holds of it on a broker, whatever the other clients do meanwhile.

* **A channel** (`channel`): the messages of an edge reach the host in order, and what the host
  returns for them, it returns for them alone.
* **In order** (`surfaced_in_order`): what the host surfaces of an edge is what the calls of the edge
  meant, in order, and nothing else.
* **Everything** (`surfaced_in_full`): if no message is lost, it is all that they meant.
-/
import SparkplugB.Link.Integrity
import SparkplugB.Link.Network
import SparkplugB.Link.Recovery

namespace SparkplugB

open HostApplication Machine

/-! ## 1. What is kept on record -/

namespace HostApplication

/-- What was returned for a node's messages is what a host returns that is handed nothing else, and
so is its record of the node. -/
structure Alone (host₀ host : HostApplication Recorder) (group : GroupId) (edge : EdgeNodeId)
    (returned : List ((Reading × IncomingMessage) × Result HostEvent)) : Prop where
  same : SameAt (key group edge) host (run next host₀ (returned.map Prod.fst))
  returned : returned = results host₀ (returned.map Prod.fst)

/-- **The host handles a message of the node.** -/
theorem Alone.mine {host₀ host : HostApplication Recorder} {group : GroupId} {edge : EdgeNodeId}
    {returned : List ((Reading × IncomingMessage) × Result HostEvent)}
    (h : Alone host₀ host group edge returned) {input : Reading × IncomingMessage}
    (hmine : concerns group edge input = true) :
    Alone host₀ (host.next input) group edge (returned ++ [(input, host.outcome input)]) := by
  obtain ⟨m, hof⟩ := concerns_iff.mp hmine
  have halike := handleIncoming_alike Recorder.publishes input.1 hof host _ h.same
  constructor
  · rw [List.map_append, run_append]
    exact halike.state
  · rw [List.map_append, results, transcript_append, ← results, ← h.returned]
    exact congrArg (fun outcome => returned ++ [(input, outcome)]) halike.outcome

/-- The host does something else. -/
theorem Alone.of_same {host₀ host host' : HostApplication Recorder} {group : GroupId}
    {edge : EdgeNodeId} {returned : List ((Reading × IncomingMessage) × Result HostEvent)}
    (h : Alone host₀ host group edge returned) (hsame : SameAt (key group edge) host host') :
    Alone host₀ host' group edge returned := ⟨hsame.symm.trans h.same, h.returned⟩

end HostApplication

/-- The message is one of the edge's births, data or deaths, by its topic. -/
def IncomingMessage.isOf (config : EdgeNodeConfig) (message : IncomingMessage) : Bool :=
  (NodeMessage.of message).any fun x => x.1 = config.group && x.2.1 = config.edge

namespace Network

variable {K S : Type}

/-- What the host has returned for messages of an edge, in order, with the message and the time of
each. -/
def returnedFor (net : Network K S) (config : EdgeNodeConfig) :
    List ((Reading × IncomingMessage) × Result HostEvent) :=
  net.returned.filter fun r => concerns config.group config.edge r.1

theorem returnedFor_mine (net : Network K S) {config : EdgeNodeConfig}
    {input : Reading × IncomingMessage} (hmine : concerns config.group config.edge input = true) :
    (net.record input).returnedFor config =
      net.returnedFor config ++ [(input, net.host.outcome input)] := by
  simp [record, returnedFor, hmine]

theorem returnedFor_other (net : Network K S) {config : EdgeNodeConfig}
    {input : Reading × IncomingMessage} (hother : ¬ concerns config.group config.edge input = true) :
    (net.record input).returnedFor config = net.returnedFor config := by
  simp [record, returnedFor, hother]

end Network

namespace Plant

variable {K S : Type} [BdSeqStore S]

/-- The record is true: the edges are what their calls make of them, and the host has dealt with
each edge as if it had been handed the messages of that edge alone.  Every event of the network
keeps this. -/
structure Tracks (plant : Plant K S) (net : Network K S) : Prop where
  edges : ∀ k, net.edges k =
    run Observed.perform (.start (plant.config k) (plant.store k) (plant.clock k)) (net.calls k)
  speaks : Speaks plant.host net.host
  alone : ∀ k, Alone plant.host net.host (plant.config k).group (plant.config k).edge
    (net.returnedFor (plant.config k))

namespace Tracks

variable {plant : Plant K S} {net : Network K S}

theorem of_start (plant : Plant K S) : plant.Tracks plant.start :=
  ⟨fun _ => rfl, refl_of Speaks _, fun _ => ⟨SameAt.refl _ _, rfl⟩⟩

/-- The broker has no part in it. -/
theorem of_pending (h : plant.Tracks net) (pending : Party K → Party K → List IncomingMessage) :
    plant.Tracks { net with pending } := ⟨h.edges, h.speaks, h.alone⟩

theorem called [DecidableEq K] (h : plant.Tracks net) (k : K) (a : Action) : plant.Tracks (net.called k a) := by
  refine ⟨fun k' => ?_, h.speaks, h.alone⟩
  show Function.update net.edges k ((net.edges k).perform a) k' =
    run Observed.perform _ (Function.update net.calls k (net.calls k ++ [a]) k')
  by_cases hk : k' = k
  · subst hk
    rw [Function.update_self, Function.update_self, run_append, ← h.edges k']
    rfl
  · rw [Function.update_of_ne hk, Function.update_of_ne hk]
    exact h.edges k'

theorem withHost (h : plant.Tracks net) {host : HostApplication Recorder}
    (hspeaks : Speaks net.host host) (hsame : ∀ k, SameAt k net.host host) :
    plant.Tracks (net.withHost host) :=
  ⟨h.edges, trans_of Speaks h.speaks hspeaks, fun k => (h.alone k).of_same (hsame _)⟩

/-- **The host handles a message**, of an edge or of no edge; the records of the other edges
stay. -/
theorem handled (h : plant.Tracks net) (input : Reading × IncomingMessage) :
    plant.Tracks ((net.record input).withHost (net.host.next input)) := by
  refine ⟨h.edges, trans_of Speaks h.speaks (Speaks.next net.host input), fun k => ?_⟩
  show Alone _ _ _ _ ((net.record input).returnedFor (plant.config k))
  by_cases hmine : concerns (plant.config k).group (plant.config k).edge input = true
  · rw [net.returnedFor_mine hmine]
    exact (h.alone k).mine hmine
  · rw [net.returnedFor_other hmine]
    have hof : ∀ m, NodeMessage.of input.2 ≠ some ((plant.config k).group, (plant.config k).edge, m) :=
      fun m hm => hmine (concerns_iff.mpr ⟨m, hm⟩)
    exact (h.alone k).of_same (handleIncoming_moves input.1 hof net.host)

end Tracks

end Plant

/-! ## 2. The way up -/

/-- What the way from an edge to the host keeps of what the edge publishes: `R` relates what has
been handed over or waits, to what was published. -/
structure Way (hears : OutboundMessage → Bool) (loses : Prop)
    (R : List IncomingMessage → List IncomingMessage → Prop) : Prop where
  nothing : R [] []
  publish : ∀ {up sent} (messages : List OutboundMessage), R up sent →
    (∀ message ∈ messages, loses ∨ hears message = true) →
    R (up ++ (messages.filter hears).map OutboundMessage.delivered)
      (sent ++ messages.map OutboundMessage.delivered)
  lose : ∀ {heard message rest sent}, loses → R (heard ++ message :: rest) sent →
    R (heard ++ rest) sent

/-- A way that loses messages keeps their order. -/
theorem way_sublist (hears : OutboundMessage → Bool) : Way hears True List.Sublist where
  nothing := .slnil
  publish _ h _ := h.append (List.filter_sublist.map _)
  lose _ h := ((List.sublist_cons_self _ _).append_left _).trans h

/-- A way that loses nothing delivers everything. -/
theorem way_eq (hears : OutboundMessage → Bool) : Way hears False Eq where
  nothing := rfl
  publish messages h hall := by
    have hfilter : messages.filter hears = messages :=
      List.filter_eq_self.mpr fun message hmem => (hall message hmem).resolve_left id
    rw [h, hfilter]
  lose hloses := hloses.elim

theorem Remark.topic_message (u : Remark) (group : GroupId) (edge : EdgeNodeId) :
    (u.message group edge).topic = (u.kind.topic group edge).toString := by
  cases u with
  | say u => rfl
  | leave p born => rfl

theorem isOf_of_none {config : EdgeNodeConfig} {message : IncomingMessage}
    (h : NodeMessage.of message = none) : message.isOf config = false := by
  rw [IncomingMessage.isOf, h]
  rfl

theorem isOf_remark (config config' : EdgeNodeConfig) (u : Remark) :
    (u.message config'.group config'.edge).delivered.isOf config =
      (decide (config'.group = config.group) && decide (config'.edge = config.edge)) := by
  rw [IncomingMessage.isOf, Remark.of_message]
  rfl

theorem mem_published {message : OutboundMessage} {log : List Entry} :
    message ∈ published log ↔ .publish message ∈ log := by
  rw [published, List.mem_reverse, List.mem_filterMap]
  constructor
  · rintro ⟨e, hmem, he⟩
    cases e with
    | publish m => exact Option.some.inj he ▸ hmem
    | _ => exact absurd he (by simp [Entry.published?])
  · exact fun hmem => ⟨_, hmem, rfl⟩

namespace HostApplication.Speaks

variable {host host' : HostApplication Recorder}

theorem published (h : Speaks host host') : ∃ messages : List OutboundMessage,
    (∀ message ∈ messages, host.config.Sends message) ∧
      published host'.transport.log = published host.transport.log ++ messages := by
  obtain ⟨messages, hsends, hlog⟩ := h.log
  have hmap : (messages.map Entry.publish).filterMap Entry.published? = messages := by
    rw [List.filterMap_map]
    exact List.filterMap_some
  refine ⟨messages.reverse, fun message hmem => hsends message (List.mem_reverse.mp hmem), ?_⟩
  rw [hlog, SparkplugB.published, List.filterMap_append, hmap, List.reverse_append]
  rfl

/-- What is new in the log is what a host may publish. -/
theorem news (h : Speaks host host') :
    ∀ message ∈ news host.transport.log host'.transport.log, host.config.Sends message := by
  obtain ⟨messages, hsends, hpublished⟩ := h.published
  rw [SparkplugB.news, hpublished, List.drop_left]
  exact hsends

/-- And so is all that is in it, if it was so before. -/
theorem said (h : Speaks host host')
    (hsaid : ∀ message ∈ SparkplugB.published host.transport.log, host.config.Sends message) :
    ∀ message ∈ SparkplugB.published host'.transport.log, host.config.Sends message := by
  obtain ⟨messages, hsends, hpublished⟩ := h.published
  rw [hpublished]
  exact List.forall_mem_append.mpr ⟨hsaid, hsends⟩

end HostApplication.Speaks

namespace Plant

variable {K S : Type} [BdSeqStore S] [DecidableEq K]

namespace Tracks

variable {plant : Plant K S} {net : Network K S}

omit [DecidableEq K] in
theorem log_edge (h : plant.Tracks net) (k : K) : net.log (.edge k) =
    journal (plant.config k) (plant.store k) (plant.clock k) (net.calls k) :=
  congrArg (·.engine.transport.log) (h.edges k)

/-- A call publishes what it says. -/
theorem news_called (h : plant.Tracks net) (k : K) (a : Action) :
    ∃ us : List Remark,
      news (net.log (.edge k)) ((net.called k a).log (.edge k)) =
        us.map (Remark.message (plant.config k).group (plant.config k).edge) ∧
      published ((net.called k a).log (.edge k)) = published (net.log (.edge k)) ++
        us.map (Remark.message (plant.config k).group (plant.config k).edge) := by
  have hcalls : (net.called k a).calls k = net.calls k ++ [a] := net.calls_perform k a
  have hpublished := Observed.published_append (plant.config k) (plant.store k) (plant.clock k)
    (net.calls k) [a]
  rw [← hcalls, ← (h.called k a).log_edge, ← h.log_edge] at hpublished
  refine ⟨_, ?_, hpublished⟩
  rw [news, hpublished, List.drop_left]

end Tracks

/-- What the host has been handed of an edge, and then what waits for it at the broker. -/
def upward (plant : Plant K S) (k : K) (net : Network K S) : List IncomingMessage :=
  (net.returnedFor (plant.config k)).map (·.1.2) ++ net.pending (.edge k) .host

/-- Up to the host, only the edge speaks for itself, and the way keeps what it keeps of what the
edge publishes. -/
structure Relays (plant : Plant K S) (k : K)
    (R : List IncomingMessage → List IncomingMessage → Prop) (net : Network K S) : Prop where
  tracks : plant.Tracks net
  own : ∀ message ∈ net.pending (.edge k) .host, message.isOf (plant.config k) = true
  foreign : ∀ p, p ≠ .edge k → ∀ message ∈ net.pending p .host,
    message.isOf (plant.config k) = false
  upward : R (plant.upward k net) ((published (net.log (.edge k))).map OutboundMessage.delivered)

/-- The event brings the host no message of the edge that is not from the edge, and loses none that
is, unless the way may lose it. -/
def Fair (plant : Plant K S) (k : K) (loses : Prop) : NetworkEvent K → Prop
  | .other message => message.delivered.isOf (plant.config k) = false
  | .lose p q => p = .edge k → q = .host → loses
  | _ => True

namespace Relays

variable {plant : Plant K S} {k : K} {R : List IncomingMessage → List IncomingMessage → Prop}
  {net : Network K S}

omit [DecidableEq K] in
/-- Messages of others come and go. -/
theorem of_pending (h : plant.Relays k R net) {pending : Party K → Party K → List IncomingMessage}
    (hown : pending (.edge k) .host = net.pending (.edge k) .host)
    (hforeign : ∀ p, p ≠ .edge k → ∀ message ∈ pending p .host,
      message ∈ net.pending p .host ∨ message.isOf (plant.config k) = false) :
    plant.Relays k R { net with pending } := by
  refine ⟨h.tracks.of_pending _, ?_, ?_, ?_⟩
  · intro message hmem
    exact h.own message (hown ▸ hmem)
  · intro p hp message hmem
    rcases hforeign p hp message hmem with hold | hother
    · exact h.foreign p hp message hold
    · exact hother
  · show R (_ ++ pending (.edge k) .host) _
    rw [hown]
    exact h.upward

theorem publish (h : plant.Relays k R net) {p : Party K} (hp : p ≠ .edge k)
    {messages : List OutboundMessage}
    (hmessages : ∀ message ∈ messages, message.delivered.isOf (plant.config k) = false) :
    plant.Relays k R (net.publish p messages) := by
  refine h.of_pending (net.pending_publish_of_ne hp.symm _ _) fun p' _ message hmem => ?_
  by_cases hp' : p' = p
  · subst hp'
    have hpending : message ∈ (net.publish p' messages).pending p' .host := hmem
    rw [Network.pending_publish_self] at hpending
    refine (List.mem_append.mp hpending).imp_right fun hnew => ?_
    obtain ⟨out, hout, rfl⟩ := List.mem_map.mp hnew
    exact hmessages out (List.mem_of_mem_filter hout)
  · exact .inl (net.pending_publish_of_ne hp' _ _ ▸ hmem)

theorem take (h : plant.Relays k R net) {p q : Party K} (hpq : p = .edge k → q ≠ .host) :
    plant.Relays k R (net.take p q) := by
  refine h.of_pending (net.pending_take_of_ne fun heq => hpq heq.1.symm heq.2.symm)
    fun p' _ message hmem => .inl ?_
  by_cases hnext : p' = p ∧ .host = q
  · obtain ⟨rfl, rfl⟩ := hnext
    exact List.mem_of_mem_tail (net.pending_take_self _ _ ▸ hmem)
  · exact net.pending_take_of_ne hnext ▸ hmem

/-- The next message of the edge is lost. -/
theorem lost {hears : OutboundMessage → Bool} {loses : Prop} (h : plant.Relays k R net)
    (hway : Way hears loses R) (hloses : loses) : plant.Relays k R (net.take (.edge k) .host) := by
  have hpending := net.pending_take_self (.edge k) .host
  refine ⟨h.tracks.of_pending _, ?_, ?_, ?_⟩
  · intro message hmem
    rw [hpending] at hmem
    exact h.own message (List.mem_of_mem_tail hmem)
  · intro p hp message hmem
    rw [net.pending_take_of_ne fun heq => hp heq.1] at hmem
    exact h.foreign p hp message hmem
  · show R (_ ++ (net.take (.edge k) .host).pending (.edge k) .host) _
    have hup := h.upward
    unfold Plant.upward at hup
    rw [hpending]
    cases hwaiting : net.pending (.edge k) .host with
    | nil =>
      rw [hwaiting] at hup
      exact hup
    | cons message rest =>
      rw [hwaiting] at hup
      exact hway.lose hloses hup

/-- The host does something, and the broker takes what it publishes. -/
theorem spoken {host : HostApplication Recorder} (hspeaks : Speaks net.host host)
    (hnamed : validateId net.host.config.hostId = .ok ())
    (h : plant.Relays k R (net.withHost host)) : plant.Relays k R (net.setHost host) :=
  h.publish (by simp) fun message hmem =>
    isOf_of_none ((hspeaks.news message hmem).of_eq_none hnamed)

/-- The host handles a message of the edge. -/
theorem handled {now : Reading} {message : IncomingMessage} {rest : List IncomingMessage}
    (h : plant.Relays k R net) (waiting : net.pending (.edge k) .host = message :: rest) :
    plant.Relays k R (((net.take (.edge k) .host).record (now, message)).withHost
      (net.host.next (now, message))) := by
  have hpending : (net.take (.edge k) .host).pending (.edge k) .host = rest := by
    rw [net.pending_take_self, waiting, List.tail_cons]
  have hmine : concerns (plant.config k).group (plant.config k).edge (now, message) = true :=
    h.own message (waiting ▸ List.mem_cons_self)
  refine ⟨(h.tracks.of_pending _).handled (now, message), ?_, ?_, ?_⟩
  · intro message' hmem
    have hrest : message' ∈ rest := hpending ▸ hmem
    exact h.own message' (waiting ▸ List.mem_cons_of_mem _ hrest)
  · intro p hp message' hmem
    exact h.foreign p hp message' (net.pending_take_of_ne (fun heq => hp heq.1) ▸ hmem)
  · show R ((((net.take (.edge k) .host).record (now, message)).returnedFor
      (plant.config k)).map _ ++ (net.take (.edge k) .host).pending (.edge k) .host) _
    have hup := h.upward
    rw [Plant.upward, waiting] at hup
    rw [Network.returnedFor_mine _ hmine, hpending, List.map_append, List.append_assoc]
    exact hup

omit [DecidableEq K] in
/-- The host handles a message of another client. -/
theorem overheard {input : Reading × IncomingMessage} (h : plant.Relays k R net)
    (hother : input.2.isOf (plant.config k) = false) :
    plant.Relays k R ((net.record input).withHost (net.host.next input)) := by
  have hconcerns : ¬ concerns (plant.config k).group (plant.config k).edge input = true :=
    fun hmine => absurd (hmine.symm.trans hother) (by simp)
  refine ⟨h.tracks.handled input, h.own, h.foreign, ?_⟩
  show R (((net.record input).returnedFor (plant.config k)).map _ ++ _) _
  rw [net.returnedFor_other hconcerns]
  exact h.upward

/-- The edge has a call. -/
theorem performed {loses : Prop} (h : plant.Relays k R net)
    (hway : Way (fun message => hears plant.host.transport.log message.topic) loses R)
    (hall : loses ∨ "spBv1.0/#" ∈ filters plant.host.transport.log) (a : Action) :
    plant.Relays k R (net.perform k a) := by
  obtain ⟨us, hnews, hpublished⟩ := h.tracks.news_called k a
  -- what the host has handled since has left its subscriptions as they were
  have hhears : (fun message : OutboundMessage =>
      hears ((net.called k a).log .host) message.topic) =
        fun message => hears plant.host.transport.log message.topic := by
    funext message
    show (filters net.host.transport.log).any _ = _
    rw [h.tracks.speaks.filters]
    rfl
  have hpending : (net.perform k a).pending (.edge k) .host = net.pending (.edge k) .host ++
      ((us.map (Remark.message (plant.config k).group (plant.config k).edge)).filter
        fun message => hears plant.host.transport.log message.topic).map
          OutboundMessage.delivered := by
    rw [Network.perform, Network.pending_publish_self, hnews, hhears]
    rfl
  refine ⟨(h.tracks.called k a).of_pending _, ?_, ?_, ?_⟩
  · intro message hmem
    rw [hpending] at hmem
    rcases List.mem_append.mp hmem with hold | hnew
    · exact h.own message hold
    · obtain ⟨out, hout, rfl⟩ := List.mem_map.mp hnew
      obtain ⟨u, -, rfl⟩ := List.mem_map.mp (List.mem_of_mem_filter hout)
      simp [isOf_remark]
  · intro p hp message hmem
    exact h.foreign p hp message ((net.called k a).pending_publish_of_ne hp _ _ ▸ hmem)
  · show R (_ ++ (net.perform k a).pending (.edge k) .host)
      ((published ((net.called k a).log (.edge k))).map _)
    rw [hpending, hpublished, List.map_append, ← List.append_assoc]
    refine hway.publish _ h.upward fun message hmem => hall.imp_right fun hsubtree => ?_
    obtain ⟨u, -, rfl⟩ := List.mem_map.mp hmem
    show hears _ (u.message _ _).topic = true
    rw [u.topic_message]
    exact hears_everything hsubtree (NodeMessage.fits_topic _ _ _)

/-- Another edge has a call. -/
theorem perform_other {k' : K} (h : plant.Relays k R net) (hk : k' ≠ k) (a : Action) :
    plant.Relays k R (net.perform k' a) := by
  have hcalled : plant.Relays k R (net.called k' a) := by
    refine ⟨h.tracks.called k' a, h.own, h.foreign, ?_⟩
    have hlog : (net.called k' a).log (.edge k) = net.log (.edge k) :=
      congrArg (fun s : Observed S => s.engine.transport.log) (Function.update_of_ne hk.symm _ _)
    rw [hlog]
    exact h.upward
  refine hcalled.publish (fun heq => hk (Party.edge.inj heq)) fun message hmem => ?_
  obtain ⟨us, hnews, -⟩ := h.tracks.news_called k' a
  rw [hnews] at hmem
  obtain ⟨u, -, rfl⟩ := List.mem_map.mp hmem
  rw [isOf_remark, Bool.and_eq_false_iff]
  by_contra hsame
  rw [not_or, Bool.not_eq_false, Bool.not_eq_false, decide_eq_true_eq, decide_eq_true_eq] at hsame
  exact hk (plant.apart k' k hsame.1 hsame.2)

/-- **One event** keeps this, if it is fair: whatever the host and the other clients do in it. -/
theorem next {loses : Prop} (h : plant.Relays k R net)
    (hway : Way (fun message => hears plant.host.transport.log message.topic) loses R)
    (hall : loses ∨ "spBv1.0/#" ∈ filters plant.host.transport.log)
    (hsaid : ∀ message ∈ published plant.host.transport.log, plant.host.config.Sends message)
    (e : NetworkEvent K) (hfair : plant.Fair k loses e) : plant.Relays k R (net.next e) := by
  have hnamed : validateId net.host.config.hostId = .ok () :=
    h.tracks.speaks.config.symm ▸ plant.named
  have hperform : ∀ {net : Network K S}, plant.Relays k R net → ∀ k' a,
      plant.Relays k R (net.perform k' a) := by
    intro net h k' a
    by_cases hk : k' = k
    · subst hk
      exact h.performed hway hall a
    · exact h.perform_other hk a
  have hhappens := net.happens e
  generalize net.next e = net' at hhappens
  cases hhappens with
  | nothing => exact h
  | call own => exact hperform h _ _
  | command speaks same =>
    exact spoken speaks hnamed ⟨h.tracks.withHost speaks fun k => same _, h.own, h.foreign, h.upward⟩
  | @report p now message rest waiting =>
    refine spoken (Speaks.next net.host (now, message)) hnamed ?_
    by_cases hp : p = .edge k
    · subst hp
      exact h.handled waiting
    · exact (h.take fun heq => absurd heq hp).overheard
        (h.foreign p hp message (waiting ▸ List.mem_cons_self))
  | hand waiting => exact hperform (h.take fun _ => by simp) _ _
  | @lose p q =>
    by_cases hpq : p = .edge k ∧ q = .host
    · obtain ⟨rfl, rfl⟩ := hpq
      exact h.lost hway (hfair rfl rfl)
    · exact h.take fun hp hq => hpq ⟨hp, hq⟩
  | other => exact h.publish (by simp) fun message hmem => List.mem_singleton.mp hmem ▸ hfair
  | @remind q message retain said heard =>
    -- what a host has retained is its STATE, which is of no node
    have hsends := h.tracks.speaks.said hsaid message (mem_published.mpr said)
    refine h.of_pending (if_neg (by simp)) fun p hp message' hmem => ?_
    split at hmem
    · refine (List.mem_append.mp hmem).imp_right fun hnew => ?_
      rw [List.mem_singleton.mp hnew]
      exact isOf_of_none (hsends.of_eq_none plant.named)
    · exact .inl hmem

/-- **A whole run** of fair events, from the start of the plant. -/
theorem run {loses : Prop}
    (hway : Way (fun message => hears plant.host.transport.log message.topic) loses R)
    (hall : loses ∨ "spBv1.0/#" ∈ filters plant.host.transport.log)
    (hsaid : ∀ message ∈ published plant.host.transport.log, plant.host.config.Sends message)
    (events : List (NetworkEvent K)) (hfair : ∀ e ∈ events, plant.Fair k loses e) :
    plant.Relays k R (run Network.next plant.start events) := by
  have hstart : plant.Relays k R plant.start :=
    ⟨Tracks.of_start plant, fun _ hmem => absurd hmem List.not_mem_nil,
      fun _ _ _ hmem => absurd hmem List.not_mem_nil, hway.nothing⟩
  exact run_invariant (fun _ e h hfair => h.next hway hall hsaid e hfair) plant.start events hstart
    (always_of_mem (fun e he _ => hfair e he) plant.start)

end Relays

/-- **Each edge has a channel of its own.**  Whatever the host, the other edges and all other
clients do: what the host returns for the messages of an edge is what it returns if it is handed
nothing else, and it is handed them in the order in which the edge publishes them.  If none is lost,
and the host subscribes to everything, it is handed all of them but those that still wait.  Only the
edge publishes on its topics: no other client does (`hforeign`), and the host has not, before the
run (`hsaid`). -/
theorem channel (plant : Plant K S) (events : List (NetworkEvent K)) (k : K)
    (hsaid : ∀ message ∈ published plant.host.transport.log, plant.host.config.Sends message)
    (hforeign : ∀ message, .other message ∈ events →
      message.delivered.isOf (plant.config k) = false) :
    ∃ heard : List (Reading × IncomingMessage),
      (run Network.next plant.start events).returnedFor (plant.config k) =
        results plant.host heard ∧
      (heard.map Prod.snd).Sublist ((published (journal (plant.config k) (plant.store k)
        (plant.clock k) ((run Network.next plant.start events).calls k))).map
          OutboundMessage.delivered) ∧
      ("spBv1.0/#" ∈ filters plant.host.transport.log → .lose (.edge k) .host ∉ events →
        heard.map Prod.snd ++ (run Network.next plant.start events).pending (.edge k) .host =
          (published (journal (plant.config k) (plant.store k) (plant.clock k)
            ((run Network.next plant.start events).calls k))).map OutboundMessage.delivered) := by
  have hlossy : ∀ e ∈ events, plant.Fair k True e := by
    intro e he
    cases e with
    | other message => exact hforeign message he
    | lose p q => exact fun _ _ => trivial
    | _ => exact trivial
  have hrelays := Relays.run (way_sublist _) (.inl trivial) hsaid events hlossy
  have hheard : (((run Network.next plant.start events).returnedFor (plant.config k)).map
      Prod.fst).map Prod.snd = ((run Network.next plant.start events).returnedFor
        (plant.config k)).map (·.1.2) := List.map_map
  refine ⟨_, (hrelays.tracks.alone k).returned, ?_, fun hall hlost => ?_⟩
  · rw [hheard, ← hrelays.tracks.log_edge]
    exact (List.sublist_append_left _ _).trans hrelays.upward
  · have hfair : ∀ e ∈ events, plant.Fair k False e := by
      intro e he
      cases e with
      | other message => exact hforeign message he
      | lose p q =>
        rintro rfl rfl
        exact hlost he
      | _ => exact trivial
    have hfaithful := Relays.run (way_eq _) (.inr hall) hsaid events hfair
    rw [hheard, ← hrelays.tracks.log_edge]
    exact hfaithful.upward

/-! ## 3. On a broker -/

section Surfaced

variable {config : EdgeNodeConfig} {host : HostApplication Recorder}
  {heard : List (Reading × IncomingMessage)} {net : Network K S}

omit [BdSeqStore S] [DecidableEq K] in
theorem filter_heard (h : net.returnedFor config = results host heard) :
    heard.filter (concerns config.group config.edge) = heard := by
  refine List.filter_eq_self.mpr fun input hmem => ?_
  have hreturned : input ∈ (net.returnedFor config).map Prod.fst := by
    rw [h, map_fst_results]
    exact hmem
  obtain ⟨r, hr, rfl⟩ := List.mem_map.mp hreturned
  exact (List.mem_filter.mp hr).2

omit [BdSeqStore S] [DecidableEq K] in
theorem outcomesOf_heard (h : net.returnedFor config = results host heard) :
    host.outcomesOf config.group config.edge heard = (net.returnedFor config).map Prod.snd := by
  rw [outcomesOf, ← h, Network.returnedFor, List.filter_filter]
  simp only [Bool.and_self]

end Surfaced

/-- **In order.**  Whatever the host, the other edges and all other clients do, and whatever is
lost: what the host surfaces of an edge is what the calls of the edge meant, in order.  Only the
edge publishes on its topics (`hsaid`, `hforeign`).  Its births always declare the same, in the same
order, and bring no aliases or bdSeq of their own (`hplays`); data follows the last birth and can be
carried (`hproper`); and the host knows nothing of it yet (`hfresh`). -/
theorem surfaced_in_order (plant : Plant K S) (events : List (NetworkEvent K)) (k : K)
    (declared : DataSource)
    (hsaid : ∀ message ∈ published plant.host.transport.log, plant.host.config.Sends message)
    (hforeign : ∀ message, .other message ∈ events →
      message.delivered.isOf (plant.config k) = false)
    (hdevices : (plant.config k).devices.Nodup)
    (hplays : ∀ a ∈ (run Network.next plant.start events).calls k, ∀ source,
      a.source? = some source → source.Plays (plant.config k).devices ∧
        source.Alike declared (plant.config k).devices)
    (hproper : Always Told.act Told.Proper
      (.start (plant.config k) (plant.store k) (plant.clock k))
      ((run Network.next plant.start events).calls k))
    (hsized : Sized (journal (plant.config k) (plant.store k) (plant.clock k)
      ((run Network.next plant.start events).calls k)))
    (hfresh : (plant.host.node
      (key (plant.config k).group (plant.config k).edge)).online = false) :
    ((surfaced (((run Network.next plant.start events).returnedFor (plant.config k)).map
        Prod.snd)).map HostEvent.gist).Sublist
      ((((Observed.start (plant.config k) (plant.store k) (plant.clock k)).account
        ((run Network.next plant.start events).calls k)).map
          (Remark.event (plant.config k).group (plant.config k).edge)).map HostEvent.gist) := by
  obtain ⟨heard, hreturned, hsublist, -⟩ := channel plant events k hsaid hforeign
  rw [← outcomesOf_heard hreturned]
  refine in_the_order_said plant.host (plant.config k) (plant.store k) (plant.clock k) _ declared
    heard hdevices hplays hproper hsized hfresh ?_
  rw [filter_heard hreturned]
  exact hsublist

/-- The line is handed the request, and is born again. -/
def rebirthHeard : List (NetworkEvent Unit) :=
  (lostBirth ++ [.hand () .host metered]) ++ [.report (.edge ()) noon, .report (.edge ()) noon]

theorem calls_rebirthHeard : (Machine.run Network.next workshop.start rebirthHeard).calls () =
    [.connect metered, .handleIncoming workshopRequest metered] := by
  rw [rebirthHeard, run_append]
  simp only [run_cons, run_nil, Network.calls_report]
  exact calls_handed

theorem proper_rebirthHeard : Always Told.act Told.Proper
    (.start pumpLine (⟨0⟩ : InMemoryBdSeqStore) stopped)
    [.connect metered, .handleIncoming workshopRequest metered] := by
  have hsilent : ∀ (x : Told InMemoryBdSeqStore) {a : Action}, a.data? = none → x.Unshadowed a :=
    fun x a hdata target metrics h => absurd (hdata.symm.trans h) (by simp)
  exact ⟨proper_of (orderly_of_silent _ rfl (by simp)) (hsilent _ rfl)
    (by simp [Action.needsSession]) (by decide +kernel),
    proper_of (orderly_of_silent _ rfl (by simp)) (hsilent _ rfl)
    (by simp [Action.needsSession]) (by decide +kernel), trivial⟩

theorem said_workshop : ∀ message ∈ published workshop.host.transport.log,
    workshop.host.config.Sends message := by
  have htopics : ∀ message ∈ published startedHost.transport.log,
      message.topic = startedHost.config.stateTopic := by decide +kernel
  exact fun message hmem => .state (htopics message hmem)

theorem surfaced_in_order_rebirthHeard :
    (surfaced (((Machine.run Network.next workshop.start rebirthHeard).returnedFor pumpLine).map
        Prod.snd)).length = 2 ∧
      ((surfaced (((Machine.run Network.next workshop.start rebirthHeard).returnedFor pumpLine).map
        Prod.snd)).map HostEvent.gist).Sublist
      ((((Observed.start pumpLine (⟨0⟩ : InMemoryBdSeqStore) stopped).account
        ((Machine.run Network.next workshop.start rebirthHeard).calls ())).map
          (Remark.event pumpLine.group pumpLine.edge)).map HostEvent.gist) := by
  refine ⟨by decide +kernel, surfaced_in_order workshop rebirthHeard () metered said_workshop
    (by simp [rebirthHeard, lostBirth]) (by decide) ?_ ?_ ?_ (by decide +kernel)⟩
  · rw [calls_rebirthHeard]
    have hplays : metered.Plays pumpLine.devices ∧ metered.Alike metered pumpLine.devices := by
      decide
    simpa [Action.source?, workshop] using hplays
  · rw [calls_rebirthHeard]
    exact proper_rebirthHeard
  · rw [calls_rebirthHeard]
    show Sized (journal pumpLine (⟨0⟩ : InMemoryBdSeqStore) stopped _)
    decide +kernel

/-- **In full.**  If the host subscribes to everything (`hall`) and no message of the edge is lost
on its way (`hlost`), then once none waits any more (`hdone`), the host has surfaced all that the
calls meant, and never asked for a rebirth.  Births may differ here from one another, but they bring
no aliases or bdSeq of their own (`hplays`), and data follows the last one and can be carried
(`hproper`). -/
theorem surfaced_in_full (plant : Plant K S) (events : List (NetworkEvent K)) (k : K)
    (hsaid : ∀ message ∈ published plant.host.transport.log, plant.host.config.Sends message)
    (hforeign : ∀ message, .other message ∈ events →
      message.delivered.isOf (plant.config k) = false)
    (hdevices : (plant.config k).devices.Nodup)
    (hplays : ∀ a ∈ (run Network.next plant.start events).calls k, ∀ source,
      a.source? = some source → source.Plays (plant.config k).devices)
    (hproper : Always Told.act Told.Proper
      (.start (plant.config k) (plant.store k) (plant.clock k))
      ((run Network.next plant.start events).calls k))
    (hsized : Sized (journal (plant.config k) (plant.store k) (plant.clock k)
      ((run Network.next plant.start events).calls k)))
    (hall : "spBv1.0/#" ∈ filters plant.host.transport.log)
    (hlost : .lose (.edge k) .host ∉ events)
    (hdone : (run Network.next plant.start events).pending (.edge k) .host = []) :
    (((run Network.next plant.start events).returnedFor (plant.config k)).map Prod.snd).map
        (Except.map HostEvent.unaliased) =
      ((((Observed.start (plant.config k) (plant.store k) (plant.clock k)).account
        ((run Network.next plant.start events).calls k)).map
          (Remark.event (plant.config k).group (plant.config k).edge)).map
            HostEvent.unaliased).map .ok := by
  obtain ⟨heard, hreturned, -, heverything⟩ := channel plant events k hsaid hforeign
  rw [← outcomesOf_heard hreturned]
  refine sessions_surfaced Recorder.publishes plant.host (plant.config k) (plant.store k)
    (plant.clock k) _ heard hdevices hplays hproper hsized ?_
  have hdelivers := heverything hall hlost
  rw [hdone, List.append_nil] at hdelivers
  rw [filter_heard hreturned]
  exact hdelivers

/-- The line is born, and the host is handed both births. -/
def birthHeard : List (NetworkEvent Unit) :=
  [.call () (.connect metered), .report (.edge ()) noon, .report (.edge ()) noon]

theorem calls_birthHeard : (Machine.run Network.next workshop.start birthHeard).calls () =
    [.connect metered] := by
  simp only [birthHeard, run_cons, run_nil, Network.calls_report]
  exact Network.calls_call _ rfl

theorem surfaced_in_full_birthHeard :
    (((Machine.run Network.next workshop.start birthHeard).returnedFor pumpLine).map Prod.snd).map
        (Except.map HostEvent.unaliased) =
      ((((Observed.start pumpLine (⟨0⟩ : InMemoryBdSeqStore) stopped).account
        ((Machine.run Network.next workshop.start birthHeard).calls ())).map
          (Remark.event pumpLine.group pumpLine.edge)).map HostEvent.unaliased).map .ok := by
  refine surfaced_in_full workshop birthHeard () said_workshop (by simp [birthHeard]) (by decide)
    ?_ ?_ ?_ (mem_filters_start noon freshHost (by decide)) (by simp [birthHeard])
    (by decide +kernel)
  · rw [calls_birthHeard]
    have hplays : metered.Plays pumpLine.devices := by decide
    simpa [Action.source?, workshop] using hplays
  · rw [calls_birthHeard]
    exact ⟨proper_rebirthHeard.1, trivial⟩
  · rw [calls_birthHeard]
    show Sized (journal pumpLine (⟨0⟩ : InMemoryBdSeqStore) stopped _)
    decide +kernel

end Plant

end SparkplugB
