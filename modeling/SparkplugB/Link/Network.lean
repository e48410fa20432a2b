/-
# A host and its edges on a broker

The broker holds the messages of each client for each other, in order, and hands them on one at a
time.  Calls of the users, commands of the host and messages of other clients come in any order; a
message may be lost on any way.  What a handler publishes goes back to the broker, so a rebirth that
the host asks for reaches the edge, and its births reach the host.

* **Addressed** (`Plant.addressed`): an edge is handed commands of its own and nothing else.
-/
import SparkplugB.Host.Requests
import SparkplugB.Link.Delivery
import SparkplugB.Link.Resync
import SparkplugB.Link.Routing

namespace SparkplugB

open HostApplication Machine

/-! ## 1. The network -/

/-- The clients of the broker: the host, the edges, and all others, which are one here. -/
inductive Party (K : Type) where
  | host
  | edge (k : K)
  | other
  deriving DecidableEq

/-- A host, and edges with their configurations, stores and clocks.  The edges are of any number,
each with its own name. -/
structure Plant (K S : Type) where
  host : HostApplication Recorder
  config : K → EdgeNodeConfig
  store : K → S
  clock : K → Clock
  /-- The id of the host can stand in a topic. -/
  named : validateId host.config.hostId = .ok ()
  names : ∀ k, (config k).NamesHost
  /-- No two edges have one name. -/
  apart : ∀ k k', (config k).group = (config k').group → (config k).edge = (config k').edge → k = k'

/-- The clients at work, and what the broker holds of each for each, in order.  What the host has
returned and which calls the edges have had is kept for the record. -/
structure Network (K S : Type) where
  host : HostApplication Recorder
  edges : K → Observed S
  pending : Party K → Party K → List IncomingMessage
  returned : List ((Reading × IncomingMessage) × Result HostEvent)
  calls : K → List Action

/-- What happens next.  Any event may follow any other: messages of different clients overtake each
other, and those of one client for another keep their order. -/
inductive NetworkEvent (K : Type) where
  /-- The user of an edge calls a method. -/
  | call (k : K) (a : Action)
  /-- The user of the host sends a command. -/
  | nodeCommand (now : Reading) (group edge : String) (metrics : List Metric)
  | deviceCommand (now : Reading) (group edge device : String) (metrics : List Metric)
  /-- The host is handed the next message of a client. -/
  | report (p : Party K) (now : Reading)
  /-- An edge is handed the next message of a client. -/
  | hand (k : K) (p : Party K) (source : DataSource)
  /-- The next message of a client for another is lost. -/
  | lose (p q : Party K)
  /-- Another client publishes a message, or the broker does: a will. -/
  | other (message : OutboundMessage)
  /-- The broker hands on a message of the host that it has retained. -/
  | remind (q : Party K) (message : OutboundMessage)

/-- The messages that a log has gained, in order. -/
def news (before after : List Entry) : List OutboundMessage :=
  (published after).drop (published before).length

namespace Network

variable {K S : Type} [DecidableEq K]

/-- What a client was seen to do; of the others nothing is seen. -/
def log (net : Network K S) : Party K → List Entry
  | .host => net.host.transport.log
  | .edge k => (net.edges k).engine.transport.log
  | .other => []

/-- The broker takes messages of a client, for every client whose filters match the topic. -/
def publish (net : Network K S) (p : Party K) (messages : List OutboundMessage) : Network K S :=
  { net with
    pending := fun p' q =>
      if p' = p then
        net.pending p' q ++
          (messages.filter fun message => hears (net.log q) message.topic).map
            OutboundMessage.delivered
      else net.pending p' q }

/-- The next message of a client for another leaves the broker. -/
def take (net : Network K S) (p q : Party K) : Network K S :=
  { net with
    pending := fun p' q' =>
      if p' = p ∧ q' = q then (net.pending p' q').tail else net.pending p' q' }

theorem pending_publish_self (net : Network K S) (p q : Party K) (messages : List OutboundMessage) :
    (net.publish p messages).pending p q = net.pending p q ++
      (messages.filter fun message => hears (net.log q) message.topic).map
        OutboundMessage.delivered := if_pos rfl

theorem pending_publish_of_ne (net : Network K S) {p p' : Party K} (hp : p' ≠ p) (q : Party K)
    (messages : List OutboundMessage) :
    (net.publish p messages).pending p' q = net.pending p' q := if_neg hp

theorem pending_take_self (net : Network K S) (p q : Party K) :
    (net.take p q).pending p q = (net.pending p q).tail := if_pos ⟨rfl, rfl⟩

theorem pending_take_of_ne (net : Network K S) {p p' q q' : Party K} (h : ¬ (p' = p ∧ q' = q)) :
    (net.take p q).pending p' q' = net.pending p' q' := if_neg h

/-- An edge after a call, which is put on record. -/
def called [BdSeqStore S] (net : Network K S) (k : K) (a : Action) : Network K S :=
  { net with
    edges := Function.update net.edges k ((net.edges k).perform a)
    calls := Function.update net.calls k (net.calls k ++ [a]) }

/-- An edge has a call, and the broker takes what it publishes. -/
def perform [BdSeqStore S] (net : Network K S) (k : K) (a : Action) : Network K S :=
  (net.called k a).publish (.edge k)
    (news (net.log (.edge k)) ((net.called k a).log (.edge k)))

/-- The host after something it has done. -/
def withHost (net : Network K S) (host : HostApplication Recorder) : Network K S :=
  { net with host }

/-- The host does something, and the broker takes what it publishes. -/
def setHost (net : Network K S) (host : HostApplication Recorder) : Network K S :=
  (net.withHost host).publish .host (news (net.log .host) host.transport.log)

/-- The host is handed a message, and what it returns is put on record. -/
def record (net : Network K S) (input : Reading × IncomingMessage) : Network K S :=
  { net with returned := net.returned ++ [(input, net.host.outcome input)] }

/-- The host handles a message. -/
def handle (net : Network K S) (input : Reading × IncomingMessage) : Network K S :=
  (net.record input).setHost (net.host.next input)

/-- The broker hands on a message once more. -/
def again (net : Network K S) (p q : Party K) (message : OutboundMessage) : Network K S :=
  { net with
    pending := fun p' q' =>
      if p' = p ∧ q' = q then net.pending p' q' ++ [message.delivered] else net.pending p' q' }

/-- One event.  A client that has no message waiting is handed none. -/
def next [BdSeqStore S] (net : Network K S) : NetworkEvent K → Network K S
  | .call k a => if a.message?.isSome then net else net.perform k a
  | .nodeCommand now group edge metrics =>
    net.setHost ((publishNodeCommand now group edge metrics).run net.host).state
  | .deviceCommand now group edge device metrics =>
    net.setHost ((publishDeviceCommand now group edge device metrics).run net.host).state
  | .report p now =>
    match net.pending p .host with
    | [] => net
    | message :: _ => (net.take p .host).handle (now, message)
  | .hand k p source =>
    match net.pending p (.edge k) with
    | [] => net
    | message :: _ => (net.take p (.edge k)).perform k (.handleIncoming message source)
  | .lose p q => net.take p q
  | .other message => net.publish .other [message]
  | .remind q message =>
    if message.retain = true ∧ .publish message ∈ net.host.transport.log ∧
        hears (net.log q) message.topic = true then
      net.again .host q message
    else net

theorem calls_perform [BdSeqStore S] (net : Network K S) (k : K) (a : Action) :
    (net.perform k a).calls k = net.calls k ++ [a] := Function.update_self ..

theorem calls_call [BdSeqStore S] (net : Network K S) {k : K} {a : Action}
    (own : a.message? = none) : (net.next (.call k a)).calls k = net.calls k ++ [a] := by
  rw [next, own]
  exact net.calls_perform k a

theorem calls_hand [BdSeqStore S] {net : Network K S} {k : K} {p : Party K} {source : DataSource}
    {message : IncomingMessage} {rest : List IncomingMessage}
    (waiting : net.pending p (.edge k) = message :: rest) :
    (net.next (.hand k p source)).calls k = net.calls k ++ [.handleIncoming message source] := by
  rw [next, waiting]
  exact (net.take p (.edge k)).calls_perform k _

theorem calls_report [BdSeqStore S] (net : Network K S) (p : Party K) (now : Reading) :
    (net.next (.report p now)).calls = net.calls := by
  rw [next]
  split <;> rfl

theorem calls_lose [BdSeqStore S] (net : Network K S) (p q : Party K) :
    (net.next (.lose p q)).calls = net.calls := rfl

/-- **Everything that can happen** to a network in an event: the cases the invariants are proved
by. -/
inductive Happens [BdSeqStore S] (net : Network K S) : NetworkEvent K → Network K S → Prop
  | nothing {e} : Happens net e net
  | call {k a} (own : a.message? = none) : Happens net (.call k a) (net.perform k a)
  | command {e host} (speaks : Speaks net.host host) (same : ∀ k, SameAt k net.host host) :
    Happens net e (net.setHost host)
  | report {p now message rest} (waiting : net.pending p .host = message :: rest) :
    Happens net (.report p now) ((net.take p .host).handle (now, message))
  | hand {k p source message rest} (waiting : net.pending p (.edge k) = message :: rest) :
    Happens net (.hand k p source) ((net.take p (.edge k)).perform k (.handleIncoming message source))
  | lose {p q} : Happens net (.lose p q) (net.take p q)
  | other {message} : Happens net (.other message) (net.publish .other [message])
  | remind {q message} (retain : message.retain = true)
      (said : .publish message ∈ net.host.transport.log)
      (heard : hears (net.log q) message.topic = true) :
    Happens net (.remind q message) (net.again .host q message)

theorem happens [BdSeqStore S] (net : Network K S) (e : NetworkEvent K) :
    Happens net e (net.next e) := by
  have hsame : ∀ (message : OutboundMessage) (k : String), EStateM.Moves (SameAt k)
      (onTransport (MqttTransport.publish message) : HostM Recorder Unit) :=
    fun _ _ => onTransport_moves _
  cases e with
  | call k a =>
    show Happens net _ (if a.message?.isSome then net else net.perform k a)
    split
    · exact .nothing
    · rename_i hnone
      exact .call (Option.not_isSome_iff_eq_none.mp hnone)
  | nodeCommand now group edge metrics =>
    refine .command (Speaks.publishNodeCommand now group edge metrics net.host) fun k => ?_
    have hmoves : EStateM.Moves (SameAt k)
        (publishNodeCommand (T := Recorder) now group edge metrics) :=
      (EStateM.moves_liftExcept _).bind fun _ => (EStateM.moves_liftExcept _).bind fun _ =>
        (EStateM.moves_liftExcept _).bind fun _ => hsame _ k
    exact hmoves net.host
  | deviceCommand now group edge device metrics =>
    refine .command (Speaks.publishDeviceCommand now group edge device metrics net.host) fun k => ?_
    have hmoves : EStateM.Moves (SameAt k)
        (publishDeviceCommand (T := Recorder) now group edge device metrics) :=
      (EStateM.moves_liftExcept _).bind fun _ => (EStateM.moves_liftExcept _).bind fun _ =>
        (EStateM.moves_liftExcept _).bind fun _ => (EStateM.moves_liftExcept _).bind fun _ =>
        hsame _ k
    exact hmoves net.host
  | report p now =>
    cases hwaiting : net.pending p .host with
    | nil =>
      have hnext : net.next (.report p now) = net := by rw [next, hwaiting]
      rw [hnext]
      exact .nothing
    | cons message rest =>
      have hnext : net.next (.report p now) = (net.take p .host).handle (now, message) := by
        rw [next, hwaiting]
      rw [hnext]
      exact .report hwaiting
  | hand k p source =>
    cases hwaiting : net.pending p (.edge k) with
    | nil =>
      have hnext : net.next (.hand k p source) = net := by rw [next, hwaiting]
      rw [hnext]
      exact .nothing
    | cons message rest =>
      have hnext : net.next (.hand k p source) =
          (net.take p (.edge k)).perform k (.handleIncoming message source) := by
        rw [next, hwaiting]
      rw [hnext]
      exact .hand hwaiting
  | lose p q => exact .lose
  | other message => exact .other
  | remind q message =>
    show Happens net _ (if _ then net.again .host q message else net)
    split
    · rename_i hremind
      exact .remind hremind.1 hremind.2.1 hremind.2.2
    · exact .nothing

end Network

namespace Plant

variable {K S : Type}

/-- Before anything has happened: no edge has connected, and no message waits. -/
def start (plant : Plant K S) : Network K S where
  host := plant.host
  edges k := .start (plant.config k) (plant.store k) (plant.clock k)
  pending _ _ := []
  returned := []
  calls _ := []

/-! ## 2. Commands -/

/-- The message is on a topic that the edge subscribes to. -/
def Serves (plant : Plant K S) (k : K) (message : IncomingMessage) : Prop :=
  ∃ t ∈ (plant.config k).served, message.topic = t.toString

/-- The edges are tuned, and what they have been handed, or will be, is theirs. -/
structure Addressed (plant : Plant K S) (net : Network K S) : Prop where
  tuned : ∀ k, Tuned (plant.config k) (net.edges k)
  waiting : ∀ p k, ∀ message ∈ net.pending p (.edge k), plant.Serves k message
  handed : ∀ k, ∀ a ∈ net.calls k, ∀ message, a.message? = some message → plant.Serves k message

namespace Addressed

variable [DecidableEq K] {plant : Plant K S} {net : Network K S}

theorem publish (h : plant.Addressed net) (p : Party K) (messages : List OutboundMessage) :
    plant.Addressed (net.publish p messages) := by
  refine ⟨h.tuned, fun p' k message hmem => ?_, h.handed⟩
  by_cases hp : p' = p
  · subst hp
    rw [Network.pending_publish_self] at hmem
    rcases List.mem_append.mp hmem with hold | hnew
    · exact h.waiting p' k message hold
    · obtain ⟨out, hout, rfl⟩ := List.mem_map.mp hnew
      exact (((h.tuned k).hears_iff (plant.names k) out.topic).mp (List.mem_filter.mp hout).2).2
  · rw [net.pending_publish_of_ne hp] at hmem
    exact h.waiting p' k message hmem

theorem take (h : plant.Addressed net) (p q : Party K) : plant.Addressed (net.take p q) := by
  refine ⟨h.tuned, fun p' k message hmem => h.waiting p' k message ?_, h.handed⟩
  by_cases hnext : p' = p ∧ .edge k = q
  · obtain ⟨rfl, rfl⟩ := hnext
    rw [net.pending_take_self] at hmem
    exact List.mem_of_mem_tail hmem
  · rw [net.pending_take_of_ne hnext] at hmem
    exact hmem

theorem perform [BdSeqStore S] (h : plant.Addressed net) {k : K} {a : Action}
    (ha : ∀ message, a.message? = some message → plant.Serves k message) :
    plant.Addressed (net.perform k a) := by
  have hcalled : plant.Addressed (net.called k a) := by
    refine ⟨fun k' => ?_, h.waiting, fun k' b hb => ?_⟩
    · show Tuned _ (Function.update net.edges k ((net.edges k).perform a) k')
      by_cases hk : k' = k
      · subst hk
        rw [Function.update_self]
        exact (h.tuned k').perform a
      · rw [Function.update_of_ne hk]
        exact h.tuned k'
    · have hcalls : b ∈ Function.update net.calls k (net.calls k ++ [a]) k' := hb
      by_cases hk : k' = k
      · subst hk
        rw [Function.update_self] at hcalls
        rcases List.mem_append.mp hcalls with hold | hnew
        · exact h.handed k' b hold
        · rw [List.mem_singleton.mp hnew]
          exact ha
      · rw [Function.update_of_ne hk] at hcalls
        exact h.handed k' b hcalls
  exact hcalled.publish _ _

theorem setHost (h : plant.Addressed net) (host : HostApplication Recorder) :
    plant.Addressed (net.setHost host) := by
  have hhost : plant.Addressed (net.withHost host) := ⟨h.tuned, h.waiting, h.handed⟩
  exact hhost.publish _ _

theorem again (h : plant.Addressed net) (p : Party K) {q : Party K} {message : OutboundMessage}
    (hheard : hears (net.log q) message.topic = true) :
    plant.Addressed (net.again p q message) := by
  refine ⟨h.tuned, fun p' k message' hmem => ?_, h.handed⟩
  have hwaiting : message' ∈ if p' = p ∧ .edge k = q then
      net.pending p' (.edge k) ++ [message.delivered] else net.pending p' (.edge k) := hmem
  by_cases hq : p' = p ∧ .edge k = q
  · rw [if_pos hq] at hwaiting
    obtain ⟨-, rfl⟩ := hq
    rcases List.mem_append.mp hwaiting with hold | hnew
    · exact h.waiting p' k message' hold
    · rw [List.mem_singleton.mp hnew]
      exact (((h.tuned k).hears_iff (plant.names k) message.topic).mp hheard).2
  · rw [if_neg hq] at hwaiting
    exact h.waiting p' k message' hwaiting

/-- **One event** keeps the messages in the right hands. -/
theorem next [BdSeqStore S] (h : plant.Addressed net) (e : NetworkEvent K) :
    plant.Addressed (net.next e) := by
  have hhappens := net.happens e
  generalize net.next e = net' at hhappens ⊢
  cases hhappens with
  | nothing => exact h
  | call own => exact h.perform fun message hmessage => absurd (own.symm.trans hmessage) (by simp)
  | command speaks same => exact h.setHost _
  | @report p now message rest waiting =>
    have htaken := h.take p .host
    have hrecorded : plant.Addressed ((net.take p .host).record (now, message)) :=
      ⟨htaken.tuned, htaken.waiting, htaken.handed⟩
    exact hrecorded.setHost _
  | @hand k p source message rest waiting =>
    refine (h.take p (.edge k)).perform fun message' hmessage => ?_
    obtain rfl := Option.some.inj hmessage
    exact h.waiting p k message (waiting ▸ List.mem_cons_self)
  | @lose p q => exact h.take p q
  | other => exact h.publish _ _
  | remind retain said heard => exact h.again .host heard

end Addressed

/-- **Addressed.**  An edge does not look at whose command it is handed.  But on a broker, whatever
happens in whatever order, each message that an edge is handed is an NCMD of its own node, a DCMD of
one of its devices, or a STATE of its primary host.  The names that stand in its filters are valid
(`Plant.named`, `Plant.names`), so no filter is a pattern. -/
theorem addressed [DecidableEq K] [BdSeqStore S] (plant : Plant K S)
    (events : List (NetworkEvent K)) (k : K) :
    ∀ a ∈ (run Network.next plant.start events).calls k, ∀ message, a.message? = some message →
      ∃ t ∈ (plant.config k).served, message.topic = t.toString := by
  have hstart : plant.Addressed plant.start :=
    ⟨fun k => Tuned.start _ _ _, fun _ _ _ hmem => absurd hmem List.not_mem_nil,
      fun _ _ hmem => absurd hmem List.not_mem_nil⟩
  exact (run_invariant (fun _ e h _ => h.next e) plant.start events hstart
    (always_of_forall (P := fun _ _ => True) (fun _ _ => trivial) _ events)).handed k

end Plant

theorem named_startedHost : validateId startedHost.config.hostId = .ok () := by decide +kernel

/-- The host and its line. -/
def workshop : Plant Unit InMemoryBdSeqStore where
  host := startedHost
  config _ := pumpLine
  store _ := ⟨0⟩
  clock _ := stopped
  named := named_startedHost
  names _ _ h := absurd h (by simp [pumpLine])
  apart _ _ _ _ := rfl

/-- The NBIRTH of the line is lost, and the host hears of a pump that belongs to no node. -/
def lostBirth : List (NetworkEvent Unit) :=
  [.call () (.connect metered), .lose (.edge ()) .host, .report (.edge ()) noon]

/-- The request for a rebirth, as the line is handed it. -/
def workshopRequest : IncomingMessage :=
  (HostApplication.rebirthRequest noon pumpLine.group pumpLine.edge).delivered

theorem pending_lostBirth : (run Network.next workshop.start lostBirth).pending .host (.edge ()) =
    [workshopRequest] := by decide +kernel

theorem calls_handed :
    (run Network.next workshop.start (lostBirth ++ [.hand () .host metered])).calls () =
      [.connect metered, .handleIncoming workshopRequest metered] := by
  have hcalls : (run Network.next workshop.start lostBirth).calls () = [.connect metered] := by
    simp only [lostBirth, run_cons, run_nil, Network.calls_report, Network.calls_lose]
    exact Network.calls_call _ rfl
  rw [run_append, run_cons, run_nil, Network.calls_hand pending_lostBirth, hcalls]
  rfl

theorem Plant.addressed_lostBirth :
    .handleIncoming workshopRequest metered ∈
        (run Network.next workshop.start (lostBirth ++ [.hand () .host metered])).calls () ∧
      ∃ t ∈ (workshop.config ()).served, workshopRequest.topic = t.toString := by
  have hmem : .handleIncoming workshopRequest metered ∈
      (run Network.next workshop.start (lostBirth ++ [.hand () .host metered])).calls () := by
    simp [calls_handed]
  exact ⟨hmem, addressed workshop _ () _ hmem _ rfl⟩

end SparkplugB
