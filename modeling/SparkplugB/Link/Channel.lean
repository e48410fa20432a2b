/-
# What a host hears

A channel hands messages to a host, each once and in order, while the host's clocks show whatever
they show.  `Conveys R messages events R'` says of every host: if its record of the node satisfies
`R`, it returns these events for these messages and is left with a record that satisfies `R'`.
Such triples are put together like those of a program logic.
-/
import SparkplugB.Host.Death

namespace SparkplugB

open Machine

namespace HostApplication

variable {T : Type} [MqttTransport T]

/-- What `handle_incoming` returns for each message of a run, an error being a result like any
other. -/
def outcomes (host : HostApplication T) : List (Reading × IncomingMessage) → List (Result HostEvent)
  | [] => []
  | input :: rest => host.outcome input :: outcomes (host.next input) rest

theorem outcomes_append (host : HostApplication T) :
    ∀ inputs rest : List (Reading × IncomingMessage),
      host.outcomes (inputs ++ rest) = host.outcomes inputs ++ (run next host inputs).outcomes rest
  | [], _ => rfl
  | input :: inputs, rest => by
    rw [List.cons_append, outcomes, outcomes_append (host.next input) inputs rest]
    rfl

/-- The inputs are these messages, each once and in order; when each is handled is left open. -/
def Delivers (messages : List OutboundMessage) (inputs : List (Reading × IncomingMessage)) : Prop :=
  inputs.map Prod.snd = messages.map OutboundMessage.delivered

/-- All messages may be handled at one time. -/
theorem delivers_at (now : Reading) (messages : List OutboundMessage) :
    Delivers messages (messages.map fun message => (now, message.delivered)) := by
  unfold Delivers
  rw [List.map_map]
  rfl

theorem Delivers.append_split {messages rest : List OutboundMessage}
    {inputs : List (Reading × IncomingMessage)} (h : Delivers (messages ++ rest) inputs) :
    ∃ first second, inputs = first ++ second ∧ Delivers messages first ∧ Delivers rest second := by
  unfold Delivers at h
  rw [List.map_append] at h
  obtain ⟨first, second, rfl, hfirst, hsecond⟩ := List.map_eq_append_iff.mp h
  exact ⟨first, second, rfl, hfirst, hsecond⟩

/-- **A triple over messages.**  Every host whose record of the node meets `R` returns for each of
the messages, handled in order at any times, the event in its place, and its record meets `R'` then.
Triples compose as Hoare's do. -/
def Conveys (T : Type) [MqttTransport T] (group : GroupId) (edge : EdgeNodeId)
    (R : NodeState → Prop) (messages : List OutboundMessage) (events : List HostEvent)
    (R' : NodeState → Prop) : Prop :=
  ∀ (host : HostApplication T) (inputs : List (Reading × IncomingMessage)),
    Delivers messages inputs → R (host.node (key group edge)) →
      host.outcomes inputs = events.map .ok ∧ R' ((run next host inputs).node (key group edge))

variable {group : GroupId} {edge : EdgeNodeId} {R R' R'' : NodeState → Prop}

theorem conveys_nil : Conveys T group edge R [] [] R := by
  intro host inputs hin hR
  obtain rfl : inputs = [] := List.map_eq_nil_iff.mp hin
  exact ⟨rfl, hR⟩

theorem Conveys.mono {messages : List OutboundMessage} {events : List HostEvent}
    (h : Conveys T group edge R messages events R') {P P' : NodeState → Prop}
    (hpre : ∀ node, P node → R node) (hpost : ∀ node, R' node → P' node) :
    Conveys T group edge P messages events P' := by
  intro host inputs hin hP
  obtain ⟨hout, hR'⟩ := h host inputs hin (hpre _ hP)
  exact ⟨hout, hpost _ hR'⟩

theorem Conveys.append {messages rest : List OutboundMessage} {events events' : List HostEvent}
    (h : Conveys T group edge R messages events R')
    (h' : Conveys T group edge R' rest events' R'') :
    Conveys T group edge R (messages ++ rest) (events ++ events') R'' := by
  intro host inputs hin hR
  obtain ⟨first, second, rfl, hfirst, hsecond⟩ := hin.append_split
  obtain ⟨hout, hR'⟩ := h host first hfirst hR
  obtain ⟨hout', hR''⟩ := h' (run next host first) second hsecond hR'
  rw [outcomes_append, hout, hout', run_append, List.map_append]
  exact ⟨rfl, hR''⟩

/-- One message of the node, from its turns.  The time of the last rebirth request must not matter
to `R'`. -/
theorem conveys_of_turn {message : OutboundMessage} {m : NodeMessage} {event : HostEvent}
    (hof : NodeMessage.of message.delivered = some (group, edge, m))
    (hsession : ∀ node after, NodeState.session node = NodeState.session after → R' after → R' node)
    (hturn : ∀ now node verdict after, R node →
      Turn now group edge node message.payload m verdict after →
      verdict = .event event ∧ R' after) :
    Conveys T group edge R [message] [event] R' := by
  intro host inputs hin hR
  obtain ⟨input, rest, rfl, hmessage, hrest⟩ := List.map_eq_cons_iff.mp hin
  obtain rfl : rest = [] := List.map_eq_nil_iff.mp hrest
  obtain ⟨now, incoming⟩ := input
  obtain rfl : incoming = message.delivered := hmessage
  obtain ⟨verdict, after, ht, hreal⟩ := handleIncoming_turn now host hof
  obtain ⟨rfl, hR'⟩ := hturn now _ verdict after hR ht
  refine ⟨?_, hsession _ after hreal.session hR'⟩
  have hshows : host.outcome (now, message.delivered) = .ok event := hreal.shows
  rw [outcomes, hshows]
  rfl

end HostApplication

end SparkplugB
