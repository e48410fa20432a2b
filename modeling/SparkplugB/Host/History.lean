/-
# What a node's history says about its record

The history of a run is the log of its messages, the latest first, each with the host it came
to.  Where a node is in its sequence, and which of its devices are live, can be read off the
history without looking at the record; the record agrees (`position_agrees`, `lives_iff`).
-/
import SparkplugB.Host.FailedBirth
import SparkplugB.Lib.Past

namespace SparkplugB

open Machine Past HostApplication

variable {T : Type}

/-- One message of a run, with what the clocks showed, and the host it came to.  What handling it
did can be computed from these. -/
abbrev Heard (T : Type) := HostApplication T × (Reading × IncomingMessage)

/-- A host that has heard nothing yet: one that `HostApplication::new` has created and that `start`
may have given the timestamp of its STATE. -/
def HostApplication.fresh (config : HostConfig) (transport : T) (stateTs : Int64) :
    HostApplication T := { HostApplication.new config transport with stateTs }

/-- What a host has heard in a run, the latest first. -/
def HostApplication.history [MqttTransport T] (host : HostApplication T)
    (messages : List (Reading × IncomingMessage)) : List (Heard T) :=
  log HostApplication.next host messages []

namespace NodeState

variable {node after : NodeState} (h : after.session = node.session)

include h

theorem online_of_session : after.online = node.online :=
  (congrArg NodeState.online h : after.session.online = node.session.online)

theorem expectedSeq_of_session : after.expectedSeq = node.expectedSeq :=
  (congrArg NodeState.expectedSeq h : after.session.expectedSeq = node.session.expectedSeq)

theorem devices_of_session : after.devices = node.devices :=
  (congrArg NodeState.devices h : after.session.devices = node.session.devices)

end NodeState

namespace Heard

variable [MqttTransport T] (group : GroupId) (edge : EdgeNodeId) (m : NodeMessage) (x : Heard T)

/-! ## 1. What a message was for the node -/

/-- The record of the node when the message came. -/
def before : NodeState := x.1.node (key group edge)

/-- The record of the node once it was handled. -/
def after : NodeState := (x.1.next x.2).node (key group edge)

/-- The payload of an NBIRTH of the node that decodes. -/
def birth : Option Payload :=
  if NodeMessage.of x.2.2 = some (group, edge, .birth) then
    (decode x.2.2.payload none).toOption
  else none

/-- An NDATA, DBIRTH, DDATA or DDEATH of the node that advances its `expected_seq`: what it means to
be accepted, seen from the record. -/
def Accepted : Prop :=
  NodeMessage.of x.2.2 = some (group, edge, m) ∧ m.isSequenced = true ∧
    (x.after group edge).expectedSeq = (x.before group edge).expectedSeq + 1

/-- The message is read: its handler runs its body, on an online node and for DDATA on an online
device, and the payload decodes as `p`. -/
def Read (p : Payload) : Prop :=
  NodeMessage.of x.2.2 = some (group, edge, m) ∧ m.isSequenced = true ∧
    (x.before group edge).listens m = true ∧
    (x.before group edge).reads m x.2.2.payload = .ok p

/-- It is read with the number that is expected: what it means to be accepted, seen from the
message. -/
def Passes : Prop :=
  ∃ p, x.Read group edge m p ∧ p.seq = some (x.before group edge).expectedSeq

/-- A message of the node is read with another number than the expected one, or with none. -/
def Missed : Prop :=
  ∃ m p, x.Read group edge m p ∧ p.seq ≠ some (x.before group edge).expectedSeq

/-- Whether some message of the node was accepted. -/
def accepts : Bool :=
  match NodeMessage.of x.2.2 with
  | some (g, e, m) =>
    decide (g = group ∧ e = edge) && m.isSequenced &&
      decide ((x.after group edge).expectedSeq = (x.before group edge).expectedSeq + 1)
  | none => false

/-- Nothing is surfaced for the node. -/
def Silent : Prop :=
  ∀ event, x.1.outcome x.2 = .ok event → event.sender ≠ some (group.str, edge.str)

/-- Everything a message can do to the record of the node, and how to tell from the outside.  The
turns are sorted by what a history says about them, for invariants that compare the record with the
history. -/
inductive Change : Prop where
  | birth (p : Payload) (born : x.birth group edge = some p)
      (alive : ¬ SurfacesDeath group edge x.1 x.2)
      (next : (x.after group edge).session = ((x.before group edge).birth p).2.session)
  | death (addressed : NodeMessage.of x.2.2 = some (group, edge, .death))
      (surfaced : SurfacesDeath group edge x.1 x.2)
      (next : (x.after group edge).session = (x.before group edge).death.session)
  | pass (m : NodeMessage) (p : Payload) (read : x.Read group edge m p)
      (expected : p.seq = some (x.before group edge).expectedSeq)
      (shows : ((x.before group edge).decision x.2.1 group edge p m).verdict.Shows group edge
        (x.1.outcome x.2))
      (next : (x.after group edge).session = ((x.before group edge).accepted p m).session)
  | drop (unborn : x.birth group edge = none) (failed : ∀ m, ¬ x.Passes group edge m)
      (silent : x.Silent group edge)
      (next : (x.after group edge).session = (x.before group edge).offline.session)
  | stay (unborn : x.birth group edge = none) (failed : ∀ m, ¬ x.Passes group edge m)
      (kept : ¬ x.Missed group edge) (silent : x.Silent group edge)
      (next : (x.after group edge).session = (x.before group edge).session)

variable {group edge m x}

omit [MqttTransport T] in
theorem birth_eq_none {m : NodeMessage} (hof : NodeMessage.of x.2.2 = some (group, edge, m))
    (h : m ≠ .birth) : x.birth group edge = none := by
  unfold birth
  rw [hof, if_neg]
  simpa only [Option.some.injEq, Prod.mk.injEq, true_and] using h

omit [MqttTransport T] in
theorem message_unique {m m' : NodeMessage} (h : NodeMessage.of x.2.2 = some (group, edge, m))
    (h' : NodeMessage.of x.2.2 = some (group, edge, m')) : m = m' := by
  rw [h] at h'
  simpa only [Option.some.injEq, Prod.mk.injEq, true_and] using h'

omit [MqttTransport T] in
theorem Read.unique {m m' : NodeMessage} {p p' : Payload} (h : x.Read group edge m p)
    (h' : x.Read group edge m' p') : m = m' ∧ p = p' := by
  obtain rfl := message_unique h.1 h'.1
  exact ⟨rfl, Except.ok.inj (h.2.2.2.symm.trans h'.2.2.2)⟩

omit [MqttTransport T] in
theorem Read.online {m : NodeMessage} {p : Payload} (h : x.Read group edge m p) :
    (x.before group edge).online = true := NodeState.online_of_listens h.2.2.1

omit [MqttTransport T] in
theorem Read.unborn {m : NodeMessage} {p : Payload} (h : x.Read group edge m p) :
    x.birth group edge = none :=
  birth_eq_none h.1 fun hm => absurd (hm ▸ h.2.1) (by decide)

omit [MqttTransport T] in
/-- A turn of the node that does not read its message as a sequenced one. -/
theorem not_read {m : NodeMessage} (hof : NodeMessage.of x.2.2 = some (group, edge, m))
    (h : m.isSequenced = true → (x.before group edge).listens m = true →
      ∀ p, (x.before group edge).reads m x.2.2.payload ≠ .ok p) (m' : NodeMessage) (p : Payload) :
    ¬ x.Read group edge m' p := by
  rintro ⟨hof', hseq, hon, hreads⟩
  obtain rfl := message_unique hof hof'
  exact h hseq hon p hreads

theorem Silent.not_surfacesDeath (h : x.Silent group edge) : ¬ SurfacesDeath group edge x.1 x.2 := by
  rintro ⟨ts, devices, hout⟩
  exact h _ hout rfl

/-- A verdict that is no event surfaces nothing. -/
theorem silent_of_shows {verdict : Verdict}
    (hshows : verdict.Shows group edge (x.1.outcome x.2))
    (hother : ∀ event, verdict ≠ .event event) : x.Silent group edge := by
  intro event hout hsender
  rw [hout] at hshows
  exact hother event (hshows.eq_event (by rw [hsender]; rfl))

/-- A message out of the session does not surface a death. -/
theorem not_surfacesDeath_of_decision {p : Payload}
    (hshows : ((x.before group edge).decision x.2.1 group edge p m).verdict.Shows group edge
      (x.1.outcome x.2)) : ¬ SurfacesDeath group edge x.1 x.2 := by
  rintro ⟨ts, devices, hout⟩
  rw [hout] at hshows
  have hv := hshows.eq_event rfl
  cases m with
  | deviceBirth device =>
    simp only [NodeState.decision] at hv
    split at hv <;> cases hv
  | _ => cases hv

/-- Everything a message did to the record. -/
theorem change (group : GroupId) (edge : EdgeNodeId) (x : Heard T) : x.Change group edge := by
  by_cases hof : ∃ m, NodeMessage.of x.2.2 = some (group, edge, m)
  · obtain ⟨m, hof⟩ := hof
    obtain ⟨verdict, next, hturn, hreal⟩ := handleIncoming_turn x.2.1 x.1 hof
    have hnext : (x.after group edge).session = next.session := hreal.session
    have hshows : verdict.Shows group edge (x.1.outcome x.2) := hreal.shows
    -- a message that is not read is neither passed nor missed
    have hstay : x.birth group edge = none → (∀ event, verdict ≠ .event event) →
        (m.isSequenced = true → (x.before group edge).listens m = true →
          ∀ p, (x.before group edge).reads m x.2.2.payload ≠ .ok p) →
        (x.after group edge).session = (x.before group edge).session → x.Change group edge := by
      intro hunborn hother hunread hsame
      have hno := not_read hof hunread
      exact .stay hunborn (fun m ⟨p, hr, _⟩ => hno m p hr) (fun ⟨m, p, hr, _⟩ => hno m p hr)
        (silent_of_shows hshows hother) hsame
    have hbirth : ∀ {result}, m = .birth → decode x.2.2.payload none = result →
        x.birth group edge = result.toOption := by
      rintro _ rfl rfl
      exact if_pos hof
    have hother : m.isSequenced = true → x.birth group edge = none := by
      intro hseq
      exact birth_eq_none hof (by rintro rfl; exact absurd hseq (by decide))
    cases hturn with
    | birthUnreadable h =>
      exact hstay (hbirth rfl h) (by simp) (fun seq => absurd seq (by decide)) hnext
    | birth h unique =>
      refine .birth _ (hbirth rfl h) ?_ hnext
      rintro ⟨ts, devices, hout⟩
      exact absurd (hshows.symm.trans hout) (by simp)
    | birthAmbiguous h dup =>
      exact .birth _ (hbirth rfl h) (silent_of_shows hshows (by simp)).not_surfacesDeath hnext
    | death h online known same => exact .death hof ⟨_, _, hshows⟩ hnext
    | deathUnreadable h =>
      exact hstay (birth_eq_none hof (by simp)) (by simp) (fun seq => absurd seq (by decide)) hnext
    | deathStale h stale =>
      exact hstay (birth_eq_none hof (by simp)) (by simp) (fun seq => absurd seq (by decide)) hnext
    | deaf seq h =>
      exact hstay (hother seq) (by simp) (fun _ on => absurd (h.symm.trans on) (by decide)) hnext
    | unreadable seq data on h =>
      exact hstay (hother seq) (by simp)
        (fun _ _ p hp => absurd (h.symm.trans hp) (by simp)) hnext
    | malformed data on h =>
      have hno := not_read hof fun _ _ p hp => absurd (h.symm.trans hp) (by simp)
      exact .drop (birth_eq_none hof (by rintro rfl; exact absurd data (by decide)))
        (fun m ⟨p, hr, _⟩ => hno m p hr) (silent_of_shows hshows (by simp)) hnext
    | gap seq on h other =>
      have hread : x.Read group edge m _ := ⟨hof, seq, on, h⟩
      refine .drop hread.unborn ?_ (silent_of_shows hshows (by simp)) hnext
      rintro m' ⟨p', hread', hseq⟩
      obtain ⟨rfl, rfl⟩ := hread.unique hread'
      exact other hseq
    | accept seq on h expected => exact .pass m _ ⟨hof, seq, on, h⟩ expected hshows hnext
  · have hno : ∀ m, NodeMessage.of x.2.2 ≠ some (group, edge, m) := fun m hm => hof ⟨m, hm⟩
    refine .stay (if_neg (hno _)) (fun m ⟨p, hr, _⟩ => hno m hr.1)
      (fun ⟨m, p, hr, _⟩ => hno m hr.1) ?_ (congrArg _ (node_next_elsewhere x.1 hno))
    intro event hout hsender
    obtain ⟨m, after, hm, -⟩ := turn_of_surfaced x.1 hout hsender
    exact hno m hm

/-! ## 2. The number a node has come to -/

omit [MqttTransport T] in
theorem seq_ne_next (seq : UInt8) : seq ≠ seq + 1 := by
  intro h
  have hnat := congrArg UInt8.toNat h
  rw [UInt8.toNat_add] at hnat
  have := seq.toNat_lt
  simp at hnat
  omega

/-- The expected number advances exactly on a message that carries it. -/
theorem accepted_iff_passes {m : NodeMessage} : x.Accepted group edge m ↔ x.Passes group edge m := by
  constructor
  · rintro ⟨hof, hseq, hadvance⟩
    cases x.change group edge with
    | birth p born alive next =>
      exact absurd (birth_eq_none hof (by rintro rfl; exact absurd hseq (by decide))) (by simp [born])
    | death addressed surfaced next =>
      obtain rfl := message_unique addressed hof
      exact absurd hseq (by decide)
    | pass m' p read expected shows next =>
      obtain rfl := message_unique read.1 hof
      exact ⟨p, read, expected⟩
    | drop unborn failed silent next =>
      have hsame := congrArg NodeState.expectedSeq next
      exact absurd (hsame.symm.trans hadvance) (seq_ne_next _)
    | stay unborn failed kept silent next =>
      have hsame := congrArg NodeState.expectedSeq next
      exact absurd (hsame.symm.trans hadvance) (seq_ne_next _)
  · rintro ⟨p, hread, hexp⟩
    refine ⟨hread.1, hread.2.1, ?_⟩
    cases x.change group edge with
    | birth p' born alive next => exact absurd (hread.unborn.symm.trans born) (by simp)
    | death addressed surfaced next =>
      obtain rfl := message_unique addressed hread.1
      exact absurd hread.2.1 (by decide)
    | pass m' p' read expected shows next =>
      have hnext := congrArg NodeState.expectedSeq next
      simp only [NodeState.session_expectedSeq, NodeState.accepted_expectedSeq] at hnext
      exact hnext
    | drop unborn failed silent next => exact absurd ⟨p, hread, hexp⟩ (failed _)
    | stay unborn failed kept silent next => exact absurd ⟨p, hread, hexp⟩ (failed _)

theorem accepts_iff : x.accepts group edge = true ↔ ∃ m, x.Accepted group edge m := by
  unfold accepts
  rcases hof : NodeMessage.of x.2.2 with - | ⟨g, e, m⟩
  · simp [Accepted, hof]
  · simp only [Bool.and_eq_true, decide_eq_true_eq, Accepted, hof, Option.some.injEq, Prod.mk.injEq]
    constructor
    · rintro ⟨⟨⟨rfl, rfl⟩, hseq⟩, hadvance⟩
      exact ⟨m, ⟨rfl, rfl, rfl⟩, hseq, hadvance⟩
    · rintro ⟨m', ⟨rfl, rfl, rfl⟩, hseq, hadvance⟩
      exact ⟨⟨⟨rfl, rfl⟩, hseq⟩, hadvance⟩

theorem accepts_eq_false (failed : ∀ m, ¬ x.Passes group edge m) : x.accepts group edge = false := by
  rw [Bool.eq_false_iff]
  intro h
  obtain ⟨m, hm⟩ := accepts_iff.mp h
  exact failed m (accepted_iff_passes.mp hm)

end Heard

section Position

variable [MqttTransport T] (group : GroupId) (edge : EdgeNodeId)

/-- Where the history is in the sequence of the node: the number of the latest NBIRTH that decodes,
an absent one read as 0, and how many messages were accepted since. -/
def Heard.position : List (Heard T) → Option (UInt8 × Nat)
  | [] => none
  | x :: past =>
    match x.birth group edge with
    | some p => some (p.seq.getD 0, 0)
    | none =>
      if x.accepts group edge then (position past).map fun at' => (at'.1, at'.2 + 1)
      else position past

/-- The record has come to the number that follows the position. -/
def AtPosition (node : NodeState) (past : List (Heard T)) : Prop :=
  (node.online = true → Heard.position group edge past ≠ none) ∧
    ∀ s k, Heard.position group edge past = some (s, k) → node.expectedSeq = s + UInt8.ofNat k + 1

/-- Once a message was missed, the node is offline until the next NBIRTH that decodes: the invariant
that closes a session. -/
def ClosedByMiss (node : NodeState) (past : List (Heard T)) : Prop :=
  Since (fun x => x.birth group edge = none) (fun x => x.Missed group edge) past →
    node.online = false

variable {group edge}

omit [MqttTransport T] in
/-- The position once one more message was accepted. -/
theorem number_succ (s : UInt8) (k : Nat) :
    s + UInt8.ofNat k + 1 + 1 = s + UInt8.ofNat (k + 1) + 1 := by
  rw [UInt8.ofNat_add, ← UInt8.add_assoc]
  rfl

theorem Heard.position_pass {x : Heard T} {past : List (Heard T)} {m : NodeMessage}
    (hpass : x.Passes group edge m) :
    Heard.position group edge (x :: past) =
      (Heard.position group edge past).map fun at' => (at'.1, at'.2 + 1) := by
  obtain ⟨p, hread, hexp⟩ := hpass
  have haccepts : x.accepts group edge = true :=
    Heard.accepts_iff.mpr ⟨m, Heard.accepted_iff_passes.mpr ⟨p, hread, hexp⟩⟩
  rw [Heard.position, hread.unborn, haccepts]
  rfl

theorem Heard.position_fail {x : Heard T} {past : List (Heard T)} (unborn : x.birth group edge = none)
    (failed : ∀ m, ¬ x.Passes group edge m) :
    Heard.position group edge (x :: past) = Heard.position group edge past := by
  rw [Heard.position, unborn, Heard.accepts_eq_false failed]
  rfl

theorem AtPosition.change (x : Heard T) {past : List (Heard T)}
    (h : AtPosition group edge (x.before group edge) past) :
    AtPosition group edge (x.after group edge) (x :: past) := by
  obtain ⟨hsome, hnumber⟩ := h
  unfold AtPosition
  cases x.change group edge with
  | birth p born alive next =>
    have hpos : Heard.position group edge (x :: past) = some (p.seq.getD 0, 0) := by
      rw [Heard.position, born]
    rw [hpos, NodeState.expectedSeq_of_session next]
    refine ⟨fun _ => by simp, ?_⟩
    intro s k heq
    obtain ⟨rfl, rfl⟩ : p.seq.getD 0 = s ∧ 0 = k := by simpa using heq
    show p.seq.getD 0 + 1 = p.seq.getD 0 + 0 + 1
    rw [UInt8.add_zero]
  | death addressed surfaced next =>
    have hquiet : ∀ m, ¬ x.Passes group edge m := by
      rintro m ⟨p, hread, -⟩
      obtain rfl := Heard.message_unique addressed hread.1
      exact absurd hread.2.1 (by decide)
    rw [Heard.position_fail (Heard.birth_eq_none addressed (by simp)) hquiet,
      NodeState.expectedSeq_of_session next, NodeState.online_of_session next]
    exact ⟨fun h => absurd h Bool.false_ne_true, hnumber⟩
  | pass m p read expected shows next =>
    rw [Heard.position_pass ⟨p, read, expected⟩, NodeState.expectedSeq_of_session next,
      NodeState.online_of_session next, NodeState.accepted_online,
      NodeState.accepted_expectedSeq]
    refine ⟨fun h => by simpa using hsome h, ?_⟩
    intro s k heq
    obtain ⟨at', hat, heq⟩ := Option.map_eq_some_iff.mp heq
    obtain ⟨rfl, rfl⟩ := Prod.mk.inj heq
    rw [hnumber at'.1 at'.2 hat]
    exact number_succ at'.1 at'.2
  | drop unborn failed silent next =>
    rw [Heard.position_fail unborn failed, NodeState.expectedSeq_of_session next,
      NodeState.online_of_session next]
    exact ⟨fun h => absurd h Bool.false_ne_true, hnumber⟩
  | stay unborn failed kept silent next =>
    rw [Heard.position_fail unborn failed, NodeState.expectedSeq_of_session next,
      NodeState.online_of_session next]
    exact ⟨hsome, hnumber⟩

theorem ClosedByMiss.change (x : Heard T) {past : List (Heard T)}
    (h : ClosedByMiss group edge (x.before group edge) past) :
    ClosedByMiss group edge (x.after group edge) (x :: past) := by
  rintro (⟨m, p, hread, hseq⟩ | ⟨hunborn, hsince⟩)
  · cases x.change group edge with
    | birth p' born alive next => exact absurd (hread.unborn.symm.trans born) (by simp)
    | death addressed surfaced next =>
      rw [NodeState.online_of_session next]
      rfl
    | pass m' p' read expected shows next =>
      obtain ⟨rfl, rfl⟩ := hread.unique read
      exact absurd expected hseq
    | drop unborn failed silent next =>
      rw [NodeState.online_of_session next]
      rfl
    | stay unborn failed kept silent next => exact absurd ⟨m, p, hread, hseq⟩ kept
  · have hoff := h hsince
    cases x.change group edge with
    | birth p born alive next => exact absurd (hunborn.symm.trans born) (by simp)
    | death addressed surfaced next =>
      rw [NodeState.online_of_session next]
      rfl
    | pass m p read expected shows next =>
      exact absurd (hoff.symm.trans read.online) (by decide)
    | drop unborn failed silent next =>
      rw [NodeState.online_of_session next]
      rfl
    | stay unborn failed kept silent next =>
      rw [NodeState.online_of_session next]
      exact hoff

end Position

/-! ## 3. Accepted messages -/

/-- The event shows the application this message of the node. -/
def HostEvent.IsMessage (group : GroupId) (edge : EdgeNodeId) : NodeMessage → HostEvent → Prop
  | .data, .nodeData g e _ => g = group.str ∧ e = edge.str
  | .deviceBirth device, .deviceBirth g e d _ | .deviceData device, .deviceData g e d _
  | .deviceDeath device, .deviceDeath g e d _ => g = group.str ∧ e = edge.str ∧ d = device.str
  | _, _ => False

/-- An event out of the session shows the message whose turn it is, and that message passed. -/
theorem Turn.isMessage {now : Reading} {group : GroupId} {edge : EdgeNodeId}
    {node after : NodeState} {bytes : Bytes} {m : NodeMessage} {event : HostEvent}
    (h : Turn now group edge node bytes m (.event event) after)
    (hevent : event.OfSession group edge) :
    event.IsMessage group edge m ∧ m.isSequenced = true ∧ node.listens m = true ∧
      ∃ p, node.reads m bytes = .ok p ∧ p.seq = some node.expectedSeq := by
  generalize hv : Verdict.event event = verdict at h
  cases h with
  | birth _ _ =>
    cases hv
    exact hevent.elim
  | death _ _ _ _ =>
    cases hv
    exact hevent.elim
  | @accept m p seq on hreads hnext =>
    refine ⟨?_, seq, on, p, hreads, hnext⟩
    cases m with
    | birth => exact absurd seq (by decide)
    | death => exact absurd seq (by decide)
    | deviceBirth device =>
      simp only [NodeState.decision] at hv
      split at hv <;> cases hv
      exact ⟨rfl, rfl, rfl⟩
    | data =>
      cases hv
      exact ⟨rfl, rfl⟩
    | deviceData device =>
      cases hv
      exact ⟨rfl, rfl, rfl⟩
    | deviceDeath device =>
      cases hv
      exact ⟨rfl, rfl, rfl⟩
  | _ => cases hv

/-- What an accepted message says about the sequence it continues, and what the history says about
the next accepted one: it holds of each message with what was heard before. -/
structure Heard.Consecutive [MqttTransport T] (group : GroupId) (edge : EdgeNodeId)
    (x : Heard T) (past : List (Heard T)) : Prop where
  /-- The `k + 1`-st message accepted since the NBIRTH `s` carries `s + (k + 1)`. -/
  numbered : ∀ m, x.Accepted group edge m → ∃ s k p, Heard.position group edge past = some (s, k) ∧
    x.Read group edge m p ∧ p.seq = some (UInt8.ofNat (s.toNat + (k + 1))) ∧
    (x.after group edge).expectedSeq = UInt8.ofNat (s.toNat + (k + 1) + 1)
  online : ∀ m, x.Accepted group edge m → (x.before group edge).online = true
  surfaced : ∀ event, x.1.outcome x.2 = .ok event → event.OfSession group edge →
    ∃ m, event.IsMessage group edge m ∧ x.Accepted group edge m
  closed : Since (fun x => x.birth group edge = none) (fun x => x.Missed group edge) past →
    ∀ m, ¬ x.Accepted group edge m

theorem number_eq_ofNat (s : UInt8) (k : Nat) :
    s + UInt8.ofNat k + 1 = UInt8.ofNat (s.toNat + (k + 1)) := by
  rw [UInt8.ofNat_add, UInt8.ofNat_toNat, UInt8.ofNat_add, ← UInt8.add_assoc]
  rfl

theorem Heard.Consecutive.of_invariants [MqttTransport T] {group : GroupId} {edge : EdgeNodeId}
    (x : Heard T) {past : List (Heard T)}
    (hat : AtPosition group edge (x.before group edge) past)
    (hclosed : ClosedByMiss group edge (x.before group edge) past) :
    x.Consecutive group edge past where
  numbered := by
    intro m haccepted
    obtain ⟨p, hread, hexp⟩ := Heard.accepted_iff_passes.mp haccepted
    obtain ⟨⟨s, k⟩, hpos⟩ := Option.ne_none_iff_exists'.mp (hat.1 hread.online)
    have hnumber : (x.before group edge).expectedSeq = UInt8.ofNat (s.toNat + (k + 1)) :=
      (hat.2 s k hpos).trans (number_eq_ofNat s k)
    refine ⟨s, k, p, hpos, hread, hexp.trans (congrArg some hnumber), ?_⟩
    rw [haccepted.2.2, hnumber, UInt8.ofNat_add (s.toNat + (k + 1))]
    rfl
  online := by
    intro m haccepted
    obtain ⟨p, hread, -⟩ := Heard.accepted_iff_passes.mp haccepted
    exact hread.online
  surfaced := by
    intro event hout hevent
    obtain ⟨m, after, hof, hturn⟩ := turn_of_surfaced x.1 hout hevent.sender
    obtain ⟨hmessage, hseq, hon, p, hreads, hexp⟩ := hturn.isMessage hevent
    exact ⟨m, hmessage, Heard.accepted_iff_passes.mpr ⟨p, ⟨hof, hseq, hon, hreads⟩, hexp⟩⟩
  closed := by
    intro hsince m haccepted
    obtain ⟨p, hread, -⟩ := Heard.accepted_iff_passes.mp haccepted
    exact absurd ((hclosed hsince).symm.trans hread.online) (by decide)

/-- **Accepted sequence numbers are consecutive.**  In every run of a fresh host, whatever arrives
for whatever node, the messages accepted since an NBIRTH carry the numbers after its own, modulo
256, and after a miss none is accepted before the next NBIRTH. -/
theorem HostApplication.accepted_consecutive [MqttTransport T] (group : GroupId) (edge : EdgeNodeId)
    (config : HostConfig) (transport : T) (stateTs : Int64)
    (messages : List (Reading × IncomingMessage)) :
    Throughout (Heard.Consecutive group edge)
      ((fresh config transport stateTs).history messages) := by
  refine throughout_log (P := fun _ _ => True) (fun host past =>
    AtPosition group edge (host.node (key group edge)) past ∧
      ClosedByMiss group edge (host.node (key group edge)) past) ?_ _ messages []
    ?_ (always_of_forall (fun _ _ => trivial) _ _) .nil
  · rintro host input past ⟨hat, hclosed⟩ -
    exact ⟨Heard.Consecutive.of_invariants (host, input) hat hclosed,
      AtPosition.change (host, input) hat, ClosedByMiss.change (host, input) hclosed⟩
  · refine ⟨⟨?_, ?_⟩, ?_⟩
    · intro honline
      exact absurd honline (by simp [fresh, node, HostApplication.new, NodeState.new])
    · intro s k hpos
      cases hpos
    · intro hsince
      exact absurd hsince since_nil

end SparkplugB
