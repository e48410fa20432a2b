/-
# When a death is surfaced

A run of the host is a list of messages, each with what the clocks show while it is handled.
An NDEATH is honoured while the session of the NBIRTH it matches is still valid; a lost message
ends the session before the node does.  `nodeDeath_surfaced_iff` says that nothing else does.
-/
import SparkplugB.Host.Session
import SparkplugB.Lib.Run

namespace SparkplugB

open Machine

namespace NodeState

/-- The message invalidates the session: the host reads it on this record as a loss.  An NDATA or
DDATA that does not decode counts, a DBIRTH or DDEATH that does not decode does not, because its
handler returns before it looks at the number. -/
def Loses (node : NodeState) (m : NodeMessage) (bytes : Bytes) : Prop :=
  m.isSequenced = true ∧ node.listens m = true ∧
    match node.reads m bytes with
    | .error _ => m.isData = true
    | .ok p => p.seq ≠ some node.expectedSeq

end NodeState

namespace HostApplication

variable {T : Type} [MqttTransport T]

/-- The host after `handle_incoming`, whatever this returned: an error keeps what was changed before
it. -/
def next (host : HostApplication T) (input : Reading × IncomingMessage) : HostApplication T :=
  ((handleIncoming input.1 input.2).run host).state

/-- What `handle_incoming` returns for one message. -/
def outcome (host : HostApplication T) (input : Reading × IncomingMessage) :
    Result HostEvent :=
  ((handleIncoming input.1 input.2).run host).outcome

/-- The message is one of the node's that invalidates its session. -/
def Invalidates (group : GroupId) (edge : EdgeNodeId) (host : HostApplication T)
    (input : Reading × IncomingMessage) : Prop :=
  ∃ m, NodeMessage.of input.2 = some (group, edge, m) ∧
    (host.node (key group edge)).Loses m input.2.payload

/-- Handling the message surfaces the death of the node. -/
def SurfacesDeath (group : GroupId) (edge : EdgeNodeId) (host : HostApplication T)
    (input : Reading × IncomingMessage) : Prop :=
  ∃ timestamp devices, host.outcome input = .ok (.nodeDeath group.str edge.str timestamp devices)

/-- The message is no NBIRTH of the node and is not surfaced as its death: nothing the application
sees ends or begins a session. -/
def Quiet (group : GroupId) (edge : EdgeNodeId) (host : HostApplication T)
    (input : Reading × IncomingMessage) : Prop :=
  NodeMessage.of input.2 ≠ some (group, edge, .birth) ∧ ¬ SurfacesDeath group edge host input

/-! ## 1. One step -/

variable {group : GroupId} {edge : EdgeNodeId}

/-- A message that is not addressed to the node leaves its record alone. -/
theorem node_next_elsewhere (host : HostApplication T) {input : Reading × IncomingMessage}
    (h : ∀ m, NodeMessage.of input.2 ≠ some (group, edge, m)) :
    (host.next input).node (key group edge) = host.node (key group edge) := by
  rcases hof : NodeMessage.of input.2 with - | ⟨g, e, m⟩
  · exact handleIncoming_elsewhere input.1 host hof _
  · obtain ⟨verdict, after, -, hreal⟩ := handleIncoming_turn input.1 host hof
    refine hreal.elsewhere _ fun hkey => ?_
    obtain ⟨rfl, rfl⟩ := key_injective hkey
    exact h m hof

/-- What a quiet message can do to the record of the node: nothing to its `online` flag and its
`bdSeq`, unless it invalidates the session. -/
theorem quiet_step (host : HostApplication T) {input : Reading × IncomingMessage}
    (hquiet : Quiet group edge host input) :
    ((host.next input).node (key group edge)).bdSeq = (host.node (key group edge)).bdSeq ∧
      (¬ Invalidates group edge host input →
        ((host.next input).node (key group edge)).online =
          (host.node (key group edge)).online) ∧
      (Invalidates group edge host input ∨ (host.node (key group edge)).online = false →
        ((host.next input).node (key group edge)).online = false) := by
  by_cases hof : ∃ m, NodeMessage.of input.2 = some (group, edge, m)
  · obtain ⟨m, hof⟩ := hof
    obtain ⟨verdict, after, hturn, hreal⟩ := handleIncoming_turn input.1 host hof
    have hbd : ((host.next input).node (key group edge)).bdSeq = after.bdSeq :=
      hreal.same NodeState.bdSeq fun _ => rfl
    have hon : ((host.next input).node (key group edge)).online = after.online :=
      hreal.same NodeState.online fun _ => rfl
    have hinv : Invalidates group edge host input →
        (host.node (key group edge)).Loses m input.2.payload := by
      rintro ⟨m', hof', hloses⟩
      rw [hof] at hof'
      simp only [Option.some.injEq, Prod.mk.injEq, true_and] at hof'
      exact hof' ▸ hloses
    rw [hbd, hon]
    cases hturn with
    | birthUnreadable h => exact absurd hof hquiet.1
    | birth h unique => exact absurd hof hquiet.1
    | birthAmbiguous h dup => exact absurd hof hquiet.1
    | deathUnreadable h =>
      exact ⟨rfl, fun _ => rfl, fun hoff => hoff.resolve_left fun hi => absurd (hinv hi).1 (by decide)⟩
    | death h online known same => exact absurd ⟨_, _, hreal.shows⟩ hquiet.2
    | deathStale h stale =>
      exact ⟨rfl, fun _ => rfl, fun hoff => hoff.resolve_left fun hi => absurd (hinv hi).1 (by decide)⟩
    | deaf seq h =>
      refine ⟨rfl, fun _ => rfl, fun hoff => hoff.resolve_left fun hi => ?_⟩
      have hloses := hinv hi
      exact absurd (h.symm.trans hloses.2.1) (by decide)
    | unreadable seq data on h =>
      refine ⟨rfl, fun _ => rfl, fun hoff => hoff.resolve_left fun hi => ?_⟩
      have hloses := (hinv hi).2.2
      rw [h] at hloses
      exact absurd (data.symm.trans hloses) (by decide)
    | malformed data on h =>
      refine ⟨rfl, fun hnot => absurd ⟨m, hof, ?_⟩ hnot, fun _ => rfl⟩
      refine ⟨by cases m <;> first | rfl | exact absurd data (by decide), on, ?_⟩
      rw [h]
      exact data
    | gap seq on h other =>
      refine ⟨rfl, fun hnot => absurd ⟨m, hof, seq, on, ?_⟩ hnot, fun _ => rfl⟩
      rw [h]
      exact other
    | accept seq on h hnext =>
      refine ⟨NodeState.accepted_bdSeq _ _ _, fun _ => NodeState.accepted_online _ _ _,
        fun hoff => ?_⟩
      rw [NodeState.accepted_online]
      refine hoff.resolve_left fun hi => ?_
      have hloses := (hinv hi).2.2
      rw [h] at hloses
      exact hloses hnext
  · simp only [not_exists] at hof
    have hinv : ¬ Invalidates group edge host input := fun ⟨m, hm, _⟩ => hof m hm
    rw [node_next_elsewhere host hof]
    exact ⟨rfl, fun _ => rfl, fun hoff => hoff.resolve_left hinv⟩

/-- What handling an NDEATH surfaces is decided by the record alone. -/
theorem surfacesDeath_iff (host : HostApplication T) {now : Reading} {death : IncomingMessage}
    {p : Payload} (hof : NodeMessage.of death = some (group, edge, .death))
    (hdec : decode death.payload none = .ok p) :
    SurfacesDeath group edge host (now, death) ↔
      (host.node (key group edge)).online = true ∧
        (host.node (key group edge)).bdSeq.isSome = true ∧
        (host.node (key group edge)).bdSeq = bdseqOf p := by
  obtain ⟨verdict, after, hturn, hreal⟩ := handleIncoming_turn now host hof
  cases hturn with
  | deathUnreadable h => exact absurd (h.symm.trans hdec) (by simp)
  | death h online known same =>
    obtain rfl := Except.ok.inj (h.symm.trans hdec)
    exact iff_of_true ⟨_, _, hreal.shows⟩ ⟨online, known, same⟩
  | deathStale h stale =>
    obtain rfl := Except.ok.inj (h.symm.trans hdec)
    refine iff_of_false ?_ stale
    rintro ⟨ts, ds, hout⟩
    have hshows : host.outcome (now, death) = .ok .ignored := hreal.shows
    rw [hshows] at hout
    exact absurd hout (by simp)
  | deaf seq h => exact absurd seq (by decide)
  | unreadable seq data on h => exact absurd seq (by decide)
  | malformed data on h => exact absurd data (by decide)
  | gap seq on h other => exact absurd seq (by decide)
  | accept seq on h hnext => exact absurd seq (by decide)

/-- A surfaced NBIRTH puts the node online, with the `bdSeq` it carries. -/
theorem node_of_surfaced_birth (host : HostApplication T) {now : Reading}
    {birth : IncomingMessage} {p : Payload} {metrics : List Metric}
    (hof : NodeMessage.of birth = some (group, edge, .birth))
    (hdec : decode birth.payload none = .ok p)
    (hout : host.outcome (now, birth) = .ok (.nodeBirth group.str edge.str metrics)) :
    ((host.next (now, birth)).node (key group edge)).session =
        ((host.node (key group edge)).birth p).2.session ∧
      ((host.node (key group edge)).birth p).1 = false := by
  obtain ⟨verdict, after, hturn, hreal⟩ := handleIncoming_turn now host hof
  have hshows : verdict.Shows group edge (host.outcome (now, birth)) := hreal.shows
  rw [hout] at hshows
  cases hturn with
  | birthUnreadable h => exact absurd (h.symm.trans hdec) (by simp)
  | birth h unique =>
    obtain rfl := Except.ok.inj (h.symm.trans hdec)
    exact ⟨hreal.session, unique⟩
  | birthAmbiguous h dup =>
    rcases hshows with h | h | ⟨e, h⟩
    · exact absurd h (by simp)
    · exact absurd h (by simp)
    · exact absurd h (by simp)
  | deaf seq h => exact absurd seq (by decide)
  | unreadable seq data on h => exact absurd seq (by decide)
  | malformed data on h => exact absurd data (by decide)
  | gap seq on h other => exact absurd seq (by decide)
  | accept seq on h hnext => exact absurd seq (by decide)

/-! ## 2. The run between a birth and its death -/

/-- **A surfaced birth is matched by its death** exactly when no message in between invalidated the
session.  The NBIRTH and the NDEATH carry the same bdSeq and decode; `quiet` asks of what is handled
in between that no NBIRTH of the node be among it and no death of it be surfaced before. -/
theorem nodeDeath_surfaced_iff (host : HostApplication T) {now₀ now : Reading}
    {birth death : IncomingMessage} {p q : Payload} {b : Int64} {metrics : List Metric}
    {messages : List (Reading × IncomingMessage)}
    (birthOf : NodeMessage.of birth = some (group, edge, .birth))
    (birthDecodes : decode birth.payload none = .ok p) (birthSeq : bdseqOf p = some b)
    (surfaced : host.outcome (now₀, birth) = .ok (.nodeBirth group.str edge.str metrics))
    (quiet : Always next (Quiet group edge) (host.next (now₀, birth)) messages)
    (deathOf : NodeMessage.of death = some (group, edge, .death))
    (deathDecodes : decode death.payload none = .ok q) (deathSeq : bdseqOf q = some b) :
    SurfacesDeath group edge (run next (host.next (now₀, birth)) messages) (now, death) ↔
      Always next (fun host input => ¬ Invalidates group edge host input)
        (host.next (now₀, birth)) messages := by
  obtain ⟨hsession, hunique⟩ := node_of_surfaced_birth host birthOf birthDecodes surfaced
  have honline : ((host.next (now₀, birth)).node (key group edge)).online = true := by
    have h := congrArg NodeState.online hsession
    simp only [NodeState.session_online] at h
    rw [h]
    show (!((host.node (key group edge)).birth p).1) = true
    rw [hunique]
    rfl
  have hbdSeq : ((host.next (now₀, birth)).node (key group edge)).bdSeq = some b := by
    have h := congrArg NodeState.bdSeq hsession
    exact h.trans birthSeq
  -- the `bdSeq` stays, whatever happens in between
  have hkept : ((run next (host.next (now₀, birth)) messages).node (key group edge)).bdSeq =
      some b :=
    run_invariant (fun h i hs hq => (quiet_step h hq).1.trans hs) _ _ hbdSeq quiet
  rw [surfacesDeath_iff _ deathOf deathDecodes, hkept, deathSeq]
  simp only [Option.isSome_some, and_self, and_true]
  constructor
  · intro hend
    by_contra hfail
    obtain ⟨pre, i, post, rfl, -, hi⟩ := first_failure hfail
    rw [always_append] at quiet
    obtain ⟨hpre, hquiet, hpost⟩ := quiet
    -- from the step that invalidates the session on, the node stays offline
    have hoff := (quiet_step _ hquiet).2.2 (.inl (not_not.mp hi))
    have hstays := run_invariant (fun h i hs hq => (quiet_step h hq).2.2 (.inr hs)) _ _ hoff hpost
    rw [run_append, run_cons] at hend
    exact absurd (hstays.symm.trans hend) (by decide)
  · intro hvalid
    have hboth : Always next
        (fun host input => Quiet group edge host input ∧ ¬ Invalidates group edge host input)
        (host.next (now₀, birth)) messages := by
      rw [always_iff_split] at quiet hvalid ⊢
      exact fun pre i post heq => ⟨quiet pre i post heq, hvalid pre i post heq⟩
    exact run_invariant (fun h i hs hq => ((quiet_step h hq.1).2.1 hq.2).trans hs) _ _ honline
      hboth

end HostApplication

/-! ## 3. A line of a plant -/

/-- Whether an event surfaces an NBIRTH of the node. -/
def HostEvent.isNodeBirth (group : GroupId) (edge : EdgeNodeId) : HostEvent → Bool
  | .nodeBirth g e _ => g = group.str && e = edge.str
  | _ => false

/-- Whether an event surfaces the death of the node. -/
def HostEvent.isNodeDeath (group : GroupId) (edge : EdgeNodeId) : HostEvent → Bool
  | .nodeDeath g e _ _ => g = group.str && e = edge.str
  | _ => false

theorem exists_nodeBirth (group : GroupId) (edge : EdgeNodeId) (x : Result HostEvent)
    (h : x.toOption.any (HostEvent.isNodeBirth group edge) = true) :
    ∃ metrics, x = .ok (.nodeBirth group.str edge.str metrics) := by
  obtain ⟨event, rfl, hevent⟩ := exists_ok x _ h
  cases event with
  | nodeBirth g e metrics =>
    simp only [HostEvent.isNodeBirth, Bool.and_eq_true, decide_eq_true_eq] at hevent
    exact ⟨metrics, by rw [hevent.1, hevent.2]⟩
  | _ => exact absurd hevent (by simp [HostEvent.isNodeBirth])

namespace HostApplication

variable {T : Type} [MqttTransport T]

theorem surfacesDeath_iff_test (group : GroupId) (edge : EdgeNodeId) (host : HostApplication T)
    (input : Reading × IncomingMessage) :
    (host.outcome input).toOption.any (HostEvent.isNodeDeath group edge) = true ↔
      SurfacesDeath group edge host input := by
  constructor
  · intro h
    obtain ⟨event, hout, hevent⟩ := exists_ok _ _ h
    cases event with
    | nodeDeath g e timestamp devices =>
      simp only [HostEvent.isNodeDeath, Bool.and_eq_true, decide_eq_true_eq] at hevent
      exact ⟨timestamp, devices, by rw [hout, hevent.1, hevent.2]⟩
    | _ => exact absurd hevent (by simp [HostEvent.isNodeDeath])
  · rintro ⟨timestamp, devices, hout⟩
    simp [hout, Except.toOption, HostEvent.isNodeDeath]

instance (group : GroupId) (edge : EdgeNodeId) (host : HostApplication T)
    (input : Reading × IncomingMessage) : Decidable (SurfacesDeath group edge host input) :=
  decidable_of_iff _ (surfacesDeath_iff_test group edge host input)

instance (group : GroupId) (edge : EdgeNodeId) (host : HostApplication T)
    (input : Reading × IncomingMessage) : Decidable (Quiet group edge host input) :=
  inferInstanceAs (Decidable (_ ≠ _ ∧ ¬ SurfacesDeath group edge host input))

end HostApplication

open HostApplication

theorem valid_plant : validateId "plant" = .ok () := by decide

theorem valid_line : validateId "line" = .ok () := by decide

def plant : GroupId := ⟨"plant", valid_plant⟩

def line : EdgeNodeId := ⟨"line", valid_line⟩

/-- A message of the line of this type and with this number, which carries `bdSeq = 5` and no other
metric. -/
def lineMessage (ty : MessageType) (seq : Option UInt8) (o : EncodeOptions) : IncomingMessage where
  topic := (SparkplugTopic.node plant line ty).toString
  payload := encode { metrics := [Metric.new BDSEQ_METRIC_NAME (.int64 5)], seq } o

/-- A clock that stands still. -/
def noon : Reading := ⟨some 1700000000000, 0⟩

/-- A host that has heard nothing yet. -/
def freshHost : HostApplication Recorder := .new (.new "scada") {}

/-- The host once it has handled the NBIRTH of the line. -/
def hostOfLine : HostApplication Recorder :=
  freshHost.next (noon, lineMessage .nBirth (some 0) .birth)

/-- An NDATA in sequence leaves the death to be surfaced. -/
theorem nodeDeath_surfaced_after_data :
    SurfacesDeath plant line
        (run next hostOfLine [(noon, lineMessage .nData (some 1) .data)])
        (noon, lineMessage .nDeath none .birth) ∧
      Always next (fun host input => ¬ Invalidates plant line host input) hostOfLine
        [(noon, lineMessage .nData (some 1) .data)] := by
  obtain ⟨p, hp, hb⟩ := exists_ok (decode (lineMessage .nBirth (some 0) .birth).payload none)
    (fun p => bdseqOf p = some 5) (by decide +kernel)
  obtain ⟨q, hq, hd⟩ := exists_ok (decode (lineMessage .nDeath none .birth).payload none)
    (fun q => bdseqOf q = some 5) (by decide +kernel)
  obtain ⟨metrics, hbirth⟩ := exists_nodeBirth plant line
    (freshHost.outcome (noon, lineMessage .nBirth (some 0) .birth)) (by decide +kernel)
  have hdeath : SurfacesDeath plant line
      (run next hostOfLine [(noon, lineMessage .nData (some 1) .data)])
      (noon, lineMessage .nDeath none .birth) := by decide +kernel
  have hquiet : Always next (Quiet plant line) hostOfLine
      [(noon, lineMessage .nData (some 1) .data)] := by decide +kernel
  refine ⟨hdeath, ?_⟩
  exact (nodeDeath_surfaced_iff freshHost (by decide +kernel) hp (of_decide_eq_true hb) hbirth
    hquiet (by decide +kernel) hq (of_decide_eq_true hd)).mp hdeath

/-- **A gap swallows the death.**  The NBIRTH with `bdSeq = 5` is surfaced, an NDATA out of
sequence invalidates the session, and the NDEATH with `bdSeq = 5` surfaces nothing. -/
theorem nodeDeath_swallowed_after_gap :
    ¬ ∀ (now₀ now : Reading) (birth death : IncomingMessage) (p q : Payload) (b : Int64)
        (metrics : List Metric) (messages : List (Reading × IncomingMessage)),
        NodeMessage.of birth = some (plant, line, .birth) →
        decode birth.payload none = .ok p → bdseqOf p = some b →
        freshHost.outcome (now₀, birth) = .ok (.nodeBirth plant.str line.str metrics) →
        Always next (Quiet plant line) (freshHost.next (now₀, birth)) messages →
        NodeMessage.of death = some (plant, line, .death) →
        decode death.payload none = .ok q → bdseqOf q = some b →
        SurfacesDeath plant line (run next (freshHost.next (now₀, birth)) messages)
          (now, death) := by
  intro claim
  obtain ⟨p, hp, hb⟩ := exists_ok (decode (lineMessage .nBirth (some 0) .birth).payload none)
    (fun p => bdseqOf p = some 5) (by decide +kernel)
  obtain ⟨q, hq, hd⟩ := exists_ok (decode (lineMessage .nDeath none .birth).payload none)
    (fun q => bdseqOf q = some 5) (by decide +kernel)
  obtain ⟨metrics, hbirth⟩ := exists_nodeBirth plant line
    (freshHost.outcome (noon, lineMessage .nBirth (some 0) .birth)) (by decide +kernel)
  have hdeath := claim noon noon (lineMessage .nBirth (some 0) .birth)
    (lineMessage .nDeath none .birth) p q 5 metrics [(noon, lineMessage .nData (some 2) .data)]
    (by decide +kernel) hp (of_decide_eq_true hb) hbirth (by decide +kernel) (by decide +kernel)
    hq (of_decide_eq_true hd)
  exact absurd hdeath (by decide +kernel)

end SparkplugB
