/-
# Loss detection

After an accepted NBIRTH the node's messages are numbered, and the host receives some of them, in
order, between NDEATHs of the node and messages of other nodes.  The record's `expectedSeq`
names the first message the host has not processed.  That message is read off a `u8`, so what
is processed next is the right one as long as fewer than 256 messages went by unprocessed: lost,
or delivered and skipped without a trace.
-/
import SparkplugB.Host.Death
import SparkplugB.Codec.Survival

namespace SparkplugB

open Machine

/-- The event shows the application something a node sent: it is neither `ignored` nor the news of a
rebirth request. -/
def HostEvent.isSurfaced : HostEvent → Bool
  | .rebirthRequested _ _ => false
  | .ignored => false
  | _ => true

namespace NodeState

/-- The message goes by without a trace although the session is valid: a DDATA of a device that is
not online, or a DBIRTH or DDEATH that does not decode.  Its number is not looked at. -/
def Skips (node : NodeState) (m : NodeMessage) (bytes : Bytes) : Prop :=
  node.online = true ∧
    (node.listens m = false ∨ (m.isData = false ∧ ∃ e, node.reads m bytes = .error e))

end NodeState

/-- `m_1, …, m_n`: messages of a node, numbered from `s₀ + 1` on modulo 256.  A message that does
not decode may come at any place. -/
structure MessageStream (group : GroupId) (edge : EdgeNodeId) (s₀ : UInt8) where
  messages : List IncomingMessage
  kind : Fin messages.length → NodeMessage
  addressed : ∀ i, NodeMessage.of (messages.get i) = some (group, edge, kind i)
  sequenced : ∀ i, (kind i).isSequenced = true
  numbered : ∀ i reg p, decode (messages.get i).payload reg = .ok p →
    p.seq = some (s₀ + 1 + UInt8.ofNat i)

/-- What the channel delivers: one of the stream's messages, or a message that is not one of the
node's NBIRTH, NDATA, DBIRTH, DDATA and DDEATH. -/
inductive Delivery {group : GroupId} {edge : EdgeNodeId} {s₀ : UInt8}
    (stream : MessageStream group edge s₀) where
  | ours (i : Fin stream.messages.length)
  | other (message : IncomingMessage)
    (foreign : ∀ m, NodeMessage.of message = some (group, edge, m) → m = .death)

namespace Delivery

variable {group : GroupId} {edge : EdgeNodeId} {s₀ : UInt8}
  {stream : MessageStream group edge s₀}

/-- The message that arrives. -/
def message : Delivery stream → IncomingMessage
  | ours i => stream.messages.get i
  | other message _ => message

/-- Its position in the stream. -/
def index : Delivery stream → Option Nat
  | ours i => some i
  | other _ _ => none

end Delivery

namespace HostApplication

variable {T : Type} [MqttTransport T] {group : GroupId} {edge : EdgeNodeId} {s₀ : UInt8}
  {stream : MessageStream group edge s₀}

/-- The host after one delivery. -/
def receive (host : HostApplication T) (d : Reading × Delivery stream) : HostApplication T :=
  host.next (d.1, d.2.message)

/-- The positions delivered, in the order of arrival. -/
def indices (deliveries : List (Reading × Delivery stream)) : List Nat :=
  deliveries.filterMap fun d => d.2.index

/-- The message at position `j` was delivered and went by without a trace, on the record it met. -/
def SkippedIn (host : HostApplication T) (deliveries : List (Reading × Delivery stream))
    (j : Nat) : Prop :=
  ∃ pre now i post, deliveries = pre ++ (now, Delivery.ours i) :: post ∧ i.val = j ∧
    ((run receive host pre).node (key group edge)).Skips (stream.kind i)
      (stream.messages.get i).payload

/-- The condition on what is lost: before each delivered message, a window of messages that were all
lost or skipped, at least one of them lost, is shorter than 256.  The number of a message tells no
more than that. -/
def Bounded (host : HostApplication T) (deliveries : List (Reading × Delivery stream)) : Prop :=
  ∀ pre now i post, deliveries = pre ++ (now, Delivery.ours i) :: post →
    ∀ a ≤ i.val, (∀ j, a ≤ j → j < i.val → j ∉ indices pre ∨ SkippedIn host pre j) →
      (∃ j, a ≤ j ∧ j < i.val ∧ j ∉ indices pre) → i.val - a < 256

/-- When an event is surfaced for a message, every earlier message was delivered before it. -/
def DetectsLoss (host : HostApplication T) (deliveries : List (Reading × Delivery stream)) :
    Prop :=
  ∀ pre now i post, deliveries = pre ++ (now, Delivery.ours i) :: post →
    ∀ event, (run receive host pre).outcome (now, stream.messages.get i) = .ok event →
      event.isSurfaced = true → ∀ j < i.val, j ∈ indices pre

/-! ## 1. The invariant -/

/-- Where the host stands after the deliveries `pre`: the session is over, or `expected_seq` is the
number of position `a`, everything before `a` has arrived, and what arrived from `a` on was skipped.
This is the invariant of a bounded run. -/
def InStep (host : HostApplication T) (pre : List (Reading × Delivery stream)) : Prop :=
  ((run receive host pre).node (key group edge)).online = false ∨
    ∃ a, ((run receive host pre).node (key group edge)).expectedSeq = s₀ + 1 + UInt8.ofNat a ∧
      (∀ j < a, j ∈ indices pre) ∧ ∀ j ∈ indices pre, a ≤ j → SkippedIn host pre j

theorem indices_append (xs ys : List (Reading × Delivery stream)) :
    indices (xs ++ ys) = indices xs ++ indices ys := List.filterMap_append

theorem SkippedIn.append {host : HostApplication T} {pre : List (Reading × Delivery stream)}
    {j : Nat} (h : SkippedIn host pre j) (post : List (Reading × Delivery stream)) :
    SkippedIn host (pre ++ post) j := by
  obtain ⟨pre', now, i, post', rfl, hij, hskips⟩ := h
  exact ⟨pre', now, i, post' ++ post, by simp, hij, hskips⟩

/-- Two positions with one number lie a multiple of 256 apart. -/
theorem number_injective {s : UInt8} {a i : Nat} (h : s + 1 + UInt8.ofNat a = s + 1 + UInt8.ofNat i)
    (hle : a ≤ i) (hlt : i - a < 256) : a = i := by
  have heq : UInt8.ofNat a = UInt8.ofNat i := by
    have := congrArg (fun x => x - (s + 1)) h
    simpa using this
  have hmod : a % 256 = i % 256 := by
    have := congrArg UInt8.toNat heq
    simpa using this
  omega

/-- The record of the node is the same before and after, but for the time of the last rebirth
request: the host stays in step. -/
theorem InStep.stay {host : HostApplication T} {pre : List (Reading × Delivery stream)}
    {d : Reading × Delivery stream} (h : InStep host pre)
    (honline : ((run receive host (pre ++ [d])).node (key group edge)).online =
      ((run receive host pre).node (key group edge)).online)
    (hseq : ((run receive host (pre ++ [d])).node (key group edge)).expectedSeq =
      ((run receive host pre).node (key group edge)).expectedSeq)
    (hskip : ∀ j, d.2.index = some j →
      ((run receive host pre).node (key group edge)).online = true → SkippedIn host (pre ++ [d]) j) :
    InStep host (pre ++ [d]) := by
  rcases h with hoff | ⟨a, hexp, hbelow, habove⟩
  · exact .inl (honline.trans hoff)
  · by_cases hon : ((run receive host pre).node (key group edge)).online = true
    · refine .inr ⟨a, hseq.trans hexp, fun j hj => ?_, fun j hj haj => ?_⟩
      · rw [indices_append]
        exact List.mem_append_left _ (hbelow j hj)
      · rw [indices_append, List.mem_append] at hj
        rcases hj with hj | hj
        · exact (habove j hj haj).append _
        · obtain ⟨d', hd', hidx⟩ := List.mem_filterMap.mp hj
          obtain rfl := List.mem_singleton.mp hd'
          exact hskip j hidx hon
    · exact .inl (honline.trans (Bool.eq_false_iff.mpr hon))

theorem run_receive_snoc (host : HostApplication T) (pre : List (Reading × Delivery stream))
    (d : Reading × Delivery stream) :
    run receive host (pre ++ [d]) = (run receive host pre).next (d.1, d.2.message) := by
  rw [run_append]
  rfl

/-- What arrived before a message lies before it in the stream. -/
theorem below_of_inOrder {deliveries pre post : List (Reading × Delivery stream)} {now : Reading}
    {i : Fin stream.messages.length} (inOrder : (indices deliveries).Pairwise (· < ·))
    (heq : deliveries = pre ++ (now, Delivery.ours i) :: post) : ∀ j ∈ indices pre, j < i.val := by
  intro j hj
  rw [heq, indices_append, List.pairwise_append] at inOrder
  exact inOrder.2.2 j hj i.val (by simp [indices, Delivery.index])

/-- **One delivery.**  The host stays in step, and surfaces a message only when every earlier one
has arrived. -/
theorem inStep_step {host : HostApplication T} {pre : List (Reading × Delivery stream)}
    {now : Reading} {i : Fin stream.messages.length} (h : InStep host pre)
    (inOrder : ∀ j ∈ indices pre, j < i.val)
    (bounded : ∀ a ≤ i.val, (∀ j, a ≤ j → j < i.val → j ∉ indices pre ∨ SkippedIn host pre j) →
      (∃ j, a ≤ j ∧ j < i.val ∧ j ∉ indices pre) → i.val - a < 256) :
    InStep host (pre ++ [(now, Delivery.ours i)]) ∧
      ∀ event, (run receive host pre).outcome (now, stream.messages.get i) = .ok event →
        event.isSurfaced = true → ∀ j < i.val, j ∈ indices pre := by
  obtain ⟨verdict, after, hturn, hreal⟩ :=
    handleIncoming_turn now (run receive host pre) (stream.addressed i)
  have hseq := stream.sequenced i
  have hrun : run receive host (pre ++ [(now, Delivery.ours i)]) =
      (run receive host pre).next (now, stream.messages.get i) := run_receive_snoc _ _ _
  have honline : ((run receive host (pre ++ [(now, Delivery.ours i)])).node
      (key group edge)).online = after.online :=
    hrun ▸ hreal.same NodeState.online fun _ => rfl
  have hexpected : ((run receive host (pre ++ [(now, Delivery.ours i)])).node
      (key group edge)).expectedSeq = after.expectedSeq :=
    hrun ▸ hreal.same NodeState.expectedSeq fun _ => rfl
  have hshows : verdict.Shows group edge
      ((run receive host pre).outcome (now, stream.messages.get i)) := hreal.shows
  -- a request for a rebirth is not an event of the node
  have hrebirth : verdict = .rebirth → ∀ event,
      (run receive host pre).outcome (now, stream.messages.get i) = .ok event →
        event.isSurfaced = true → ∀ j < i.val, j ∈ indices pre := by
    rintro rfl event hout hsurf
    rw [hout] at hshows
    rcases hshows with h | h | ⟨e, h⟩
    · cases h
      exact absurd hsurf (by decide)
    · cases h
      exact absurd hsurf (by simp [HostEvent.isSurfaced])
    · exact absurd h (by simp)
  -- a message that leaves the record as it was went by without a trace
  have hstay : ((run receive host pre).node (key group edge)).Skips (stream.kind i)
        (stream.messages.get i).payload ∨
      ((run receive host pre).node (key group edge)).online = false →
      after = (run receive host pre).node (key group edge) →
        InStep host (pre ++ [(now, Delivery.ours i)]) := by
    rintro hskips rfl
    refine h.stay honline hexpected fun j hj hon => ⟨pre, now, i, [], rfl, ?_, ?_⟩
    · exact Option.some.inj hj
    · exact hskips.resolve_right fun hoff => absurd (hoff.symm.trans hon) (by decide)
  generalize hkind : stream.kind i = m at hturn hstay hseq
  cases hturn with
  | birthUnreadable h => exact absurd hseq (by decide)
  | birth h unique => exact absurd hseq (by decide)
  | birthAmbiguous h dup => exact absurd hseq (by decide)
  | deathUnreadable h => exact absurd hseq (by decide)
  | death h online known same => exact absurd hseq (by decide)
  | deathStale h stale => exact absurd hseq (by decide)
  | deaf seq hdeaf =>
    refine ⟨hstay ?_ rfl, hrebirth rfl⟩
    by_cases hon : ((run receive host pre).node (key group edge)).online = true
    · exact .inl ⟨hon, .inl hdeaf⟩
    · exact .inr (Bool.eq_false_iff.mpr hon)
  | unreadable seq data on hreads =>
    refine ⟨hstay (.inl ⟨NodeState.online_of_listens on, .inr ⟨data, _, hreads⟩⟩) rfl, ?_⟩
    intro event hout
    rw [hout] at hshows
    exact absurd hshows (by simp [Verdict.Shows])
  | malformed data on hreads => exact ⟨.inl honline, hrebirth rfl⟩
  | gap seq on hreads other => exact ⟨.inl honline, hrebirth rfl⟩
  | @accept _ p seq on hreads hnext =>
    have hnumber : p.seq = some (s₀ + 1 + UInt8.ofNat i) := stream.numbered i _ p hreads
    obtain ⟨a, hexp, hbelow, habove⟩ := h.resolve_left fun hoff =>
      absurd (hoff.symm.trans (NodeState.online_of_listens on)) (by decide)
    have hsame : s₀ + 1 + UInt8.ofNat a = s₀ + 1 + UInt8.ofNat i :=
      Option.some.inj (hexp ▸ hnext.symm.trans hnumber)
    have hle : a ≤ i.val := by
      by_contra hlt
      exact absurd (inOrder _ (hbelow _ (not_le.mp hlt))) (lt_irrefl _)
    -- the positions from `a` on that have arrived were skipped, so a lost one would be in a window
    have hall : ∀ j < i.val, j ∈ indices pre := by
      intro j hj
      by_contra hlost
      have haj : a ≤ j := not_lt.mp fun hja => hlost (hbelow j hja)
      have hwindow := bounded a hle
        (fun k hak _ => (Classical.em (k ∈ indices pre)).symm.imp_right (habove k · hak))
        ⟨j, haj, hj, hlost⟩
      have := number_injective hsame hle hwindow
      omega
    refine ⟨.inr ⟨i.val + 1, ?_, fun j hj => ?_, fun j hj hij => ?_⟩, fun _ _ _ => hall⟩
    · rw [hexpected, NodeState.accepted_expectedSeq, hexp, hsame, UInt8.ofNat_add, ← add_assoc]
      rfl
    · rw [indices_append, List.mem_append]
      rcases Nat.lt_succ_iff_lt_or_eq.mp hj with hj | rfl
      · exact .inl (hall j hj)
      · exact .inr (by simp [indices, Delivery.index])
    · rw [indices_append, List.mem_append] at hj
      rcases hj with hj | hj
      · exact absurd (inOrder j hj) (by omega)
      · have : j = i.val := by simpa [indices, Delivery.index] using hj
        omega

/-- A message that is not one of the stream leaves the host in step. -/
theorem inStep_other {host : HostApplication T} {pre : List (Reading × Delivery stream)}
    {now : Reading} {message : IncomingMessage}
    (foreign : ∀ m, NodeMessage.of message = some (group, edge, m) → m = .death)
    (h : InStep host pre) : InStep host (pre ++ [(now, Delivery.other message foreign)]) := by
  have hrun : run receive host (pre ++ [(now, Delivery.other message foreign)]) =
      (run receive host pre).next (now, message) := run_receive_snoc _ _ _
  have hnone : ∀ j, (Delivery.other message foreign : Delivery stream).index = some j →
      ((run receive host pre).node (key group edge)).online = true →
      SkippedIn host (pre ++ [(now, Delivery.other message foreign)]) j := by
    intro j hj
    exact absurd hj (by simp [Delivery.index])
  by_cases hof : ∃ m, NodeMessage.of message = some (group, edge, m)
  · obtain ⟨m, hof⟩ := hof
    obtain ⟨verdict, after, hturn, hreal⟩ :=
      handleIncoming_turn now (run receive host pre) hof
    have honline : ((run receive host (pre ++ [(now, Delivery.other message foreign)])).node
        (key group edge)).online = after.online :=
      hrun ▸ hreal.same NodeState.online fun _ => rfl
    have hexpected : ((run receive host (pre ++ [(now, Delivery.other message foreign)])).node
        (key group edge)).expectedSeq = after.expectedSeq :=
      hrun ▸ hreal.same NodeState.expectedSeq fun _ => rfl
    obtain rfl := foreign m hof
    cases hturn with
    | deathUnreadable _ => exact h.stay honline hexpected hnone
    | death _ _ _ _ => exact .inl honline
    | deathStale _ _ => exact h.stay honline hexpected hnone
    | deaf seq _ => exact absurd seq (by decide)
    | unreadable seq _ _ _ => exact absurd seq (by decide)
    | malformed data _ _ => exact absurd data (by decide)
    | gap seq _ _ _ => exact absurd seq (by decide)
    | accept seq _ _ _ => exact absurd seq (by decide)
  · simp only [not_exists] at hof
    have hsame := @node_next_elsewhere T _ group edge (run receive host pre) (now, message) hof
    exact h.stay (by rw [hrun, hsame]) (by rw [hrun, hsame]) hnone

/-! ## 2. The run -/

/-- The host is in step after every prefix of the deliveries. -/
theorem inStep_run {host : HostApplication T} {deliveries : List (Reading × Delivery stream)}
    (start : InStep host ([] : List (Reading × Delivery stream)))
    (inOrder : (indices deliveries).Pairwise (· < ·)) (bounded : Bounded host deliveries) :
    ∀ pre post, deliveries = pre ++ post → InStep host pre := by
  intro pre
  induction pre using List.reverseRecOn with
  | nil => exact fun _ _ => start
  | append_singleton pre d ih =>
    intro post heq
    rw [List.append_assoc, List.singleton_append] at heq
    have hpre := ih (d :: post) heq
    obtain ⟨now, d⟩ := d
    cases d with
    | other message foreign => exact inStep_other foreign hpre
    | ours i =>
      refine (inStep_step hpre ?_ (bounded pre now i post heq)).1
      exact below_of_inOrder inOrder heq

/-- **Loss is detected before anything later is surfaced.**  After a surfaced NBIRTH numbered `s₀`,
the messages of the stream arrive in order (`inOrder`), any of them lost, between NDEATHs and
messages of others, and `bounded` keeps the windows of lost and skipped messages below 256: no
message is surfaced while an earlier one is missing. -/
theorem loss_detected (host : HostApplication T) {now₀ : Reading} {birth : IncomingMessage}
    {p : Payload} {metrics : List Metric} {deliveries : List (Reading × Delivery stream)}
    (birthOf : NodeMessage.of birth = some (group, edge, .birth))
    (birthDecodes : decode birth.payload none = .ok p) (birthSeq : p.seq = some s₀)
    (surfaced : host.outcome (now₀, birth) = .ok (.nodeBirth group.str edge.str metrics))
    (inOrder : (indices deliveries).Pairwise (· < ·))
    (bounded : Bounded (host.next (now₀, birth)) deliveries) :
    DetectsLoss (host.next (now₀, birth)) deliveries := by
  obtain ⟨hsession, -⟩ := node_of_surfaced_birth host birthOf birthDecodes surfaced
  have hexp : ((host.next (now₀, birth)).node (key group edge)).expectedSeq =
      p.seq.getD 0 + 1 := by
    have h := congrArg NodeState.expectedSeq hsession
    exact h
  have start : InStep (host.next (now₀, birth)) ([] : List (Reading × Delivery stream)) := by
    refine .inr ⟨0, ?_, fun j hj => absurd hj (by omega), fun j hj => absurd hj (by simp [indices])⟩
    rw [run_nil, hexp, birthSeq]
    simp
  intro pre now i post heq
  have hpre := inStep_run start inOrder bounded pre ((now, Delivery.ours i) :: post) heq
  exact (inStep_step hpre (below_of_inOrder inOrder heq) (bounded pre now i post heq)).2

end HostApplication

/-! ## 3. A loss that is not noticed -/

open HostApplication

/-- A device that is never born. -/
def ghost : DeviceId := ⟨"ghost", by decide⟩

/-- DDATA of a device that was never born up to position `ghosts`, NDATA from there on. -/
def ghostMessage (ghosts i : Nat) : IncomingMessage where
  topic := (if i < ghosts then SparkplugTopic.device plant line ghost .dData
    else SparkplugTopic.node plant line .nData).toString
  payload := encode { seq := some (UInt8.ofNat ((1 + i) % 256)) } .data

def ghostKind (ghosts i : Nat) : NodeMessage := if i < ghosts then .deviceData ghost else .data

theorem of_ghostMessage (ghosts i : Nat) :
    NodeMessage.of (ghostMessage ghosts i) = some (plant, line, ghostKind ghosts i) := by
  unfold NodeMessage.of ghostMessage ghostKind
  by_cases hi : i < ghosts
  · simp only [if_pos hi, SparkplugTopic.parse_toString
      (t := .device plant line ghost .dData) rfl, NodeMessage.ofTopic]
  · simp only [if_neg hi, SparkplugTopic.parse_toString
      (t := .node plant line .nData) ⟨rfl, by decide⟩, NodeMessage.ofTopic]

/-- The first `n` of these messages, after an NBIRTH numbered 0. -/
def ghostStream (ghosts n : Nat) : MessageStream plant line 0 where
  messages := (List.range n).map (ghostMessage ghosts)
  kind i := ghostKind ghosts i
  addressed i := by
    rw [List.get_eq_getElem, List.getElem_map, List.getElem_range]
    exact of_ghostMessage ghosts i
  sequenced i := by
    simp only [ghostKind]
    split <;> rfl
  numbered i reg p h := by
    rw [List.get_eq_getElem, List.getElem_map, List.getElem_range] at h
    have hdec := decode_encode_bare (UInt8.ofNat ((1 + i.val) % 256)) reg
    obtain rfl := Except.ok.inj (h.symm.trans hdec)
    show some _ = some _
    congr 1
    apply UInt8.toNat_inj.mp
    simp

/-- The NBIRTH that opens the session of the line is surfaced. -/
theorem birth_of_line : ∃ p metrics,
    decode (lineMessage .nBirth (some 0) .birth).payload none = .ok p ∧ p.seq = some 0 ∧
      freshHost.outcome (noon, lineMessage .nBirth (some 0) .birth) =
        .ok (.nodeBirth plant.str line.str metrics) := by
  obtain ⟨p, hp, hseq⟩ := exists_ok (decode (lineMessage .nBirth (some 0) .birth).payload none)
    (fun p => p.seq = some 0) (by decide +kernel)
  obtain ⟨metrics, hbirth⟩ := exists_nodeBirth plant line
    (freshHost.outcome (noon, lineMessage .nBirth (some 0) .birth)) (by decide +kernel)
  exact ⟨p, metrics, hp, of_decide_eq_true hseq, hbirth⟩

/-- Three NDATA of which the second is lost. -/
def oneLost : List (Reading × Delivery (ghostStream 0 3)) :=
  [(noon, .ours ⟨0, by decide⟩), (noon, .ours ⟨2, by decide⟩)]

theorem loss_detected_of_three : DetectsLoss hostOfLine oneLost := by
  obtain ⟨p, metrics, hp, hseq, hbirth⟩ := birth_of_line
  refine loss_detected freshHost (by decide +kernel) hp hseq hbirth (by decide) ?_
  intro pre now i post heq a hai hwindow hlost
  have hlt : i.val < 3 := i.isLt
  omega

/-- The first message is lost, and 255 DDATA of the ghost arrive. -/
def unnoticed : List (Reading × Delivery (ghostStream 256 257)) :=
  (List.range' 1 255).attach.map fun i =>
    (noon, .ours ⟨i.val, by have := List.mem_range'_1.mp i.property; simp [ghostStream]; omega⟩)

/-- The last of the 257 messages. -/
def lastGhost : Fin (ghostStream 256 257).messages.length := ⟨256, by simp [ghostStream]⟩

theorem indices_unnoticed : indices unnoticed = List.range' 1 255 := by
  rw [unnoticed, indices, List.filterMap_map]
  calc List.filterMap _ (List.range' 1 255).attach
      = List.filterMap (fun i => some i.val) (List.range' 1 255).attach := rfl
    _ = List.range' 1 255 := by rw [List.filterMap_eq_map', List.attach_map_subtype_val]

theorem ghosts_unnoticed : ∀ d ∈ unnoticed,
    NodeMessage.of d.2.message = some (plant, line, .deviceData ghost) := by
  intro d hd
  obtain ⟨i, -, rfl⟩ := List.mem_map.mp hd
  have hi := List.mem_range'_1.mp i.property
  have hmsg : ((ghostStream 256 257).messages.get ⟨i.val, by simp [ghostStream]; omega⟩) =
      ghostMessage 256 i.val := by
    simp [ghostStream]
  show NodeMessage.of ((ghostStream 256 257).messages.get ⟨i.val, _⟩) = _
  rw [hmsg, of_ghostMessage, ghostKind, if_pos (by omega)]

/-- While only the ghost's DDATA arrive, the record of the line does not change. -/
theorem session_of_ghosts {ds : List (Reading × Delivery (ghostStream 256 257))}
    (h : ∀ d ∈ ds, NodeMessage.of d.2.message = some (plant, line, .deviceData ghost)) :
    ((run receive hostOfLine ds).node (key plant line)).session =
      (hostOfLine.node (key plant line)).session := by
  have hall : Always receive (fun _ d => NodeMessage.of d.2.message =
      some (plant, line, .deviceData ghost)) hostOfLine ds := by
    rw [always_iff_split]
    intro pre d post heq
    exact h d (by rw [heq]; simp)
  have hstart : (hostOfLine.node (key plant line)).session.listens (.deviceData ghost) = false := by
    decide +kernel
  refine @run_invariant _ _ _ _ (fun host : HostApplication Recorder =>
    (host.node (key plant line)).session = (hostOfLine.node (key plant line)).session)
    (fun host d hsame hof => ?_) hostOfLine ds rfl hall
  obtain ⟨verdict, after, hturn, hreal⟩ := handleIncoming_turn d.1 host hof
  have hdeaf : (host.node (key plant line)).listens (.deviceData ghost) = false := by
    rw [← hsame] at hstart
    exact hstart
  have hafter : after = host.node (key plant line) := by
    cases hturn with
    | deaf _ _ => rfl
    | unreadable _ _ on _ => exact absurd (hdeaf.symm.trans on) (by decide)
    | malformed _ on _ => exact absurd (hdeaf.symm.trans on) (by decide)
    | gap _ on _ _ => exact absurd (hdeaf.symm.trans on) (by decide)
    | accept _ on _ _ => exact absurd (hdeaf.symm.trans on) (by decide)
  have hnext : ((receive host d).node (key plant line)).session = after.session := hreal.session
  rw [hnext, hafter, hsame]

/-- An NDATA numbered 1 that arrives then is surfaced. -/
theorem surfaced_after_ghosts {ds : List (Reading × Delivery (ghostStream 256 257))}
    (h : ∀ d ∈ ds, NodeMessage.of d.2.message = some (plant, line, .deviceData ghost)) :
    ∃ event, (run receive hostOfLine ds).outcome (noon, ghostMessage 256 256) = .ok event ∧
      event.isSurfaced = true := by
  have hof : NodeMessage.of (ghostMessage 256 256) = some (plant, line, .data) :=
    of_ghostMessage 256 256
  have hsession := session_of_ghosts h
  have honline : ((run receive hostOfLine ds).node (key plant line)).online = true := by
    have hon := congrArg NodeState.online hsession
    simp only [NodeState.session_online] at hon
    rw [hon]
    decide +kernel
  have hexpected : ((run receive hostOfLine ds).node (key plant line)).expectedSeq = 1 := by
    have hexp := congrArg NodeState.expectedSeq hsession
    simp only [NodeState.session_expectedSeq] at hexp
    rw [hexp]
    decide +kernel
  have hreads := decode_encode_bare 1
    (some ((run receive hostOfLine ds).node (key plant line)).aliases)
  obtain ⟨verdict, after, hturn, hreal⟩ :=
    handleIncoming_turn noon (run receive hostOfLine ds) hof
  cases hturn with
  | deaf _ h => exact absurd (h.symm.trans honline) (by decide)
  | unreadable _ data _ _ => exact absurd data (by decide)
  | malformed _ _ h => exact absurd (h.symm.trans hreads) (by simp)
  | gap _ _ h other =>
    obtain rfl := Except.ok.inj (h.symm.trans hreads)
    exact absurd (congrArg some hexpected).symm other
  | accept _ _ h _ => exact ⟨_, hreal.shows, rfl⟩

/-- A contiguous list of positions has no gap. -/
theorem mem_of_split_range' {xs ys : List Nat} {i n : Nat}
    (h : xs ++ i :: ys = List.range' 1 n) : ∀ j, 1 ≤ j → j < i → j ∈ xs := by
  intro j hj hji
  have hsorted : (xs ++ i :: ys).Pairwise (· < ·) := h ▸ List.pairwise_lt_range'
  have hi : i ∈ List.range' 1 n := by rw [← h]; simp
  have hmem : j ∈ xs ++ i :: ys := by
    rw [h, List.mem_range'_1]
    have := List.mem_range'_1.mp hi
    omega
  rw [List.pairwise_append, List.pairwise_cons] at hsorted
  rcases List.mem_append.mp hmem with hx | hy
  · exact hx
  · rcases List.mem_cons.mp hy with rfl | hy
    · exact absurd hji (lt_irrefl _)
    · exact absurd (hsorted.2.1.1 j hy) (by omega)

/-- **A loss goes unnoticed.**  One message is lost, the 255 after it are DDATA of a device that
is not online, and the message after those, an NDATA with the expected number, is surfaced. -/
theorem loss_unnoticed :
    ¬ ∀ (now₀ : Reading) (birth : IncomingMessage) (p : Payload) (metrics : List Metric)
        (s₀ : UInt8) (stream : MessageStream plant line s₀)
        (deliveries : List (Reading × Delivery stream)),
        NodeMessage.of birth = some (plant, line, .birth) →
        decode birth.payload none = .ok p → p.seq = some s₀ →
        freshHost.outcome (now₀, birth) = .ok (.nodeBirth plant.str line.str metrics) →
        (indices deliveries).Pairwise (· < ·) →
        (∀ pre now i post, deliveries = pre ++ (now, Delivery.ours i) :: post →
          ∀ a ≤ i.val, (∀ j, a ≤ j → j < i.val → j ∉ indices pre) → i.val - a < 255) →
        DetectsLoss (freshHost.next (now₀, birth)) deliveries := by
  intro claim
  obtain ⟨p, metrics, hp, hseq, hbirth⟩ := birth_of_line
  obtain ⟨event, hout, hsurf⟩ := surfaced_after_ghosts ghosts_unnoticed
  have hindices : indices (unnoticed ++ [(noon, .ours lastGhost)]) = List.range' 1 256 := by
    rw [indices_append, indices_unnoticed, List.range'_concat (n := 255)]
    rfl
  have hdetects := claim noon _ p metrics 0 (ghostStream 256 257)
    (unnoticed ++ [(noon, .ours lastGhost)]) (by decide +kernel) hp hseq hbirth (by rw [hindices]; exact List.pairwise_lt_range') ?_
  · have hlast : (ghostStream 256 257).messages.get lastGhost = ghostMessage 256 256 := by
      simp [ghostStream, lastGhost]
    have hlost := hdetects unnoticed noon lastGhost [] rfl event (by rw [hlast]; exact hout) hsurf
      0 (by decide)
    rw [indices_unnoticed] at hlost
    exact absurd (List.mem_range'_1.mp hlost).1 (by decide)
  · intro pre now i post heq a hai hmissing
    have hsplit : indices pre ++ i.val :: indices post = List.range' 1 256 := by
      rw [← hindices, heq, indices_append]
      rfl
    by_contra hfar
    exact hmissing (i.val - 1) (by omega) (by omega)
      (mem_of_split_range' hsplit (i.val - 1) (by omega) (by omega))

end SparkplugB
