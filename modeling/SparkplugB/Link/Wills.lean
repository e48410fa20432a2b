/-
# Wills that arrive late

A broker hands out the NDEATH of a connection when it notices the end of the connection: perhaps
after the NBIRTHs of later ones, and once more where the edge has disconnected gracefully.  A host
knows by the bdSeq which session a death is about.

`late_deaths` is about every order in which a host can hear the messages of an edge.  Once the last
NBIRTH it has read is one of connection `j`, the deaths of the 255 connections before are ignored,
and a death of connection `j` itself is surfaced once.
-/
import SparkplugB.Edge.BdSeq
import SparkplugB.Host.Death

namespace SparkplugB

open Past Codec Machine

/-! ## 1. The messages of a connection -/

/-- What the journal of an edge says was given to the broker in connection `i`, counted from 0: the
will, and what was published until the next connection.  The latest comes first. -/
def messagesOf (i : Nat) : List Entry → List OutboundMessage
  | [] => []
  | .connect opts :: past =>
    (if connections past = i then opts.will.toList else []) ++ messagesOf i past
  | .publish message :: past =>
    (if connections past = i + 1 then [message] else []) ++ messagesOf i past
  | _ :: past => messagesOf i past

/-- The message was given to the broker by the entry `e`, as one of connection `i`. -/
inductive Gives (i : Nat) (message : OutboundMessage) : Entry → List Entry → Prop
  | will {opts past} : opts.will = some message → connections past = i →
    Gives i message (.connect opts) past
  | publish {past} : connections past = i + 1 → Gives i message (.publish message) past

theorem gives_of_mem {i : Nat} {message : OutboundMessage} :
    ∀ {log : List Entry}, message ∈ messagesOf i log →
      ∃ later e past, log = later ++ e :: past ∧ Gives i message e past
  | [], h => absurd h List.not_mem_nil
  | e :: past, h => by
    have hrest : message ∈ messagesOf i past →
        ∃ later e' past', e :: past = later ++ e' :: past' ∧ Gives i message e' past' := by
      intro h
      obtain ⟨later, e', past', rfl, hgives⟩ := gives_of_mem h
      exact ⟨e :: later, e', past', rfl, hgives⟩
    cases e with
    | connect opts =>
      rcases List.mem_append.mp h with h | h
      · split at h
        · rename_i hi
          exact ⟨[], _, past, rfl, .will (Option.mem_toList.mp h) hi⟩
        · exact absurd h List.not_mem_nil
      · exact hrest h
    | publish m =>
      rcases List.mem_append.mp h with h | h
      · split at h
        · rename_i hi
          obtain rfl := List.mem_singleton.mp h
          exact ⟨[], _, past, rfl, .publish hi⟩
        · exact absurd h List.not_mem_nil
      · exact hrest h
    | subscribe filter qos => exact hrest h
    | disconnect => exact hrest h
    | handled m => exact hrest h

theorem Gives.mem {i : Nat} {message : OutboundMessage} {e : Entry} {past : List Entry}
    (h : Gives i message e past) : message ∈ e.messages := by
  cases h with
  | will hwill _ => exact Option.mem_toList.mpr hwill
  | publish _ => exact List.mem_singleton_self _

theorem NodeMessage.parse_of {message : IncomingMessage} {group : GroupId} {edge : EdgeNodeId}
    {m : NodeMessage} (h : of message = some (group, edge, m)) :
    SparkplugTopic.parse message.topic = .ok (m.topic group edge) := by
  unfold of at h
  cases hparse : SparkplugTopic.parse message.topic with
  | error e =>
    rw [hparse] at h
    exact absurd h (by simp)
  | ok topic =>
    rw [hparse] at h
    cases topic with
    | hostState id => exact absurd h (by simp [ofTopic])
    | node g e ty =>
      cases ty <;> simp only [ofTopic, Option.some.injEq, Prod.mk.injEq, reduceCtorEq] at h
      all_goals
        obtain ⟨rfl, rfl, rfl⟩ := h
        rfl
    | device g e d ty =>
      cases ty <;> simp only [ofTopic, Option.some.injEq, Prod.mk.injEq, reduceCtorEq] at h
      all_goals
        obtain ⟨rfl, rfl, rfl⟩ := h
        rfl

theorem mark_of_birth {message : OutboundMessage} {group : GroupId} {edge : EdgeNodeId}
    (h : NodeMessage.of message.delivered = some (group, edge, .birth)) :
    message.mark = .node .nBirth := by
  have hparse : SparkplugTopic.parse message.topic = .ok (.node group edge .nBirth) :=
    NodeMessage.parse_of h
  unfold OutboundMessage.mark
  rw [hparse]

theorem mark_of_death {message : OutboundMessage} {group : GroupId} {edge : EdgeNodeId}
    (h : NodeMessage.of message.delivered = some (group, edge, .death)) :
    message.mark = .node .nDeath := by
  have hparse : SparkplugTopic.parse message.topic = .ok (.node group edge .nDeath) :=
    NodeMessage.parse_of h
  unfold OutboundMessage.mark
  rw [hparse]

/-! ## 2. What the births and deaths of a connection carry -/

/-- A message that a host can read, unless it is longer than a buffer can be. -/
def OutboundMessage.Readable (message : OutboundMessage) : Prop :=
  message.payload.length < 2 ^ 63 → ∃ p, decode message.payload none = .ok p

/-- A death, registered or published, can be read. -/
def DeathReadable (e : Entry) (_ : List Entry) : Prop :=
  (∀ opts, e = .connect opts → ∀ will, opts.will = some will → will.Readable) ∧
  ∀ message, e = .publish message → message.mark = .node .nDeath → message.Readable

theorem EdgeNode.readable_ndeath {S : Type} (node : EdgeNode Recorder S) (ts : UInt64) :
    (node.ndeathMessage ts).Readable := by
  intro hlen
  refine ⟨node.ndeathPayload ts, decode_birth ?_ ?_ hlen none⟩
  · intro m hm
    obtain rfl := List.mem_singleton.mp hm
    exact ⟨trivial, trivial⟩
  · exact Nat.zero_le _

namespace Observed

variable {S : Type} [BdSeqStore S]

/-- Every elementary step of the edge keeps its deaths readable. -/
theorem steady_deathReadable (ok : UInt8 → DataSource → Prop) :
    Steady (fun s : Observed S => Throughout DeathReadable s.engine.transport.log) ok where
  tick h := h
  fields f passive h := by
    rename_i s
    obtain ⟨-, htransport, -, -, -⟩ := passive s.engine
    have hlog : (s.update f).engine.transport.log = s.engine.transport.log :=
      congrArg Recorder.log htransport
    rw [hlog]
    exact h
  subscribe filter h := .cons ⟨by simp, by simp⟩ h
  handled message h := .cons ⟨by simp, by simp⟩ h
  disconnect h := .cons ⟨by simp, by simp⟩ h
  storeFails store bdSeq fails h := h
  connect load save h := by
    refine .cons ⟨fun opts heq will hwill => ?_, by simp⟩ h
    obtain rfl := Entry.connect.inj heq
    obtain rfl := Option.some.inj hwill
    exact EdgeNode.readable_ndeath _ _
  nodeBirth ok h := by
    rename_i s source
    refine .cons ⟨by simp, fun message heq hmark => ?_⟩ h
    obtain rfl := Entry.publish.inj heq
    have hbirth := EdgeNode.mark_node s.engine.resetForBirth (t := .nBirth)
      (m := s.engine.resetForBirth.nodeBirthMessage source s.ms) rfl ⟨rfl, by decide⟩
    exact absurd (hbirth.symm.trans hmark) (by decide)
  deviceBirth source device h := by
    rename_i s
    refine .cons ⟨by simp, fun message heq hmark => ?_⟩ h
    obtain rfl := Entry.publish.inj heq
    have hbirth := EdgeNode.mark_device s.engine
      (m := s.engine.deviceBirthMessage source device s.ms) rfl rfl
    exact absurd (hbirth.symm.trans hmark) (by simp)
  nodeDeath h := by
    refine .cons ⟨by simp, fun message heq hmark => ?_⟩ h
    obtain rfl := Entry.publish.inj heq
    exact EdgeNode.readable_ndeath _ _
  nodeData metrics h := by
    rename_i s
    refine .cons ⟨by simp, fun message heq hmark => ?_⟩ h
    obtain rfl := Entry.publish.inj heq
    have hdata := EdgeNode.mark_node s.engine (t := .nData)
      (m := s.engine.dataMessage (s.engine.nodeTopic .nData) metrics s.ms) rfl ⟨rfl, by decide⟩
    exact absurd (hdata.symm.trans hmark) (by decide)
  deviceData device metrics h := by
    rename_i s
    refine .cons ⟨by simp, fun message heq hmark => ?_⟩ h
    obtain rfl := Entry.publish.inj heq
    have hdata := EdgeNode.mark_device s.engine (t := .dData)
      (m := s.engine.dataMessage (s.engine.deviceTopic device .dData) metrics s.ms) rfl rfl
    exact absurd (hdata.symm.trans hmark) (by simp)
  deviceDeath device h := by
    rename_i s
    refine .cons ⟨by simp, fun message heq hmark => ?_⟩ h
    obtain rfl := Entry.publish.inj heq
    have hdeath := EdgeNode.mark_device s.engine
      (m := s.engine.deviceDeathMessage device s.ms) rfl rfl
    exact absurd (hdeath.symm.trans hmark) (by simp)

end Observed

/-- The births and deaths of connection `i` carry its number. -/
theorem carriesBdSeq_of_mem {b₀ : UInt8} {log : List Entry} (h : Throughout (Agrees b₀) log)
    {i : Nat} {message : OutboundMessage} (hmem : message ∈ messagesOf i log)
    (hmark : message.mark = .node .nBirth ∨ message.mark = .node .nDeath) :
    CarriesBdSeq message.payload (b₀ + UInt8.ofNat i) := by
  obtain ⟨later, e, past, heq, hgives⟩ := gives_of_mem hmem
  have hentry := throughout_iff_split.mp h later e past heq
  cases hgives with
  | will hwill hi =>
    obtain ⟨will, hwill', -, hcarries⟩ := hentry.1 _ rfl
    obtain rfl := Option.some.inj (hwill'.symm.trans hwill)
    rwa [hi] at hcarries
  | publish hi => exact hentry.2 message rfl hmark i hi

theorem readable_of_mem {log : List Entry} (h : Throughout DeathReadable log) {i : Nat}
    {message : OutboundMessage} (hmem : message ∈ messagesOf i log)
    (hmark : message.mark = .node .nDeath) : message.Readable := by
  obtain ⟨later, e, past, heq, hgives⟩ := gives_of_mem hmem
  have hentry := throughout_iff_split.mp h later e past heq
  cases hgives with
  | will hwill _ => exact hentry.1 _ rfl message hwill
  | publish _ => exact hentry.2 message rfl hmark

/-- Fewer than 256 connections apart, the numbers differ. -/
theorem bdSeq_ne {b₀ : UInt8} {i j : Nat} (hij : i < j) (hnear : j - i < 256) :
    Int64.ofNat (b₀ + UInt8.ofNat i).toNat ≠ Int64.ofNat (b₀ + UInt8.ofNat j).toNat := by
  intro h
  have hnat : (b₀ + UInt8.ofNat i).toNat = (b₀ + UInt8.ofNat j).toNat := by
    have hi := (b₀ + UInt8.ofNat i).toNat_lt
    have hj := (b₀ + UInt8.ofNat j).toNat_lt
    have h := congrArg Int64.toInt h
    rw [Int64.toInt_ofNat_of_lt (by omega), Int64.toInt_ofNat_of_lt (by omega)] at h
    omega
  rw [UInt8.toNat_add, UInt8.toNat_add, UInt8.toNat_ofNat', UInt8.toNat_ofNat'] at hnat
  omega

/-! ## 3. What a host makes of them -/

namespace Turn

variable {now : Reading} {group : GroupId} {edge : EdgeNodeId} {node after : NodeState}
  {bytes : Bytes} {m : NodeMessage} {verdict : Verdict}

/-- Only an NBIRTH sets the bdSeq of a record. -/
theorem bdSeq_eq (h : Turn now group edge node bytes m verdict after) (hm : m ≠ .birth) :
    after.bdSeq = node.bdSeq := by
  cases h with
  | birthUnreadable _ => rfl
  | birth _ _ => exact absurd rfl hm
  | birthAmbiguous _ _ => exact absurd rfl hm
  | deathUnreadable _ => rfl
  | death _ _ _ _ => rfl
  | deathStale _ _ => rfl
  | deaf _ _ => rfl
  | unreadable _ _ _ _ => rfl
  | malformed _ _ _ => rfl
  | gap _ _ _ _ => rfl
  | accept _ _ _ _ => exact node.accepted_bdSeq _ _

/-- Only an NBIRTH puts a node online. -/
theorem online_eq_false (h : Turn now group edge node bytes m verdict after) (hm : m ≠ .birth)
    (hoff : node.online = false) : after.online = false := by
  cases h with
  | birthUnreadable _ => exact hoff
  | birth _ _ => exact absurd rfl hm
  | birthAmbiguous _ _ => exact absurd rfl hm
  | deathUnreadable _ => exact hoff
  | death _ _ _ _ => rfl
  | deathStale _ _ => exact hoff
  | deaf _ _ => exact hoff
  | unreadable _ _ _ _ => exact hoff
  | malformed _ _ _ => rfl
  | gap _ _ _ _ => rfl
  | accept _ _ _ _ => exact (node.accepted_online _ _).trans hoff

end Turn

namespace HostApplication

variable {T : Type} [MqttTransport T] {group : GroupId} {edge : EdgeNodeId}

/-- A death that is not honoured leaves the whole host as it was. -/
theorem next_of_stale (host : HostApplication T) {now : Reading} {death : IncomingMessage}
    {p : Payload} (hof : NodeMessage.of death = some (group, edge, .death))
    (hdec : decode death.payload none = .ok p)
    (hstale : ¬ ((host.node (key group edge)).online = true ∧
      (host.node (key group edge)).bdSeq.isSome = true ∧
      (host.node (key group edge)).bdSeq = bdseqOf p)) :
    host.outcome (now, death) = .ok .ignored ∧ host.next (now, death) = host := by
  have hrun : (handleIncoming now death).run host = .ok .ignored host := by
    unfold handleIncoming
    rw [NodeMessage.parse_of hof, EStateM.bind_ok (EStateM.run_liftExcept_ok _ _)]
    show (onNodeDeath now group edge death.payload).run host = _
    unfold onNodeDeath
    rw [hdec, EStateM.bind_ok (EStateM.run_liftExcept_ok _ _), EStateM.bind_ok (EStateM.run_get _)]
    cases hnode : host.nodes[key group edge]? with
    | none => rfl
    | some node =>
      have hsame : host.node (key group edge) = node := by
        rw [HostApplication.node, hnode]
        rfl
      rw [hsame] at hstale
      simp only [if_neg hstale]
      rfl
  unfold outcome next
  rw [hrun]
  exact ⟨rfl, rfl⟩

/-- Every NBIRTH of the node that can be read carries `b`. -/
def BirthCarries (group : GroupId) (edge : EdgeNodeId) (b : Int64)
    (input : Reading × IncomingMessage) : Prop :=
  NodeMessage.of input.2 = some (group, edge, .birth) →
    ∀ p, decode input.2.payload none = .ok p → bdseqOf p = some b

/-- The record keeps its bdSeq, as long as the NBIRTHs that are read carry it. -/
theorem bdSeq_next (host : HostApplication T) {input : Reading × IncomingMessage} {b : Int64}
    (hinput : BirthCarries group edge b input)
    (h : (host.node (key group edge)).bdSeq = some b) :
    ((host.next input).node (key group edge)).bdSeq = some b := by
  by_cases hof : ∃ m, NodeMessage.of input.2 = some (group, edge, m)
  · obtain ⟨m, hof⟩ := hof
    obtain ⟨verdict, after, hturn, hreal⟩ := handleIncoming_turn input.1 host hof
    have hbdSeq : ((host.next input).node (key group edge)).bdSeq = after.bdSeq :=
      hreal.same NodeState.bdSeq fun _ => rfl
    rw [hbdSeq]
    by_cases hbirth : m = .birth
    · subst hbirth
      cases hdec : decode input.2.payload none with
      | error e =>
        obtain ⟨-, rfl⟩ := hturn.of_birth_error hdec
        exact h
      | ok p =>
        obtain ⟨rfl, -⟩ := hturn.of_birth hdec
        exact hinput hof p hdec
    · rw [hturn.bdSeq_eq hbirth]
      exact h
  · rw [node_next_elsewhere host fun m hm => hof ⟨m, hm⟩]
    exact h

/-- A record that is offline stays so until the next NBIRTH. -/
theorem offline_next (host : HostApplication T) {input : Reading × IncomingMessage}
    (hinput : NodeMessage.of input.2 ≠ some (group, edge, .birth))
    (h : (host.node (key group edge)).online = false) :
    ((host.next input).node (key group edge)).online = false := by
  by_cases hof : ∃ m, NodeMessage.of input.2 = some (group, edge, m)
  · obtain ⟨m, hof⟩ := hof
    obtain ⟨verdict, after, hturn, hreal⟩ := handleIncoming_turn input.1 host hof
    have honline : ((host.next input).node (key group edge)).online = after.online :=
      hreal.same NodeState.online fun _ => rfl
    rw [honline]
    refine hturn.online_eq_false ?_ h
    rintro rfl
    exact hinput hof
  · rw [node_next_elsewhere host fun m hm => hof ⟨m, hm⟩]
    exact h

theorem offline_run : ∀ (inputs : List (Reading × IncomingMessage)) (host : HostApplication T),
    (∀ input ∈ inputs, NodeMessage.of input.2 ≠ some (group, edge, .birth)) →
    (host.node (key group edge)).online = false →
    ((run next host inputs).node (key group edge)).online = false
  | [], _, _, hoff => hoff
  | input :: rest, host, hinputs, hoff =>
    offline_run rest (host.next input) (fun later h => hinputs later (List.mem_cons_of_mem input h))
      (offline_next host (hinputs input List.mem_cons_self) hoff)

/-- A death that is surfaced leaves the record offline. -/
theorem offline_of_surfacesDeath (host : HostApplication T) {now : Reading}
    {death : IncomingMessage} {p : Payload}
    (hof : NodeMessage.of death = some (group, edge, .death))
    (hdec : decode death.payload none = .ok p)
    (hsurfaces : SurfacesDeath group edge host (now, death)) :
    ((host.next (now, death)).node (key group edge)).online = false := by
  obtain ⟨verdict, after, hturn, hreal⟩ := handleIncoming_turn now host hof
  have honline : ((host.next (now, death)).node (key group edge)).online = after.online :=
    hreal.same NodeState.online fun _ => rfl
  rw [honline]
  have hhonoured := (surfacesDeath_iff host hof hdec).mp hsurfaces
  rcases hturn.of_death hdec with ⟨-, rfl, -⟩ | ⟨hstale, -, -⟩
  · rfl
  · exact absurd hhonoured hstale

end HostApplication

/-! ## 4. Every order of delivery -/

/-- No source supplies a bdSeq metric, which would stand in the NBIRTH in place of the edge's
own. -/
def NoBdSeq (actions : List Action) : Prop :=
  ∀ a ∈ actions, ∀ source, a.source? = some source →
    ∀ m ∈ source.nodeBirthMetrics, m.name ≠ some BDSEQ_METRIC_NAME

theorem NoBdSeq.sourcesFit {S : Type} [BdSeqStore S] {actions : List Action}
    (h : NoBdSeq actions) {s : Observed S} :
    Always Observed.perform Observed.SourcesFit s actions := by
  rw [always_iff_split]
  intro pre a post heq source bdSeq hbirths hany
  have hsource : a.source? = some source := by
    cases a with
    | connect src => rw [← hbirths.1]; rfl
    | publishBirthSequence src => rw [← hbirths.1]; rfl
    | handleIncoming message src => rw [← hbirths.1]; rfl
    | _ => exact hbirths.elim
  obtain ⟨m, hm, hname⟩ := List.any_eq_true.mp hany
  exact absurd (of_decide_eq_true hname) (h a (by rw [heq]; simp) source hsource m hm)

theorem Sized.of_mem {log : List Entry} (h : Sized log) {i : Nat} {message : OutboundMessage}
    (hmem : message ∈ messagesOf i log) : message.payload.length < 2 ^ 63 := by
  obtain ⟨later, e, past, rfl, hgives⟩ := gives_of_mem hmem
  exact h e (by simp) message hgives.mem

/-- Among the inputs is the NBIRTH `birth` of connection `j`, and behind it no NBIRTH of another
connection: the host hears of connection `j` last. -/
def HeardBirth (group : GroupId) (edge : EdgeNodeId) (log : List Entry) (j : Nat)
    (birth : OutboundMessage) (inputs : List (Reading × IncomingMessage)) : Prop :=
  birth ∈ messagesOf j log ∧ NodeMessage.of birth.delivered = some (group, edge, .birth) ∧
    ∃ before now mid, inputs = before ++ (now, birth.delivered) :: mid ∧
      ∀ input ∈ mid, NodeMessage.of input.2 = some (group, edge, .birth) →
        ∃ m ∈ messagesOf j log, m.delivered = input.2

/-- The deaths of connection `i`: its will, and the NDEATH of a `disconnect`. -/
def DeathOf (group : GroupId) (edge : EdgeNodeId) (log : List Entry) (i : Nat)
    (death : OutboundMessage) : Prop :=
  death ∈ messagesOf i log ∧ NodeMessage.of death.delivered = some (group, edge, .death)

section Journal

variable {S : Type} [BdSeqStore S] [LawfulBdSeqStore S] {config : EdgeNodeConfig} {store : S}
  {clock : Clock} {actions : List Action} {group : GroupId} {edge : EdgeNodeId} {i : Nat}

/-- A birth or death of connection `i` carries its number. -/
theorem carriesBdSeq_journal (hsource : NoBdSeq actions) {message : OutboundMessage}
    (hmem : message ∈ messagesOf i (journal config store clock actions))
    (hmark : message.mark = .node .nBirth ∨ message.mark = .node .nDeath) :
    CarriesBdSeq message.payload (LawfulBdSeqStore.next store + UInt8.ofNat i) :=
  carriesBdSeq_of_mem (Observed.steady_agreeing.run _ actions hsource.sourcesFit
    (Observed.agreeing_start config store clock)).agrees hmem hmark

/-- What a host reads of a death. -/
theorem exists_decode_death (hsource : NoBdSeq actions)
    (hsized : Sized (journal config store clock actions)) {death : OutboundMessage}
    (hdeath : DeathOf group edge (journal config store clock actions) i death) :
    ∃ p, decode death.delivered.payload none = .ok p ∧
      bdseqOf p = some (Int64.ofNat (LawfulBdSeqStore.next store + UInt8.ofNat i).toNat) := by
  have hreadable : Throughout DeathReadable (journal config store clock actions) :=
    (Observed.steady_deathReadable fun _ _ => True).run _ actions
      (always_of_forall (fun _ _ _ _ _ => trivial) _ _) .nil
  have hmark := mark_of_death hdeath.2
  have hlen := hsized.of_mem hdeath.1
  obtain ⟨p, hp⟩ := readable_of_mem hreadable hdeath.1 hmark hlen
  exact ⟨p, hp, (carriesBdSeq_journal hsource hdeath.1 (.inr hmark)).read hlen p hp⟩

/-- What a host reads of an NBIRTH, if it can. -/
theorem birthCarries_journal (hsource : NoBdSeq actions)
    (hsized : Sized (journal config store clock actions)) {birth : OutboundMessage}
    (hmem : birth ∈ messagesOf i (journal config store clock actions)) (now : Reading) :
    HostApplication.BirthCarries group edge
      (Int64.ofNat (LawfulBdSeqStore.next store + UInt8.ofNat i).toNat) (now, birth.delivered) := by
  intro hof p hp
  exact (carriesBdSeq_journal hsource hmem (.inl (mark_of_birth hof))).read (hsized.of_mem hmem) p hp

end Journal

namespace HostApplication

variable {T S : Type} [MqttTransport T] [BdSeqStore S] [LawfulBdSeqStore S]
  {config : EdgeNodeConfig} {store : S} {clock : Clock} {actions : List Action} {group : GroupId}
  {edge : EdgeNodeId} {j : Nat}

/-- The bdSeq of the record, once an NBIRTH of connection `j` was the last one. -/
theorem bdSeq_of_heardBirth (hsource : NoBdSeq actions)
    (hsized : Sized (journal config store clock actions)) {birth : OutboundMessage}
    {inputs : List (Reading × IncomingMessage)}
    (hheard : HeardBirth group edge (journal config store clock actions) j birth inputs)
    (hread : ∃ p, decode birth.payload none = .ok p) (host : HostApplication T) :
    ((run next host inputs).node (key group edge)).bdSeq =
      some (Int64.ofNat (LawfulBdSeqStore.next store + UInt8.ofNat j).toNat) := by
  obtain ⟨hmem, hof, before, now, mid, rfl, hmid⟩ := hheard
  obtain ⟨p, hp⟩ := hread
  rw [run_append, run_cons]
  -- the NBIRTH sets the number, and no NBIRTH behind it sets another
  have hset : (((run next host before).next (now, birth.delivered)).node (key group edge)).bdSeq =
      some (Int64.ofNat (LawfulBdSeqStore.next store + UInt8.ofNat j).toNat) := by
    obtain ⟨verdict, after, hturn, hreal⟩ := handleIncoming_turn now (run next host before) hof
    obtain ⟨rfl, -⟩ := hturn.of_birth hp
    have hbdSeq : (((run next host before).next (now, birth.delivered)).node
        (key group edge)).bdSeq = bdseqOf p :=
      hreal.same NodeState.bdSeq fun _ => rfl
    rw [hbdSeq]
    exact birthCarries_journal hsource hsized hmem now hof p hp
  refine run_invariant (P := fun _ => BirthCarries group edge _)
    (fun host input hbdSeq hinput => bdSeq_next host hinput hbdSeq) _ mid hset ?_
  rw [always_iff_split]
  rintro pre ⟨now', message⟩ post rfl hbirth
  obtain ⟨m, hm, rfl⟩ := hmid (now', message) (by simp) hbirth
  exact birthCarries_journal hsource hsized hm now' hbirth

/-- **Late deaths.**  Of the deaths a host hears after an NBIRTH of connection `j`, with no NBIRTH
of another connection in between, those of the 255 connections before are ignored and leave the
record as it is, and those of connection `j` are surfaced while the node is online, once.  The host
could read the NBIRTH (`hread`); one it cannot read tells it no bdSeq.  The inputs may be in any
order and of any nodes. -/
theorem late_deaths (config : EdgeNodeConfig) (store : S) (clock : Clock) (actions : List Action)
    (hsource : NoBdSeq actions) (hsized : Sized (journal config store clock actions))
    (group : GroupId) (edge : EdgeNodeId) (j : Nat) (birth : OutboundMessage)
    (inputs : List (Reading × IncomingMessage))
    (hheard : HeardBirth group edge (journal config store clock actions) j birth inputs)
    (hread : ∃ p, decode birth.payload none = .ok p) (host : HostApplication T) :
    (∀ i death, i < j → j - i < 256 →
      DeathOf group edge (journal config store clock actions) i death → ∀ now,
        (run next host inputs).outcome (now, death.delivered) = .ok .ignored ∧
          ((run next host inputs).next (now, death.delivered)).node (key group edge) =
            (run next host inputs).node (key group edge)) ∧
    (((run next host inputs).node (key group edge)).online = true → ∀ death,
      DeathOf group edge (journal config store clock actions) j death → ∀ now,
        SurfacesDeath group edge (run next host inputs) (now, death.delivered) ∧
          ∀ rest : List (Reading × IncomingMessage),
            (∀ input ∈ rest, NodeMessage.of input.2 ≠ some (group, edge, .birth)) → ∀ copy,
              DeathOf group edge (journal config store clock actions) j copy → ∀ now',
                (run next ((run next host inputs).next (now, death.delivered)) rest).outcome
                  (now', copy.delivered) = .ok .ignored) := by
  have hbdSeq := bdSeq_of_heardBirth hsource hsized hheard hread host
  constructor
  · intro i death hij hnear hdeath now
    obtain ⟨q, hq, hnumber⟩ := exists_decode_death hsource hsized hdeath
    obtain ⟨hignored, hsame⟩ := next_of_stale (run next host inputs) hdeath.2 hq
      (by
        rintro ⟨-, -, hequal⟩
        rw [hbdSeq, hnumber] at hequal
        exact bdSeq_ne hij hnear (Option.some.inj hequal).symm)
    exact ⟨hignored, by rw [hsame]⟩
  · intro honline death hdeath now
    obtain ⟨q, hq, hnumber⟩ := exists_decode_death hsource hsized hdeath
    have hsurfaces : SurfacesDeath group edge (run next host inputs) (now, death.delivered) := by
      refine (surfacesDeath_iff _ hdeath.2 hq).mpr ⟨honline, ?_, ?_⟩
      · rw [hbdSeq]
        rfl
      · rw [hbdSeq, hnumber]
    refine ⟨hsurfaces, fun rest hrest copy hcopy now' => ?_⟩
    have hoff := offline_of_surfacesDeath (run next host inputs) hdeath.2 hq hsurfaces
    have hstays := offline_run rest _ hrest hoff
    obtain ⟨q', hq', -⟩ := exists_decode_death hsource hsized hcopy
    refine (next_of_stale _ hcopy.2 hq' ?_).1
    rintro ⟨hon, -, -⟩
    exact absurd (hstays.symm.trans hon) (by decide)

/-- The `k`-th message of connection `i`, the latest first. -/
def messageAt (log : List Entry) (i k : Nat) : OutboundMessage :=
  (messagesOf i log)[k]?.getD ⟨"", .atMostOnce, false, []⟩

/-- A line that loses its connection and connects once more. -/
def reconnected : List Action := [.connect silent, .connect silent]

def reconnectedLog : List Entry := journal pumpLine (⟨0⟩ : InMemoryBdSeqStore) stopped reconnected

/-- The host of the line hears both NBIRTHs. -/
def reconnectedHeard : List (Reading × IncomingMessage) :=
  [(noon, (messageAt reconnectedLog 0 1).delivered), (noon, (messageAt reconnectedLog 1 1).delivered)]

theorem reconnected_noBdSeq : NoBdSeq reconnected := by
  have hsilent : ∀ a ∈ reconnected, a.source? = some silent := by
    simp [reconnected, Action.source?]
  intro a ha source hsource m hm
  obtain rfl := Option.some.inj ((hsilent a ha).symm.trans hsource)
  exact absurd hm List.not_mem_nil

theorem reconnected_heardBirth :
    HeardBirth plant line reconnectedLog 1 (messageAt reconnectedLog 1 1) reconnectedHeard :=
  ⟨by decide +kernel, by decide +kernel, [(noon, (messageAt reconnectedLog 0 1).delivered)], noon, [],
    rfl, fun _ h => absurd h List.not_mem_nil⟩

/-- The will of the lost connection comes late, that of the present one is surfaced. -/
theorem late_deaths_reconnected :
    (run next freshHost reconnectedHeard).outcome
        (noon, (messageAt reconnectedLog 0 2).delivered) = .ok .ignored ∧
      SurfacesDeath plant line (run next freshHost reconnectedHeard)
        (noon, (messageAt reconnectedLog 1 2).delivered) := by
  obtain ⟨hlate, hpresent⟩ := late_deaths pumpLine (⟨0⟩ : InMemoryBdSeqStore) stopped reconnected
    reconnected_noBdSeq (by decide +kernel) plant line 1 (messageAt reconnectedLog 1 1)
    reconnectedHeard reconnected_heardBirth (exists_of_isOk (by decide +kernel)) freshHost
  have hold : DeathOf plant line reconnectedLog 0 (messageAt reconnectedLog 0 2) :=
    ⟨by decide +kernel, by decide +kernel⟩
  have hnew : DeathOf plant line reconnectedLog 1 (messageAt reconnectedLog 1 2) :=
    ⟨by decide +kernel, by decide +kernel⟩
  exact ⟨(hlate 0 _ (by decide) (by decide) hold noon).1,
    (hpresent (by decide +kernel) _ hnew noon).1⟩

/-- A template whose parameter has a value of another datatype than its own. -/
def garbled : DataSource :=
  ⟨[Metric.new "pump" (.template { parameters := [⟨"rpm", .int32, some (.string "fast")⟩] })],
    fun _ => []⟩

def garbledActions : List Action := [.connect silent, .connect garbled]

def garbledLog : List Entry := journal pumpLine (⟨0⟩ : InMemoryBdSeqStore) stopped garbledActions

def garbledHeard : List (Reading × IncomingMessage) :=
  [(noon, (messageAt garbledLog 0 1).delivered), (noon, (messageAt garbledLog 1 1).delivered)]

/-- **An NBIRTH that cannot be read.**  The host has handled the NBIRTH of the new connection, with
an error, and still surfaces the death of the old one: it was never in the new session. -/
theorem late_death_honoured :
    ¬ ∀ (actions : List Action) (birth : OutboundMessage)
        (inputs : List (Reading × IncomingMessage)) (i j : Nat) (death : OutboundMessage)
        (now : Reading), NoBdSeq actions →
        Sized (journal pumpLine (⟨0⟩ : InMemoryBdSeqStore) stopped actions) →
        HeardBirth plant line (journal pumpLine (⟨0⟩ : InMemoryBdSeqStore) stopped actions) j birth
          inputs → i < j → j - i < 256 →
        DeathOf plant line (journal pumpLine (⟨0⟩ : InMemoryBdSeqStore) stopped actions) i death →
        (run next freshHost inputs).outcome (now, death.delivered) = .ok .ignored := by
  intro claim
  have hsource : NoBdSeq garbledActions := by
    intro a ha source hsource m hm
    have hpump : ∀ source, source = silent ∨ source = garbled →
        ∀ m ∈ source.nodeBirthMetrics, m.name ≠ some BDSEQ_METRIC_NAME := by
      rintro source (rfl | rfl) <;> decide
    refine hpump source ?_ m hm
    rcases List.mem_cons.mp ha with rfl | ha
    · exact .inl (Option.some.inj hsource).symm
    · obtain rfl := List.mem_singleton.mp ha
      exact .inr (Option.some.inj hsource).symm
  have hheard : HeardBirth plant line garbledLog 1 (messageAt garbledLog 1 1) garbledHeard :=
    ⟨by decide +kernel, by decide +kernel, [(noon, (messageAt garbledLog 0 1).delivered)], noon, [],
      rfl, fun _ h => absurd h List.not_mem_nil⟩
  have hignored := claim garbledActions (messageAt garbledLog 1 1) garbledHeard 0 1
    (messageAt garbledLog 0 2) noon hsource (by decide +kernel) hheard (by decide) (by decide)
    ⟨by decide +kernel, by decide +kernel⟩
  have hsurfaces : SurfacesDeath plant line (run next freshHost garbledHeard)
      (noon, (messageAt garbledLog 0 2).delivered) := by decide +kernel
  obtain ⟨ts, devices, hdeath⟩ := hsurfaces
  exact absurd (hignored.symm.trans hdeath) (by simp)

end HostApplication

end SparkplugB
