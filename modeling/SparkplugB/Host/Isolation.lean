/-
# Edge nodes do not interfere

All nodes share one map, under keys joined from two ids.  A handler reads the configuration and the
record under its own key (`handleIncoming_alike`), and writes no other record
(`handleIncoming_moves`); unwinding a run with these two facts leaves what one node's messages
alone would have done.
-/
import SparkplugB.Host.Death
import SparkplugB.Lib.Frame

namespace SparkplugB

open Machine EStateM

/-- Every publish succeeds.  The answers of a transport that refuses some may depend on what was
published for other nodes. -/
def MqttTransport.Publishes (T : Type) [MqttTransport T] : Prop :=
  ∀ (message : OutboundMessage) (t : T), ∃ t', (MqttTransport.publish message).run t = .ok () t'

theorem Recorder.publishes : MqttTransport.Publishes Recorder := fun _ _ => ⟨_, rfl⟩

namespace HostApplication

variable {T : Type}

/-- The two hosts have one configuration, and one record under `k`; their transports and other
records may differ. -/
structure SameAt (k : String) (host host' : HostApplication T) : Prop where
  config : host.config = host'.config
  record : host.nodes[k]? = host'.nodes[k]?

namespace SameAt

variable {k k' : String} {host host' host'' : HostApplication T}

theorem refl (k : String) (host : HostApplication T) : SameAt k host host := ⟨rfl, rfl⟩

theorem trans (h : SameAt k host host') (h' : SameAt k host' host'') : SameAt k host host'' :=
  ⟨h.config.trans h'.config, h.record.trans h'.record⟩

theorem symm (h : SameAt k host host') : SameAt k host' host := ⟨h.config.symm, h.record.symm⟩

instance (k : String) : IsPreorder (HostApplication T) (SameAt k) where
  refl := SameAt.refl k
  trans _ _ _ := SameAt.trans

theorem node (h : SameAt k host host') : host.node k = host'.node k := by
  rw [HostApplication.node, h.record, HostApplication.node]

theorem putNode (h : SameAt k host host') (node : NodeState) :
    SameAt k (host.putNode k node) (host'.putNode k node) where
  config := h.config
  record := by
    rw [HostApplication.putNode, HostApplication.putNode, Std.ExtTreeMap.getElem?_insert,
      Std.ExtTreeMap.getElem?_insert]
    simp

/-- The transport is not looked at. -/
theorem onTransport (h : SameAt k host host') (t t' : T) :
    SameAt k { host with transport := t } { host' with transport := t' } := ⟨h.config, h.record⟩

theorem putNode_of_ne (host : HostApplication T) (hk : k' ≠ k) (node : NodeState) :
    SameAt k host (host.putNode k' node) where
  config := rfl
  record := by
    rw [HostApplication.putNode, Std.ExtTreeMap.getElem?_insert, if_neg (by simpa using hk)]

end SameAt

variable [MqttTransport T] {now : Reading} {group : GroupId} {edge : EdgeNodeId} {k : String}

/-! ## 1. What a handler reads -/

theorem publishRaw_alike (publishes : MqttTransport.Publishes T) (topic : String)
    (payload : Bytes) :
    EStateM.Alike (SameAt k) (publishRaw (T := T) topic payload) (publishRaw topic payload) := by
  intro host host' h
  obtain ⟨t, ht⟩ := publishes ⟨topic, .atMostOnce, false, payload⟩ host.transport
  obtain ⟨t', ht'⟩ := publishes ⟨topic, .atMostOnce, false, payload⟩ host'.transport
  rw [publishRaw, HostApplication.onTransport, EStateM.run_focus_ok _ _ ht,
    EStateM.run_focus_ok _ _ ht']
  exact .ok () (h.onTransport t t')

theorem rebirth_alike (publishes : MqttTransport.Publishes T) (now : Reading) :
    EStateM.Alike (SameAt (key group edge)) (rebirth (T := T) now group edge)
      (rebirth now group edge) := by
  refine EStateM.alike_get_bind fun host host' h => ?_
  rw [h.node, h.config]
  rcases ((host'.node (key group edge)).takeRebirthSlot host'.config.rebirthDebounce
    now.instant) with ⟨allowed, node⟩
  cases allowed with
  | false => exact .ok _ (h.putNode node)
  | true =>
    have hsend : EStateM.Alike (SameAt (key group edge))
        (sendRebirth (T := T) now group edge >>= fun _ =>
          pure (HostEvent.rebirthRequested group.str edge.str))
        (sendRebirth now group edge >>= fun _ =>
          pure (HostEvent.rebirthRequested group.str edge.str)) :=
      (publishRaw_alike publishes _ _).bind fun _ => EStateM.alike_pure _
    exact hsend _ _ (h.putNode node)

theorem finish_alike (publishes : MqttTransport.Publishes T) (now : Reading) (step : Step) :
    EStateM.Alike (SameAt (key group edge)) (finish (T := T) now group edge step)
      (finish now group edge step) := by
  cases step with
  | event e => exact EStateM.alike_pure e
  | rebirth => exact rebirth_alike publishes now

omit [MqttTransport T] in
theorem whenReady_alike (ready : NodeState → Bool) (body : NodeM Step) :
    EStateM.Alike (SameAt k) (whenReady (T := T) ready k body) (whenReady ready k body) := by
  refine EStateM.alike_get_bind fun host host' h => ?_
  rw [h.record]
  cases host'.nodes[k]? with
  | none => exact .ok _ h
  | some node =>
    dsimp only
    by_cases hready : ready node = true
    · rw [if_pos hready]
      cases hbody : body.run node with
      | ok step node' =>
        rw [EStateM.run_focus_ok (fun _ => node) (fun n (host : HostApplication T) => host.putNode k n)
          (s := host) hbody, EStateM.run_focus_ok (fun _ => node)
          (fun n (host : HostApplication T) => host.putNode k n) (s := host') hbody]
        exact .ok step (h.putNode node')
      | error e node' =>
        rw [EStateM.run_focus_error (fun _ => node)
          (fun n (host : HostApplication T) => host.putNode k n) (s := host) hbody,
          EStateM.run_focus_error (fun _ => node)
          (fun n (host : HostApplication T) => host.putNode k n) (s := host') hbody]
        exact .error e (h.putNode node')
    · rw [if_neg hready]
      exact .ok _ h

theorem onSequenced_alike (publishes : MqttTransport.Publishes T) (m : NodeMessage)
    (bytes : Bytes) :
    EStateM.Alike (SameAt (key group edge)) (onSequenced (T := T) now group edge m bytes)
      (onSequenced now group edge m bytes) :=
  (whenReady_alike _ _).bind fun step => finish_alike publishes now step

theorem onNodeBirth_alike (publishes : MqttTransport.Publishes T) (bytes : Bytes) :
    EStateM.Alike (SameAt (key group edge)) (onNodeBirth (T := T) now group edge bytes)
      (onNodeBirth now group edge bytes) := by
  refine (EStateM.alike_liftExcept _).bind fun p => EStateM.alike_get_bind fun host host' h => ?_
  rw [h.node]
  rcases (host'.node (key group edge)).birth p with ⟨duplicateAlias, node⟩
  cases duplicateAlias with
  | false => exact .ok _ (h.putNode node)
  | true => exact rebirth_alike publishes now _ _ (h.putNode node)

omit [MqttTransport T] in
theorem onNodeDeath_alike (bytes : Bytes) :
    EStateM.Alike (SameAt (key group edge)) (onNodeDeath (T := T) now group edge bytes)
      (onNodeDeath now group edge bytes) := by
  refine (EStateM.alike_liftExcept _).bind fun p => EStateM.alike_get_bind fun host host' h => ?_
  rw [h.record]
  cases host'.nodes[key group edge]? with
  | none => exact .ok _ h
  | some node =>
    dsimp only
    by_cases hhonour : node.online = true ∧ node.bdSeq.isSome = true ∧ node.bdSeq = bdseqOf p
    · simp only [if_pos hhonour]
      exact .ok _ (h.putNode node.death)
    · simp only [if_neg hhonour]
      exact .ok _ h

/-- **What handling reads.**  `handle_incoming` on a message of the node returns the same, and
leaves the same record of it, on two hosts with one configuration and one record of the node.
`publishes` is needed for the rebirth NCMD. -/
theorem handleIncoming_alike (publishes : MqttTransport.Publishes T) (now : Reading)
    {message : IncomingMessage} {m : NodeMessage}
    (hof : NodeMessage.of message = some (group, edge, m)) :
    EStateM.Alike (SameAt (key group edge)) (handleIncoming (T := T) now message)
      (handleIncoming now message) := by
  unfold NodeMessage.of at hof
  unfold handleIncoming
  cases hparse : SparkplugTopic.parse message.topic with
  | error e => rw [hparse] at hof; exact absurd hof (by simp)
  | ok topic =>
    rw [hparse] at hof
    intro host host' h
    rcases topic with ⟨g, e, ty⟩ | ⟨g, e, d, ty⟩ | hostId
    · cases ty <;> simp only [NodeMessage.ofTopic, Option.some.injEq, Prod.mk.injEq,
        reduceCtorEq] at hof
      · obtain ⟨rfl, rfl, rfl⟩ := hof
        exact onNodeBirth_alike publishes _ host host' h
      · obtain ⟨rfl, rfl, rfl⟩ := hof
        exact onNodeDeath_alike _ host host' h
      · obtain ⟨rfl, rfl, rfl⟩ := hof
        exact onSequenced_alike publishes .data _ host host' h
    · cases ty <;> simp only [NodeMessage.ofTopic, Option.some.injEq, Prod.mk.injEq,
        reduceCtorEq] at hof
      · obtain ⟨rfl, rfl, rfl⟩ := hof
        exact onSequenced_alike publishes (.deviceBirth d) _ host host' h
      · obtain ⟨rfl, rfl, rfl⟩ := hof
        exact onSequenced_alike publishes (.deviceDeath d) _ host host' h
      · obtain ⟨rfl, rfl, rfl⟩ := hof
        exact onSequenced_alike publishes (.deviceData d) _ host host' h
    · exact absurd hof (by simp [NodeMessage.ofTopic])

/-! ## 2. What a handler writes -/

omit [MqttTransport T] in
theorem onTransport_moves {α : Type} (p : EStateM SparkplugError T α) :
    EStateM.Moves (SameAt k) (onTransport p) :=
  EStateM.moves_focus (fun _ _ => ⟨rfl, rfl⟩) p

theorem rebirth_moves (now : Reading) (hk : key group edge ≠ k) :
    EStateM.Moves (SameAt k) (rebirth (T := T) now group edge) := by
  refine EStateM.moves_get_bind fun host => ?_
  rcases (host.node (key group edge)).takeRebirthSlot host.config.rebirthDebounce now.instant
    with ⟨allowed, node⟩
  have hput := SameAt.putNode_of_ne host hk node
  cases allowed with
  | false => exact hput
  | true =>
    have hsend : EStateM.Moves (SameAt k) (sendRebirth (T := T) now group edge >>= fun _ =>
        pure (HostEvent.rebirthRequested group.str edge.str)) :=
      (onTransport_moves _).bind fun _ =>
        EStateM.moves_pure _
    exact hput.trans (hsend _)

theorem finish_moves (now : Reading) (hk : key group edge ≠ k) (step : Step) :
    EStateM.Moves (SameAt k) (finish (T := T) now group edge step) := by
  cases step with
  | event e => exact EStateM.moves_pure e
  | rebirth => exact rebirth_moves now hk

omit [MqttTransport T] in
theorem whenReady_moves {k' : String} (hk : k' ≠ k) (ready : NodeState → Bool)
    (body : NodeM Step) : EStateM.Moves (SameAt k) (whenReady (T := T) ready k' body) := by
  refine EStateM.moves_get_bind fun host => ?_
  cases host.nodes[k']? with
  | none => exact SameAt.refl k host
  | some node =>
    dsimp only
    by_cases hready : ready node = true
    · rw [if_pos hready]
      exact EStateM.moves_focus (fun node host => SameAt.putNode_of_ne host hk node) body host
    · rw [if_neg hready]
      exact SameAt.refl k host

theorem onSequenced_moves (hk : key group edge ≠ k) (m : NodeMessage) (bytes : Bytes) :
    EStateM.Moves (SameAt k) (onSequenced (T := T) now group edge m bytes) :=
  (whenReady_moves hk _ _).bind fun step => finish_moves now hk step

theorem onNodeBirth_moves (hk : key group edge ≠ k) (bytes : Bytes) :
    EStateM.Moves (SameAt k) (onNodeBirth (T := T) now group edge bytes) := by
  refine (EStateM.moves_liftExcept _).bind fun p =>
    EStateM.moves_get_bind fun host => ?_
  rcases (host.node (key group edge)).birth p with ⟨duplicateAlias, node⟩
  have hput := SameAt.putNode_of_ne host hk node
  cases duplicateAlias with
  | false => exact hput
  | true => exact hput.trans (rebirth_moves now hk _)

omit [MqttTransport T] in
theorem onNodeDeath_moves (hk : key group edge ≠ k) (bytes : Bytes) :
    EStateM.Moves (SameAt k) (onNodeDeath (T := T) now group edge bytes) := by
  refine (EStateM.moves_liftExcept _).bind fun p =>
    EStateM.moves_get_bind fun host => ?_
  cases host.nodes[key group edge]? with
  | none => exact SameAt.refl k host
  | some node =>
    dsimp only
    split
    · exact SameAt.putNode_of_ne host hk node.death
    · exact SameAt.refl k host

theorem onHostState_moves (hostId : String) (bytes : Bytes) :
    EStateM.Moves (SameAt k) (onHostState (T := T) hostId bytes) := by
  have hpublish : EStateM.Moves (SameAt k) (publishStateBirth (T := T)) :=
    EStateM.moves_get_bind fun host => onTransport_moves _ host
  refine EStateM.moves_get_bind fun host => ?_
  by_cases hown : hostId = host.config.hostId
  · rw [if_pos hown]
    refine EStateM.Moves.bind (EStateM.moves_liftExcept _) (fun text =>
      EStateM.Moves.bind (EStateM.moves_liftExcept _) fun state => ?_) host
    rcases state.online with - | -
    · exact hpublish.bind fun _ => EStateM.moves_pure _
    · exact EStateM.moves_pure _
  · rw [if_neg hown]
    exact SameAt.refl k host

/-- **What handling writes.**  `handle_incoming` on a message that is not addressed to the node
leaves its record and the configuration as they are. -/
theorem handleIncoming_moves (now : Reading) {message : IncomingMessage}
    (hof : ∀ m, NodeMessage.of message ≠ some (group, edge, m)) :
    EStateM.Moves (SameAt (key group edge)) (handleIncoming (T := T) now message) := by
  intro host
  have haway : ∀ g e m, NodeMessage.of message = some (g, e, m) → key g e ≠ key group edge := by
    intro g e m h hkey
    obtain ⟨rfl, rfl⟩ := key_injective hkey
    exact hof m h
  unfold NodeMessage.of at haway
  unfold handleIncoming
  cases hparse : SparkplugTopic.parse message.topic with
  | error e => exact SameAt.refl _ host
  | ok topic =>
    rw [hparse] at haway
    rcases topic with ⟨g, e, ty⟩ | ⟨g, e, d, ty⟩ | hostId
    · cases ty with
      | nBirth => exact onNodeBirth_moves (haway g e _ rfl) _ host
      | nData => exact onSequenced_moves (haway g e _ rfl) .data _ host
      | nDeath => exact onNodeDeath_moves (haway g e _ rfl) _ host
      | _ => exact SameAt.refl _ host
    · cases ty with
      | dBirth => exact onSequenced_moves (haway g e _ rfl) (.deviceBirth d) _ host
      | dData => exact onSequenced_moves (haway g e _ rfl) (.deviceData d) _ host
      | dDeath => exact onSequenced_moves (haway g e _ rfl) (.deviceDeath d) _ host
      | _ => exact SameAt.refl _ host
    · exact onHostState_moves hostId _ host

/-! ## 3. One node's messages -/

/-- The message is addressed to the node. -/
def concerns (group : GroupId) (edge : EdgeNodeId) (input : Reading × IncomingMessage) : Bool :=
  (NodeMessage.of input.2).any fun x => x.1 = group && x.2.1 = edge

omit [MqttTransport T] in
theorem concerns_iff {input : Reading × IncomingMessage} :
    concerns group edge input = true ↔ ∃ m, NodeMessage.of input.2 = some (group, edge, m) := by
  unfold concerns
  constructor
  · intro h
    rcases hof : NodeMessage.of input.2 with - | ⟨g, e, m⟩
    · rw [hof] at h
      exact absurd h (by simp)
    · rw [hof] at h
      simp only [Option.any_some, Bool.and_eq_true, decide_eq_true_eq] at h
      exact ⟨m, by rw [h.1, h.2]⟩
  · rintro ⟨m, hof⟩
    simp [hof]

/-- What `handle_incoming` returned for each message of a run. -/
abbrev results (host : HostApplication T) (inputs : List (Reading × IncomingMessage)) :
    List ((Reading × IncomingMessage) × Result HostEvent) :=
  transcript next outcome host inputs

/-- The node's part of a run is what its own messages do alone. -/
theorem results_isolated (publishes : MqttTransport.Publishes T) (host : HostApplication T)
    (group : GroupId) (edge : EdgeNodeId) (inputs : List (Reading × IncomingMessage)) :
    (results host inputs).filter (fun r => concerns group edge r.1) =
        results host (inputs.filter (concerns group edge)) ∧
      SameAt (key group edge) (run next host inputs)
        (run next host (inputs.filter (concerns group edge))) := by
  refine unwinding (fun host host' input hmine h => ?_) (fun host host' input hother h => ?_)
    host host inputs (SameAt.refl _ host)
  · obtain ⟨m, hof⟩ := concerns_iff.mp hmine
    have halike := handleIncoming_alike publishes input.1 hof host host' h
    exact ⟨halike.outcome, halike.state⟩
  · have hof : ∀ m, NodeMessage.of input.2 ≠ some (group, edge, m) := by
      intro m hm
      exact absurd (concerns_iff.mpr ⟨m, hm⟩) (by simp [hother])
    exact (handleIncoming_moves input.1 hof host).symm.trans h

/-- **Edge nodes do not interfere.**  On a transport whose publishes succeed, what `handle_incoming`
returns for a node's messages, and the record kept of it in the end, are the same as when only its
own messages are handled. -/
theorem node_isolated (publishes : MqttTransport.Publishes T) (host : HostApplication T)
    (group : GroupId) (edge : EdgeNodeId) (inputs : List (Reading × IncomingMessage)) :
    (results host inputs).filter (fun r => concerns group edge r.1) =
        results host (inputs.filter (concerns group edge)) ∧
      (run next host inputs).nodes[key group edge]? =
        (run next host (inputs.filter (concerns group edge))).nodes[key group edge]? ∧
      -- so the interleaving with other nodes does not matter
      ∀ inputs', inputs'.filter (concerns group edge) = inputs.filter (concerns group edge) →
        (results host inputs').filter (fun r => concerns group edge r.1) =
            (results host inputs).filter (fun r => concerns group edge r.1) ∧
          (run next host inputs').nodes[key group edge]? =
            (run next host inputs).nodes[key group edge]? := by
  obtain ⟨hresults, hsame⟩ := results_isolated publishes host group edge inputs
  refine ⟨hresults, hsame.record, fun inputs' heq => ?_⟩
  obtain ⟨hresults', hsame'⟩ := results_isolated publishes host group edge inputs'
  rw [heq] at hresults' hsame'
  exact ⟨hresults'.trans hresults.symm, hsame'.record.trans hsame.record.symm⟩

end HostApplication

/-! ## 4. A second line of the plant -/

open HostApplication

def mixer : EdgeNodeId := ⟨"mixer", by decide⟩

/-- An NDATA of the mixer, which was never born. -/
def mixerData (seq : UInt8) : IncomingMessage where
  topic := (NodeMessage.data.topic plant mixer).toString
  payload := encode { seq := some seq } .data

/-- The line's NBIRTH and first NDATA, each after an NDATA of the mixer. -/
def twoLines : List (Reading × IncomingMessage) :=
  [(noon, mixerData 9), (noon, lineMessage .nBirth (some 0) .birth), (noon, mixerData 10),
    (noon, lineMessage .nData (some 1) .data)]

/-- The line's messages alone. -/
def oneLine : List (Reading × IncomingMessage) :=
  [(noon, lineMessage .nBirth (some 0) .birth), (noon, lineMessage .nData (some 1) .data)]

theorem filter_twoLines : twoLines.filter (concerns plant line) = oneLine := by
  have h9 : concerns plant line (noon, mixerData 9) = false := by decide +kernel
  have h10 : concerns plant line (noon, mixerData 10) = false := by decide +kernel
  have hbirth : concerns plant line (noon, lineMessage .nBirth (some 0) .birth) = true := by
    decide +kernel
  have hdata : concerns plant line (noon, lineMessage .nData (some 1) .data) = true := by
    decide +kernel
  simp [twoLines, oneLine, h9, h10, hbirth, hdata]

theorem twoLines_isolated :
    (results freshHost twoLines).filter (fun r => concerns plant line r.1) =
        results freshHost oneLine ∧
      (run next freshHost twoLines).nodes[key plant line]? =
        (run next freshHost oneLine).nodes[key plant line]? := by
  obtain ⟨hresults, hrecord, -⟩ := node_isolated Recorder.publishes freshHost plant line twoLines
  rw [filter_twoLines] at hresults hrecord
  exact ⟨hresults, hrecord⟩

end SparkplugB
