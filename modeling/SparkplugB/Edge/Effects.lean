/-
# What the methods of the edge may change

A method that is not `connect` looks at the clock, assigns to fields, publishes, and when it ends the
session disconnects; the configuration, the bdSeq and its store it leaves alone.  Whatever relation of
states all of this keeps to, such a method keeps to it, on every transport (`Effects.call`).
-/
import SparkplugB.Edge.Session
import SparkplugB.Lib.Frame

namespace SparkplugB

open EStateM

variable {T S : Type}

/-- What the field assignments of every method but `connect` leave alone: the configuration, the
transport, the store and the bdSeq of the connection. -/
structure EdgeNode.KeepsSession (node node' : EdgeNode T S) : Prop where
  config : node'.config = node.config
  transport : node'.transport = node.transport
  store : node'.bdseqStore = node.bdseqStore
  bdSeq : node'.bdSeq = node.bdSeq

variable [MqttTransport T]

/-- The relation allows everything a method does that is not `connect`: reading the clock, assigning
to fields within `KeepsSession`, publishing and disconnecting.  It is how a fact about a whole class
of calls is proved once, on any transport. -/
structure Effects (M : Timed (EdgeNode T S) → Timed (EdgeNode T S) → Prop) : Prop where
  clock : ∀ (s : Timed (EdgeNode T S)) (clock : Clock), M s { s with clock }
  fields : ∀ (s : Timed (EdgeNode T S)) (node : EdgeNode T S), s.engine.KeepsSession node →
    M s { s with engine := node }
  publish : ∀ message : OutboundMessage,
    Moves M (EdgeNode.onTransport (MqttTransport.publish message) : EdgeM T S Unit)
  disconnect : Moves M (EdgeNode.onTransport MqttTransport.disconnect : EdgeM T S Unit)

namespace Effects

variable {M : Timed (EdgeNode T S) → Timed (EdgeNode T S) → Prop} [IsPreorder _ M]
  (h : Effects M)

include h

/-! ## 1. The primitives -/

omit [MqttTransport T] h in
theorem self : Moves M (EdgeNode.self : EdgeM T S _) := fun s => refl_of M s

omit [MqttTransport T] h in
theorem throw {α : Type} (e : SparkplugError) : Moves M (throw e : EdgeM T S α) :=
  fun s => refl_of M s

omit [IsPreorder _ M] in
theorem nowMs : Moves M (EdgeNode.nowMs : EdgeM T S _) := fun s => h.clock s _

omit [IsPreorder _ M] in
theorem instant : Moves M (Timed.instant : EdgeM T S _) := fun s => h.clock s _

omit [IsPreorder _ M] in
theorem assign {f : EdgeNode T S → EdgeNode T S}
    (hf : ∀ node : EdgeNode T S, node.KeepsSession (f node)) :
    Moves M (EdgeNode.assign f) := fun s => h.fields s _ (hf s.engine)

theorem nextSeq : Moves M (EdgeNode.nextSeq : EdgeM T S _) :=
  Moves.bind self fun _ => Moves.bind (h.assign fun _ => ⟨rfl, rfl, rfl, rfl⟩) fun _ => moves_pure _

omit [IsPreorder _ M] in
theorem publishRaw (topic : String) (payload : Bytes) (qos : Qos) (retain : Bool) :
    Moves M (EdgeNode.publishRaw topic payload qos retain : EdgeM T S _) := h.publish _

theorem assignAliases (metrics : List Metric) :
    Moves M (EdgeNode.assignAliases metrics : EdgeM T S _) := by
  refine Moves.bind self fun node => ?_
  split
  · exact Moves.bind (h.assign fun _ => ⟨rfl, rfl, rfl, rfl⟩) fun _ => moves_pure _
  · exact moves_pure _

theorem rebirthAllowed : Moves M (EdgeNode.rebirthAllowed : EdgeM T S _) := by
  refine Moves.bind self fun node => ?_
  cases node.lastRebirth with
  | none => exact moves_pure _
  | some at' => exact h.instant.bind fun _ => Moves.bind self fun _ => moves_pure _

/-! ## 2. Births and deaths -/

theorem publishDeviceBirth (source : DataSource) (device : DeviceId) :
    Moves M (EdgeNode.publishDeviceBirth source device : EdgeM T S _) :=
  h.nowMs.bind fun _ => (h.assignAliases _).bind fun _ => h.nextSeq.bind fun _ =>
    Moves.bind self fun _ => (h.publishRaw _ _ _ _).bind fun _ =>
    h.assign fun _ => ⟨rfl, rfl, rfl, rfl⟩

theorem publishBirthSequence (source : DataSource) :
    Moves M (EdgeNode.publishBirthSequence source : EdgeM T S _) :=
  Moves.bind (h.assign fun _ => ⟨rfl, rfl, rfl, rfl⟩) fun _ => h.nowMs.bind fun _ =>
    Moves.bind (Moves.bind self fun _ => h.assignAliases _) fun _ => h.nextSeq.bind fun _ =>
    Moves.bind self fun _ => (h.publishRaw _ _ _ _).bind fun _ => Moves.bind self fun _ =>
    (moves_forM (h.publishDeviceBirth source) _).bind fun _ =>
    h.assign fun _ => ⟨rfl, rfl, rfl, rfl⟩

/-- `disconnect`. -/
theorem leave : Moves M (EdgeNode.disconnect : EdgeM T S _) :=
  h.nowMs.bind fun _ => Moves.bind self fun _ => (h.publishRaw _ _ _ _).bind fun _ =>
    h.disconnect.bind fun _ => h.assign fun _ => ⟨rfl, rfl, rfl, rfl⟩

/-! ## 3. Data -/

theorem publishNodeData (metrics : List Metric) :
    Moves M (EdgeNode.publishNodeData metrics : EdgeM T S _) := by
  refine Moves.bind self fun node => ?_
  split
  · exact throw _
  · exact h.nowMs.bind fun _ => h.nextSeq.bind fun _ => h.publishRaw _ _ _ _

theorem publishDeviceData (device : String) (metrics : List Metric) :
    Moves M (EdgeNode.publishDeviceData device metrics : EdgeM T S _) := by
  refine Moves.bind self fun node => ?_
  split
  · exact throw _
  · exact (moves_liftExcept _).bind fun _ => h.nowMs.bind fun _ => h.nextSeq.bind fun _ =>
      h.publishRaw _ _ _ _

theorem publishDeviceDeath (device : String) :
    Moves M (EdgeNode.publishDeviceDeath device : EdgeM T S _) := by
  refine Moves.bind self fun node => ?_
  split
  · exact throw _
  · exact (moves_liftExcept _).bind fun _ => h.nowMs.bind fun _ => h.nextSeq.bind fun _ =>
      (h.publishRaw _ _ _ _).bind fun _ => h.assign fun _ => ⟨rfl, rfl, rfl, rfl⟩

/-! ## 4. Inbound messages -/

theorem onNodeCommand (source : DataSource) (bytes : Bytes) :
    Moves M (EdgeNode.onNodeCommand source bytes : EdgeM T S _) := by
  refine Moves.bind self fun node => (moves_liftExcept _).bind fun payload => ?_
  split
  · refine h.rebirthAllowed.bind fun allowed => ?_
    split
    · exact (h.publishBirthSequence source).bind fun _ => h.instant.bind fun _ =>
        Moves.bind (h.assign fun _ => ⟨rfl, rfl, rfl, rfl⟩) fun _ => moves_pure _
    · exact moves_pure _
  · exact moves_pure _

theorem followPrimary (source : DataSource) (state : EdgeState) (online : Bool) :
    Moves M (EdgeNode.followPrimary source state online : EdgeM T S _) := by
  unfold EdgeNode.followPrimary
  split
  · split
    · exact h.publishBirthSequence source
    · exact moves_pure _
  · split
    · exact h.leave
    · exact moves_pure _

theorem onHostState (source : DataSource) (hostId : String) (bytes : Bytes) :
    Moves M (EdgeNode.onHostState source hostId bytes : EdgeM T S _) := by
  refine Moves.bind self fun node => ?_
  split
  · exact moves_pure _
  · refine (moves_liftExcept _).bind fun _ => (moves_liftExcept _).bind fun state =>
      Moves.bind self fun node => ?_
    split
    · exact moves_pure _
    · exact Moves.bind (h.assign fun _ => ⟨rfl, rfl, rfl, rfl⟩) fun _ =>
        (h.followPrimary source _ _).bind fun _ => moves_pure _

theorem handleIncoming (message : IncomingMessage) (source : DataSource) :
    Moves M (EdgeNode.handleIncoming message source : EdgeM T S _) := by
  refine (moves_liftExcept _).bind fun topic => ?_
  split
  · exact h.onNodeCommand source _
  · exact Moves.bind self fun _ => Moves.bind (moves_liftExcept _) fun _ => moves_pure _
  · exact h.onHostState source _ _
  · exact moves_pure _

/-- **Every call but `connect`** keeps to the relation. -/
theorem call [BdSeqStore S] {a : Action} (ha : ∀ source, a ≠ .connect source) :
    Moves M (a.call : EdgeM T S Unit) := by
  cases a with
  | connect source => exact absurd rfl (ha source)
  | publishBirthSequence source => exact h.publishBirthSequence source
  | publishNodeData metrics => exact h.publishNodeData metrics
  | publishDeviceData device metrics => exact h.publishDeviceData device metrics
  | publishDeviceDeath device => exact h.publishDeviceDeath device
  | handleIncoming message source =>
    exact (h.handleIncoming message source).bind fun _ => moves_pure _
  | disconnect => exact h.leave

end Effects

end SparkplugB
