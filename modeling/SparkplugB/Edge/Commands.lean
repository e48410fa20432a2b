/-
# Commands

An edge decodes a command with its one registry and surfaces it.  A command that was written
without datatypes is surfaced as it was sent exactly if the edge assigns aliases and the latest
births declare every metric of it, under its name, with its datatype (`stripped_command_iff`).
-/
import SparkplugB.Edge.Registry

namespace SparkplugB

open Codec

/-! ## 1. What the edge makes of a command -/

namespace EdgeNode

variable {T S : Type} [MqttTransport T] {source : DataSource} {s : Timed (EdgeNode T S)}
  {p : Payload}

/-- A command that asks for no rebirth is surfaced. -/
theorem onNodeCommand_plain {bytes : Bytes}
    (h : decode bytes (some s.engine.aliasing.aliases) = .ok p) (hask : isRebirth p = false) :
    (onNodeCommand source bytes).run s = .ok (.nodeCommand p) s := by
  unfold onNodeCommand
  rw [EStateM.bind_ok (run_self s), h, EStateM.bind_ok (EStateM.run_liftExcept_ok p s), hask]
  rfl

/-- A command that asks for a rebirth surfaces no payload. -/
theorem onNodeCommand_rebirth {bytes : Bytes}
    (h : decode bytes (some s.engine.aliasing.aliases) = .ok p) (hask : isRebirth p = true)
    {event : EdgeEvent} (hevent : ((onNodeCommand source bytes).run s).outcome = .ok event) :
    event = .rebirthed ∨ event = .rebirthDebounced := by
  unfold onNodeCommand at hevent
  rw [EStateM.bind_ok (run_self s), h, EStateM.bind_ok (EStateM.run_liftExcept_ok p s),
    if_pos hask] at hevent
  obtain ⟨allowed, s₁, -, hevent⟩ := EStateM.of_bind_ok hevent
  cases allowed with
  | true =>
    obtain ⟨-, s₂, -, hevent⟩ := EStateM.of_bind_ok hevent
    obtain ⟨now, s₃, -, hevent⟩ := EStateM.of_bind_ok hevent
    obtain ⟨-, s₄, -, hevent⟩ := EStateM.of_bind_ok hevent
    exact .inl (Except.ok.inj hevent).symm
  | false => exact .inr (Except.ok.inj hevent).symm

omit [MqttTransport T] in
/-- A DCMD is surfaced, whatever it says. -/
theorem onDeviceCommand_ok {device : DeviceId} {bytes : Bytes}
    (h : decode bytes (some s.engine.aliasing.aliases) = .ok p) :
    (onDeviceCommand device bytes).run s = .ok (.deviceCommand device.str p) s := by
  unfold onDeviceCommand
  rw [EStateM.bind_ok (run_self s), h, EStateM.bind_ok (EStateM.run_liftExcept_ok p s)]
  rfl

/-- `handle_incoming` surfaces an NCMD as `NodeCommand(p)` exactly if `decode` reads it as `p`, with
the alias map of the edge, and `p` asks for no rebirth. -/
theorem onNodeCommand_iff {bytes : Bytes} :
    ((onNodeCommand source bytes).run s).outcome = .ok (.nodeCommand p) ↔
      decode bytes (some s.engine.aliasing.aliases) = .ok p ∧ isRebirth p = false := by
  cases hdec : decode bytes (some s.engine.aliasing.aliases) with
  | error e =>
    have hrun : (onNodeCommand source bytes).run s = .error e s := by
      unfold onNodeCommand
      rw [EStateM.bind_ok (run_self s), hdec,
        EStateM.bind_error (EStateM.run_liftExcept_error e s)]
    rw [hrun]
    simp
  | ok q =>
    rcases hask : isRebirth q with - | -
    · rw [onNodeCommand_plain hdec hask]
      constructor
      · intro h
        obtain rfl := EdgeEvent.nodeCommand.inj (Except.ok.inj h)
        exact ⟨rfl, hask⟩
      · rintro ⟨h, -⟩
        obtain rfl := Except.ok.inj h
        rfl
    · constructor
      · intro h
        rcases onNodeCommand_rebirth hdec hask h with h | h
        · exact absurd h (by simp)
        · exact absurd h (by simp)
      · rintro ⟨h, hplain⟩
        obtain rfl := Except.ok.inj h
        exact absurd (hask.symm.trans hplain) (by decide)

omit [MqttTransport T] in
theorem onDeviceCommand_iff {device : DeviceId} {bytes : Bytes} :
    ((onDeviceCommand device bytes).run s).outcome = .ok (.deviceCommand device.str p) ↔
      decode bytes (some s.engine.aliasing.aliases) = .ok p := by
  cases hdec : decode bytes (some s.engine.aliasing.aliases) with
  | error e =>
    have hrun : (onDeviceCommand device bytes).run s = .error e s := by
      unfold onDeviceCommand
      rw [EStateM.bind_ok (run_self s), hdec,
        EStateM.bind_error (EStateM.run_liftExcept_error e s)]
    rw [hrun]
    simp
  | ok q =>
    rw [onDeviceCommand_ok hdec]
    constructor
    · intro h
      rw [(EdgeEvent.deviceCommand.inj (Except.ok.inj h)).2]
    · intro h
      obtain rfl := Except.ok.inj h
      rfl

variable {group : GroupId} {edge : EdgeNodeId} {message : IncomingMessage}

theorem handleIncoming_nodeCommand
    (h : SparkplugTopic.parse message.topic = .ok (.node group edge .nCmd)) :
    (handleIncoming message source).run s = (onNodeCommand source message.payload).run s := by
  unfold handleIncoming
  rw [h, EStateM.bind_ok (EStateM.run_liftExcept_ok _ s)]

theorem handleIncoming_deviceCommand {device : DeviceId}
    (h : SparkplugTopic.parse message.topic = .ok (.device group edge device .dCmd)) :
    (handleIncoming message source).run s = (onDeviceCommand device message.payload).run s := by
  unfold handleIncoming
  rw [h, EStateM.bind_ok (EStateM.run_liftExcept_ok _ s)]

end EdgeNode

/-! ## 2. Stripped commands -/

/-- A payload without datatypes (`EncodeOptions::data()`), on `topic`. -/
def strippedMessage (topic : SparkplugTopic) (p : Payload) : IncomingMessage :=
  ⟨topic.toString, encode p .data⟩

/-- Every metric of the command is declared with its datatype by the births, under the name or the
alias that the command uses, and by an edge that assigns aliases. -/
def Declared (useAliases : Bool) (births : List Payload) (p : Payload) : Prop :=
  ∀ m ∈ p.metrics, useAliases = true ∧
    declaredDatatype (births.flatMap Payload.metrics) m = some m.value.datatype

namespace Observed

variable {S : Type}

/-- What a stripped command is decoded to. -/
theorem Recalls.decode_iff {s : Observed S} {births : List Payload} (h : s.Recalls births)
    {p : Payload} (hflat : p.Flat) (hlen : (encode p EncodeOptions.data).length < 2 ^ 63) :
    decode (encode p EncodeOptions.data) (some s.engine.aliasing.aliases) = .ok p ↔
      p.WellFormed ∧ p.depth ≤ MAX_DEPTH ∧ Declared s.engine.config.useAliases births p := by
  rw [decode_flat_iff hflat hlen]
  refine and_congr_right fun _ => and_congr_right fun _ => forall₂_congr fun m _ => ?_
  unfold Recovers
  rw [h.registry]
  rcases s.engine.config.useAliases with - | -
  · have hnone : recoverDatatype (some .new) m.name m.alias = none :=
      recoverDatatype_announced [] m
    simp [hnone]
  · rw [if_pos rfl, recoverDatatype_announced]
    exact (and_iff_right rfl).symm

end Observed

/-- A control metric is declared by no birth. -/
theorem declaredDatatype_control {name : String}
    (hname : name = NODE_CONTROL_REBIRTH ∨ name = BDSEQ_METRIC_NAME) (bs : List Metric) {m : Metric}
    (hm : m.name = some name) : declaredDatatype bs m = none := by
  unfold declaredDatatype
  rw [Option.map_eq_none_iff, List.find?_eq_none]
  intro b hb hrefers
  have hdeclares : declares b = true := (List.mem_filter.mp (List.mem_reverse.mp hb)).2
  have hsame : b.name = some name := by
    unfold refersTo at hrefers
    rw [hm] at hrefers
    exact of_decide_eq_true hrefers
  unfold declares at hdeclares
  rw [hsame] at hdeclares
  rcases hname with rfl | rfl
  · exact absurd hdeclares (by decide)
  · exact absurd hdeclares (by decide)

/-- A stripped command that can be read asks for no rebirth. -/
theorem Declared.isRebirth {useAliases : Bool} {births : List Payload} {p : Payload}
    (h : Declared useAliases births p) : EdgeNode.isRebirth p = false := by
  by_contra hask
  obtain ⟨m, hm, htest⟩ := List.any_eq_true.mp (Bool.not_eq_false _ ▸ hask)
  have hname : m.name = some NODE_CONTROL_REBIRTH :=
    of_decide_eq_true (Bool.and_eq_true _ _ ▸ htest).1
  have hdeclared := (h m hm).2
  rw [declaredDatatype_control (.inl rfl) _ hname] at hdeclared
  exact absurd hdeclared (by simp)

open Strained in
/-- **Exactly when a stripped command is surfaced as it was sent.**  In every run in which no birth
sequence of an online edge that assigns aliases is cut short, the births that the edge has published
last decide, and whether it assigns aliases: with `use_aliases = false` the registry it decodes with
is empty.  The hypotheses on the command say that the codec can carry it at all. -/
theorem stripped_command_iff {S : Type} [BdSeqStore S] (config : EdgeNodeConfig) (store : S)
    (clock : Clock) (answers : Answers) (actions : List Action) (s : Strained S)
    (hrun : Machine.run perform (start config store clock answers) actions = s)
    (hunbroken : Machine.Always perform (fun s a => s.seen.Unbroken s.answers a)
      (start config store clock answers) actions)
    (hon : s.engine.state = .online) :
    ∃ births, LatestBirths s.seen.engine.transport.log births ∧
      ∀ p : Payload, p.Flat → (encode p EncodeOptions.data).length < 2 ^ 63 →
        ∀ (source : DataSource) (group : GroupId) (edge : EdgeNodeId),
          (((EdgeNode.handleIncoming (strippedMessage (.node group edge .nCmd) p) source).run
              s).outcome = .ok (.nodeCommand p) ↔
            p.WellFormed ∧ p.depth ≤ MAX_DEPTH ∧ Declared s.engine.config.useAliases births p) ∧
          ∀ device : DeviceId,
            (((EdgeNode.handleIncoming (strippedMessage (.device group edge device .dCmd) p)
                source).run s).outcome = .ok (.deviceCommand device.str p) ↔
              p.WellFormed ∧ p.depth ≤ MAX_DEPTH ∧
                Declared s.engine.config.useAliases births p) := by
  have hknown := Strained.known config store clock answers actions hunbroken
  rw [hrun] at hknown
  obtain ⟨births, hbirths⟩ := hknown.online hon
  refine ⟨births, hbirths.latest, fun p hflat hlen source group edge => ⟨?_, fun device => ?_⟩⟩
  · have hparse : SparkplugTopic.parse (strippedMessage (.node group edge .nCmd) p).topic =
        .ok (.node group edge .nCmd) := SparkplugTopic.parse_toString ⟨rfl, by decide⟩
    rw [EdgeNode.handleIncoming_nodeCommand hparse, EdgeNode.onNodeCommand_iff]
    refine (and_iff_left_of_imp fun h => ?_).trans (hbirths.decode_iff hflat hlen)
    exact ((hbirths.decode_iff hflat hlen).mp h).2.2.isRebirth
  · have hparse : SparkplugTopic.parse (strippedMessage (.device group edge device .dCmd) p).topic =
        .ok (.device group edge device .dCmd) := SparkplugTopic.parse_toString rfl
    rw [EdgeNode.handleIncoming_deviceCommand hparse, EdgeNode.onDeviceCommand_iff]
    exact hbirths.decode_iff hflat hlen

/-! ## 3. A line with a setpoint -/

def setpoint : Metric := Metric.new "setpoint" (.int32 7)

/-- A source of births with the setpoint. -/
def settable : DataSource := ⟨[setpoint], fun _ => []⟩

/-- A transport on which no call fails. -/
def answered : Answers := Stream'.const none

/-- A line that assigns aliases. -/
def aliasLine : EdgeNodeConfig := { soleLine with useAliases := true }

open Strained

theorem flat_setpoint : Payload.Flat { metrics := [setpoint] } := by
  intro m hm t
  obtain rfl := List.mem_singleton.mp hm
  simp [setpoint, Metric.new]

theorem size_setpoint : (encode { metrics := [setpoint] } EncodeOptions.data).length < 2 ^ 63 := by
  decide +kernel

/-- The line has connected, and is sent the setpoint without its datatype. -/
theorem stripped_setpoint_iff :
    ∃ births, LatestBirths (Machine.run perform
        (start aliasLine (⟨0⟩ : InMemoryBdSeqStore) stopped answered)
        [.connect settable]).seen.engine.transport.log births ∧
      (((EdgeNode.handleIncoming (strippedMessage (.node aliasLine.group aliasLine.edge .nCmd)
          { metrics := [setpoint] }) settable).run (Machine.run perform
            (start aliasLine (⟨0⟩ : InMemoryBdSeqStore) stopped answered)
            [.connect settable])).outcome = .ok (.nodeCommand { metrics := [setpoint] }) ↔
        Payload.WellFormed { metrics := [setpoint] } ∧
          Payload.depth { metrics := [setpoint] } ≤ MAX_DEPTH ∧
          Declared (Machine.run perform (start aliasLine (⟨0⟩ : InMemoryBdSeqStore) stopped answered)
            [.connect settable]).engine.config.useAliases births { metrics := [setpoint] }) := by
  have hon : (Machine.run perform (start aliasLine (⟨0⟩ : InMemoryBdSeqStore) stopped answered)
      [.connect settable]).engine.state = .online := by decide +kernel
  obtain ⟨births, hlatest, hall⟩ := stripped_command_iff aliasLine (⟨0⟩ : InMemoryBdSeqStore) stopped
    answered [.connect settable] _ rfl ⟨fun hon => absurd hon (by decide), trivial⟩ hon
  exact ⟨births, hlatest, (hall _ flat_setpoint size_setpoint settable _ _).1⟩

/-- A log whose latest entry is an NBIRTH with a 32-bit setpoint and distinct names. -/
def latestIsSettable : List Entry → Bool
  | .publish message :: _ =>
    message.mark = .node .nBirth && (decode message.payload none).toOption.any fun p =>
      encode p .birth = message.payload && (AliasRegistry.namesOf p.metrics).Nodup &&
        p.metrics.any fun b => b.name = setpoint.name && b.value.datatype = setpoint.value.datatype
  | _ => false

theorem settable_of_latest {log : List Entry} (h : latestIsSettable log = true) :
    ∃ birth, LatestBirths log [birth] ∧ (AliasRegistry.namesOf birth.metrics).Nodup ∧
      ∃ b ∈ birth.metrics, b.name = setpoint.name ∧ b.value.datatype = setpoint.value.datatype := by
  match log, h with
  | .publish message :: past, h =>
    simp only [latestIsSettable, Bool.and_eq_true, decide_eq_true_eq] at h
    obtain ⟨hmark, hread⟩ := h
    obtain ⟨p, hp, htest⟩ := exists_ok _ _ hread
    simp only [Bool.and_eq_true, decide_eq_true_eq, List.any_eq_true] at htest
    obtain ⟨⟨hwritten, hnames⟩, b, hb, hname, hdt⟩ := htest
    exact ⟨p, .nodeBirth hmark hwritten.symm, hnames, b, hb, hname, hdt⟩

/-- **A setpoint that is not understood.**  A line without aliases has published the setpoint in its
NBIRTH and cannot decode a stripped command for it, though `EncodeOptions::data` is meant for
commands too. -/
theorem stripped_setpoint_refused :
    ¬ ∀ (config : EdgeNodeConfig) (clock : Clock) (answers : Answers) (actions : List Action)
        (s : Strained InMemoryBdSeqStore) (birth : Payload) (births : List Payload) (p : Payload)
        (source : DataSource) (group : GroupId) (edge : EdgeNodeId),
        Machine.run perform (start config (⟨0⟩ : InMemoryBdSeqStore) clock answers) actions = s →
        s.engine.state = .online →
        LatestBirths s.seen.engine.transport.log (birth :: births) →
        (AliasRegistry.namesOf birth.metrics).Nodup →
        p.WellFormed → p.depth ≤ MAX_DEPTH → p.Flat →
        (encode p EncodeOptions.data).length < 2 ^ 63 →
        (∀ m ∈ p.metrics, ∃ b ∈ birth.metrics,
          b.name = m.name ∧ b.value.datatype = m.value.datatype) →
        ((EdgeNode.handleIncoming (strippedMessage (.node group edge .nCmd) p) source).run
          s).outcome = .ok (.nodeCommand p) := by
  intro claim
  have hon : (Machine.run perform (start soleLine (⟨0⟩ : InMemoryBdSeqStore) stopped answered)
      [.connect settable]).engine.state = .online := by decide +kernel
  have hlatest : latestIsSettable (Machine.run perform
      (start soleLine (⟨0⟩ : InMemoryBdSeqStore) stopped answered)
      [.connect settable]).seen.engine.transport.log = true := by decide +kernel
  have hknown := known soleLine (⟨0⟩ : InMemoryBdSeqStore) stopped answered [.connect settable]
    ⟨fun hon => absurd hon (by decide), trivial⟩
  obtain ⟨births, hbirths⟩ := hknown.online hon
  obtain ⟨birth, hbirth, hnames, b, hb, hname, hdt⟩ := settable_of_latest hlatest
  have hread := claim soleLine stopped answered [.connect settable] _ birth []
    { metrics := [setpoint] } settable soleLine.group soleLine.edge rfl hon hbirth hnames (by decide)
    (by decide) flat_setpoint size_setpoint fun m hm => by
      obtain rfl := List.mem_singleton.mp hm
      exact ⟨b, hb, hname, hdt⟩
  have hparse : SparkplugTopic.parse (strippedMessage (.node soleLine.group soleLine.edge .nCmd)
      { metrics := [setpoint] }).topic = .ok (.node soleLine.group soleLine.edge .nCmd) :=
    SparkplugTopic.parse_toString ⟨rfl, by decide⟩
  rw [EdgeNode.handleIncoming_nodeCommand hparse, EdgeNode.onNodeCommand_iff] at hread
  have hdeclared := ((hbirths.decode_iff flat_setpoint size_setpoint).mp hread.1).2.2
  exact absurd (hdeclared setpoint (by simp)).1 (by decide +kernel)

end SparkplugB
