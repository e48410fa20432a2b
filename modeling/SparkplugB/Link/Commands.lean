/-
# Commands from a host to an edge

A host writes its commands with their datatypes, so an edge reads them whatever its registry
holds.  A DCMD is surfaced as it was sent, and so is an NCMD, unless it asks for a rebirth: such a
command is answered with a rebirth or with a debounced one, and surfaces none of its metrics.
-/
import SparkplugB.Edge.Commands
import SparkplugB.Host.Engine

namespace SparkplugB

/-! ## 1. What the host publishes -/

namespace HostApplication

/-- The message that `publish_node_command` and `publish_device_command` make of a command on
`topic`. -/
def commandMessage (now : Reading) (topic : SparkplugTopic) (metrics : List Metric) :
    OutboundMessage where
  topic := topic.toString
  qos := .atMostOnce
  retain := false
  payload := encode (commandPayload now metrics) .birth

variable {T : Type} [MqttTransport T]

theorem publishNodeCommand_eq (now : Reading) (group : GroupId) (edge : EdgeNodeId)
    (metrics : List Metric) :
    (publishNodeCommand now group.str edge.str metrics : HostM T Unit) =
      onTransport (MqttTransport.publish (commandMessage now (.node group edge .nCmd) metrics)) := by
  unfold publishNodeCommand
  rw [Ident.new_str, Ident.new_str]
  rfl

theorem publishDeviceCommand_eq (now : Reading) (group : GroupId) (edge : EdgeNodeId)
    (device : DeviceId) (metrics : List Metric) :
    (publishDeviceCommand now group.str edge.str device.str metrics : HostM T Unit) =
      onTransport (MqttTransport.publish
        (commandMessage now (.device group edge device .dCmd) metrics)) := by
  unfold publishDeviceCommand
  rw [Ident.new_str, Ident.new_str, Ident.new_str]
  rfl

end HostApplication

open HostApplication

/-- Metrics that a command can carry: they are well formed, within the nesting limit of the decoder,
and the payload is no longer than a buffer can be. -/
structure Commandable (now : Reading) (metrics : List Metric) : Prop where
  wellFormed : (commandPayload now metrics).WellFormed
  depth : (commandPayload now metrics).depth ≤ 32
  size : (encode (commandPayload now metrics) .birth).length < 2 ^ 63

/-- A command is read as it was written, under every registry, for it is written with its
datatypes. -/
theorem Commandable.decode {now : Reading} {metrics : List Metric} (h : Commandable now metrics)
    (types : Option AliasRegistry) :
    decode (encode (commandPayload now metrics) .birth) types =
      .ok (commandPayload now metrics) :=
  decode_birth h.wellFormed h.depth h.size types

/-! ## 2. From the host to the edge -/

/-- A command arrives on the topic it was published on. -/
theorem parse_commandMessage (now : Reading) (topic : SparkplugTopic) (hfits : topic.Fits)
    (metrics : List Metric) :
    SparkplugTopic.parse (commandMessage now topic metrics).delivered.topic = .ok topic :=
  SparkplugTopic.parse_toString hfits

/-- **Commands are surfaced as they were sent.**  What the host publishes, and what any edge, in any
state, does with it in `handle_incoming`: a DCMD surfaces its metrics, and so does an NCMD that asks
for no rebirth, while one that asks for a rebirth is answered with that or with an error.  Nothing
is asked of the edge, nor of the transports. -/
theorem command_surfaced {T U S : Type} [MqttTransport T] [MqttTransport U] (now : Reading)
    (group : GroupId) (edge : EdgeNodeId) (device : DeviceId) (metrics : List Metric)
    (h : Commandable now metrics) (source : DataSource) (s : Timed (EdgeNode T S)) :
    ((publishNodeCommand now group.str edge.str metrics : HostM U Unit) =
        HostApplication.onTransport (MqttTransport.publish
          (commandMessage now (.node group edge .nCmd) metrics)) ∧
      (EdgeNode.isRebirth (commandPayload now metrics) = false →
        (EdgeNode.handleIncoming (commandMessage now (.node group edge .nCmd) metrics).delivered
          source).run s = .ok (.nodeCommand (commandPayload now metrics)) s) ∧
      (EdgeNode.isRebirth (commandPayload now metrics) = true →
        ∀ event, ((EdgeNode.handleIncoming
            (commandMessage now (.node group edge .nCmd) metrics).delivered source).run s).outcome =
              .ok event → event = .rebirthed ∨ event = .rebirthDebounced)) ∧
    (publishDeviceCommand now group.str edge.str device.str metrics : HostM U Unit) =
        HostApplication.onTransport (MqttTransport.publish
          (commandMessage now (.device group edge device .dCmd) metrics)) ∧
      (EdgeNode.handleIncoming (commandMessage now (.device group edge device .dCmd)
          metrics).delivered source).run s =
        .ok (.deviceCommand device.str (commandPayload now metrics)) s := by
  have hdecode := h.decode (some s.engine.aliasing.aliases)
  have hnode := parse_commandMessage now (.node group edge .nCmd) ⟨rfl, by decide⟩ metrics
  have hdevice := parse_commandMessage now (.device group edge device .dCmd) rfl metrics
  rw [EdgeNode.handleIncoming_nodeCommand hnode, EdgeNode.handleIncoming_deviceCommand hdevice]
  refine ⟨⟨publishNodeCommand_eq now group edge metrics, ?_, ?_⟩,
    publishDeviceCommand_eq now group edge device metrics, ?_⟩
  · exact fun hask => EdgeNode.onNodeCommand_plain hdecode hask
  · exact fun hask event hevent => EdgeNode.onNodeCommand_rebirth hdecode hask hevent
  · exact EdgeNode.onDeviceCommand_ok hdecode

/-! ## 3. A setpoint sent along with a rebirth request -/

open Observed

/-- The metrics of a command other than the rebirth request: what is ordered besides. -/
def ordered (metrics : List Metric) : List Metric :=
  metrics.filter fun m => m.name ≠ some NODE_CONTROL_REBIRTH

/-- A reading of the clocks at the epoch. -/
def epoch : Reading := ⟨some 0, 0⟩

/-- A command that asks for a rebirth and sets a value. -/
def rebirthAndSet : List Metric := [Metric.new NODE_CONTROL_REBIRTH (.boolean true), setpoint]

/-- A line that has connected: its births declare the setpoint, and the setpoint has an alias. -/
def settableLine : Observed InMemoryBdSeqStore :=
  Machine.run perform (start { pumpLine with useAliases := true } ⟨0⟩ stopped) [.connect settable]

/-- The request and the setpoint in one command, to the pump and to the line. -/
theorem command_surfaced_rebirthAndSet :
    settableLine.engine.state = .online ∧
      (EdgeNode.handleIncoming (commandMessage epoch
          (.device pumpLine.group pumpLine.edge ⟨"pump", by decide⟩ .dCmd) rebirthAndSet).delivered
          settable).run settableLine =
        .ok (.deviceCommand "pump" (commandPayload epoch rebirthAndSet)) settableLine ∧
      ∃ event, ((EdgeNode.handleIncoming (commandMessage epoch
          (.node pumpLine.group pumpLine.edge .nCmd) rebirthAndSet).delivered
          settable).run settableLine).outcome = .ok event ∧
        (event = .rebirthed ∨ event = .rebirthDebounced) := by
  have hcommandable : Commandable epoch rebirthAndSet := ⟨by decide, by decide, by decide +kernel⟩
  obtain ⟨⟨-, -, hnode⟩, -, hdevice⟩ := command_surfaced (U := Recorder) epoch pumpLine.group
    pumpLine.edge ⟨"pump", by decide⟩ rebirthAndSet hcommandable settable settableLine
  refine ⟨by decide +kernel, hdevice, ?_⟩
  obtain ⟨event, hevent⟩ := exists_of_isOk (x := ((EdgeNode.handleIncoming (commandMessage epoch
    (.node pumpLine.group pumpLine.edge .nCmd) rebirthAndSet).delivered
    settable).run settableLine).outcome) (by decide +kernel)
  exact ⟨event, hevent, hnode (by decide) event hevent⟩

/-- **A lost setpoint.**  A command that asks for a rebirth and sets a value besides: the line
answers it with a rebirth and surfaces no command. -/
theorem setpoint_lost :
    ¬ ∀ (now : Reading) (metrics : List Metric) (source : DataSource) (actions : List Action),
        Commandable now metrics →
        ∃ p s', (EdgeNode.handleIncoming
            (commandMessage now (.node pumpLine.group pumpLine.edge .nCmd) metrics).delivered
            source).run
              (Machine.run perform (start pumpLine (⟨0⟩ : InMemoryBdSeqStore) stopped) actions) =
            .ok (.nodeCommand p) s' ∧ ordered p.metrics = ordered metrics := by
  intro claim
  have hcommandable : Commandable epoch rebirthAndSet := ⟨by decide, by decide, by decide +kernel⟩
  obtain ⟨p, s', hrun, -⟩ := claim epoch rebirthAndSet silent [.connect silent] hcommandable
  generalize Machine.run perform (start pumpLine (⟨0⟩ : InMemoryBdSeqStore) stopped)
    [.connect silent] = s at hrun
  have hparse := parse_commandMessage epoch
    (.node pumpLine.group pumpLine.edge .nCmd) ⟨rfl, by decide⟩ rebirthAndSet
  rw [EdgeNode.handleIncoming_nodeCommand hparse] at hrun
  have hevent := congrArg EStateM.Result.outcome hrun
  rcases EdgeNode.onNodeCommand_rebirth (hcommandable.decode _) (by decide) hevent with h | h
  · exact absurd h (by simp)
  · exact absurd h (by simp)

end SparkplugB
