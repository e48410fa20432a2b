/-
# The lifecycle of a device, as the application sees it

A device's data and its death should only be shown between a birth of the device that was shown
and the end of that life.  The record keeps to this as long as every message does: a DDEATH that
passes the sequence check finds its device online, and so does a DBIRTH with a corrupt alias map,
which flags the device online without showing its birth.
-/
import SparkplugB.Host.Devices

namespace SparkplugB

open Machine Past HostApplication

/-! ## 1. What the application is shown -/

namespace HostEvent

/-- The event ends a life of the device: a birth or death of the node, or its own death. -/
def EndsDevice (group : GroupId) (edge : EdgeNodeId) (device : DeviceId) : HostEvent → Prop
  | .nodeBirth g e _ | .nodeDeath g e _ _ => g = group.str ∧ e = edge.str
  | .deviceDeath g e d _ => g = group.str ∧ e = edge.str ∧ d = device.str
  | _ => False

instance (group : GroupId) (edge : EdgeNodeId) (device : DeviceId) :
    DecidablePred (EndsDevice group edge device) :=
  fun event => by
    apply @HostEvent.casesOn (fun event => Decidable (event.EndsDevice group edge device)) event <;>
      intros <;> first | exact instDecidableFalse | exact instDecidableAnd

instance (group : GroupId) (edge : EdgeNodeId) (m : NodeMessage) :
    DecidablePred (IsMessage group edge m) :=
  fun event => by
    apply @NodeMessage.casesOn (fun m => Decidable (event.IsMessage group edge m)) m <;> intros <;>
      apply @HostEvent.casesOn (fun event => Decidable (event.IsMessage group edge _)) event <;>
      intros <;> first | exact instDecidableFalse | exact instDecidableAnd

theorem EndsDevice.sender {group : GroupId} {edge : EdgeNodeId} {device : DeviceId}
    {event : HostEvent} (h : event.EndsDevice group edge device) :
    event.sender = some (group.str, edge.str) := by
  cases event <;> simp_all [EndsDevice, HostEvent.sender]

theorem IsMessage.ofSession {group : GroupId} {edge : EdgeNodeId} {m : NodeMessage}
    {event : HostEvent} (h : event.IsMessage group edge m) : event.OfSession group edge := by
  cases m <;> cases event <;> simp_all [IsMessage, OfSession]

/-- An event shows one message only. -/
theorem IsMessage.unique {group : GroupId} {edge : EdgeNodeId} {m m' : NodeMessage}
    {event : HostEvent} (h : event.IsMessage group edge m) (h' : event.IsMessage group edge m') :
    m = m' := by
  cases event with
  | nodeData g e metrics =>
    cases m <;> first | exact h.elim | skip
    cases m' <;> first | exact h'.elim | rfl
  | deviceBirth g e d metrics =>
    cases m <;> first | exact h.elim | skip
    cases m' <;> first | exact h'.elim | exact congrArg _ (Ident.str_inj (h.2.2.symm.trans h'.2.2))
  | deviceData g e d metrics =>
    cases m <;> first | exact h.elim | skip
    cases m' <;> first | exact h'.elim | exact congrArg _ (Ident.str_inj (h.2.2.symm.trans h'.2.2))
  | deviceDeath g e d ts =>
    cases m <;> first | exact h.elim | skip
    cases m' <;> first | exact h'.elim | exact congrArg _ (Ident.str_inj (h.2.2.symm.trans h'.2.2))
  | _ => cases m <;> exact h.elim

end HostEvent

namespace Heard

variable {T : Type} [MqttTransport T] (group : GroupId) (edge : EdgeNodeId) (device : DeviceId)
  (x : Heard T)

/-- The birth of the device is shown. -/
def ShowsBirth : Prop := x.1.Surfaces (HostEvent.IsMessage group edge (.deviceBirth device)) x.2

/-- The end of a life of the device is shown. -/
def ShowsEnd : Prop := x.1.Surfaces (HostEvent.EndsDevice group edge device) x.2

/-- The application has been shown the birth of the device, and no end of that life since. -/
def Shown (past : List (Heard T)) : Prop :=
  Since (fun x => ¬ x.ShowsEnd group edge device) (fun x => x.ShowsBirth group edge device) past

/-- Data and death of a device are only shown within a life of it that was shown: what an
application may count on. -/
structure InLife (x : Heard T) (past : List (Heard T)) : Prop where
  data : ∀ device, x.1.Surfaces (HostEvent.IsMessage group edge (.deviceData device)) x.2 →
    Shown group edge device past
  death : ∀ device, x.1.Surfaces (HostEvent.IsMessage group edge (.deviceDeath device)) x.2 →
    Shown group edge device past

/-- The condition under which `on_device_death` and `on_device_birth` keep to the lifecycle: a
DDEATH that passes, and a DBIRTH that passes with a corrupt alias map, find the device online.  The
handlers look at the node alone. -/
structure Orderly : Prop where
  death : ∀ device, x.Passes group edge (.deviceDeath device) →
    (x.before group edge).deviceOnline device = true
  birth : ∀ device p, x.Read group edge (.deviceBirth device) p →
    p.seq = some (x.before group edge).expectedSeq → AliasRegistry.Clashes p.metrics →
    (x.before group edge).deviceOnline device = true

/-- Every device that is flagged online is within a life that was shown: the invariant of orderly
runs. -/
def FlagsShown (node : NodeState) (past : List (Heard T)) : Prop :=
  ∀ device, node.deviceOnline device = true → Shown group edge device past

variable {group edge device x}

theorem Silent.not_showsEnd (h : x.Silent group edge) : ¬ x.ShowsEnd group edge device := by
  rintro ⟨event, hout, hends⟩
  exact h event hout hends.sender

/-- A message that passes shows the end of a life only if it is the death of the device. -/
theorem eq_death_of_showsEnd {m : NodeMessage} {p : Payload} (hseq : m.isSequenced = true)
    (shows : ((x.before group edge).decision x.2.1 group edge p m).verdict.Shows group edge
      (x.1.outcome x.2)) (hends : x.ShowsEnd group edge device) : m = .deviceDeath device := by
  obtain ⟨event, hout, hends⟩ := hends
  rw [hout] at shows
  have hv := shows.eq_event (by rw [hends.sender]; rfl)
  cases m with
  | birth => exact absurd hseq (by decide)
  | death => exact absurd hseq (by decide)
  | data =>
    cases hv
    exact hends.elim
  | deviceBirth d =>
    simp only [NodeState.decision] at hv
    split at hv <;> cases hv
    exact hends.elim
  | deviceData d =>
    cases hv
    exact hends.elim
  | deviceDeath d =>
    cases hv
    exact congrArg _ (Ident.str_inj hends.2.2)

/-- A DBIRTH that passes shows the birth, unless one alias stands for two names. -/
theorem showsBirth_of_pass {p : Payload}
    (shows : ((x.before group edge).decision x.2.1 group edge p
      (.deviceBirth device)).verdict.Shows group edge (x.1.outcome x.2))
    (hunique : ¬ AliasRegistry.Clashes p.metrics) : x.ShowsBirth group edge device := by
  have hdup : ¬ (AliasRegistry.new.bindAll p.metrics).2 = true := by
    rw [AliasRegistry.bindAll_new_refuses_iff]
    exact hunique
  rw [NodeState.decision, if_neg hdup] at shows
  exact ⟨_, shows, rfl, rfl, rfl⟩

theorem FlagsShown.change {past : List (Heard T)} (x : Heard T)
    (h : FlagsShown group edge (x.before group edge) past) (horderly : x.Orderly group edge) :
    FlagsShown group edge (x.after group edge) (x :: past) := by
  intro device honline
  rw [NodeState.deviceOnline_eq_flag] at honline
  cases x.change group edge with
  | birth p born alive next =>
    rw [NodeState.flag_of_session next, NodeState.flag_birth] at honline
    exact absurd honline Bool.false_ne_true
  | death addressed surfaced next =>
    rw [NodeState.flag_of_session next, NodeState.flag_death] at honline
    exact absurd honline Bool.false_ne_true
  | pass m p read expected shows next =>
    rw [NodeState.flag_of_session next, NodeState.flag_accepted] at honline
    have hgoes : m ≠ .deviceDeath device → (x.before group edge).deviceOnline device = true →
        Shown group edge device (x :: past) := by
      intro hother hbefore
      exact (h device hbefore).cons fun hends => hother (eq_death_of_showsEnd read.2.1 shows hends)
    cases m with
    | deviceBirth d =>
      by_cases hd : device = d
      · subst hd
        by_cases hclash : AliasRegistry.Clashes p.metrics
        · exact hgoes (by simp) (horderly.birth device p read expected hclash)
        · exact .inl (showsBirth_of_pass shows hclash)
      · simp only [if_neg fun hstr => hd (Ident.str_inj hstr)] at honline
        exact hgoes (by simp) honline
    | deviceDeath d =>
      by_cases hd : device = d
      · simp only [hd, if_true] at honline
        exact absurd honline Bool.false_ne_true
      · simp only [if_neg fun hstr => hd (Ident.str_inj hstr)] at honline
        exact hgoes (fun heq => hd (NodeMessage.deviceDeath.inj heq).symm) honline
    | _ => exact hgoes (by simp) honline
  | drop unborn failed silent next =>
    rw [NodeState.flag_of_session next] at honline
    exact (h device honline).cons silent.not_showsEnd
  | stay unborn failed kept silent next =>
    rw [NodeState.flag_of_session next] at honline
    exact (h device honline).cons silent.not_showsEnd

/-- What is shown of a session is a message that passed. -/
theorem passes_of_surfaces {m : NodeMessage}
    (h : x.1.Surfaces (HostEvent.IsMessage group edge m) x.2) : x.Passes group edge m := by
  obtain ⟨event, hout, hevent⟩ := h
  obtain ⟨m', after, hof, hturn⟩ := turn_of_surfaced x.1 hout hevent.ofSession.sender
  obtain ⟨hmessage, hseq, hon, p, hreads, hexp⟩ := hturn.isMessage hevent.ofSession
  obtain rfl := hmessage.unique hevent
  exact ⟨p, ⟨hof, hseq, hon, hreads⟩, hexp⟩

theorem FlagsShown.inLife {past : List (Heard T)}
    (h : FlagsShown group edge (x.before group edge) past) (horderly : x.Orderly group edge) :
    x.InLife group edge past where
  data := by
    intro device hshown
    obtain ⟨p, hread, -⟩ := passes_of_surfaces hshown
    have hlistens : ((x.before group edge).online &&
      (x.before group edge).deviceOnline device) = true := hread.2.2.1
    rw [Bool.and_eq_true] at hlistens
    exact h device hlistens.2
  death := by
    intro device hshown
    exact h device (horderly.death device (passes_of_surfaces hshown))

end Heard

/-! ## 2. Every run -/

/-- **Data and death of a device are shown within its life.**  In every run of a fresh host, for any
messages and transport, if each message keeps to the lifecycle on the record it meets, DDATA and
DDEATH are shown for a device only while the last thing shown of it is its birth. -/
theorem HostApplication.devices_in_life {T : Type} [MqttTransport T] (group : GroupId)
    (edge : EdgeNodeId) (config : HostConfig) (transport : T) (stateTs : Int64)
    (messages : List (Reading × IncomingMessage))
    (orderly : Always next (fun host input => Heard.Orderly group edge (host, input))
      (fresh config transport stateTs) messages) :
    Throughout (Heard.InLife group edge) ((fresh config transport stateTs).history messages) := by
  refine throughout_log
    (fun host past => Heard.FlagsShown group edge (host.node (key group edge)) past)
    ?_ _ messages [] ?_ orderly .nil
  · intro host input past hflags horderly
    exact ⟨Heard.FlagsShown.inLife (x := (host, input)) hflags horderly,
      Heard.FlagsShown.change (host, input) hflags horderly⟩
  · intro device honline
    exact absurd honline Bool.false_ne_true

/-! ## 3. The boiler of the line -/

/-- A message of the boiler without metrics. -/
def boilerMessage (ty : MessageType) (seq : UInt8) : Reading × IncomingMessage :=
  (noon, ⟨(SparkplugTopic.device plant line boiler ty).toString,
    encode { seq := some seq } .birth⟩)

def lineBirth : Reading × IncomingMessage := (noon, lineMessage .nBirth (some 0) .birth)

/-- Born after its node, the boiler may die. -/
theorem boiler_in_life :
    Throughout (Heard.InLife plant line) ((fresh (.new "scada") ({} : Recorder) 0).history
      [lineBirth, boilerMessage .dBirth 1, boilerMessage .dDeath 2]) := by
  have hbirth : NodeMessage.of lineBirth.2 = some (plant, line, .birth) := by decide +kernel
  have hborn : NodeMessage.of (boilerMessage .dBirth 1).2 =
      some (plant, line, .deviceBirth boiler) := by decide +kernel
  have hdies : NodeMessage.of (boilerMessage .dDeath 2).2 =
      some (plant, line, .deviceDeath boiler) := by decide +kernel
  obtain ⟨q, hq, hunique⟩ := exists_ok (decode (boilerMessage .dBirth 1).2.payload none)
    (fun p => decide (¬ AliasRegistry.Clashes p.metrics)) (by decide +kernel)
  have hlives : ((run next (fresh (.new "scada") ({} : Recorder) 0)
      [lineBirth, boilerMessage .dBirth 1]).node (key plant line)).deviceOnline boiler = true := by
    decide +kernel
  refine devices_in_life plant line (.new "scada") ({} : Recorder) 0
    [lineBirth, boilerMessage .dBirth 1, boilerMessage .dDeath 2]
    (show _ ∧ _ ∧ _ ∧ True from ⟨⟨?_, ?_⟩, ⟨?_, ?_⟩, ⟨?_, ?_⟩, trivial⟩)
  · rintro device ⟨p, hread, -⟩
    cases Heard.message_unique hbirth hread.1
  · intro device p hread
    cases Heard.message_unique hbirth hread.1
  · rintro device ⟨p, hread, -⟩
    cases Heard.message_unique hborn hread.1
  · intro device p hread _ hclash
    cases Heard.message_unique hborn hread.1
    obtain rfl := Except.ok.inj (hread.2.2.2.symm.trans hq)
    exact absurd hclash (of_decide_eq_true hunique)
  · rintro device ⟨p, hread, -⟩
    cases Heard.message_unique hdies hread.1
    exact hlives
  · intro device p hread
    cases Heard.message_unique hdies hread.1

/-- **A death without a life.**  `on_device_death` looks at the node alone: the line is born, and a
DDEATH of a boiler that was never born is shown to the application. -/
theorem unborn_boiler_dies :
    ¬ ∀ messages, Throughout (Heard.InLife plant line)
      ((fresh (.new "scada") ({} : Recorder) 0).history messages) := by
  intro claim
  have hdeath : ((fresh (.new "scada") ({} : Recorder) 0).next lineBirth).Surfaces
      (HostEvent.IsMessage plant line (.deviceDeath boiler)) (boilerMessage .dDeath 1) := by
    decide +kernel
  have hnever : ¬ (fresh (.new "scada") ({} : Recorder) 0).Surfaces
      (HostEvent.IsMessage plant line (.deviceBirth boiler)) lineBirth := by decide +kernel
  obtain ⟨hlast, -⟩ := throughout_cons.mp (claim [lineBirth, boilerMessage .dDeath 1])
  rcases hlast.death boiler hdeath with hborn | ⟨-, hnone⟩
  · exact hnever hborn
  · exact hnone

end SparkplugB
