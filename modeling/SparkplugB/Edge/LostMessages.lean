/-
# Messages that could not be sent

`publish_node_data`, `publish_device_data` and `publish_device_death` fail in two ways.  They refuse a
call before anything is touched, or the transport fails, and then the number of the message is
already gone.  So a failed call leaves the session as it was exactly if it was refused
(`untouched_iff_refuses`): after a failure of the transport the next message shows a gap.
-/
import SparkplugB.Codec.Survival
import SparkplugB.Edge.Announced

namespace SparkplugB

open Codec Machine

/-! ## 1. Publications -/

/-- The call publishes one message of a session that has begun: it is `publish_node_data`,
`publish_device_data` or `publish_device_death`. -/
def Action.isPublication : Action → Bool
  | publishNodeData _ | publishDeviceData _ _ | publishDeviceDeath _ => true
  | _ => false

/-- The guards of the three methods refuse the call before anything is touched: the node is not
online (`publish_node_data`), or the device is not born or has no valid name (the other two). -/
def EdgeNode.Refuses {T S : Type} (node : EdgeNode T S) : Action → Prop
  | .publishNodeData _ => node.state ≠ .online
  | .publishDeviceData device _ | .publishDeviceDeath device =>
    device ∉ node.bornDevices ∨ ∀ id : DeviceId, Ident.new device ≠ .ok id
  | _ => False

variable {S : Type}

/-- What the callers of a failed call would like to find: the number, the born devices, the aliases
and the state are as they were, and the next publication that succeeds carries the number that was
due before. -/
structure Untouched [BdSeqStore S] (s s' : Strained S) : Prop where
  seq : s'.engine.seq = s.engine.seq
  bornDevices : s'.engine.bornDevices = s.engine.bornDevices
  aliasing : s'.engine.aliasing = s.engine.aliasing
  state : s'.engine.state = s.engine.state
  next : ∀ (a : Action) (s'' : Strained S), a.isPublication = true →
    a.call.run s' = .ok () s'' →
    ∃ message, s''.seen.engine.transport.log = .publish message :: s'.seen.engine.transport.log ∧
      Carries message.payload (some s.engine.seq.val)

/-! ## 2. What a publication does -/

/-- The method tries to send one message, and loses nothing but its number if that fails. -/
structure Sending (s : Observed S) (p : EdgeM Faulty S Unit) (message : OutboundMessage)
    (done : Observed S) : Prop where
  fares : Fares p s 1 done fun _ s' => s' = s.unsent
  log : done.engine.transport.log = .publish message :: s.engine.transport.log
  carries : Carries message.payload (some s.engine.seq.val)

/-- A call that is refused returns an error and touches nothing. -/
theorem run_refused [BdSeqStore S] (s : Strained S) {a : Action} (h : s.engine.Refuses a) :
    ∃ e, a.call.run s = .error e s := by
  cases a with
  | publishNodeData metrics => exact EdgeNode.run_publishNodeData_refused metrics h
  | publishDeviceData device metrics => exact EdgeNode.run_publishDeviceData_refused metrics h
  | publishDeviceDeath device => exact EdgeNode.run_publishDeviceDeath_refused h
  | _ => exact h.elim

/-- A publication that is not refused tries to send one message, which carries the number that is
due. -/
theorem sending_of_not_refused [BdSeqStore S] (s : Observed S) {a : Action}
    (ha : a.isPublication = true) (h : ¬ s.engine.Refuses a) :
    ∃ message done, Sending s a.call message done := by
  cases a with
  | publishNodeData metrics =>
    have hon : s.engine.state = .online := not_not.mp h
    exact ⟨_, _, EdgeNode.fares_publishNodeData hon, rfl, carries_encode _ _⟩
  | publishDeviceData device metrics =>
    obtain ⟨id, hborn, rfl⟩ := EdgeNode.born_of_not_refused h
    exact ⟨_, _, EdgeNode.fares_publishDeviceData hborn, rfl, carries_encode _ _⟩
  | publishDeviceDeath device =>
    obtain ⟨id, hborn, rfl⟩ := EdgeNode.born_of_not_refused h
    exact ⟨_, _, EdgeNode.fares_publishDeviceDeath hborn, rfl, carries_encode _ _⟩
  | connect source => exact absurd ha Bool.false_ne_true
  | publishBirthSequence source => exact absurd ha Bool.false_ne_true
  | handleIncoming message source => exact absurd ha Bool.false_ne_true
  | disconnect => exact absurd ha Bool.false_ne_true

/-- What a publication that succeeds has sent. -/
theorem sent_of_ok [BdSeqStore S] {s s' : Strained S} {a : Action} (ha : a.isPublication = true)
    (hrun : a.call.run s = .ok () s') :
    ∃ message, s'.seen.engine.transport.log = .publish message :: s.seen.engine.transport.log ∧
      Carries message.payload (some s.engine.seq.val) := by
  by_cases hrefuses : s.engine.Refuses a
  · obtain ⟨e, herror⟩ := run_refused s hrefuses
    exact absurd (hrun.symm.trans herror) (by simp)
  · obtain ⟨message, done, hsending⟩ := sending_of_not_refused s.seen ha hrefuses
    rcases hsending.fares s.answers with ⟨-, hok⟩ | ⟨_, -, -, -, e, lost, w, herror, -⟩
    · rw [s.under_seen, hrun] at hok
      obtain rfl : s' = done.under _ := (EStateM.Result.ok.inj hok).2
      exact ⟨message, hsending.log, hsending.carries⟩
    · rw [s.under_seen, hrun] at herror
      exact absurd herror (by simp)

/-! ## 3. What a failure leaves behind -/

/-- **A failed call leaves the session as it was exactly if it was refused.**  `a` is one of the
three publications, in any state and on a transport that fails anywhere, and `hrun` says that it
returned an error.  The other errors come from the transport, when `seq` has already been
advanced. -/
theorem untouched_iff_refuses [BdSeqStore S] {s s' : Strained S} {a : Action} {e : SparkplugError}
    (ha : a.isPublication = true) (hrun : a.call.run s = .error e s') :
    Untouched s s' ↔ s.engine.Refuses a := by
  constructor
  · intro h
    by_contra hrefuses
    obtain ⟨message, done, hsending⟩ := sending_of_not_refused s.seen ha hrefuses
    rcases hsending.fares s.answers with ⟨-, hok⟩ | ⟨_, -, -, -, e', lost, w, herror, hlost⟩
    · rw [s.under_seen, hrun] at hok
      exact absurd hok (by simp)
    · rw [s.under_seen, hrun] at herror
      obtain rfl : s' = lost.under w := (EStateM.Result.error.inj herror).2
      -- the number of the lost message is gone
      have hseq : lost.engine.seq = s.engine.seq := h.seq
      rw [hlost] at hseq
      have hval : s.engine.seq.val + 1 = s.engine.seq.val := congrArg Seq.val hseq
      exact absurd (congrArg UInt8.toNat hval) (by have := s.engine.seq.val.toNat_lt; grind)
  · intro hrefuses
    obtain ⟨e', herror⟩ := run_refused s hrefuses
    obtain rfl : s' = s := (EStateM.Result.error.inj (hrun.symm.trans herror)).2
    exact ⟨rfl, rfl, rfl, rfl, fun a s'' ha hnext => sent_of_ok ha hnext⟩

/-- A line that has connected: it has sent two births, its pump is born, and its metrics have aliases.
The next message it sends is going to be lost. -/
def strainedLine : Strained InMemoryBdSeqStore :=
  run Strained.perform
    (Strained.start { pumpLine with useAliases := true } ⟨0⟩ stopped (failsAt 5)) [.connect metered]

/-- It refuses the data of a valve that it does not know, and is as before. -/
theorem untouched_unborn :
    strainedLine.engine.seq.val = 2 ∧ strainedLine.engine.bornDevices = ["pump"] ∧
      strainedLine.engine.aliasing.aliases.aliasForName "rpm" = some 1 ∧
      Untouched strainedLine
        ((Action.publishDeviceData "valve" [Metric.new "rpm" (.int32 901)]).call.run
          strainedLine).state := by
  have hrefused : ∀ s : Strained InMemoryBdSeqStore, "valve" ∉ s.engine.bornDevices →
      Untouched s ((Action.publishDeviceData "valve" [Metric.new "rpm" (.int32 901)]).call.run
        s).state := by
    intro s hvalve
    obtain ⟨e, hrun⟩ := run_refused s
      (a := .publishDeviceData "valve" [Metric.new "rpm" (.int32 901)]) (.inl hvalve)
    rw [hrun]
    exact (untouched_iff_refuses rfl hrun).mpr (.inl hvalve)
  exact ⟨by decide +kernel, by decide +kernel, by decide +kernel,
    hrefused strainedLine (by decide +kernel)⟩

/-- **A lost NDATA leaves a gap.**  The line has connected; its first NDATA is not sent, and the number
`1` is never used. -/
theorem not_untouched_lost_data :
    ¬ ∀ (actions : List Action) (a : Action) (e : SparkplugError)
        (s' : Strained InMemoryBdSeqStore), a.isPublication = true →
        a.call.run (run Strained.perform
          (Strained.start soleLine (⟨0⟩ : InMemoryBdSeqStore) stopped (failsAt 3)) actions) =
            .error e s' →
        Untouched (run Strained.perform
          (Strained.start soleLine (⟨0⟩ : InMemoryBdSeqStore) stopped (failsAt 3)) actions) s' := by
  intro claim
  cases hrun : (Action.publishNodeData []).call.run (run Strained.perform
      (Strained.start soleLine (⟨0⟩ : InMemoryBdSeqStore) stopped (failsAt 3))
      [.connect silent]) with
  | ok u s' =>
    have hfails : ((Action.publishNodeData []).call.run (run Strained.perform
        (Strained.start soleLine (⟨0⟩ : InMemoryBdSeqStore) stopped (failsAt 3))
        [.connect silent])).outcome.toOption = none := by decide +kernel
    rw [hrun] at hfails
    exact absurd hfails (by simp [Except.toOption])
  | error e s' =>
    have hseq := (claim _ _ e s' rfl hrun).seq
    have hstate := congrArg EStateM.Result.state hrun
    have hbefore : (run Strained.perform (Strained.start soleLine (⟨0⟩ : InMemoryBdSeqStore) stopped
        (failsAt 3)) [.connect silent]).engine.seq.val = 1 := by decide +kernel
    have hafter : ((Action.publishNodeData []).call.run (run Strained.perform
        (Strained.start soleLine (⟨0⟩ : InMemoryBdSeqStore) stopped (failsAt 3))
        [.connect silent])).state.engine.seq.val = 2 := by decide +kernel
    rw [hstate, EStateM.Result.state_error, hseq, hbefore] at hafter
    exact absurd hafter (by decide)

end SparkplugB
