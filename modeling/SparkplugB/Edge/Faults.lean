/-
# Calls that fail

A transport call may return an error with nothing sent.  `Faulty` is the recording transport with
an answer prepared for every call to come, so the answers range over everything a transport can
do.  A method that meets no error does what it does on the recording transport; one that meets an
error stops there, and this file says in which state: an engine `s` whose transport has the
answers `w` to give is `s.under w`.
-/
import SparkplugB.Edge.Session

namespace SparkplugB

/-- The answers of a transport to the calls to come: nothing, or an error. -/
abbrev Answers := Stream' (Option SparkplugError)

/-- A recording transport that gives these answers, one to each call: the call is written down where
the answer is no error, and has not happened where it is one. -/
structure Faulty where
  recorder : Recorder
  answers : Answers

namespace Faulty

/-- A call: it is written down unless the answer is an error. -/
def attempt (e : Entry) : EStateM SparkplugError Faulty Unit := fun t =>
  match t.answers.head with
  | none => .ok () ⟨t.recorder.note e, t.answers.tail⟩
  | some err => .error err ⟨t.recorder, t.answers.tail⟩

instance : MqttTransport Faulty where
  connect opts := attempt (.connect opts)
  subscribe filter qos := attempt (.subscribe filter qos)
  publish message := attempt (.publish message)
  disconnect := attempt .disconnect
  recv := EStateM.focus Faulty.recorder (fun r t => { t with recorder := r }) MqttTransport.recv

end Faulty

/-- The next `n` answers are no errors. -/
def Answers.Clear : Nat → Answers → Prop
  | 0, _ => True
  | n + 1, w => w.head = none ∧ Clear n w.tail

instance Answers.decidableClear : ∀ (n : Nat) (w : Answers), Decidable (Answers.Clear n w)
  | 0, _ => isTrue trivial
  | n + 1, w =>
    have := decidableClear n w.tail
    inferInstanceAs (Decidable (w.head = none ∧ Answers.Clear n w.tail))

theorem Answers.clear_add :
    ∀ (m n : Nat) (w : Answers), Clear (m + n) w ↔ Clear m w ∧ Clear n (w.drop m)
  | 0, n, w => by simp [Clear]
  | m + 1, n, w => by
    have ih := clear_add m n w.tail
    rw [Nat.succ_add, Clear, Clear, ih, and_assoc]
    rfl

theorem Answers.Clear.mono {m n : Nat} {w : Answers} (h : Clear n w) (hle : m ≤ n) :
    Clear m w := by
  obtain ⟨k, rfl⟩ := Nat.exists_eq_add_of_le hle
  exact ((clear_add m k w).mp h).1

theorem Answers.Clear.head :
    ∀ {n k : Nat} {w : Answers}, Clear n w → k < n → (w.drop k).head = none
  | n + 1, 0, _, h, _ => h.1
  | n + 1, k + 1, w, h, hk => by
    have hrest := Clear.head h.2 (Nat.lt_of_succ_lt_succ hk)
    exact hrest

/-- An edge on a transport that may fail at any call, and its clock.  `seen` is the edge as
`Observed` sees it, and `answers` are the answers to come. -/
abbrev Strained (S : Type) := Timed (EdgeNode Faulty S)

/-- The engine on another transport. -/
def EdgeNode.withTransport {T T' S : Type} (node : EdgeNode T S) (transport : T') :
    EdgeNode T' S where
  config := node.config
  transport
  bdseqStore := node.bdseqStore
  seq := node.seq
  bdSeq := node.bdSeq
  aliasing := node.aliasing
  bornDevices := node.bornDevices
  lastRebirth := node.lastRebirth
  lastStateTs := node.lastStateTs
  state := node.state

variable {S : Type}

/-- What has been sent, and the fields of the engine. -/
def Strained.seen (s : Strained S) : Observed S :=
  ⟨s.engine.withTransport s.engine.transport.recorder, s.clock⟩

/-- The answers to come. -/
def Strained.answers (s : Strained S) : Answers := s.engine.transport.answers

/-- The edge, on a transport that has the answers `w` to give. -/
def Observed.under (s : Observed S) (w : Answers) : Strained S :=
  ⟨s.engine.withTransport ⟨s.engine.transport, w⟩, s.clock⟩

@[simp] theorem Observed.seen_under (s : Observed S) (w : Answers) :
    Strained.seen (s.under w) = s := rfl

@[simp] theorem Observed.answers_under (s : Observed S) (w : Answers) :
    Strained.answers (s.under w) = w := rfl

theorem Strained.under_seen (s : Strained S) : s.seen.under s.answers = s := rfl

/-! ## 1. How a method fares -/

/-- The method makes `n` calls.  If all are answered it leaves the edge as `done`; if the call after
`k` others is the first to fail, it returns that error with the edge as one of `lost k`.  This is
the one form in which the methods of the engine are known on a transport that fails. -/
def Fares (p : EdgeM Faulty S Unit) (s : Observed S) (n : Nat) (done : Observed S)
    (lost : Nat → Observed S → Prop) : Prop :=
  ∀ w : Answers,
    (w.Clear n ∧ p.run (s.under w) = .ok () (done.under (w.drop n))) ∨
      ∃ k, k < n ∧ w.Clear k ∧ (w.drop k).head ≠ none ∧
        ∃ err s' w', p.run (s.under w) = .error err (s'.under w') ∧ lost k s'

namespace Fares

variable {p : EdgeM Faulty S Unit} {q : Unit → EdgeM Faulty S Unit} {s done done' : Observed S}
  {m n : Nat} {lost lost' : Nat → Observed S → Prop}

theorem mono (h : Fares p s n done lost) (lost' : Nat → Observed S → Prop)
    (hlost : ∀ k < n, ∀ s', lost k s' → lost' k s') : Fares p s n done lost' := by
  intro w
  rcases h w with hok | ⟨k, hk, hclear, hfail, err, s', w', hrun, hs'⟩
  · exact .inl hok
  · exact .inr ⟨k, hk, hclear, hfail, err, s', w', hrun, hlost k hk s' hs'⟩

theorem bind (hp : Fares p s n done lost)
    (hq : Fares (q ()) done m done' fun k => lost (n + k)) :
    Fares (p >>= q) s (n + m) done' lost := by
  intro w
  rcases hp w with ⟨hclear, hrun⟩ | ⟨k, hk, hclear, hfail, err, s', w', hrun, hs'⟩
  · rw [EStateM.bind_ok hrun]
    rcases hq (w.drop n) with ⟨hclear', hrun'⟩ | ⟨k, hk, hclear', hfail, err, s', w', hrun', hs'⟩
    · refine .inl ⟨(Answers.clear_add n m w).mpr ⟨hclear, hclear'⟩, ?_⟩
      rw [hrun', Stream'.drop_drop]
    · refine .inr ⟨n + k, by omega, (Answers.clear_add n k w).mpr ⟨hclear, hclear'⟩, ?_, err, s',
        w', hrun', hs'⟩
      rwa [Stream'.drop_drop] at hfail
  · exact .inr ⟨k, by omega, hclear, hfail, err, s', w', EStateM.bind_error hrun, hs'⟩

/-- A method after something that makes no call. -/
theorem after {p' : EdgeM Faulty S Unit} {s₁ : Observed S} (h : Fares p s₁ n done lost)
    (hrun : ∀ w, p'.run (s.under w) = p.run (s₁.under w)) : Fares p' s n done lost := by
  intro w
  rw [hrun w]
  exact h w

/-- A method that makes no call at all. -/
theorem of_ok (done : Observed S) (hrun : ∀ w, p.run (s.under w) = .ok () (done.under w)) :
    Fares p s 0 done lost := fun w => .inl ⟨trivial, hrun w⟩

/-- What the method leaves behind, followed by something that makes no call. -/
theorem state {α : Type} {f : Unit → EdgeM Faulty S α} (h : Fares p s n done lost)
    {done' : Observed S} (hf : ∀ w, ((f ()).run (done.under w)).state = done'.under w)
    (w : Answers) :
    Strained.seen ((p >>= f).run (s.under w)).state = done' ∨
      ∃ k, k < n ∧ w.Clear k ∧ (w.drop k).head ≠ none ∧
        lost k (Strained.seen ((p >>= f).run (s.under w)).state) := by
  rcases h w with ⟨-, hrun⟩ | ⟨k, hk, hclear, hfail, err, s', w', hrun, hs'⟩
  · left
    rw [EStateM.bind_ok hrun, hf, Observed.seen_under]
  · right
    refine ⟨k, hk, hclear, hfail, ?_⟩
    rw [EStateM.bind_error hrun, EStateM.Result.state_error, Observed.seen_under]
    exact hs'

/-- What the method leaves behind. -/
theorem state' (h : Fares p s n done lost) (w : Answers) :
    Strained.seen (p.run (s.under w)).state = done ∨
      ∃ k, k < n ∧ w.Clear k ∧ (w.drop k).head ≠ none ∧
        lost k (Strained.seen (p.run (s.under w)).state) := by
  have hpure : ∀ w, (EStateM.run (pure () : EdgeM Faulty S Unit) (done.under w)).state =
    done.under w := fun _ => rfl
  have hstate := h.state (f := pure) hpure w
  rwa [bind_pure] at hstate

end Fares

namespace EdgeNode

theorem fares_attempt (s : Observed S) (e : Entry) :
    Fares (onTransport (Faulty.attempt e)) s 1 (s.note e) fun _ s' => s' = s := by
  intro w
  cases h : w.head with
  | none =>
    refine .inl ⟨⟨h, trivial⟩, ?_⟩
    refine EStateM.run_focus_ok _ _ (t := (⟨s.engine.transport.note e, w.tail⟩ : Faulty)) ?_
    show Faulty.attempt e ⟨s.engine.transport, w⟩ = _
    simp only [Faulty.attempt, h]
  | some err =>
    refine .inr ⟨0, one_pos, trivial, by simp [h], err, s, w.tail, ?_, rfl⟩
    refine EStateM.run_focus_error _ _ (t := (⟨s.engine.transport, w.tail⟩ : Faulty)) ?_
    show Faulty.attempt e ⟨s.engine.transport, w⟩ = _
    simp only [Faulty.attempt, h]

theorem run_nowMs_under (s : Observed S) (w : Answers) :
    nowMs.run (s.under w) = .ok s.ms (s.tick.under w) := rfl

theorem run_nextSeq_under (s : Observed S) (w : Answers) :
    nextSeq.run (s.under w) = .ok s.engine.seq.val ((s.update advanceSeq).under w) := rfl

/-- Assigning aliases. -/
def withAliases (node : EdgeNode Recorder S) (metrics : List Metric) : EdgeNode Recorder S :=
  { node with aliasing := (node.aliased metrics).2 }

theorem run_assignAliases_under (metrics : List Metric) (s : Observed S) (w : Answers) :
    (assignAliases metrics).run (s.under w) =
      .ok (s.engine.aliased metrics).1 ((s.update (·.withAliases metrics)).under w) := by
  unfold assignAliases withAliases aliased
  rw [EStateM.bind_ok (run_self _)]
  by_cases h : s.engine.config.useAliases = true
  · have hunder : (s.under w).engine.config.useAliases = true := h
    simp only [if_pos hunder, if_pos h, Observed.update]
    rfl
  · have hunder : ¬ (s.under w).engine.config.useAliases = true := h
    simp only [if_neg hunder, if_neg h, Observed.update]
    rfl

theorem run_buildNodeBirthMetrics_under (source : DataSource) (s : Observed S) (w : Answers) :
    (buildNodeBirthMetrics source).run (s.under w) =
      .ok (s.engine.aliased (controlled s.engine.bdSeq source.nodeBirthMetrics)).1
        ((s.update (·.withAliases (controlled s.engine.bdSeq source.nodeBirthMetrics))).under w) :=
  run_assignAliases_under _ s w

end EdgeNode

/-! ## 2. Births -/

namespace Observed

/-- After a DBIRTH that was not sent: its aliases are assigned, and its number is gone. -/
def deviceBirthLost (source : DataSource) (s : Observed S) (device : DeviceId) : Observed S :=
  (s.tick.update (·.withAliases (source.deviceBirthMetrics device.str))).update
    EdgeNode.advanceSeq

/-- After an NBIRTH that was not sent. -/
def nodeBirthLost (source : DataSource) (s : Observed S) : Observed S :=
  ((s.update EdgeNode.resetForBirth).tick.update fun node =>
    node.withAliases (EdgeNode.controlled node.bdSeq source.nodeBirthMetrics)).update
      EdgeNode.advanceSeq

/-- The DBIRTHs of some of the devices have been sent, and the next one has not. -/
def DeviceLost (source : DataSource) (devices : List DeviceId) (s s' : Observed S) : Prop :=
  ∃ pre device post, devices = pre ++ device :: post ∧
    s' = (pre.foldl (deviceBirth source) s).deviceBirthLost source device

end Observed

namespace EdgeNode

theorem fares_publishDeviceBirth (source : DataSource) (device : DeviceId) (s : Observed S) :
    Fares (publishDeviceBirth source device) s 1 (s.deviceBirth source device)
      fun _ s' => s' = s.deviceBirthLost source device := by
  have hpublish := (fares_attempt (s.deviceBirthLost source device)
    (.publish (s.engine.deviceBirthMessage source device s.ms))).bind
      (q := fun _ => assign fun node => { node with bornDevices := node.bornDevices ++ [device.str] })
      (.of_ok (s.deviceBirth source device) fun _ => rfl)
  refine hpublish.after fun w => ?_
  unfold publishDeviceBirth
  rw [EStateM.bind_ok (run_nowMs_under s w),
    EStateM.bind_ok (run_assignAliases_under _ s.tick w), EStateM.bind_ok (run_nextSeq_under _ w),
    EStateM.bind_ok (run_self _)]
  rfl

/-- The loop over the devices. -/
theorem fares_deviceBirths (source : DataSource) :
    ∀ (devices : List DeviceId) (s : Observed S),
      Fares (devices.forM (publishDeviceBirth source)) s devices.length
        (devices.foldl (Observed.deviceBirth source) s) fun _ => s.DeviceLost source devices
  | [], s => .of_ok _ fun _ => rfl
  | device :: rest, s => by
    have hfirst := (fares_publishDeviceBirth source device s).mono
      (fun _ => s.DeviceLost source (device :: rest)) fun _ _ s' hs' =>
        ⟨[], device, rest, rfl, hs'⟩
    have hrest := (fares_deviceBirths source rest (s.deviceBirth source device)).mono
      (fun _ => s.DeviceLost source (device :: rest)) fun _ _ s' hs' => by
        obtain ⟨pre, device', post, rfl, rfl⟩ := hs'
        exact ⟨device :: pre, device', post, rfl, rfl⟩
    rw [List.length_cons, Nat.add_comm, List.forM_eq_forM, List.forM_cons]
    exact hfirst.bind hrest

end EdgeNode

/-- What `publish_birth_sequence` leaves behind when the call after `k` others fails: the reset and
the births before it have happened, the birth that failed has taken its aliases and its number, and
the state is as it was. -/
def Observed.BirthLost (source : DataSource) (s : Observed S) : Nat → Observed S → Prop
  | 0, s' => s' = s.nodeBirthLost source
  | _ + 1, s' => (s.nodeBirth source).DeviceLost source s.engine.config.devices s'

namespace EdgeNode

theorem fares_publishBirthSequence (source : DataSource) (s : Observed S) :
    Fares (publishBirthSequence source) s (1 + s.engine.config.devices.length) (s.birth source)
      (s.BirthLost source) := by
  have hnode := (fares_attempt (s.nodeBirthLost source)
      (.publish (s.engine.resetForBirth.nodeBirthMessage source s.ms))).mono
    (s.BirthLost source) fun k hk s' hs' => by
      obtain rfl : k = 0 := by omega
      exact hs'
  have hdevices := (fares_deviceBirths source s.engine.config.devices (s.nodeBirth source)).mono
    (fun k => s.BirthLost source (1 + k)) fun k _ s' hs' => by
      rw [Nat.add_comm]
      exact hs'
  have honline := hdevices.bind
    (q := fun _ => assign fun node => { node with state := .online })
    (.of_ok (s.birth source) fun _ => rfl)
  have hrest : Fares (self >>= fun node =>
      node.config.devices.forM (publishDeviceBirth source) >>= fun _ =>
        assign fun node => { node with state := .online })
      (s.nodeBirth source) (s.engine.config.devices.length + 0) (s.birth source)
        (fun k => s.BirthLost source (1 + k)) := honline.after fun w => rfl
  refine (hnode.bind (q := fun _ => _) hrest).after fun w => ?_
  have hreset : (assign resetForBirth).run (s.under w) =
    .ok () ((s.update resetForBirth).under w) := rfl
  unfold publishBirthSequence
  rw [EStateM.bind_ok hreset, EStateM.bind_ok (run_nowMs_under _ w),
    EStateM.bind_ok (run_buildNodeBirthMetrics_under source _ w),
    EStateM.bind_ok (run_nextSeq_under _ w), EStateM.bind_ok (run_self _)]
  rfl

end EdgeNode

/-! ## 3. Sessions -/

namespace EdgeNode

/-- The calls of `connect` up to the one after which the edge is born or waiting: the connect, the
subscriptions, and the NBIRTH or the subscription to the primary host. -/
def sessionCalls (node : EdgeNode Recorder S) : Nat := 3 + node.config.devices.length

/-- All calls of `connect`. -/
def connectCalls (node : EdgeNode Recorder S) : Nat :=
  node.sessionCalls + (if node.config.primaryHostId = none then node.config.devices.length else 0)

end EdgeNode

/-- After an NDEATH, still connected. -/
def Observed.died (s : Observed S) : Observed S :=
  s.tick.note (.publish (s.engine.ndeathMessage s.ms))

/-- Only the clock and the journal have changed, and nothing was published. -/
structure Observed.Unpublished (s s' : Observed S) : Prop where
  config : s'.engine.config = s.engine.config
  state : s'.engine.state = s.engine.state
  aliasing : s'.engine.aliasing = s.engine.aliasing
  log : ∃ es, s'.engine.transport.log = es ++ s.engine.transport.log ∧
    ∀ e ∈ es, ∀ message, e ≠ .publish message

/-- What `connect` leaves behind when the call after `k` others fails, as far as it matters: the
state it was in, and all of it before the transport has connected and after the NBIRTH. -/
structure Observed.SessionLost (source : DataSource) (s : Observed S) (k : Nat)
    (s' : Observed S) : Prop where
  state : s'.engine.state = s.engine.state
  unconnected : k = 0 → s' = s.tick
  unpublished : k + 1 < s.engine.sessionCalls ∨ s.engine.config.primaryHostId ≠ none →
    s.Unpublished s'
  unborn : s.engine.sessionCalls ≤ k →
    (s.connected.nodeBirth source).DeviceLost source s.engine.config.devices s'
  birthLost : s.engine.sessionCalls ≤ k + 1 → s.engine.config.primaryHostId = none →
    s.connected.BirthLost source (k + 1 - s.engine.sessionCalls) s'

namespace Observed.Unpublished

theorem refl (s : Observed S) : s.Unpublished s := ⟨rfl, rfl, rfl, [], rfl, by simp⟩

theorem trans {s s' s'' : Observed S} (h : s.Unpublished s') (h' : s'.Unpublished s'') :
    s.Unpublished s'' := by
  obtain ⟨es, hlog, hes⟩ := h.log
  obtain ⟨es', hlog', hes'⟩ := h'.log
  refine ⟨h'.config.trans h.config, h'.state.trans h.state, h'.aliasing.trans h.aliasing,
    es' ++ es, by rw [hlog', hlog, List.append_assoc], fun e he => ?_⟩
  rcases List.mem_append.mp he with he | he
  · exact hes' e he
  · exact hes e he

theorem tick (s : Observed S) : s.Unpublished s.tick := ⟨rfl, rfl, rfl, [], rfl, by simp⟩

theorem note (s : Observed S) {e : Entry} (he : ∀ message, e ≠ .publish message) :
    s.Unpublished (s.note e) :=
  ⟨rfl, rfl, rfl, [e], rfl, fun _ he' => List.mem_singleton.mp he' ▸ he⟩

theorem subscribe (s : Observed S) (filter : String) : s.Unpublished (s.subscribe filter) :=
  note s (by simp)

theorem foldl_subscribe (topic : DeviceId → String) :
    ∀ (devices : List DeviceId) (s : Observed S),
      s.Unpublished (devices.foldl (fun s' device => s'.subscribe (topic device)) s)
  | [], s => refl s
  | _ :: rest, s => (subscribe s _).trans (foldl_subscribe topic rest _)

/-- The subscriptions of a new connection. -/
theorem connected (s : Observed S) : s.Unpublished s.connected :=
  (((tick s).trans (note s.tick (by simp))).trans (subscribe _ _)).trans (foldl_subscribe _ _ _)

end Observed.Unpublished

namespace EdgeNode

theorem fares_subscribeDevices (node : EdgeNode Recorder S) :
    ∀ (devices : List DeviceId) (s : Observed S),
      Fares (devices.forM fun device => (onTransport (MqttTransport.subscribe
          (node.deviceTopic device .dCmd) .atLeastOnce) : EdgeM Faulty S Unit)) s devices.length
        (devices.foldl (fun (s' : Observed S) device =>
          s'.subscribe (node.deviceTopic device .dCmd)) s)
        fun _ => s.Unpublished
  | [], s => .of_ok _ fun _ => rfl
  | device :: rest, s => by
    have hfirst := (fares_attempt s (.subscribe (node.deviceTopic device .dCmd) .atLeastOnce)).mono
      (fun _ => s.Unpublished) fun _ _ s' hs' => hs' ▸ .refl s
    have hrest := (fares_subscribeDevices node rest
        (s.subscribe (node.deviceTopic device .dCmd))).mono
      (fun _ => s.Unpublished) fun _ _ s' hs' => (Observed.Unpublished.subscribe s _).trans hs'
    rw [List.length_cons, Nat.add_comm, List.forM_eq_forM, List.forM_cons]
    exact hfirst.bind hrest

/-- A field of the engine that a loop leaves alone. -/
theorem foldl_field {α β : Type} (f : EdgeNode Recorder S → β) {g : Observed S → α → Observed S}
    (hg : ∀ s a, f (g s a).engine = f s.engine) :
    ∀ (as : List α) (s : Observed S), f (as.foldl g s).engine = f s.engine
  | [], _ => rfl
  | a :: as, s => (foldl_field f hg as (g s a)).trans (hg s a)

/-- Connecting the transport changes no field. -/
theorem connected_field {β : Type} (f : EdgeNode Recorder S → β)
    (hnote : ∀ (s : Observed S) e, f (s.note e).engine = f s.engine) (s : Observed S) :
    f s.connected.engine = f s.engine := by
  have hloop := foldl_field f
    (g := fun (s' : Observed S) device => s'.subscribe (s.engine.deviceTopic device .dCmd))
    (fun s' device => hnote s' _) s.engine.config.devices
    ((s.tick.note (.connect (s.engine.connectOptions s.ms))).subscribe (s.engine.nodeTopic .nCmd))
  exact hloop.trans ((hnote _ _).trans (hnote s.tick _))

theorem connected_config (s : Observed S) : s.connected.engine.config = s.engine.config :=
  connected_field EdgeNode.config (fun _ _ => rfl) s

theorem connected_state (s : Observed S) : s.connected.engine.state = s.engine.state :=
  connected_field EdgeNode.state (fun _ _ => rfl) s

theorem connected_bdSeq (s : Observed S) : s.connected.engine.bdSeq = s.engine.bdSeq :=
  connected_field EdgeNode.bdSeq (fun _ _ => rfl) s

/-- A birth that is not complete has not changed the state. -/
theorem state_of_deviceLost {source : DataSource} {devices : List DeviceId} {s s' : Observed S}
    (h : s.DeviceLost source devices s') : s'.engine.state = s.engine.state := by
  obtain ⟨pre, device, post, -, rfl⟩ := h
  exact foldl_field EdgeNode.state (g := Observed.deviceBirth source) (fun _ _ => rfl) pre s

theorem state_of_birthLost {source : DataSource} {k : Nat} {s s' : Observed S}
    (h : s.BirthLost source k s') : s'.engine.state = s.engine.state := by
  cases k with
  | zero =>
    obtain rfl : s' = s.nodeBirthLost source := h
    rfl
  | succ k =>
    have hlost : (s.nodeBirth source).DeviceLost source s.engine.config.devices s' := h
    have hstate := state_of_deviceLost hlost
    exact hstate

/-- The last part of `connect`, on a transport that has connected. -/
theorem fares_settle (source : DataSource) (s : Observed S) :
    Fares (match s.engine.config.primaryHostId with
      | some hostId => do
        onTransport (MqttTransport.subscribe s!"spBv1.0/STATE/{hostId}" .atLeastOnce)
        assign fun node => { node with state := .waitingForPrimaryHost }
      | none => publishBirthSequence source) s.connected
      (1 + if s.engine.config.primaryHostId = none then s.engine.config.devices.length else 0)
      (s.session source) fun k s' => s.SessionLost source (2 + s.engine.config.devices.length + k) s' := by
  unfold Observed.session
  cases hprimary : s.engine.config.primaryHostId with
  | some hostId =>
    have hsubscribe := (fares_attempt s.connected
        (.subscribe s!"spBv1.0/STATE/{hostId}" .atLeastOnce)).mono
      (fun k s' => s.SessionLost source (2 + s.engine.config.devices.length + k) s')
      fun k hk s' hs' => ⟨by rw [hs', connected_state], fun h => absurd h (by omega),
        fun _ => hs' ▸ .connected s, fun h => absurd h (by rw [sessionCalls]; omega),
        fun _ h => absurd (hprimary.symm.trans h) (by simp)⟩
    exact hsubscribe.bind
      (q := fun _ => assign fun node => { node with state := .waitingForPrimaryHost })
      (.of_ok _ fun _ => rfl)
  | none =>
    have hbirth := fares_publishBirthSequence source s.connected
    rw [connected_config] at hbirth
    refine hbirth.mono _ fun k hk s' hs' =>
      ⟨?_, fun h => absurd h (by omega), fun h => ?_, fun h => ?_, fun _ _ => ?_⟩
    · rw [state_of_birthLost hs', connected_state]
    · rcases h with h | h
      · rw [sessionCalls] at h
        exact absurd h (by omega)
      · exact absurd hprimary h
    · cases k with
      | zero =>
        rw [sessionCalls] at h
        exact absurd h (by omega)
      | succ k =>
        have hlost : (s.connected.nodeBirth source).DeviceLost source
          s.connected.engine.config.devices s' := hs'
        rwa [connected_config] at hlost
    · have hk : 2 + s.engine.config.devices.length + k + 1 - s.engine.sessionCalls = k := by
        rw [sessionCalls]
        omega
      rw [hk]
      exact hs'

theorem fares_openSession (source : DataSource) (s : Observed S) :
    Fares (openSession source) s s.engine.connectCalls (s.session source)
      (s.SessionLost source) := by
  have hconnect := (fares_attempt s.tick (.connect (s.engine.connectOptions s.ms))).mono
    (s.SessionLost source) fun k hk s' hs' =>
      ⟨by rw [hs']; rfl, fun _ => hs', fun _ => hs' ▸ .tick s,
        fun h => absurd h (by rw [sessionCalls]; omega), fun h => absurd h (by rw [sessionCalls]; omega)⟩
  have htick := (Observed.Unpublished.tick s).trans
    (.note s.tick (e := .connect (s.engine.connectOptions s.ms)) (by simp))
  have hncmd := (fares_attempt (s.tick.note (.connect (s.engine.connectOptions s.ms)))
      (.subscribe (s.engine.nodeTopic .nCmd) .atLeastOnce)).mono
    (fun k => s.SessionLost source (1 + k)) fun k hk s' hs' =>
      ⟨by rw [hs']; rfl, fun h => absurd h (by omega), fun _ => hs' ▸ htick,
        fun h => absurd h (by rw [sessionCalls]; omega), fun h => absurd h (by rw [sessionCalls]; omega)⟩
  have hdevices := (fares_subscribeDevices s.engine s.engine.config.devices
      ((s.tick.note (.connect (s.engine.connectOptions s.ms))).subscribe
        (s.engine.nodeTopic .nCmd))).mono
    (fun k => s.SessionLost source (1 + (1 + k))) fun k hk s' hs' =>
      ⟨hs'.state, fun h => absurd h (by omega), fun _ => (htick.trans (.subscribe _ _)).trans hs',
        fun h => absurd h (by rw [sessionCalls]; omega), fun h => absurd h (by rw [sessionCalls]; omega)⟩
  have hsettle := (fares_settle source s).mono
    (fun k => s.SessionLost source (1 + (1 + (s.engine.config.devices.length + k))))
    fun k _ s' hs' => by
      have hk : 1 + (1 + (s.engine.config.devices.length + k)) =
        2 + s.engine.config.devices.length + k := by omega
      rw [hk]
      exact hs'
  have hcalls : s.engine.connectCalls = 1 + (1 + (s.engine.config.devices.length +
      (1 + if s.engine.config.primaryHostId = none then s.engine.config.devices.length else 0))) := by
    unfold connectCalls sessionCalls
    omega
  rw [hcalls]
  refine (hconnect.bind (q := fun _ => _) (hncmd.bind (q := fun _ => _)
    (hdevices.bind (q := fun _ => _) hsettle))).after fun w => ?_
  unfold openSession
  rw [EStateM.bind_ok (run_nowMs_under s w), EStateM.bind_ok (run_self _)]
  rfl

theorem fares_disconnect (s : Observed S) :
    Fares (disconnect : EdgeM Faulty S Unit) s 2 s.gone
      fun k s' => s'.engine.state = s.engine.state ∧ (k = 0 → s' = s.tick) ∧
        (k ≠ 0 → s' = s.died) := by
  have hdeath := (fares_attempt s.tick (.publish (s.engine.ndeathMessage s.ms))).mono
    (fun k s' => s'.engine.state = s.engine.state ∧ (k = 0 → s' = s.tick) ∧ (k ≠ 0 → s' = s.died))
    fun k hk s' hs' => ⟨by rw [hs']; rfl, fun _ => hs', fun h => absurd hk (by omega)⟩
  have hleave := (fares_attempt s.died .disconnect).mono
    (fun k s' => s'.engine.state = s.engine.state ∧ (1 + k = 0 → s' = s.tick) ∧
      (1 + k ≠ 0 → s' = s.died))
    fun k _ s' hs' => ⟨by rw [hs']; rfl, fun h => absurd h (by omega), fun _ => hs'⟩
  have hoff := hleave.bind (q := fun _ => assign fun node => { node with state := .disconnected })
    (.of_ok s.gone fun _ => rfl)
  refine (hdeath.bind (q := fun _ => _) hoff).after fun w => ?_
  unfold disconnect
  rw [EStateM.bind_ok (run_nowMs_under s w), EStateM.bind_ok (run_self _)]
  rfl

end EdgeNode

/-! ## 4. Data -/

/-- After a message with a sequence number that was not sent. -/
def Observed.unsent (s : Observed S) : Observed S := s.tick.update EdgeNode.advanceSeq

namespace EdgeNode

theorem fares_publishNodeData {metrics : List Metric} {s : Observed S}
    (h : s.engine.state = .online) :
    Fares (publishNodeData metrics) s 1
      (s.sent (s.engine.dataMessage (s.engine.nodeTopic .nData) metrics s.ms))
      fun _ s' => s' = s.unsent := by
  refine (fares_attempt s.unsent _).after fun w => ?_
  have hon : ¬ (s.under w).engine.state ≠ .online := not_not.mpr h
  unfold publishNodeData
  rw [EStateM.bind_ok (run_self _), if_neg hon]
  rfl

/-- A device that is not refused is born, under a valid name. -/
theorem born_of_not_refused {device : String} {born : List String}
    (h : ¬ (device ∉ born ∨ ∀ id : DeviceId, Ident.new device ≠ .ok id)) :
    ∃ id : DeviceId, id.str ∈ born ∧ device = id.str := by
  obtain ⟨hborn, hvalid⟩ := not_or.mp h
  push Not at hvalid
  obtain ⟨id, hid⟩ := hvalid
  obtain rfl := Ident.new_ok hid
  exact ⟨id, not_not.mp hborn, rfl⟩

theorem fares_publishDeviceData {device : DeviceId} {metrics : List Metric} {s : Observed S}
    (h : device.str ∈ s.engine.bornDevices) :
    Fares (publishDeviceData device.str metrics) s 1
      (s.sent (s.engine.dataMessage (s.engine.deviceTopic device .dData) metrics s.ms))
      fun _ s' => s' = s.unsent := by
  refine (fares_attempt s.unsent _).after fun w => ?_
  have hborn : ¬ device.str ∉ (s.under w).engine.bornDevices := not_not.mpr h
  unfold publishDeviceData
  rw [EStateM.bind_ok (run_self _), if_neg hborn, Ident.new_str]
  rfl

theorem fares_publishDeviceDeath {device : DeviceId} {s : Observed S}
    (h : device.str ∈ s.engine.bornDevices) :
    Fares (publishDeviceDeath device.str) s 1
      ((s.sent (s.engine.deviceDeathMessage device s.ms)).update fun node =>
        { node with bornDevices := s.engine.bornDevices.erase device.str })
      fun _ s' => s' = s.unsent := by
  obtain ⟨pos, hpos, herase⟩ := findIdx?_erase h
  have hpublish := (fares_attempt s.unsent (.publish (s.engine.deviceDeathMessage device s.ms))).bind
    (q := fun _ => assign fun node =>
      { node with bornDevices := node.bornDevices.eraseIdx pos })
    (.of_ok ((s.sent (s.engine.deviceDeathMessage device s.ms)).update fun node =>
      { node with bornDevices := s.engine.bornDevices.eraseIdx pos }) fun _ => rfl)
  rw [herase]
  refine hpublish.after fun w => ?_
  unfold publishDeviceDeath
  have hunder : (s.under w).engine.bornDevices.findIdx? (· = device.str) = some pos := hpos
  rw [EStateM.bind_ok (run_self _), hunder]
  dsimp only
  rw [Ident.new_str]
  rfl

end EdgeNode

/-! ## 5. Calls of the user -/

/-- The edge after a call, whatever it returned. -/
def Strained.perform [BdSeqStore S] (s : Strained S) (a : Action) : Strained S :=
  (a.call.run s).state

namespace Observed

/-- **Everything a call can do** on a transport with the answers `w` to give: what it does where all
is answered (`Move`), and what it leaves where a call fails, method by method. -/
inductive Trial [BdSeqStore S] (s : Observed S) (w : Answers) : Action → Observed S → Prop
  | kept {a} (c : Clock) : Trial s w a ⟨s.engine, c⟩
  | loadFails {source} (store : S) : Trial s w (.connect source) (s.update (·.withStore store))
  | saveFails {source bdSeq store e store'}
      (load : (BdSeqStore.loadNextDeath : EStateM String S UInt8).run s.engine.bdseqStore =
        .ok bdSeq store)
      (save : (BdSeqStore.storeNextDeath (bdSeq + 1)).run store = .error e store') :
    Trial s w (.connect source) (s.update (·.withBdSeq store' bdSeq))
  | unconnected {source bdSeq store store'}
      (load : (BdSeqStore.loadNextDeath : EStateM String S UInt8).run s.engine.bdseqStore =
        .ok bdSeq store)
      (save : (BdSeqStore.storeNextDeath (bdSeq + 1)).run store = .ok () store')
      (fails : w.head ≠ none) :
    Trial s w (.connect source) (s.update (·.withBdSeq store' bdSeq)).tick
  | connectLost {source bdSeq store store' k s'}
      (load : (BdSeqStore.loadNextDeath : EStateM String S UInt8).run s.engine.bdseqStore =
        .ok bdSeq store)
      (save : (BdSeqStore.storeNextDeath (bdSeq + 1)).run store = .ok () store')
      (within : 0 < k ∧ k < s.engine.connectCalls) (clear : w.Clear k)
      (fails : (w.drop k).head ≠ none)
      (lost : (s.update (·.withBdSeq store' bdSeq)).SessionLost source k s') :
    Trial s w (.connect source) s'
  | connect {source bdSeq store store'}
      (load : (BdSeqStore.loadNextDeath : EStateM String S UInt8).run s.engine.bdseqStore =
        .ok bdSeq store)
      (save : (BdSeqStore.storeNextDeath (bdSeq + 1)).run store = .ok () store') :
    Trial s w (.connect source) ((s.update (·.withBdSeq store' bdSeq)).session source)
  | birth {source} : Trial s w (.publishBirthSequence source) (s.birth source)
  | birthLost {source k s'} (within : k < 1 + s.engine.config.devices.length)
      (fails : (w.drop k).head ≠ none) (lost : s.BirthLost source k s') :
    Trial s w (.publishBirthSequence source) s'
  | nodeData {metrics} (on : s.engine.state = .online) :
    Trial s w (.publishNodeData metrics)
      (s.sent (s.engine.dataMessage (s.engine.nodeTopic .nData) metrics s.ms))
  | deviceData {device : DeviceId} {metrics} (born : device.str ∈ s.engine.bornDevices) :
    Trial s w (.publishDeviceData device.str metrics)
      (s.sent (s.engine.dataMessage (s.engine.deviceTopic device .dData) metrics s.ms))
  | deviceDeath {device : DeviceId} (born : device.str ∈ s.engine.bornDevices) :
    Trial s w (.publishDeviceDeath device.str)
      ((s.sent (s.engine.deviceDeathMessage device s.ms)).update fun node =>
        { node with bornDevices := s.engine.bornDevices.erase device.str })
  | unsent {a} : Trial s w a s.unsent
  | rebirth {message source} (triggers : s.Triggers message) :
    Trial s w (.handleIncoming message source) (s.rebirth source)
  | rebirthLost {message source k s'} (triggers : s.Triggers message)
      (within : k < 1 + s.engine.config.devices.length) (fails : (w.drop k).head ≠ none)
      (lost : s.debounced.BirthLost source k s') :
    Trial s w (.handleIncoming message source) s'
  | followed {message source state} (accepts : s.Accepts message state) :
    Trial s w (.handleIncoming message source) (s.followed source state)
  | followLost {message source state k s'} (accepts : s.Accepts message state)
      (online : state.online = true) (waiting : s.engine.state = .waitingForPrimaryHost)
      (lost : (s.update fun node => { node with lastStateTs := some state.timestamp }).BirthLost
        source k s') :
    Trial s w (.handleIncoming message source) s'
  | leaveLost {message source state k s'} (accepts : s.Accepts message state)
      (offline : state.online = false) (on : s.engine.state = .online)
      (clear : w.Clear k) (fails : (w.drop k).head ≠ none) (within : k < 2)
      (lost : k = 0 →
        s' = (s.update fun node => { node with lastStateTs := some state.timestamp }).tick)
      (died : k ≠ 0 →
        s' = (s.update fun node => { node with lastStateTs := some state.timestamp }).died) :
    Trial s w (.handleIncoming message source) s'
  | disconnect : Trial s w .disconnect s.gone
  | disconnectLost {k s'} (clear : w.Clear k) (fails : (w.drop k).head ≠ none) (within : k < 2)
      (state : s'.engine.state = s.engine.state) (lost : k = 0 → s' = s.tick)
      (died : k ≠ 0 → s' = s.died) :
    Trial s w .disconnect s'

end Observed

namespace EdgeNode

variable [BdSeqStore S]

open Observed

theorem trial_connect (source : DataSource) (s : Observed S) (w : Answers) :
    s.Trial w (.connect source) (Strained.seen ((connect source).run (s.under w)).state) := by
  unfold connect
  have hstoreOk : ∀ {α : Type} {p : EStateM String S α} {s : Observed S} {a : α} {store : S},
      p.run s.engine.bdseqStore = .ok a store →
      (onStore p).run (s.under w) = .ok a ((s.update (·.withStore store)).under w) := by
    intro α p s a store h
    refine EStateM.run_focus_ok _ _ (t := store) ?_
    have hunder : p.run (s.under w).engine.bdseqStore = .ok a store := h
    simp only [EStateM.adaptExcept, EStateM.run] at hunder ⊢
    rw [hunder]
  have hstoreError : ∀ {α : Type} {p : EStateM String S α} {s : Observed S} {e : String} {store : S},
      p.run s.engine.bdseqStore = .error e store →
      (onStore p).run (s.under w) = .error (.io e) ((s.update (·.withStore store)).under w) := by
    intro α p s e store h
    refine EStateM.run_focus_error _ _ (t := store) ?_
    have hunder : p.run (s.under w).engine.bdseqStore = .error e store := h
    simp only [EStateM.adaptExcept, EStateM.run] at hunder ⊢
    rw [hunder]
  cases hload : (BdSeqStore.loadNextDeath : EStateM String S UInt8).run s.engine.bdseqStore with
  | error e store =>
    rw [EStateM.bind_error (hstoreError hload)]
    exact .loadFails store
  | ok bdSeq store =>
    rw [EStateM.bind_ok (hstoreOk hload)]
    have hassign : (assign fun node : EdgeNode Faulty S => { node with bdSeq }).run
        ((s.update (·.withStore store)).under w) =
          .ok () ((s.update (·.withBdSeq store bdSeq)).under w) := rfl
    rw [EStateM.bind_ok hassign]
    cases hsave : (BdSeqStore.storeNextDeath (bdSeq + 1)).run store with
    | error e store' =>
      have hfails := hstoreError (s := s.update (·.withBdSeq store bdSeq)) hsave
      rw [EStateM.bind_error hfails]
      exact .saveFails hload hsave
    | ok u store' =>
      have hsaved := hstoreOk (s := s.update (·.withBdSeq store bdSeq)) hsave
      rw [EStateM.bind_ok hsaved]
      rcases (fares_openSession source (s.update (·.withBdSeq store' bdSeq))).state' w with
        hdone | ⟨k, hk, hclear, hfail, hlost⟩
      · exact hdone ▸ .connect hload hsave
      · rcases Nat.eq_zero_or_pos k with rfl | hpos
        · exact hlost.unconnected rfl ▸ .unconnected hload hsave hfail
        · exact .connectLost hload hsave ⟨hpos, hk⟩ hclear hfail hlost

omit [BdSeqStore S] in
theorem rebirthAllowed_under (s : Observed S) (w : Answers) :
    rebirthAllowed.run (s.under w) =
      .ok (s.engine.rebirthDue s.clock.head.instant) (s.debounced.under w) := by
  unfold rebirthAllowed Observed.debounced rebirthDue
  rw [EStateM.bind_ok (run_self _)]
  have hunder : (s.under w).engine.lastRebirth = s.engine.lastRebirth := rfl
  rw [hunder]
  cases hlast : s.engine.lastRebirth with
  | none => rfl
  | some at' => rfl

theorem trial_onNodeCommand (s : Observed S) (w : Answers) {message : IncomingMessage}
    (source : DataSource) {group : GroupId} {edge : EdgeNodeId}
    (hparse : SparkplugTopic.parse message.topic = .ok (.node group edge .nCmd)) :
    s.Trial w (.handleIncoming message source)
      (Strained.seen ((onNodeCommand source message.payload).run (s.under w)).state) := by
  unfold onNodeCommand
  rw [EStateM.bind_ok (run_self _)]
  have hunder : (s.under w).engine.aliasing = s.engine.aliasing := rfl
  rw [hunder]
  cases hdec : decode message.payload (some s.engine.aliasing.aliases) with
  | error e =>
    rw [EStateM.bind_error (EStateM.run_liftExcept_error e _)]
    exact .kept s.clock
  | ok p =>
    rw [EStateM.bind_ok (EStateM.run_liftExcept_ok p _)]
    by_cases hask : isRebirth p = true
    · rw [if_pos hask, EStateM.bind_ok (rebirthAllowed_under s w)]
      by_cases hdue : s.engine.rebirthDue s.clock.head.instant = true
      · rw [if_pos hdue]
        have htriggers : s.Triggers message := ⟨⟨group, edge, hparse⟩, ⟨p, hdec, hask⟩, hdue⟩
        have hconfig : s.debounced.engine.config = s.engine.config := by
          unfold Observed.debounced
          split <;> rfl
        have hfares := fares_publishBirthSequence source s.debounced
        rw [hconfig] at hfares
        have hafter : ∀ w, ((do
            let now ← Timed.instant
            assign fun node => { node with lastRebirth := some now }
            return EdgeEvent.rebirthed : EdgeM Faulty S EdgeEvent).run
              ((s.debounced.birth source).under w)).state = (s.rebirth source).under w :=
          fun _ => rfl
        rcases hfares.state (f := fun _ => _) hafter w with
          hdone | ⟨k, hk, -, hfail, hlost⟩
        · exact hdone ▸ .rebirth htriggers
        · exact .rebirthLost htriggers hk hfail hlost
      · rw [if_neg hdue]
        have hkept : Strained.seen (EStateM.run (pure EdgeEvent.rebirthDebounced)
            (s.debounced.under w) : EStateM.Result SparkplugError _ _).state =
            ⟨s.engine, s.debounced.clock⟩ := by
          unfold Observed.debounced
          split <;> rfl
        exact hkept ▸ .kept _
    · rw [if_neg hask]
      exact .kept s.clock

theorem trial_onPrimaryState (s : Observed S) (w : Answers) {message : IncomingMessage}
    (source : DataSource) {hostId : String} {state : StatePayload}
    (hprimary : s.engine.config.primaryHostId = some hostId)
    (hstate : message.stateOf hostId = some state) :
    s.Trial w (.handleIncoming message source)
      (Strained.seen ((onPrimaryState source state).run (s.under w)).state) := by
  unfold onPrimaryState
  rw [EStateM.bind_ok (run_self _)]
  have hlast : (s.under w).engine.lastStateTs = s.engine.lastStateTs := rfl
  rw [hlast]
  by_cases hold : s.engine.lastStateTs.any (fun last => state.timestamp < last) = true
  · rw [if_pos hold]
    exact .kept s.clock
  · have haccepts : s.Accepts message state := ⟨⟨hostId, hprimary, hstate⟩, hold⟩
    have hset : (assign fun node : EdgeNode Faulty S =>
        { node with lastStateTs := some state.timestamp }).run (s.under w) =
      .ok () ((s.update fun node => { node with lastStateTs := some state.timestamp }).under w) :=
      rfl
    have hreturn : ∀ (d : Observed S) w,
        (EStateM.run (pure (EdgeEvent.primaryHostState state)) (d.under w) :
          EStateM.Result SparkplugError _ _).state = d.under w := fun _ _ => rfl
    have hfollowed : s.Trial w (.handleIncoming message source) (s.followed source state) :=
      .followed haccepts
    rw [if_neg hold, EStateM.bind_ok hset]
    unfold followPrimary
    unfold Observed.followed at hfollowed
    have hunder : (s.under w).engine.state = s.engine.state := rfl
    rw [hunder]
    by_cases hon : state.online = true
    · rw [if_pos hon]
      simp only [if_pos hon] at hfollowed
      by_cases hwait : s.engine.state = .waitingForPrimaryHost
      · rw [if_pos hwait]
        rw [if_pos hwait] at hfollowed
        rcases (fares_publishBirthSequence source _).state (f := fun _ => _) (hreturn _) w with
          hdone | ⟨k, -, -, -, hlost⟩
        · exact hdone ▸ hfollowed
        · exact .followLost haccepts hon hwait hlost
      · rw [if_neg hwait] at hfollowed ⊢
        exact hfollowed
    · rw [if_neg hon]
      simp only [if_neg hon] at hfollowed
      by_cases honline : s.engine.state = .online
      · rw [if_pos honline]
        rw [if_pos honline] at hfollowed
        rcases (fares_disconnect _).state (f := fun _ => _) (hreturn _) w with
          hdone | ⟨k, hk, hclear, hfail, hlost⟩
        · exact hdone ▸ hfollowed
        · exact .leaveLost haccepts (Bool.not_eq_true _ ▸ hon) honline hclear hfail hk hlost.2.1
            hlost.2.2
      · rw [if_neg honline] at hfollowed ⊢
        exact hfollowed

theorem trial_onHostState (s : Observed S) (w : Answers) {message : IncomingMessage}
    (source : DataSource) {hostId : String}
    (hparse : SparkplugTopic.parse message.topic = .ok (.hostState hostId)) :
    s.Trial w (.handleIncoming message source)
      (Strained.seen ((onHostState source hostId message.payload).run (s.under w)).state) := by
  have hof : message.stateOf hostId =
      (fromUtf8 message.payload).bind fun text => (StatePayload.parse text).toOption := by
    unfold IncomingMessage.stateOf
    rw [hparse]
    exact if_pos rfl
  unfold onHostState
  rw [EStateM.bind_ok (run_self _)]
  by_cases hprimary : s.engine.config.primaryHostId = some hostId
  · have hself : ¬ (s.under w).engine.config.primaryHostId ≠ some hostId := not_not.mpr hprimary
    rw [if_neg hself]
    cases htext : fromUtf8 message.payload with
    | none => exact .kept s.clock
    | some text =>
      rw [htext, Option.bind_some] at hof
      rw [Option.elim, EStateM.bind_ok (EStateM.run_liftExcept_ok _ _)]
      cases hstate : StatePayload.parse text with
      | error e => exact .kept s.clock
      | ok state =>
        rw [hstate] at hof
        rw [EStateM.bind_ok (EStateM.run_liftExcept_ok _ _)]
        exact trial_onPrimaryState s w source hprimary hof
  · have hother : (s.under w).engine.config.primaryHostId ≠ some hostId := hprimary
    rw [if_pos hother]
    exact .kept s.clock

theorem trial_handleIncoming (s : Observed S) (w : Answers) (message : IncomingMessage)
    (source : DataSource) :
    s.Trial w (.handleIncoming message source)
      (Strained.seen ((handleIncoming message source).run (s.under w)).state) := by
  unfold handleIncoming
  cases hparse : SparkplugTopic.parse message.topic with
  | error e => exact .kept s.clock
  | ok topic =>
    rw [EStateM.bind_ok (EStateM.run_liftExcept_ok _ _)]
    cases topic with
    | hostState id => exact trial_onHostState s w source hparse
    | node group edge ty =>
      cases ty with
      | nCmd => exact trial_onNodeCommand s w source hparse
      | _ => exact .kept s.clock
    | device group edge device ty =>
      cases ty with
      | dCmd =>
        dsimp only
        unfold onDeviceCommand
        rw [EStateM.bind_ok (run_self _)]
        cases decode message.payload (some (s.under w).engine.aliasing.aliases) with
        | error e => exact .kept s.clock
        | ok p => exact .kept s.clock
      | _ => exact .kept s.clock

end EdgeNode

open EdgeNode in
/-- **Every call is one trial**, whatever the call, the state of the edge and the answers of the
transport are. -/
theorem Strained.perform_trial [BdSeqStore S] (s : Strained S) (a : Action) :
    s.seen.Trial s.answers a (s.perform a).seen := by
  suffices h : ∀ (o : Observed S) (w : Answers),
      o.Trial w a (Strained.seen (a.call.run (o.under w)).state) from h s.seen s.answers
  intro o w
  cases a with
  | connect source => exact trial_connect source o w
  | publishBirthSequence source =>
    rcases (fares_publishBirthSequence source o).state' w with hdone | ⟨k, hk, -, hfail, hlost⟩
    · exact hdone ▸ .birth
    · exact .birthLost hk hfail hlost
  | publishNodeData metrics =>
    by_cases hon : o.engine.state = .online
    · rcases (fares_publishNodeData hon).state' w with hdone | ⟨k, -, -, -, hlost⟩
      · exact hdone ▸ .nodeData hon
      · exact hlost ▸ .unsent
    · obtain ⟨e, hrun⟩ := run_publishNodeData_refused metrics (s := o.under w) hon
      show o.Trial w _ (Strained.seen ((EdgeNode.publishNodeData metrics).run (o.under w)).state)
      rw [hrun]
      exact .kept o.clock
  | publishDeviceData device metrics =>
    show o.Trial w _ (Strained.seen
      ((EdgeNode.publishDeviceData device metrics).run (o.under w)).state)
    by_cases hrefused : device ∉ o.engine.bornDevices ∨ ∀ id : DeviceId, Ident.new device ≠ .ok id
    · obtain ⟨e, hrun⟩ := run_publishDeviceData_refused metrics (s := o.under w) hrefused
      rw [hrun]
      exact .kept o.clock
    · obtain ⟨id, hborn, rfl⟩ := born_of_not_refused hrefused
      rcases (fares_publishDeviceData hborn).state' w with hdone | ⟨k, -, -, -, hlost⟩
      · exact hdone ▸ .deviceData hborn
      · exact hlost ▸ .unsent
  | publishDeviceDeath device =>
    show o.Trial w _ (Strained.seen ((EdgeNode.publishDeviceDeath device).run (o.under w)).state)
    by_cases hrefused : device ∉ o.engine.bornDevices ∨ ∀ id : DeviceId, Ident.new device ≠ .ok id
    · obtain ⟨e, hrun⟩ := run_publishDeviceDeath_refused (s := o.under w) hrefused
      rw [hrun]
      exact .kept o.clock
    · obtain ⟨id, hborn, rfl⟩ := born_of_not_refused hrefused
      rcases (fares_publishDeviceDeath hborn).state' w with hdone | ⟨k, -, -, -, hlost⟩
      · exact hdone ▸ .deviceDeath hborn
      · exact hlost ▸ .unsent
  | handleIncoming message source =>
    have h := trial_handleIncoming o w message source
    have hcall : ((Action.handleIncoming message source).call.run (o.under w)).state =
        ((EdgeNode.handleIncoming message source).run (o.under w)).state := by
      show (EStateM.run (EdgeNode.handleIncoming message source >>= fun _ => pure ()) _).state = _
      rw [EStateM.run_bind]
      cases (EdgeNode.handleIncoming message source).run (o.under w) <;> rfl
    rw [hcall]
    exact h
  | disconnect =>
    rcases (fares_disconnect o).state' w with hdone | ⟨k, hk, hclear, hfail, hlost⟩
    · exact hdone ▸ .disconnect
    · exact .disconnectLost hclear hfail hk hlost.1 hlost.2.1 hlost.2.2

end SparkplugB
