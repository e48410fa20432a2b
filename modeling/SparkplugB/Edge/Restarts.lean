/-
# An edge that is restarted

A process runs an edge until it ends, and the next one starts with what is in the bdSeq file.  A save
may be cut off before any of its steps; a transport may do anything; and a `connect` may reach the
broker and fail, or return and not reach it.  A process that is killed is one that does nothing more
after such a call.

* **Fresh wills** (`wills_fresh`): all the same, the bdSeqs of the wills that reach the broker go up
  from one to the next, and there are no more of them than calls of `connect`.
-/
import SparkplugB.Edge.BdSeq
import SparkplugB.Edge.Effects
import SparkplugB.FileStore

namespace SparkplugB

open Replace EStateM

/-! ## 1. What reaches the broker -/

/-- Any transport, and the options of the calls of `connect` that have reached the broker, the
latest first.  Whether a call does reach it has nothing to do with what it returns: a client may be
told of an error after the broker has taken its will. -/
structure Overheard (T : Type) where
  transport : T
  reaches : Stream' Bool
  heard : List ConnectOptions

namespace Overheard

variable {T : Type}

/-- One call of `connect`. -/
def hear (opts : ConnectOptions) (t : Overheard T) : Overheard T :=
  { t with
    reaches := t.reaches.tail
    heard := if t.reaches.head then opts :: t.heard else t.heard }

/-- A call on the transport itself. -/
def pass {α : Type} (p : EStateM SparkplugError T α) : EStateM SparkplugError (Overheard T) α :=
  EStateM.focus Overheard.transport (fun inner t => { t with transport := inner }) p

instance [MqttTransport T] : MqttTransport (Overheard T) where
  connect opts := do
    modify (hear opts)
    pass (MqttTransport.connect opts)
  subscribe filter qos := pass (MqttTransport.subscribe filter qos)
  publish message := pass (MqttTransport.publish message)
  disconnect := pass MqttTransport.disconnect
  recv := pass MqttTransport.recv

end Overheard

/-! ## 2. What the methods leave alone -/

/-- No will has reached the broker, and the bdSeq and its store are the same. -/
structure KeepsBdSeq {T S : Type} (s s' : Timed (EdgeNode (Overheard T) S)) : Prop where
  store : s'.engine.bdseqStore = s.engine.bdseqStore
  bdSeq : s'.engine.bdSeq = s.engine.bdSeq
  heard : s'.engine.transport.heard = s.engine.transport.heard

namespace KeepsBdSeq

variable {T S : Type}

instance : IsPreorder (Timed (EdgeNode (Overheard T) S)) KeepsBdSeq where
  refl _ := ⟨rfl, rfl, rfl⟩
  trans _ _ _ h h' :=
    ⟨h'.store.trans h.store, h'.bdSeq.trans h.bdSeq, h'.heard.trans h.heard⟩

/-- A call on the transport that is no `connect`. -/
theorem pass {α : Type} (p : EStateM SparkplugError T α) :
    Moves KeepsBdSeq (EdgeNode.onTransport (Overheard.pass p) : EdgeM (Overheard T) S α) := by
  intro s
  rw [EdgeNode.onTransport, state_run_focus, Overheard.pass, state_run_focus]
  exact ⟨rfl, rfl, rfl⟩

/-- Every call but `connect` keeps the bdSeq. -/
theorem effects [MqttTransport T] :
    Effects (KeepsBdSeq : Timed (EdgeNode (Overheard T) S) → Timed (EdgeNode (Overheard T) S) → Prop)
    where
  clock _ _ := ⟨rfl, rfl, rfl⟩
  fields _ _ h := ⟨h.store, h.bdSeq, congrArg Overheard.heard h.transport⟩
  publish _ := pass _
  disconnect := pass _

end KeepsBdSeq

/-! ## 3. Calls of `connect` -/

/-- The options register a will with this bdSeq. -/
def ConnectOptions.Wills (opts : ConnectOptions) (b : UInt8) : Prop :=
  ∃ will, opts.will = some will ∧ CarriesBdSeq will.payload b

/-- What a `connect` does once its bdSeq is settled: its will has reached the broker or not. -/
structure Opened {T S : Type} (s s' : Timed (EdgeNode (Overheard T) S)) : Prop where
  store : s'.engine.bdseqStore = s.engine.bdseqStore
  heard : s'.engine.transport.heard = s.engine.transport.heard ∨
    ∃ opts, opts.Wills s.engine.bdSeq ∧
      s'.engine.transport.heard = opts :: s.engine.transport.heard

section

variable {T S : Type} [MqttTransport T]

/-- The call of `connect` on the transport. -/
theorem opened_connectCall {s : Timed (EdgeNode (Overheard T) S)} {opts : ConnectOptions}
    (hwill : opts.Wills s.engine.bdSeq) :
    Opened s ((EdgeNode.onTransport (MqttTransport.connect opts) :
      EdgeM (Overheard T) S Unit).run s).state := by
  have hcall : ((MqttTransport.connect opts : EStateM SparkplugError (Overheard T) Unit).run
      s.engine.transport).state.heard = (s.engine.transport.hear opts).heard := by
    show ((Overheard.pass (MqttTransport.connect opts)).run
      (s.engine.transport.hear opts)).state.heard = _
    rw [Overheard.pass, state_run_focus]
  have hheard : ((EdgeNode.onTransport (MqttTransport.connect opts) :
      EdgeM (Overheard T) S Unit).run s).state.engine.transport.heard =
        (s.engine.transport.hear opts).heard := by
    rw [EdgeNode.onTransport, state_run_focus]
    exact hcall
  refine ⟨by rw [EdgeNode.onTransport, state_run_focus], ?_⟩
  rw [hheard, Overheard.hear]
  cases s.engine.transport.reaches.head with
  | true => exact .inr ⟨opts, hwill, rfl⟩
  | false => exact .inl rfl

omit [MqttTransport T] in
/-- Something after it that keeps the bdSeq. -/
theorem Opened.bind {α β : Type} {p : EdgeM (Overheard T) S α} {f : α → EdgeM (Overheard T) S β}
    {s : Timed (EdgeNode (Overheard T) S)} (hp : Opened s (p.run s).state)
    (hf : ∀ a, Moves KeepsBdSeq (f a)) : Opened s ((p >>= f).run s).state := by
  rw [run_bind]
  cases hrun : p.run s with
  | error e s' =>
    rw [hrun] at hp
    exact hp
  | ok a s' =>
    rw [hrun, Result.state_ok] at hp
    have hkeeps := hf a s'
    refine ⟨hkeeps.store.trans hp.store, ?_⟩
    show ((f a).run s').state.engine.transport.heard = _ ∨
      ∃ opts, _ ∧ ((f a).run s').state.engine.transport.heard = _
    rw [hkeeps.heard]
    exact hp.heard

theorem opened_openSession (source : DataSource) (s : Timed (EdgeNode (Overheard T) S)) :
    Opened s ((EdgeNode.openSession source : EdgeM (Overheard T) S Unit).run s).state := by
  have hclock : (EdgeNode.nowMs : EdgeM (Overheard T) S UInt64).run s =
    .ok s.clock.head.edgeMs { s with clock := s.clock.tail } := rfl
  unfold EdgeNode.openSession
  rw [bind_ok hclock, bind_ok (EdgeNode.run_self _)]
  have htick : ∀ s', Opened { s with clock := s.clock.tail } s' → Opened s s' :=
    fun _ h => ⟨h.store, h.heard⟩
  refine htick _ (Opened.bind (opened_connectCall ⟨_, rfl, carriesBdSeq_encode rfl⟩) fun _ => ?_)
  refine Moves.bind (KeepsBdSeq.pass _) fun _ =>
    Moves.bind (moves_forM (fun _ => KeepsBdSeq.pass _) _) fun _ => ?_
  split
  · exact Moves.bind (KeepsBdSeq.pass _) fun _ =>
      KeepsBdSeq.effects.assign fun _ => ⟨rfl, rfl, rfl, rfl⟩
  · exact KeepsBdSeq.effects.publishBirthSequence source

omit [MqttTransport T] in
theorem run_onStore_ok {α : Type} {p : EStateM String S α} {s : Timed (EdgeNode (Overheard T) S)}
    {a : α} {store : S} (h : p.run s.engine.bdseqStore = .ok a store) :
    (EdgeNode.onStore p : EdgeM (Overheard T) S α).run s =
      .ok a { s with engine := { s.engine with bdseqStore := store } } := by
  refine run_focus_ok _ _ ?_
  simp only [EStateM.adaptExcept, EStateM.run] at h ⊢
  rw [h]

omit [MqttTransport T] in
theorem run_onStore_error {α : Type} {p : EStateM String S α}
    {s : Timed (EdgeNode (Overheard T) S)} {e : String} {store : S}
    (h : p.run s.engine.bdseqStore = .error e store) :
    (EdgeNode.onStore p : EdgeM (Overheard T) S α).run s =
      .error (.io e) { s with engine := { s.engine with bdseqStore := store } } := by
  refine run_focus_error _ _ ?_
  simp only [EStateM.adaptExcept, EStateM.run] at h ⊢
  rw [h]

variable [BdSeqStore S] [AtomicBdSeqStore S]

open AtomicBdSeqStore

/-- What a `connect` does to the store and to the broker: nothing, or it takes the next bdSeq, which
no later one will have, and its will reaches the broker or not. -/
inductive Connects (s s' : Timed (EdgeNode (Overheard T) S)) : Prop
  | nothing (next : next s'.engine.bdseqStore = next s.engine.bdseqStore)
      (heard : s'.engine.transport.heard = s.engine.transport.heard)
  | silent (next : next s'.engine.bdseqStore = next s.engine.bdseqStore + 1)
      (heard : s'.engine.transport.heard = s.engine.transport.heard)
  | heard {opts : ConnectOptions}
      (next : next s'.engine.bdseqStore = next s.engine.bdseqStore + 1)
      (wills : opts.Wills (AtomicBdSeqStore.next s.engine.bdseqStore))
      (heard : s'.engine.transport.heard = opts :: s.engine.transport.heard)

/-- The edge once a bdSeq has been taken. -/
def taken (s : Timed (EdgeNode (Overheard T) S)) (store : S) (bdSeq : UInt8) :
    Timed (EdgeNode (Overheard T) S) :=
  { s with engine := { s.engine with bdseqStore := store, bdSeq } }

/-- The first half of `connect`. -/
theorem run_connect_loaded (source : DataSource) (s : Timed (EdgeNode (Overheard T) S))
    (hsound : Sound s.engine.bdseqStore) :
    (EdgeNode.connect source : EdgeM (Overheard T) S Unit).run s =
      (EdgeNode.onStore (BdSeqStore.storeNextDeath (next s.engine.bdseqStore + 1)) >>= fun _ =>
        EdgeNode.openSession source : EdgeM (Overheard T) S Unit).run
        (taken s s.engine.bdseqStore (next s.engine.bdseqStore)) := by
  unfold EdgeNode.connect
  rw [bind_ok (run_onStore_ok (load s.engine.bdseqStore hsound))]
  rfl

theorem connects_connect (source : DataSource) (s : Timed (EdgeNode (Overheard T) S))
    (hsound : Sound s.engine.bdseqStore) :
    Sound ((EdgeNode.connect source : EdgeM (Overheard T) S Unit).run s).state.engine.bdseqStore ∧
      Connects s ((EdgeNode.connect source : EdgeM (Overheard T) S Unit).run s).state := by
  obtain ⟨store', hsound', hsave⟩ :=
    save s.engine.bdseqStore (next s.engine.bdseqStore + 1) hsound
  rw [run_connect_loaded source s hsound]
  rcases hsave with ⟨hrun, hnext⟩ | ⟨e, hrun, hnext⟩
  · rw [bind_ok (run_onStore_ok
      (s := taken s s.engine.bdseqStore (next s.engine.bdseqStore)) hrun)]
    obtain ⟨hstore, hheard⟩ :=
      opened_openSession source (taken s store' (next s.engine.bdseqStore))
    refine ⟨hstore ▸ hsound', ?_⟩
    rcases hheard with hsame | ⟨opts, hwills, hmore⟩
    · exact .silent ((congrArg next hstore).trans hnext) hsame
    · exact .heard ((congrArg next hstore).trans hnext) hwills hmore
  · rw [bind_error (run_onStore_error
      (s := taken s s.engine.bdseqStore (next s.engine.bdseqStore)) hrun)]
    exact ⟨hsound', .nothing hnext rfl⟩

end

/-! ## 4. Many lives -/

/-- Wills with the bdSeqs `b₀ + n`, the latest first, for descending `n` below a bound.  Numbers may
be missing, where a `connect` took one and no will reached the broker. -/
inductive Ascending (b₀ : UInt8) : Nat → List ConnectOptions → Prop
  | nil (n : Nat) : Ascending b₀ n []
  | cons {m n : Nat} {opts : ConnectOptions} {past : List ConnectOptions} (below : m < n)
      (wills : opts.Wills (b₀ + UInt8.ofNat m)) (earlier : Ascending b₀ m past) :
    Ascending b₀ n (opts :: past)

theorem Ascending.mono {b₀ : UInt8} {n n' : Nat} {heard : List ConnectOptions}
    (h : Ascending b₀ n heard) (hle : n ≤ n') : Ascending b₀ n' heard := by
  cases h with
  | nil => exact .nil n'
  | cons below wills earlier => exact .cons (Nat.lt_of_lt_of_le below hle) wills earlier

/-- The numbers, the earliest first. -/
theorem Ascending.numbers {b₀ : UInt8} {n : Nat} {heard : List ConnectOptions}
    (h : Ascending b₀ n heard) :
    ∃ ns : List Nat, ns.Pairwise (· < ·) ∧ (∀ i ∈ ns, i < n) ∧
      List.Forall₂ (fun opts i => opts.Wills (b₀ + UInt8.ofNat i)) heard.reverse ns := by
  induction h with
  | nil n => exact ⟨[], .nil, by simp, .nil⟩
  | @cons m n opts past below wills _ ih =>
    obtain ⟨ns, hsorted, hlt, hall⟩ := ih
    refine ⟨ns ++ [m], ?_, fun i hi => ?_, ?_⟩
    · rw [List.pairwise_append]
      exact ⟨hsorted, List.pairwise_singleton _ _, fun i hi j hj => by
        rw [List.mem_singleton.mp hj]
        exact hlt i hi⟩
    · rcases List.mem_append.mp hi with hi | hi
      · exact Nat.lt_trans (hlt i hi) below
      · rw [List.mem_singleton.mp hi]
        exact below
    · rw [List.reverse_cons]
      exact List.rel_append hall (.cons wills .nil)

/-- The calls of `connect`. -/
def Action.isConnect : Action → Bool
  | .connect _ => true
  | _ => false

section

variable {T S : Type} [MqttTransport T] [BdSeqStore S]

/-- The edge after a call, whatever it returned. -/
def Overheard.perform (s : Timed (EdgeNode (Overheard T) S)) (a : Action) :
    Timed (EdgeNode (Overheard T) S) := (a.call.run s).state

variable [AtomicBdSeqStore S]

/-- The invariant of a life: the store stands at `b₀ + n`, and the wills so far have lower
numbers. -/
structure Counting (b₀ : UInt8) (n : Nat) (s : Timed (EdgeNode (Overheard T) S)) : Prop where
  sound : AtomicBdSeqStore.Sound s.engine.bdseqStore
  next : AtomicBdSeqStore.next s.engine.bdseqStore = b₀ + UInt8.ofNat n
  numbered : Ascending b₀ n s.engine.transport.heard

/-- **One call** counts on, and by one at most. -/
theorem Counting.perform {b₀ : UInt8} {n : Nat} {s : Timed (EdgeNode (Overheard T) S)}
    (h : Counting b₀ n s) (a : Action) :
    ∃ n' ≤ n + [a].countP Action.isConnect, Counting b₀ n' (Overheard.perform s a) := by
  have hsucc : b₀ + UInt8.ofNat n + 1 = b₀ + UInt8.ofNat (n + 1) := by
    rw [UInt8.ofNat_add, UInt8.add_assoc]
    rfl
  by_cases ha : ∃ source, a = .connect source
  · obtain ⟨source, rfl⟩ := ha
    obtain ⟨hsound, hconnects⟩ := connects_connect source s h.sound
    cases hconnects with
    | nothing hnext hheard =>
      exact ⟨n, Nat.le_add_right _ _, hsound, hnext.trans h.next, hheard ▸ h.numbered⟩
    | silent hnext hheard =>
      refine ⟨n + 1, Nat.le_refl _, hsound, ?_, hheard ▸ h.numbered.mono (Nat.le_succ n)⟩
      rw [← hsucc, ← h.next]
      exact hnext
    | heard hnext hwills hheard =>
      refine ⟨n + 1, Nat.le_refl _, hsound, ?_, hheard ▸ .cons (Nat.lt_succ_self n) ?_ h.numbered⟩
      · rw [← hsucc, ← h.next]
        exact hnext
      · rw [← h.next]
        exact hwills
  · have hkeeps := KeepsBdSeq.effects.call (fun source heq => ha ⟨source, heq⟩) s
    refine ⟨n, Nat.le_add_right _ _, ?_, ?_, ?_⟩
    · exact hkeeps.store.symm ▸ h.sound
    · exact (congrArg _ hkeeps.store).trans h.next
    · exact hkeeps.heard.symm ▸ h.numbered

/-- **A life** counts on, and by its calls of `connect` at most. -/
theorem Counting.run {b₀ : UInt8} :
    ∀ (actions : List Action) {n : Nat} {s : Timed (EdgeNode (Overheard T) S)}, Counting b₀ n s →
      ∃ n' ≤ n + actions.countP Action.isConnect,
        Counting b₀ n' (Machine.run Overheard.perform s actions)
  | [], n, _, h => ⟨n, Nat.le_refl _, h⟩
  | a :: rest, n, s, h => by
    obtain ⟨n', hle, hnext⟩ := h.perform a
    obtain ⟨n'', hle', hrun⟩ := run rest hnext
    refine ⟨n'', ?_, hrun⟩
    have hcount : (a :: rest).countP Action.isConnect =
        [a].countP Action.isConnect + rest.countP Action.isConnect := by
      rw [← List.countP_append]
      rfl
    omega

end

/-- The life of a process: the configuration, transport and clock it runs the edge with, where the
saves of its `FileBdSeqStore` are cut off, and the calls it makes until it ends, by itself or
not. -/
structure Life (T : Type) where
  config : EdgeNodeConfig
  transport : T
  reaches : Stream' Bool
  clock : Clock
  process : UInt32
  cuts : List Nat
  actions : List Action

/-- What outlives a process: the files of the machine, and what the broker has heard of its
connections. -/
structure Site where
  mounted : MountedStore
  heard : List ConnectOptions

namespace Site

/-- Before a process has connected to anything. -/
def fresh (store : FileBdSeqStore) (files : Files FilePath UInt8) : Site :=
  ⟨⟨store, 0, files, []⟩, []⟩

variable {T : Type}

/-- A process starts an edge. -/
def start (site : Site) (life : Life T) : Timed (EdgeNode (Overheard T) MountedStore) :=
  ⟨.new life.config ⟨life.transport, life.reaches, site.heard⟩
    { site.mounted with process := life.process, cuts := life.cuts }, life.clock⟩

variable [MqttTransport T]

/-- What is left when its life is over. -/
def live (site : Site) (life : Life T) : Site :=
  let s := Machine.run Overheard.perform (site.start life) life.actions
  ⟨s.engine.bdseqStore, s.engine.transport.heard⟩

/-- The calls of `connect` in some lives. -/
def connects (lives : List (Life T)) : Nat :=
  (lives.map fun life => life.actions.countP Action.isConnect).sum

/-- The wills that reach the broker, the earliest first. -/
def wills (store : FileBdSeqStore) (files : Files FilePath UInt8) (lives : List (Life T)) :
    List ConnectOptions := (Machine.run live (fresh store files) lives).heard.reverse

/-- **One life** counts on. -/
theorem counting_live {b₀ : UInt8} {n : Nat} {site : Site} (life : Life T)
    (hsound : AtomicBdSeqStore.Sound site.mounted)
    (hnext : AtomicBdSeqStore.next site.mounted = b₀ + UInt8.ofNat n)
    (hheard : Ascending b₀ n site.heard) :
    ∃ n' ≤ n + life.actions.countP Action.isConnect,
      AtomicBdSeqStore.Sound (site.live life).mounted ∧
      AtomicBdSeqStore.next (site.live life).mounted = b₀ + UInt8.ofNat n' ∧
      Ascending b₀ n' (site.live life).heard := by
  -- neither the process nor its cuts have to do with what is loaded
  have hstart : Counting b₀ n (site.start life) := ⟨hsound, hnext, hheard⟩
  obtain ⟨n', hle, hrun⟩ := Counting.run life.actions hstart
  exact ⟨n', hle, hrun.sound, hrun.next, hrun.numbered⟩

/-- **Fresh wills.**  However many processes run an edge one after the other on one bdSeq file,
whatever they call, wherever their saves are cut off, and whatever the transport returns and the
broker gets: the wills that reach the broker carry the number that was in the file, plus numbers that
go up from each will to the next and stay below the number of calls of `connect`, modulo 256.  So up
to 256 calls no two wills carry the same bdSeq. -/
theorem wills_fresh (store : FileBdSeqStore) (files : Files FilePath UInt8) {b₀ : UInt8}
    (hload : store.load files = .ok b₀) (lives : List (Life T)) :
    ∃ ns : List Nat, ns.Pairwise (· < ·) ∧ (∀ n ∈ ns, n < connects lives) ∧
      List.Forall₂ (fun opts n => opts.Wills (b₀ + UInt8.ofNat n)) (wills store files lives) ns ∧
      (connects lives ≤ 256 → (ns.map fun n => b₀ + UInt8.ofNat n).Nodup) := by
  have hrun : ∀ (lives : List (Life T)) (n : Nat) (site : Site),
      AtomicBdSeqStore.Sound site.mounted →
      AtomicBdSeqStore.next site.mounted = b₀ + UInt8.ofNat n → Ascending b₀ n site.heard →
      Ascending b₀ (n + connects lives) (Machine.run live site lives).heard := by
    intro lives
    induction lives with
    | nil => exact fun _ _ _ _ hheard => hheard
    | cons life rest ih =>
      intro n site hsound hnext hheard
      obtain ⟨n', hle, hsound', hnext', hheard'⟩ := counting_live life hsound hnext hheard
      refine (ih n' _ hsound' hnext' hheard').mono ?_
      have hcount : connects (life :: rest) =
        life.actions.countP Action.isConnect + connects rest := rfl
      omega
  have hfresh : (fresh store files).mounted.loads = .ok b₀ := hload
  have hnext : AtomicBdSeqStore.next (fresh store files).mounted = b₀ + UInt8.ofNat 0 :=
    (MountedStore.next_of_loads hfresh).trans (by simp)
  obtain ⟨ns, hsorted, hlt, hall⟩ := (hrun lives 0 (fresh store files) ⟨b₀, hfresh⟩ hnext
    (.nil 0)).numbers
  rw [Nat.zero_add] at hlt
  refine ⟨ns, hsorted, hlt, hall, fun hfew => ?_⟩
  rw [List.Nodup, List.pairwise_map]
  refine hsorted.imp_of_mem fun {i j} hi hj hij heq => ?_
  have hsame := congrArg UInt8.toNat (UInt8.add_right_inj b₀ |>.mp heq)
  have hi' := hlt i hi
  have hj' := hlt j hj
  rw [UInt8.toNat_ofNat', UInt8.toNat_ofNat', Nat.mod_eq_of_lt (by omega),
    Nat.mod_eq_of_lt (by omega)] at hsame
  omega

/-- A line that is killed twice: first while it saves, then before its connect reaches the broker.
-/
def killed : List (Life Recorder) :=
  [⟨pumpLine, {}, Stream'.const true, stopped, 7, [], [.connect silent, .disconnect]⟩,
    ⟨pumpLine, {}, Stream'.const true, stopped, 8, [2], [.connect silent]⟩,
    ⟨pumpLine, {}, Stream'.const false, stopped, 9, [], [.connect silent]⟩,
    ⟨pumpLine, {}, Stream'.const true, stopped, 7, [], [.connect silent]⟩]

theorem wills_fresh_killed :
    ∃ ns : List Nat, ns.Pairwise (· < ·) ∧ (∀ n ∈ ns, n < connects killed) ∧
      List.Forall₂ (fun opts n => opts.Wills (0 + UInt8.ofNat n))
        (wills ⟨⟨"/var/lib/line/", some "bdseq"⟩⟩ (fun _ => none) killed) ns ∧
      (connects killed ≤ 256 → (ns.map fun n => 0 + UInt8.ofNat n).Nodup) :=
  wills_fresh ⟨⟨"/var/lib/line/", some "bdseq"⟩⟩ (fun _ => none) rfl killed

end Site

end SparkplugB
