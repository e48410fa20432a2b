/-
# The bdSeq of a connection

The bdSeq of a connection reaches the wire in the will, in every NBIRTH and in the NDEATH of a
graceful disconnect.  The edge numbers its connections; `log_agrees` says that all three carry
the number of the connection, unless the source of an NBIRTH has a bdSeq metric of its own, which
is sent as it is.  What they carry is what the host's `bdseq_of` reads.
-/
import SparkplugB.Codec.Survival
import SparkplugB.Edge.Discipline
import SparkplugB.Host.Engine

namespace SparkplugB

open Past Codec

/-! ## 1. What `bdseq_of` looks at -/

/-- The number `bdseq_of` reads from the metric it has found. -/
def MetricValue.bdSeq? : MetricValue → Option Int64
  | .int64 v => some v
  | .uint64 v => toInt64? v
  | _ => none

/-- Two metrics that `bdseq_of` cannot tell apart. -/
def SameBdSeq (m m' : Metric) : Prop := m'.name = m.name ∧ m'.value.bdSeq? = m.value.bdSeq?

/-- The metrics `bdseq_of` looks for. -/
def Metric.isBdSeq (m : Metric) : Bool := m.name = some BDSEQ_METRIC_NAME

theorem bdseqOf_eq (p : Payload) :
    bdseqOf p = (p.metrics.find? Metric.isBdSeq).bind fun m => m.value.bdSeq? := rfl

theorem bdseqOf_congr {p q : Payload} (h : List.Forall₂ SameBdSeq p.metrics q.metrics) :
    bdseqOf q = bdseqOf p := by
  rw [bdseqOf_eq, bdseqOf_eq]
  generalize p.metrics = ms at h ⊢
  generalize q.metrics = ms' at h ⊢
  induction h with
  | nil => rfl
  | @cons m m' ms ms' hm _ ih =>
    have hsame : m'.isBdSeq = m.isBdSeq := by rw [Metric.isBdSeq, Metric.isBdSeq, hm.1]
    rw [List.find?_cons, List.find?_cons, hsame]
    cases m.isBdSeq with
    | true => exact hm.2
    | false => exact ih

/-- A metric that was decoded from a birth. -/
theorem sameBdSeq_of_resembles {m m' : Metric} (h : Resembles m m') : SameBdSeq m m' := by
  refine ⟨h.name, ?_⟩
  by_cases hint : m.value.datatype = .int64 ∨ m.value.datatype = .uint64
  · rw [h.integer hint]
  · have hnone : ∀ v : MetricValue, ¬ (v.datatype = .int64 ∨ v.datatype = .uint64) →
        v.bdSeq? = none := by
      intro v hv
      cases v <;> first | rfl | exact absurd hv (by simp [MetricValue.datatype])
    rw [hnone _ hint, hnone _ (by rw [h.datatype]; exact hint)]

/-- The bytes of a birth or a death carry the bdSeq `b`: they can be decoded without a registry, and
`b` is what `bdseq_of` of `host.rs` reads from the payload. -/
structure CarriesBdSeq (bytes : Bytes) (b : UInt8) : Prop where
  written : ∃ p, encode p .birth = bytes ∧ bdseqOf p = some (Int64.ofNat b.toNat)
  read : bytes.length < 2 ^ 63 → ∀ p, decode bytes none = .ok p →
    bdseqOf p = some (Int64.ofNat b.toNat)

theorem carriesBdSeq_encode {p : Payload} {b : UInt8}
    (h : bdseqOf p = some (Int64.ofNat b.toNat)) : CarriesBdSeq (encode p .birth) b where
  written := ⟨p, rfl, h⟩
  read hlen q hq := by
    have hall := resembles_of_decode hlen hq
    rw [bdseqOf_congr (hall.imp fun _ _ => sameBdSeq_of_resembles), h]

/-! ## 2. The three ways to the wire -/

/-- The bdSeq metric of the source, if it has one, reads `b`.  `build_node_birth_metrics` keeps a
metric of this name and adds its own only where there is none. -/
def DataSource.BdSeqFits (b : UInt8) (source : DataSource) : Prop :=
  source.nodeBirthMetrics.any (fun m => m.name = some BDSEQ_METRIC_NAME) = true →
    bdseqOf { metrics := source.nodeBirthMetrics } = some (Int64.ofNat b.toNat)

/-- Adding a metric that is not looked for. -/
theorem find?_append_other {α : Type} {p : α → Bool} {d : α} (hd : p d = false) (b : Bool)
    (xs : List α) : (if b then xs else xs ++ [d]).find? p = xs.find? p := by
  cases b with
  | true => rfl
  | false =>
    have hsingle : [d].find? p = none := by rw [List.find?_cons, hd]; rfl
    rw [if_neg (by decide), List.find?_append, hsingle, Option.or_none]

/-- Adding a metric only if there is none of its kind. -/
theorem find?_append_default {α : Type} {p : α → Bool} {d : α} (hd : p d = true) (xs : List α) :
    (if xs.any p then xs else xs ++ [d]).find? p = (xs.find? p).or (some d) := by
  cases hany : xs.any p with
  | true =>
    obtain ⟨x, hx, hp⟩ := List.any_eq_true.mp hany
    obtain ⟨y, hy⟩ := Option.isSome_iff_exists.mp (List.find?_isSome.mpr ⟨x, hx, hp⟩)
    rw [if_pos rfl, hy]
    rfl
  | false =>
    have hsingle : [d].find? p = some d := by rw [List.find?_cons, hd]
    rw [if_neg (by decide), List.find?_append, hsingle]

theorem any_eq_isSome_find? {α : Type} {p : α → Bool} (xs : List α) :
    xs.any p = (xs.find? p).isSome := by
  rw [Bool.eq_iff_iff, List.any_eq_true, List.find?_isSome]

/-- The control metrics of an NBIRTH: the source's bdSeq metric comes first, if it has one. -/
theorem find?_controlled (b : UInt8) (metrics : List Metric) :
    (EdgeNode.controlled b metrics).find? Metric.isBdSeq =
      (metrics.find? Metric.isBdSeq).or
        (some (Metric.new BDSEQ_METRIC_NAME (.int64 (Int64.ofNat b.toNat)))) := by
  have hother := find?_append_other
    (p := Metric.isBdSeq) (d := Metric.new NODE_CONTROL_REBIRTH (.boolean false)) (by decide)
    (metrics.any fun m => m.name = some NODE_CONTROL_REBIRTH) metrics
  rw [← hother]
  exact find?_append_default rfl _

theorem bdseqOf_controlled {b : UInt8} {source : DataSource} (h : source.BdSeqFits b) :
    bdseqOf { metrics := EdgeNode.controlled b source.nodeBirthMetrics } =
      some (Int64.ofNat b.toNat) := by
  rw [bdseqOf_eq, find?_controlled]
  cases hfind : source.nodeBirthMetrics.find? Metric.isBdSeq with
  | none => rfl
  | some m =>
    have hany : source.nodeBirthMetrics.any Metric.isBdSeq = true := by
      rw [any_eq_isSome_find?, hfind]
      rfl
    have hfits := h hany
    rw [bdseqOf_eq, hfind] at hfits
    exact hfits

/-- Giving out aliases and time stamps is nothing to `bdseq_of`. -/
theorem sameBdSeq_assign (a : Aliasing) (m : Metric) : SameBdSeq m (a.assign m).1 := by
  unfold Aliasing.assign
  split
  · exact ⟨rfl, rfl⟩
  · split <;> exact ⟨rfl, rfl⟩

theorem sameBdSeq_assignAll :
    ∀ (metrics : List Metric) (a : Aliasing), List.Forall₂ SameBdSeq metrics (a.assignAll metrics).1
  | [], _ => .nil
  | m :: rest, a => .cons (sameBdSeq_assign a m) (sameBdSeq_assignAll rest _)

theorem sameBdSeq_stamp (metrics : List Metric) (ts : UInt64) :
    List.Forall₂ SameBdSeq metrics (stamp metrics ts) := by
  unfold stamp
  rw [List.forall₂_map_right_iff, List.forall₂_same]
  intro m _
  unfold stampMetric
  split <;> exact ⟨rfl, rfl⟩

namespace EdgeNode

variable {S : Type} (node : EdgeNode Recorder S)

/-- What a birth makes of its metrics on their way to the wire. -/
theorem bdseqOf_sequenced (metrics : List Metric) (ts : UInt64) :
    bdseqOf (node.sequenced (node.aliased metrics).1 ts) = bdseqOf { metrics := metrics } := by
  have halias : bdseqOf { metrics := (node.aliased metrics).1 } =
      bdseqOf { metrics := metrics } := by
    unfold aliased
    split
    · exact bdseqOf_congr (sameBdSeq_assignAll metrics node.aliasing)
    · rfl
  rw [← halias]
  exact bdseqOf_congr (p := { metrics := (node.aliased metrics).1 }) (sameBdSeq_stamp _ ts)

/-- The NDEATH, registered or published. -/
theorem carriesBdSeq_ndeath (ts : UInt64) :
    CarriesBdSeq (node.ndeathMessage ts).payload node.bdSeq :=
  carriesBdSeq_encode rfl

/-- The NBIRTH. -/
theorem carriesBdSeq_nodeBirth {source : DataSource} (h : source.BdSeqFits node.bdSeq)
    (ts : UInt64) : CarriesBdSeq (node.nodeBirthMessage source ts).payload node.bdSeq := by
  refine carriesBdSeq_encode ?_
  rw [bdseqOf_sequenced]
  exact bdseqOf_controlled h

end EdgeNode

/-! ## 3. Runs -/

/-- How many times the transport was connected. -/
def connections : List Entry → Nat
  | [] => 0
  | .connect _ :: past => connections past + 1
  | _ :: past => connections past

/-- **Agreement.**  Connection `i`, counted from 0, registers a will with the bdSeq `b₀ + i` modulo
256, and the NBIRTHs and NDEATHs that are published on it carry the same. -/
def Agrees (b₀ : UInt8) (e : Entry) (past : List Entry) : Prop :=
  (∀ opts, e = .connect opts → ∃ will, opts.will = some will ∧ will.mark = .node .nDeath ∧
    CarriesBdSeq will.payload (b₀ + UInt8.ofNat (connections past))) ∧
  ∀ message, e = .publish message → message.mark = .node .nBirth ∨ message.mark = .node .nDeath →
    ∀ i, connections past = i + 1 → CarriesBdSeq message.payload (b₀ + UInt8.ofNat i)

namespace EdgeNode

variable {S : Type} [BdSeqStore S] [LawfulBdSeqStore S] {b₀ : UInt8}

/-- The invariant behind it: the log agrees, the store stands at the number of the next connection,
and the field `bd_seq` at the number of the present one. -/
structure Agreeing (b₀ : UInt8) (node : EdgeNode Recorder S) : Prop where
  agrees : Throughout (Agrees b₀) node.transport.log
  saved : LawfulBdSeqStore.next node.bdseqStore =
    b₀ + UInt8.ofNat (connections node.transport.log)
  current : ∀ i, connections node.transport.log = i + 1 → node.bdSeq = b₀ + UInt8.ofNat i

/-- An entry that is no connect. -/
theorem Agreeing.note {node : EdgeNode Recorder S} (h : node.Agreeing b₀) {e : Entry}
    (hconnect : ∀ opts, e ≠ .connect opts)
    (hpublish : ∀ message, e = .publish message →
      message.mark = .node .nBirth ∨ message.mark = .node .nDeath →
      CarriesBdSeq message.payload node.bdSeq) :
    Agreeing b₀ { node with transport := node.transport.note e } := by
  have hcount : connections (e :: node.transport.log) = connections node.transport.log := by
    cases e with
    | connect opts => exact absurd rfl (hconnect opts)
    | _ => rfl
  refine ⟨.cons ⟨fun opts heq => absurd heq (hconnect opts), fun message heq hmark i hi => ?_⟩
    h.agrees, ?_, ?_⟩
  · rw [← h.current i hi]
    exact hpublish message heq hmark
  · rw [Recorder.note_log, hcount]
    exact h.saved
  · rw [Recorder.note_log, hcount]
    exact h.current

/-- A message of another type. -/
theorem Agreeing.publish {node : EdgeNode Recorder S} (h : node.Agreeing b₀)
    {message : OutboundMessage} (hbirth : message.mark ≠ .node .nBirth)
    (hdeath : message.mark ≠ .node .nDeath) :
    Agreeing b₀ { node with transport := node.transport.note (.publish message) } := by
  refine h.note (by simp) fun message' heq hmark => ?_
  obtain rfl := Entry.publish.inj heq
  rcases hmark with hmark | hmark
  · exact absurd hmark hbirth
  · exact absurd hmark hdeath

/-- A new connection, with the bdSeq that was saved for it. -/
theorem Agreeing.connect {node : EdgeNode Recorder S} (h : node.Agreeing b₀) {bdSeq : UInt8}
    {store store' : S}
    (hload : (BdSeqStore.loadNextDeath : EStateM String S UInt8).run node.bdseqStore =
      .ok bdSeq store)
    (hsave : (BdSeqStore.storeNextDeath (bdSeq + 1)).run store = .ok () store') (ts : UInt64) :
    Agreeing b₀ { node.withBdSeq store' bdSeq with
      transport := node.transport.note (.connect ((node.withBdSeq store' bdSeq).connectOptions ts)) }
    := by
  have hbdSeq : bdSeq = b₀ + UInt8.ofNat (connections node.transport.log) := by
    obtain ⟨st, hst, -⟩ := LawfulBdSeqStore.load node.bdseqStore
    rw [← h.saved]
    exact (EStateM.Result.ok.inj (hload.symm.trans hst)).1
  have hnext : LawfulBdSeqStore.next store' = bdSeq + 1 := by
    obtain ⟨st, hst, hvalue⟩ := LawfulBdSeqStore.save store (bdSeq + 1)
    rw [(EStateM.Result.ok.inj (hsave.symm.trans hst)).2, hvalue]
  have hmark := mark_node (node.withBdSeq store' bdSeq)
    (m := (node.withBdSeq store' bdSeq).ndeathMessage ts) rfl ⟨rfl, by decide⟩
  refine ⟨.cons ⟨fun opts heq => ?_, fun message heq => absurd heq (by simp)⟩ h.agrees, ?_,
    fun i hi => ?_⟩
  · obtain rfl := Entry.connect.inj heq
    refine ⟨_, rfl, hmark, ?_⟩
    rw [← hbdSeq]
    exact carriesBdSeq_ndeath (node.withBdSeq store' bdSeq) ts
  · show LawfulBdSeqStore.next store' = b₀ + UInt8.ofNat (connections node.transport.log + 1)
    rw [hnext, hbdSeq, UInt8.ofNat_add, UInt8.add_assoc]
    rfl
  · have hi' : connections node.transport.log = i := Nat.succ.inj hi
    show bdSeq = b₀ + UInt8.ofNat i
    rw [hbdSeq, hi']

end EdgeNode

namespace Observed

variable {S : Type} [BdSeqStore S] [LawfulBdSeqStore S] {b₀ : UInt8}

/-- Every elementary step of the edge keeps the agreement. -/
theorem steady_agreeing :
    Steady (fun s : Observed S => s.engine.Agreeing b₀) DataSource.BdSeqFits where
  tick h := h
  fields f passive h := by
    rename_i s
    obtain ⟨-, htransport, hstore, -, hbdSeq⟩ := passive s.engine
    have hafter : EdgeNode.Agreeing b₀ (f s.engine) := by
      refine ⟨?_, ?_, ?_⟩
      · rw [htransport]
        exact h.agrees
      · rw [htransport, hstore]
        exact h.saved
      · rw [htransport, hbdSeq]
        exact h.current
    exact hafter
  subscribe filter h := h.note (by simp) (by simp)
  handled message h := h.note (by simp) (by simp)
  disconnect h := h.note (by simp) (by simp)
  storeFails store bdSeq fails h := by
    rename_i s
    obtain ⟨st, hload, -⟩ := LawfulBdSeqStore.load s.engine.bdseqStore
    rcases fails with ⟨e, st', hfail⟩ | ⟨b, st', e, st'', -, hfail⟩
    · exact absurd (hload.symm.trans hfail) (by simp)
    · obtain ⟨st₃, hsave, -⟩ := LawfulBdSeqStore.save st' (b + 1)
      exact absurd (hsave.symm.trans hfail) (by simp)
  connect load save h := h.connect load save _
  nodeBirth hok h := by
    rename_i s source
    have hset : s.engine.resetForBirth.Agreeing b₀ := ⟨h.agrees, h.saved, h.current⟩
    have hnext := hset.note (e := .publish (s.engine.resetForBirth.nodeBirthMessage source s.ms))
      (by simp) fun message heq _ => by
        obtain rfl := Entry.publish.inj heq
        exact EdgeNode.carriesBdSeq_nodeBirth s.engine.resetForBirth hok s.ms
    exact ⟨hnext.agrees, hnext.saved, hnext.current⟩
  deviceBirth source device h := by
    rename_i s
    have hmark := EdgeNode.mark_device s.engine
      (m := s.engine.deviceBirthMessage source device s.ms) rfl rfl
    have hnext := h.publish (by rw [hmark]; simp) (by rw [hmark]; simp)
    exact ⟨hnext.agrees, hnext.saved, hnext.current⟩
  nodeDeath h := by
    rename_i s
    refine h.note (by simp) fun message heq _ => ?_
    obtain rfl := Entry.publish.inj heq
    exact EdgeNode.carriesBdSeq_ndeath s.engine s.ms
  nodeData metrics h := by
    rename_i s
    have hmark := EdgeNode.mark_node s.engine (t := .nData)
      (m := s.engine.dataMessage (s.engine.nodeTopic .nData) metrics s.ms) rfl
      ⟨rfl, by decide⟩
    have hnext := h.publish (by rw [hmark]; decide) (by rw [hmark]; decide)
    exact ⟨hnext.agrees, hnext.saved, hnext.current⟩
  deviceData device metrics h := by
    rename_i s
    have hmark := EdgeNode.mark_device s.engine (t := .dData)
      (m := s.engine.dataMessage (s.engine.deviceTopic device .dData) metrics s.ms) rfl rfl
    have hnext := h.publish (by rw [hmark]; simp) (by rw [hmark]; simp)
    exact ⟨hnext.agrees, hnext.saved, hnext.current⟩
  deviceDeath device h := by
    rename_i s
    have hmark := EdgeNode.mark_device s.engine
      (m := s.engine.deviceDeathMessage device s.ms) rfl rfl
    have hnext := h.publish (by rw [hmark]; simp) (by rw [hmark]; simp)
    exact ⟨hnext.agrees, hnext.saved, hnext.current⟩

/-- The condition on a call: where it publishes births, the bdSeq metric of its source, if there is
one, carries the number of the connection. -/
def SourcesFit (s : Observed S) (a : Action) : Prop :=
  ∀ source bdSeq, s.Births source bdSeq a → source.BdSeqFits bdSeq

/-- An edge that has not connected yet. -/
theorem agreeing_start (config : EdgeNodeConfig) (store : S) (clock : Clock) :
    (start config store clock).engine.Agreeing (LawfulBdSeqStore.next store) := by
  refine ⟨.nil, ?_, fun i hi => absurd hi (by simp [start, EdgeNode.new, connections])⟩
  show LawfulBdSeqStore.next store = LawfulBdSeqStore.next store + UInt8.ofNat 0
  simp

/-- **Agreement on the bdSeq.**  In every run of `EdgeNode`, over any store that gives out what was
saved last, the will of each connection and all NBIRTHs and NDEATHs published on it carry one
number, which goes up by one from a connection to the next.  `hfit` asks of the births published
that a bdSeq metric of their source, if it has one, carry the number of the connection. -/
theorem log_agrees (config : EdgeNodeConfig) (store : S) (clock : Clock) (actions : List Action)
    (hfit : Machine.Always perform SourcesFit (start config store clock) actions) :
    Throughout (Agrees (LawfulBdSeqStore.next store))
      (Machine.run perform (start config store clock) actions).engine.transport.log :=
  (steady_agreeing.run _ actions hfit (agreeing_start config store clock)).agrees

end Observed

/-! ## 4. A source with a bdSeq of its own -/

open Observed

/-- Two connections of a line whose source has no metrics. -/
theorem log_agrees_twice :
    Throughout (Agrees 255) (Machine.run perform
      (start pumpLine (⟨255⟩ : InMemoryBdSeqStore) stopped)
      [.connect silent, .disconnect, .connect silent]).engine.transport.log := by
  have hsilent : ∀ b, silent.BdSeqFits b := fun b h => absurd h (by decide)
  refine log_agrees pumpLine (⟨255⟩ : InMemoryBdSeqStore) stopped
    [.connect silent, .disconnect, .connect silent] ⟨?_, ?_, ?_, trivial⟩
  · rintro source bdSeq ⟨rfl, -, -⟩
    exact hsilent bdSeq
  · exact fun source bdSeq h => h.elim
  · rintro source bdSeq ⟨rfl, -, -⟩
    exact hsilent bdSeq

/-- A source that counts births itself. -/
def selfCounting : DataSource := ⟨[Metric.new BDSEQ_METRIC_NAME (.int64 7)], fun _ => []⟩

/-- The latest entry is an NBIRTH of the first connection that reads back with another bdSeq. -/
def latestDisagrees (b₀ : UInt8) : List Entry → Bool
  | .publish message :: past =>
    message.mark = .node .nBirth && connections past = 1 && message.payload.length < 2 ^ 63 &&
      (decode message.payload none).toOption.any fun p =>
        bdseqOf p ≠ some (Int64.ofNat b₀.toNat)
  | _ => false

theorem not_agrees_of_latest {b₀ : UInt8} {log : List Entry}
    (h : latestDisagrees b₀ log = true) : ¬ Throughout (Agrees b₀) log := by
  intro hall
  match log, h with
  | .publish message :: past, h =>
    simp only [latestDisagrees, Bool.and_eq_true, decide_eq_true_eq] at h
    obtain ⟨⟨⟨hmark, hfirst⟩, hlen⟩, hread⟩ := h
    obtain ⟨p, hp, hne⟩ := exists_ok _ _ hread
    have hcarries := (throughout_cons.mp hall).1.2 message rfl (.inl hmark) 0 hfirst
    refine of_decide_eq_true hne ?_
    simpa using hcarries.read hlen p hp

/-- **An NBIRTH with a bdSeq of its own.**  The source supplies a bdSeq metric, which
`build_node_birth_metrics` keeps: the first connection has the bdSeq 0 in its will, and its NBIRTH
carries 7. -/
theorem selfCounting_disagrees :
    ¬ ∀ (config : EdgeNodeConfig) (clock : Clock) (actions : List Action),
        Throughout (Agrees 0) (Machine.run perform
          (start config (⟨0⟩ : InMemoryBdSeqStore) clock) actions).engine.transport.log := by
  intro claim
  have hlatest : latestDisagrees 0 (Machine.run perform
      (start { pumpLine with devices := [] } (⟨0⟩ : InMemoryBdSeqStore) stopped)
      [.connect selfCounting]).engine.transport.log = true := by decide +kernel
  exact not_agrees_of_latest hlatest (claim _ _ _)

end SparkplugB
