/-
# The primary-host gate

An edge that follows a primary host publishes nothing but NDEATHs and DDEATHs unless the latest
STATE of that host says it is online.  The latest STATE is the one with the largest timestamp, and
of those the one that arrived last; it counts only within the connection it arrived in.  The
engine remembers the timestamp, and `state` stands for the rest.
-/
import SparkplugB.Edge.Discipline

namespace SparkplugB

open Past

/-! ## 1. The gate -/

/-- The latest STATE of the host has the timestamp `ts`, says it is online, and was handled since
the latest connect.  The latest one is the one with the latest timestamp: an older one that comes
after it is dropped. -/
def OpenAt (host : String) (ts : Int64) (past : List Mark) : Prop :=
  ∃ later s earlier, past = later ++ .state host s :: earlier ∧ s.online = true ∧
    s.timestamp = ts ∧ (∀ s', .state host s' ∈ earlier → s'.timestamp ≤ ts) ∧
    (∀ s', .state host s' ∈ later → s'.timestamp < ts) ∧ .connect ∉ later

/-- The gate is open. -/
def GateOpen (host : String) (past : List Mark) : Prop := ∃ ts, OpenAt host ts past

/-- The messages that pass the gate of a primary host: NBIRTH, DBIRTH, NDATA and DDATA.  A death is
published whether the gate is open or not. -/
def Mark.gated : Mark → Bool
  | .node .nBirth | .node .nData | .device _ .dBirth | .device _ .dData => true
  | _ => false

/-- **The gate rule**: what passes the gate is published while it is open. -/
def Gated (host : String) (m : Mark) (past : List Mark) : Prop :=
  m.gated = true → GateOpen host past

variable {host : String} {ts : Int64} {past : List Mark}

/-- Marks that are neither a connect nor a STATE of the host as late as the latest. -/
theorem OpenAt.append (h : OpenAt host ts past) {newer : List Mark}
    (hstate : ∀ s', .state host s' ∈ newer → s'.timestamp < ts) (hconnect : .connect ∉ newer) :
    OpenAt host ts (newer ++ past) := by
  obtain ⟨later, s, earlier, rfl, hon, hts, hearlier, hlater, hno⟩ := h
  refine ⟨newer ++ later, s, earlier, by simp, hon, hts, hearlier, fun s' hs' => ?_, ?_⟩
  · rcases List.mem_append.mp hs' with hs' | hs'
    · exact hstate s' hs'
    · exact hlater s' hs'
  · intro hmem
    rcases List.mem_append.mp hmem with hmem | hmem
    · exact hconnect hmem
    · exact hno hmem

theorem OpenAt.cons (h : OpenAt host ts past) {m : Mark} (hm : m ≠ .connect)
    (hstate : ∀ s', m = .state host s' → s'.timestamp < ts) : OpenAt host ts (m :: past) := by
  have hsingle : OpenAt host ts ([m] ++ past) := by
    refine h.append (fun s' hs' => hstate s' ?_) fun hmem => hm ?_
    · exact (List.mem_singleton.mp hs').symm
    · exact (List.mem_singleton.mp hmem).symm
  exact hsingle

/-- What holds of an edge that follows `host`: so far the rule was kept, an edge that is online has
an open gate, and `last_state_ts` is the latest timestamp of the host that the journal knows. -/
structure View.Guarded (host : String) (v : View) : Prop where
  primary : v.primary = some host
  latest : ∀ s, .state host s ∈ v.marks → ∃ ts, v.lastStateTs = some ts ∧ s.timestamp ≤ ts
  opened : v.state = .online → ∃ ts, v.lastStateTs = some ts ∧ OpenAt host ts v.marks
  gated : Throughout (Gated host) v.marks

/-! ## 2. The steps -/

namespace View

variable {v : View}

/-- A mark that is neither a connect nor a STATE of the host. -/
theorem Guarded.push (h : v.Guarded host) {m : Mark} (hm : m ≠ .connect)
    (hstate : ∀ s, m ≠ .state host s) (hgated : Gated host m v.marks) :
    (v.push m).Guarded host where
  primary := h.primary
  latest s hs := by
    rcases List.mem_cons.mp hs with heq | hs
    · exact absurd heq.symm (hstate s)
    · exact h.latest s hs
  opened hon := by
    obtain ⟨ts, hts, hopen⟩ := h.opened hon
    exact ⟨ts, hts, hopen.cons hm fun s' heq => absurd heq (hstate s')⟩
  gated := .cons hgated h.gated

/-- A birth sequence behind an open gate. -/
theorem Guarded.birth (h : v.Guarded host) (hlast : v.lastStateTs = some ts)
    (hopen : OpenAt host ts v.marks) : v.birth.Guarded host := by
  have hbirth : ∀ m ∈ v.devices.reverse.map (fun device => Mark.device device.str .dBirth),
      ∃ d, m = .device d .dBirth := by
    intro m hm
    obtain ⟨device, -, rfl⟩ := List.mem_map.mp hm
    exact ⟨device.str, rfl⟩
  have hborn : OpenAt host ts (.node .nBirth :: v.marks) :=
    hopen.cons (by simp) fun s' heq => absurd heq (by simp)
  have hstays : ∀ older : List Mark, (∀ m ∈ older, ∃ d, m = .device d .dBirth) →
      OpenAt host ts (older ++ .node .nBirth :: v.marks) := by
    intro older holder
    refine hborn.append (fun s' hs' => ?_) fun hmem => ?_
    · obtain ⟨d, hd⟩ := holder _ hs'
      exact absurd hd (by simp)
    · obtain ⟨d, hd⟩ := holder _ hmem
      exact absurd hd (by simp)
  refine ⟨h.primary, fun s hs => ?_, fun _ => ⟨ts, hlast, hstays _ hbirth⟩, ?_⟩
  · rcases List.mem_append.mp hs with hs | hs
    · obtain ⟨d, hd⟩ := hbirth _ hs
      exact absurd hd (by simp)
    · rcases List.mem_cons.mp hs with heq | hs
      · exact absurd heq (by simp)
      · exact h.latest s hs
  · refine Throughout.append (.cons (fun _ => ⟨ts, hopen⟩) h.gated)
      fun newer m older heq _ => ⟨ts, hstays older fun m' hm' => hbirth m' ?_⟩
    rw [heq]
    exact List.mem_append_right _ (List.mem_cons_of_mem _ hm')

theorem Guarded.gone (h : v.Guarded host) : v.gone.Guarded host := by
  have hdeath : (v.push (.node .nDeath)).Guarded host :=
    h.push (by simp) (by simp) fun hg => absurd hg (by decide)
  have hend : ((v.push (.node .nDeath)).push .disconnect).Guarded host :=
    hdeath.push (by simp) (by simp) fun hg => absurd hg (by decide)
  exact ⟨hend.primary, hend.latest, fun hon => absurd hon (by simp [View.gone]), hend.gated⟩

/-- A new connection waits for the host. -/
theorem Guarded.session (h : v.Guarded host) : v.session.Guarded host := by
  unfold View.session
  rw [h.primary]
  have hmem : ∀ m ∈ v.connected.marks, m = .other ∨ m = .connect ∨ m ∈ v.marks := by
    intro m hm
    rcases List.mem_append.mp hm with hm | hm
    · exact .inl (List.mem_replicate.mp hm).2
    · exact .inr (List.mem_cons.mp hm)
  refine ⟨h.primary, fun s hs => ?_, fun hon => absurd hon (by simp), ?_⟩
  · rcases List.mem_cons.mp hs with heq | hs
    · exact absurd heq (by simp)
    · rcases hmem _ hs with heq | heq | hs
      · exact absurd heq (by simp)
      · exact absurd heq (by simp)
      · exact h.latest s hs
  · refine .cons (fun hg => absurd hg (by decide)) ?_
    refine Throughout.append (.cons (fun hg => absurd hg (by decide)) h.gated)
      fun newer m older heq hg => ?_
    have hother : m = .other := (List.mem_replicate.mp (by rw [heq]; simp)).2
    rw [hother] at hg
    exact absurd hg (by decide)

/-- A STATE of the host that is not older than the last accepted one. -/
theorem Guarded.followed (h : v.Guarded host) {state : StatePayload}
    (hnew : ∀ last, v.lastStateTs = some last → last ≤ state.timestamp) :
    ((v.push (.state host state)).followed state).Guarded host := by
  have hlatest : ∀ s, .state host s ∈ v.marks → s.timestamp ≤ state.timestamp := by
    intro s hs
    obtain ⟨last, hlast, hle⟩ := h.latest s hs
    exact Int64.le_trans hle (hnew last hlast)
  have hopen : state.online = true →
      OpenAt host state.timestamp (.state host state :: v.marks) := fun hon =>
    ⟨[], state, v.marks, rfl, hon, rfl, hlatest, by simp, by simp⟩
  -- whatever the edge does next, it does it with the new timestamp
  have hset : (state.online = true ∨ v.state ≠ .online) →
      View.Guarded host
        { v.push (.state host state) with lastStateTs := some state.timestamp } := by
    intro hcase
    refine ⟨h.primary, fun s hs => ⟨state.timestamp, rfl, ?_⟩, fun hon => ?_,
      (.cons (fun hg => absurd hg (by simp [Mark.gated])) h.gated)⟩
    · rcases List.mem_cons.mp hs with heq | hs
      · obtain ⟨-, rfl⟩ := Mark.state.inj heq
        exact Int64.le_refl _
      · exact hlatest s hs
    · rcases hcase with hcase | hcase
      · exact ⟨state.timestamp, rfl, hopen hcase⟩
      · exact absurd hon hcase
  unfold View.followed
  dsimp only
  by_cases hon : state.online = true
  · rw [if_pos hon]
    by_cases hwait : (v.push (.state host state)).state = .waitingForPrimaryHost
    · rw [if_pos hwait]
      exact (hset (.inl hon)).birth rfl (hopen hon)
    · rw [if_neg hwait]
      exact hset (.inl hon)
  · rw [if_neg hon]
    by_cases honline : (v.push (.state host state)).state = .online
    · rw [if_pos honline]
      -- the session ends, and with it the need of an open gate
      have hclosed : View.Guarded host { v.push (.state host state) with
          lastStateTs := some state.timestamp, state := .disconnected } :=
        ⟨h.primary, fun s hs => by
          rcases List.mem_cons.mp hs with heq | hs
          · obtain ⟨-, rfl⟩ := Mark.state.inj heq
            exact ⟨_, rfl, Int64.le_refl _⟩
          · exact ⟨_, rfl, hlatest s hs⟩,
          fun hoff => absurd hoff (by simp),
          (.cons (fun hg => absurd hg (by simp [Mark.gated])) h.gated)⟩
      exact hclosed.gone
    · rw [if_neg honline]
      exact hset (.inr honline)

/-- A STATE of the host that is older than the last accepted one. -/
theorem Guarded.outdated (h : v.Guarded host) {state : StatePayload} {last : Int64}
    (hlast : v.lastStateTs = some last) (hold : state.timestamp < last) :
    (v.push (.state host state)).Guarded host where
  primary := h.primary
  latest s hs := by
    rcases List.mem_cons.mp hs with heq | hs
    · obtain ⟨-, rfl⟩ := Mark.state.inj heq
      exact ⟨last, hlast, Int64.le_of_lt hold⟩
    · exact h.latest s hs
  opened hon := by
    obtain ⟨ts, hts, hopen⟩ := h.opened hon
    obtain rfl := Option.some.inj (hlast.symm.trans hts)
    refine ⟨last, hts, hopen.cons (by simp) fun s' heq => ?_⟩
    obtain ⟨-, rfl⟩ := Mark.state.inj heq
    exact hold
  gated := .cons (fun hg => absurd hg (by simp [Mark.gated])) h.gated

end View

/-! ## 3. Runs -/

namespace Observed

variable {S : Type} [BdSeqStore S]

/-- The condition under which the state of the edge guards the gate: a rebirth command is obeyed,
and data of a device listed as born is published, only while the node is online. -/
def Heedful (s : Observed S) : Action → Prop
  | .handleIncoming message _ => s.Triggers message → s.engine.state = .online
  | .publishDeviceData d _ => d ∈ s.engine.bornDevices → s.engine.state = .online
  | _ => True

theorem guarded_perform (s : Observed S) (a : Action) (h : s.view.Guarded host)
    (hbirth : a.isBirth = false) (hheedful : s.Heedful a) : (s.perform a).view.Guarded host := by
  -- a message that carries no STATE of the host
  have hheard : ∀ message : IncomingMessage, message.stateOf host = none →
      (s.view.push message.mark).Guarded host := by
    intro message hnone
    refine h.push ?_ ?_ ?_ <;> rcases message.mark_cases with hmark | ⟨id, state, hmark, hstate⟩ <;>
      rw [hmark]
    · simp
    · simp
    · simp
    · intro s' heq
      obtain ⟨rfl, -⟩ := Mark.state.inj heq
      exact absurd (hnone.symm.trans hstate) (by simp)
    · exact fun hg => absurd hg (by decide)
    · exact fun hg => absurd hg (by simp [Mark.gated])
  have hopen : s.engine.state = .online → GateOpen host s.view.marks := fun hon => by
    obtain ⟨ts, -, hopen⟩ := h.opened hon
    exact ⟨ts, hopen⟩
  have hprimary : s.engine.config.primaryHostId = some host := h.primary
  have hmove := s.perform_move a
  generalize s.perform a = s' at hmove ⊢
  cases hmove with
  | storeFails fails store bdSeq => exact ⟨h.primary, h.latest, h.opened, h.gated⟩
  | connect load save =>
    rw [view_session]
    have hset : (s.update (·.withBdSeq _ _)).view.Guarded host :=
      ⟨h.primary, h.latest, h.opened, h.gated⟩
    exact hset.session
  | birth => exact absurd hbirth (by simp [Action.isBirth])
  | nodeDataRefused off => exact h
  | nodeData on =>
    rw [view_sent, EdgeNode.mark_node s.engine (t := .nData) rfl ⟨rfl, by decide⟩]
    exact h.push (by simp) (by simp) fun _ => hopen on
  | deviceDataRefused => exact h
  | deviceData born =>
    rw [view_sent, EdgeNode.mark_device s.engine (t := .dData) rfl rfl]
    exact h.push (by simp) (by simp) fun _ => hopen (hheedful born)
  | deviceDeathRefused => exact h
  | @deviceDeath device born =>
    have hmark := EdgeNode.mark_device s.engine (t := .dDeath)
      (m := s.engine.deviceDeathMessage device s.ms) rfl rfl
    have hdeath : (s.view.push (.device device.str .dDeath)).Guarded host :=
      h.push (by simp) (by simp) fun hg => absurd hg (by simp [Mark.gated])
    show View.Guarded host { s.view.push (s.engine.deviceDeathMessage device s.ms).mark with
      born := s.view.born.erase device.str }
    rw [hmark]
    exact ⟨hdeath.primary, hdeath.latest, hdeath.opened, hdeath.gated⟩
  | unheeded other => exact hheard _ (other host hprimary)
  | debounced other =>
    rw [view_debounced]
    exact hheard _ (other host)
  | @rebirth message source triggers =>
    obtain ⟨⟨group, edge, hparse⟩, -⟩ := id triggers
    have hpushed := hheard message (IncomingMessage.stateOf_of_parse hparse (by simp))
    obtain ⟨ts, hts, hopen⟩ := hpushed.opened (hheedful triggers)
    rw [view_rebirth]
    exact hpushed.birth hts hopen
  | @outdated message source old =>
    obtain ⟨id, state, hid, hstate, hold⟩ := old
    obtain rfl := Option.some.inj (hprimary.symm.trans hid)
    obtain ⟨last, hlast, hlt⟩ := Option.any_eq_true _ _ |>.mp hold
    rw [view_note, Entry.mark, IncomingMessage.mark_of_stateOf hstate]
    exact h.outdated hlast (of_decide_eq_true hlt)
  | @followed message source state accepts =>
    obtain ⟨⟨id, hid, hstate⟩, hfresh⟩ := accepts
    obtain rfl := Option.some.inj (hprimary.symm.trans hid)
    rw [view_followed, view_note, Entry.mark, IncomingMessage.mark_of_stateOf hstate]
    refine h.followed fun last hlast => ?_
    rw [show s.engine.lastStateTs = some last from hlast] at hfresh
    exact Int64.not_lt.mp fun hlt => hfresh (by simpa using hlt)
  | disconnect =>
    rw [view_gone]
    exact h.gone

/-- **The primary-host gate.**  In every run of an edge that follows `host` (`primary_host_id`), the
gate is open whenever an NBIRTH, DBIRTH, NDATA or DDATA is published, whatever the edge is handed
and in whatever order.  `hbirth` leaves out direct calls of `publish_birth_sequence`, and `hheedful`
asks that each call be heedful in the state it meets. -/
theorem marks_gated (config : EdgeNodeConfig) (host : String)
    (hprimary : config.primaryHostId = some host) (store : S) (clock : Clock)
    (actions : List Action) (hbirth : ∀ a ∈ actions, a.isBirth = false)
    (hheedful : Machine.Always perform Heedful (start config store clock) actions) :
    Throughout (Gated host)
      (Machine.run perform (start config store clock) actions).view.marks := by
  have hstart : (start config store clock).view.Guarded host :=
    ⟨hprimary, fun s hs => absurd hs (by simp [view, start, EdgeNode.new]),
      fun h => absurd h (by simp [view, start, EdgeNode.new]), .nil⟩
  have hboth : Machine.Always perform (fun s a => a.isBirth = false ∧ s.Heedful a)
      (start config store clock) actions := by
    rw [Machine.always_iff_split] at hheedful ⊢
    intro pre a post heq
    exact ⟨hbirth a (by rw [heq]; simp), hheedful pre a post heq⟩
  exact (Machine.run_invariant
    (fun s a hs ha => guarded_perform s a hs ha.1 ha.2) _ _ hstart hboth).gated

end Observed

/-! ## 4. A line that follows a host -/

open Observed

/-- The line of one pump, behind the gate of a primary host. -/
def gatedLine : EdgeNodeConfig := { pumpLine with primaryHostId := some "scada" }

/-- The primary host says that it is online. -/
def scadaOnline : IncomingMessage where
  topic := "spBv1.0/STATE/scada"
  payload := asBytes (StatePayload.toJson ⟨true, 1⟩)

/-- A rebirth request for the line. -/
def rebirthRequest : IncomingMessage where
  topic := "spBv1.0/plant/NCMD/line"
  payload := encode { metrics := [Metric.new NODE_CONTROL_REBIRTH (.boolean true)] } .birth

theorem parse_scadaOnline :
    SparkplugTopic.parse scadaOnline.topic = .ok (.hostState "scada") := by
  decide +kernel

/-- The calls of a line that is born when its primary host comes online. -/
def gatedCalls : List Action :=
  [.connect silent, .handleIncoming scadaOnline silent, .publishDeviceData "pump" []]

theorem heedful_gatedCalls :
    Machine.Always perform Heedful (start gatedLine (⟨0⟩ : InMemoryBdSeqStore) stopped)
      gatedCalls := by
  have hstate : ∀ s : Observed InMemoryBdSeqStore,
      s.Heedful (.handleIncoming scadaOnline silent) := by
    rintro s ⟨⟨group, edge, hparse⟩, -⟩
    exact absurd (hparse.symm.trans parse_scadaOnline) (by simp)
  have hon : (((start gatedLine (⟨0⟩ : InMemoryBdSeqStore) stopped).perform
      (.connect silent)).perform (.handleIncoming scadaOnline silent)).engine.state = .online := by
    decide +kernel
  exact ⟨trivial, hstate _, fun _ => hon, trivial⟩

/-- The line is born when the host comes online, and the gate was open for all it has published. -/
theorem marks_gated_online :
    Throughout (Gated "scada") (Machine.run perform
      (start gatedLine (⟨0⟩ : InMemoryBdSeqStore) stopped) gatedCalls).view.marks := by
  have hbirth : ∀ a ∈ gatedCalls, a.isBirth = false := by decide
  exact marks_gated gatedLine "scada" rfl (⟨0⟩ : InMemoryBdSeqStore) stopped gatedCalls hbirth
    heedful_gatedCalls

/-- **A rebirth behind a closed gate.**  The NCMD branch of `handle_incoming` does not look at the
state: the line has connected and waits for its primary host, and an NCMD makes it publish its
births. -/
theorem rebirth_while_waiting :
    ¬ ∀ (clock : Clock) (actions : List Action), (∀ a ∈ actions, a.isBirth = false) →
        Throughout (Gated "scada") (Machine.run perform
          (start gatedLine (⟨0⟩ : InMemoryBdSeqStore) clock) actions).view.marks := by
  intro claim
  have h := claim stopped [.connect silent, .handleIncoming rebirthRequest silent] (by decide)
  have hmarks : (Machine.run perform (start gatedLine (⟨0⟩ : InMemoryBdSeqStore) stopped)
      [.connect silent, .handleIncoming rebirthRequest silent]).view.marks =
      [.device "pump" .dBirth, .node .nBirth, .other, .other, .other, .other, .connect] := by
    decide +kernel
  rw [hmarks] at h
  obtain ⟨ts, later, s, earlier, heq, -⟩ := (throughout_cons.mp h).1 rfl
  have hmem : Mark.state "scada" s ∈ later ++ .state "scada" s :: earlier := by simp
  rw [← heq] at hmem
  simp at hmem

end SparkplugB
