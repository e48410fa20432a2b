/-
# Online means born

While the edge is online, the last births it published say what it is: an NBIRTH with the bdSeq of
the connection, a DBIRTH for every device it takes for born, and the aliases it sends data under.
A call that fails halfway can break this when it is made by an edge that is online already: the
fields are changed before the call, and `state` is changed after it.  `online_announced` says that
nothing else breaks it.
-/
import SparkplugB.Edge.BdSeq
import SparkplugB.Edge.Faults

namespace SparkplugB

open Machine

/-! ## 1. What births announce -/

/-- The aliases after a metric of a birth: the control metrics have none. -/
def announce (reg : AliasRegistry) (m : Metric) : AliasRegistry :=
  match m.name with
  | none => reg
  | some name =>
    if name = NODE_CONTROL_REBIRTH ∨ name = BDSEQ_METRIC_NAME then reg
    else reg.bind name m.alias m.value.datatype

/-- The aliases that a sequence of births announces. -/
def announced (births : List Payload) : AliasRegistry :=
  births.foldl (fun reg p => p.metrics.foldl announce reg) .new

theorem announced_concat (births : List Payload) (p : Payload) :
    announced (births ++ [p]) = p.metrics.foldl announce (announced births) := by
  rw [announced, List.foldl_append]
  rfl

/-- The edge assigns the aliases it then announces. -/
theorem aliases_assignAll :
    ∀ (metrics : List Metric) (a : Aliasing),
      (a.assignAll metrics).2.aliases = (a.assignAll metrics).1.foldl announce a.aliases
  | [], _ => rfl
  | m :: rest, a => by
    have hfirst : (a.assign m).2.aliases = announce a.aliases (a.assign m).1 := by
      unfold Aliasing.assign announce
      cases hname : m.name with
      | none => simp only [hname]
      | some name =>
        by_cases hcontrol : name = NODE_CONTROL_REBIRTH ∨ name = BDSEQ_METRIC_NAME
        · simp only [if_pos hcontrol, hname]
        · simp only [if_neg hcontrol]
    have hrest := aliases_assignAll rest (a.assign m).2
    rw [hfirst] at hrest
    exact hrest

theorem announce_stampMetric (reg : AliasRegistry) (ts : UInt64) (m : Metric) :
    announce reg (stampMetric ts m) = announce reg m := by
  unfold stampMetric
  split <;> rfl

theorem announce_stamp (ts : UInt64) :
    ∀ (metrics : List Metric) (reg : AliasRegistry),
      (stamp metrics ts).foldl announce reg = metrics.foldl announce reg
  | [], _ => rfl
  | m :: rest, reg => by
    rw [stamp, List.map_cons, List.foldl_cons, List.foldl_cons, announce_stampMetric]
    exact announce_stamp ts rest _

/-! ## 2. The births in the log -/

/-- The entry opens, ends or extends a session. -/
def Mark.isMilestone : Mark → Bool
  | .connect | .node .nBirth | .node .nDeath | .device _ .dBirth => true
  | _ => false

/-- A log, the latest entry first, that ends in a session: since the last connection, if there was
one, an NBIRTH with this bdSeq was published, and no NDEATH after it.  The payloads are those of the
NBIRTH and of the DBIRTHs published after it, and the names those of the devices of the latter. -/
inductive BornBy (bdSeq : UInt8) : List Entry → List Payload → List String → Prop
  | nodeBirth {message p past} (mark : message.mark = .node .nBirth)
      (written : message.payload = encode p .birth)
      (carries : CarriesBdSeq message.payload bdSeq) :
    BornBy bdSeq (.publish message :: past) [p] []
  | deviceBirth {message p device past births devices}
      (mark : message.mark = .device device .dBirth)
      (written : message.payload = encode p .birth) (h : BornBy bdSeq past births devices) :
    BornBy bdSeq (.publish message :: past) (births ++ [p]) (device :: devices)
  | other {e past births devices} (mark : e.mark.isMilestone = false)
      (h : BornBy bdSeq past births devices) :
    BornBy bdSeq (e :: past) births devices

variable {S : Type}

/-- What has been published says what the edge is: the log ends in a session with the bdSeq of the
edge, every device listed in `born_devices` has a DBIRTH in it, and if the edge uses aliases its
alias map is the one these births announce. -/
def Observed.Announced (s : Observed S) : Prop :=
  ∃ births devices, BornBy s.engine.bdSeq s.engine.transport.log births devices ∧
    (∀ device ∈ s.engine.bornDevices, device ∈ devices) ∧
    (s.engine.config.useAliases = true → s.engine.aliasing.aliases = announced births)

namespace Observed

/-- The log, the bdSeq and the aliases are the same, and no device is new. -/
theorem Announced.of_fields {s s' : Observed S} (h : s.Announced)
    (hlog : s'.engine.transport.log = s.engine.transport.log)
    (hbdSeq : s'.engine.bdSeq = s.engine.bdSeq) (hconfig : s'.engine.config = s.engine.config)
    (hborn : ∀ device ∈ s'.engine.bornDevices, device ∈ s.engine.bornDevices)
    (haliases : s.engine.config.useAliases = true →
      s'.engine.aliasing.aliases = s.engine.aliasing.aliases) : s'.Announced := by
  obtain ⟨births, devices, hby, hdevices, hannounced⟩ := h
  refine ⟨births, devices, ?_, fun device hd => hdevices device (hborn device hd), ?_⟩
  · rw [hlog, hbdSeq]
    exact hby
  · rw [hconfig]
    exact fun huse => (haliases huse).trans (hannounced huse)

/-- One more entry that is no milestone. -/
theorem Announced.note {s : Observed S} (h : s.Announced) {e : Entry}
    (he : e.mark.isMilestone = false) : (s.note e).Announced := by
  obtain ⟨births, devices, hby, hdevices, hannounced⟩ := h
  exact ⟨births, devices, .other he hby, hdevices, hannounced⟩

/-- Data, or a DDEATH. -/
theorem Announced.sent {s : Observed S} (h : s.Announced) {message : OutboundMessage}
    (hmark : message.mark.isMilestone = false) : (s.sent message).Announced := by
  have hnote : (s.note (.publish message)).Announced := h.note hmark
  exact hnote.of_fields rfl rfl rfl (fun _ hd => hd) fun _ => rfl

/-- The aliases a birth assigns are the ones it announces. -/
theorem aliases_aliased (node : EdgeNode Recorder S) (metrics : List Metric) (ts : UInt64)
    (huse : node.config.useAliases = true) :
    (node.aliased metrics).2.aliases =
      (node.sequenced (node.aliased metrics).1 ts).metrics.foldl announce
        node.aliasing.aliases := by
  have hstamp : (node.sequenced (node.aliased metrics).1 ts).metrics.foldl announce
      node.aliasing.aliases = (node.aliased metrics).1.foldl announce node.aliasing.aliases :=
    announce_stamp ts _ _
  rw [hstamp, EdgeNode.aliased, if_pos huse]
  exact aliases_assignAll metrics node.aliasing

/-- The NBIRTH. -/
theorem announced_nodeBirth (s : Observed S) {source : DataSource}
    (hfit : source.BdSeqFits s.engine.bdSeq) : (s.nodeBirth source).Announced := by
  have hmark := EdgeNode.mark_node s.engine.resetForBirth
    (m := s.engine.resetForBirth.nodeBirthMessage source s.ms) rfl ⟨rfl, by decide⟩
  have hcarries := EdgeNode.carriesBdSeq_nodeBirth s.engine.resetForBirth hfit s.ms
  refine ⟨_, [], .nodeBirth hmark rfl hcarries, fun device hd => absurd hd (by
    simp [nodeBirth, EdgeNode.afterNodeBirth, EdgeNode.resetForBirth]), fun huse => ?_⟩
  have huse' : s.engine.config.useAliases = true := huse
  have hfresh : s.engine.resetForBirth.aliasing.aliases = .new := by
    unfold EdgeNode.resetForBirth
    simp only [huse', if_true]
    rfl
  have haliases := aliases_aliased s.engine.resetForBirth
    (EdgeNode.controlled s.engine.bdSeq source.nodeBirthMetrics) s.ms huse'
  rw [hfresh] at haliases
  exact haliases

/-- A DBIRTH. -/
theorem Announced.deviceBirth {s : Observed S} (h : s.Announced) (source : DataSource)
    (device : DeviceId) : (s.deviceBirth source device).Announced := by
  obtain ⟨births, devices, hby, hdevices, hannounced⟩ := h
  have hmark := EdgeNode.mark_device s.engine
    (m := s.engine.deviceBirthMessage source device s.ms) rfl rfl
  refine ⟨_, _, .deviceBirth hmark rfl hby, fun d hd => ?_, fun huse => ?_⟩
  · rcases List.mem_append.mp hd with hd | hd
    · exact List.mem_cons_of_mem _ (hdevices d hd)
    · exact List.mem_singleton.mp hd ▸ List.mem_cons_self
  · have haliases := aliases_aliased s.engine (source.deviceBirthMetrics device.str) s.ms huse
    rw [hannounced huse] at haliases
    rw [announced_concat]
    exact haliases

/-- The DBIRTHs of some devices. -/
theorem Announced.deviceBirths (source : DataSource) :
    ∀ (devices : List DeviceId) {s : Observed S}, s.Announced →
      (devices.foldl (Observed.deviceBirth source) s).Announced
  | [], _, h => h
  | device :: rest, _, h => deviceBirths source rest (h.deviceBirth source device)

theorem announced_birth (s : Observed S) {source : DataSource}
    (hfit : source.BdSeqFits s.engine.bdSeq) : (s.birth source).Announced := by
  have hall := Announced.deviceBirths source s.engine.config.devices (announced_nodeBirth s hfit)
  exact hall.of_fields rfl rfl rfl (fun _ hd => hd) fun _ => rfl

/-! ## 3. Births that are cut short -/

/-- Without aliases, a DBIRTH that is not sent leaves the devices before it. -/
theorem announced_deviceLost {s s' : Observed S} {source : DataSource} {devices : List DeviceId}
    (h : s.Announced) (hplain : s.engine.config.useAliases = false)
    (hlost : s.DeviceLost source devices s') : s'.Announced := by
  obtain ⟨pre, device, post, -, rfl⟩ := hlost
  have hpre := Announced.deviceBirths source pre h
  refine hpre.of_fields rfl rfl rfl (fun _ hd => hd) fun huse => ?_
  have hconfig := EdgeNode.foldl_field EdgeNode.config
    (g := Observed.deviceBirth source) (fun _ _ => rfl) pre s
  rw [hconfig, hplain] at huse
  exact absurd huse (by decide)

/-- Without aliases, a birth sequence that is cut short leaves the births of before or its own. -/
theorem announced_birthLost {s s' : Observed S} {source : DataSource} {k : Nat}
    (h : s.Announced) (hfit : source.BdSeqFits s.engine.bdSeq)
    (hplain : s.engine.config.useAliases = false) (hlost : s.BirthLost source k s') :
    s'.Announced := by
  cases k with
  | zero =>
    obtain rfl : s' = s.nodeBirthLost source := hlost
    refine h.of_fields rfl rfl rfl (fun device hd => ?_) fun huse => ?_
    · exact absurd hd (by
        simp [nodeBirthLost, update, tick, EdgeNode.resetForBirth, EdgeNode.withAliases,
          EdgeNode.advanceSeq])
    · rw [hplain] at huse
      exact absurd huse (by decide)
  | succ k =>
    have hdevice : (s.nodeBirth source).DeviceLost source s.engine.config.devices s' := hlost
    exact announced_deviceLost (announced_nodeBirth s hfit) hplain hdevice

/-! ## 4. Runs -/

/-- A birth sequence fails nowhere, if it assigns aliases. -/
def BirthSheltered (s : Observed S) (w : Answers) : Prop :=
  s.engine.config.useAliases = true → w.Clear (1 + s.engine.config.devices.length)

/-- The condition on a `disconnect`: once the NDEATH is published, the transport disconnects. -/
def LeaveSheltered (w : Answers) : Prop := w.head = none → w.tail.head = none

/-- The bdSeq after `bdSeq` can be saved, and the transport connects. -/
def Opens [BdSeqStore S] (w : Answers) (bdSeq : UInt8) (store : S) : Prop :=
  (∃ store', (BdSeqStore.storeNextDeath (bdSeq + 1)).run store = .ok () store') ∧ w.head = none

/-- The condition on a `connect`: once the transport has connected, it fails nowhere before the
NBIRTH, and nowhere at all if it assigns aliases; if the transport does not connect, the store had
given out the bdSeq that the edge has. -/
def ConnectSheltered [BdSeqStore S] (s : Observed S) (w : Answers) : Prop :=
  ∀ bdSeq store, (BdSeqStore.loadNextDeath : EStateM String S UInt8).run s.engine.bdseqStore =
      .ok bdSeq store →
    (Opens w bdSeq store → w.Clear s.engine.sessionCalls ∧
      (s.engine.config.useAliases = true → w.Clear s.engine.connectCalls)) ∧
    (¬ Opens w bdSeq store → bdSeq = s.engine.bdSeq)

/-- The condition on a call of an online edge, with the answers it meets: the transport fails it at
no place where it would leave an edge that is online without its births.  A publication of data may
fail anywhere, and without aliases so may a birth sequence. -/
def Sheltered [BdSeqStore S] (s : Observed S) (w : Answers) (a : Action) : Prop :=
  s.engine.state = .online →
    match a with
    | .connect _ => s.ConnectSheltered w
    | .publishBirthSequence _ => s.BirthSheltered w
    | .disconnect => LeaveSheltered w
    | .handleIncoming message _ => (s.Triggers message → s.BirthSheltered w) ∧
      ∀ state, s.Accepts message state → state.online = false → LeaveSheltered w
    | _ => True

variable [BdSeqStore S]

/-- `connect` that fails after the transport has connected. -/
theorem announced_connectLost {s s' : Observed S} {source : DataSource} {bdSeq : UInt8}
    {store store' : S} {w : Answers} {k : Nat}
    (hload : (BdSeqStore.loadNextDeath : EStateM String S UInt8).run s.engine.bdseqStore =
      .ok bdSeq store)
    (hsave : (BdSeqStore.storeNextDeath (bdSeq + 1)).run store = .ok () store')
    (hwithin : 0 < k ∧ k < s.engine.connectCalls) (hclear : w.Clear k)
    (hfails : (w.drop k).head ≠ none)
    (hlost : (s.update (·.withBdSeq store' bdSeq)).SessionLost source k s')
    (hfit : s.SourcesFit (.connect source)) (hsheltered : s.ConnectSheltered w) :
    s'.Announced := by
  have hhead : w.head = none := hclear.head hwithin.1
  have hcond := (hsheltered bdSeq store hload).1 ⟨⟨store', hsave⟩, hhead⟩
  -- the call that failed is a DBIRTH
  have hborn : s.engine.sessionCalls ≤ k := by
    by_contra hlt
    exact hfails (hcond.1.head (not_le.mp hlt))
  have hplain : s.engine.config.useAliases = false := by
    by_contra huse
    exact hfails ((hcond.2 (Bool.not_eq_false _ ▸ huse)).head hwithin.2)
  have hprimary : s.engine.config.primaryHostId = none := by
    by_contra hsome
    have hcalls := hwithin.2
    rw [EdgeNode.connectCalls, if_neg hsome] at hcalls
    omega
  have hnode : ((s.update (·.withBdSeq store' bdSeq)).connected.nodeBirth source).Announced := by
    refine announced_nodeBirth _ ?_
    rw [EdgeNode.connected_bdSeq]
    exact hfit source bdSeq ⟨rfl, hprimary, store, hload⟩
  refine announced_deviceLost hnode ?_ (hlost.unborn hborn)
  have hconfig := EdgeNode.connected_config (s.update (·.withBdSeq store' bdSeq))
  exact (congrArg EdgeNodeConfig.useAliases hconfig).trans hplain

/-- `connect` that succeeds. -/
theorem announced_session {s : Observed S} {source : DataSource} {bdSeq : UInt8} {store store' : S}
    (hload : (BdSeqStore.loadNextDeath : EStateM String S UInt8).run s.engine.bdseqStore =
      .ok bdSeq store)
    (hfit : s.SourcesFit (.connect source))
    (hon : ((s.update (·.withBdSeq store' bdSeq)).session source).engine.state = .online) :
    ((s.update (·.withBdSeq store' bdSeq)).session source).Announced := by
  unfold session at hon ⊢
  have hsame : (s.update (·.withBdSeq store' bdSeq)).engine.config.primaryHostId =
    s.engine.config.primaryHostId := rfl
  rw [hsame] at hon ⊢
  cases hprimary : s.engine.config.primaryHostId with
  | some hostId =>
    rw [hprimary] at hon
    exact absurd hon (by simp [update])
  | none =>
    refine announced_birth _ ?_
    rw [EdgeNode.connected_bdSeq]
    exact hfit source bdSeq ⟨rfl, hprimary, store, hload⟩

/-- Whether an edge that is online has been born. -/
def Born (s : Observed S) : Prop := s.engine.state = .online → s.Announced

omit [BdSeqStore S] in
theorem Born.birthLost {s s' : Observed S} (h : s.Born) {w : Answers} {source : DataSource}
    {k : Nat} (hfit : source.BdSeqFits s.engine.bdSeq)
    (hwithin : k < 1 + s.engine.config.devices.length) (hfails : (w.drop k).head ≠ none)
    (hsheltered : s.engine.state = .online → s.BirthSheltered w)
    (hlost : s.BirthLost source k s') : s'.Born := by
  intro hon
  rw [EdgeNode.state_of_birthLost hlost] at hon
  have hplain : s.engine.config.useAliases = false := by
    by_contra huse
    exact hfails ((hsheltered hon (Bool.not_eq_false _ ▸ huse)).head hwithin)
  exact announced_birthLost (h hon) hfit hplain hlost

omit [BdSeqStore S] in
/-- The graceful end of a session. -/
theorem Born.leave {s s' : Observed S} (h : s.Born) {w : Answers} {k : Nat} (hclear : w.Clear k)
    (hfails : (w.drop k).head ≠ none) (hwithin : k < 2)
    (hsheltered : s.engine.state = .online → LeaveSheltered w)
    (hstate : s'.engine.state = s.engine.state) (hlost : k = 0 → s' = s.tick) : s'.Born := by
  intro hon
  rw [hstate] at hon
  have hk : k = 0 := by
    by_contra hne
    obtain rfl : k = 1 := by omega
    exact hfails (hsheltered hon hclear.1)
  rw [hlost hk]
  exact (h hon).of_fields rfl rfl rfl (fun _ hd => hd) fun _ => rfl

omit [BdSeqStore S] in
theorem born_of_state_ne {s : Observed S} (h : s.engine.state ≠ .online) : s.Born :=
  fun hon => absurd hon h

omit [BdSeqStore S] in
/-- The fields that are not looked at. -/
theorem Born.passive {s : Observed S} (h : s.Born) (c : Clock) (store : S) (at' : Option Nat)
    (ts : Option Int64) (seq : Seq) :
    Born ⟨{ s.engine with bdseqStore := store, lastRebirth := at', lastStateTs := ts, seq := seq },
      c⟩ :=
  fun hon => (h hon).of_fields rfl rfl rfl (fun _ hd => hd) fun _ => rfl

/-- **One call.** -/
theorem Born.trial {s s' : Observed S} {w : Answers} {a : Action} (h : s.Born)
    (htrial : s.Trial w a s') (hfit : s.SourcesFit a) (hsheltered : s.Sheltered w a) : s'.Born := by
  -- a connection that is not opened has changed the bdSeq and nothing else
  have hunopened : ∀ source bdSeq store store' c, a = .connect source →
      (BdSeqStore.loadNextDeath : EStateM String S UInt8).run s.engine.bdseqStore =
        .ok bdSeq store → ¬ Opens w bdSeq store →
      Born (⟨s.engine.withBdSeq store' bdSeq, c⟩ : Observed S) := by
    rintro source bdSeq store store' c rfl hload hopens hon
    have hsame : bdSeq = s.engine.bdSeq := (hsheltered hon bdSeq store hload).2 hopens
    exact (h hon).of_fields rfl hsame rfl (fun _ hd => hd) fun _ => rfl
  cases htrial with
  | kept c => exact h.passive c _ _ _ _
  | loadFails store => exact h.passive _ store _ _ _
  | @saveFails source bdSeq store e store' load save =>
    refine hunopened source bdSeq store store' _ rfl load fun hopens => ?_
    obtain ⟨store'', hsave⟩ := hopens.1
    exact absurd (hsave.symm.trans save) (by simp)
  | @unconnected source bdSeq store store' load save fails =>
    exact hunopened source bdSeq store store' _ rfl load fun hopens => fails hopens.2
  | connectLost load save within clear fails lost =>
    intro hon
    rw [lost.state] at hon
    exact announced_connectLost load save within clear fails lost hfit (hsheltered hon)
  | connect load save => exact fun hon => announced_session load hfit hon
  | birth => exact fun _ => announced_birth s (hfit _ _ ⟨rfl, rfl⟩)
  | birthLost within fails lost =>
    exact h.birthLost (hfit _ _ ⟨rfl, rfl⟩) within fails (fun hon => hsheltered hon) lost
  | @nodeData metrics on =>
    have hmark := EdgeNode.mark_node s.engine (t := .nData)
      (m := s.engine.dataMessage (s.engine.nodeTopic .nData) metrics s.ms) rfl ⟨rfl, by decide⟩
    exact fun hon => (h hon).sent (by rw [hmark]; rfl)
  | @deviceData device metrics born =>
    have hmark := EdgeNode.mark_device s.engine (t := .dData)
      (m := s.engine.dataMessage (s.engine.deviceTopic device .dData) metrics s.ms) rfl rfl
    exact fun hon => (h hon).sent (by rw [hmark]; rfl)
  | @deviceDeath device born =>
    have hmark := EdgeNode.mark_device s.engine
      (m := s.engine.deviceDeathMessage device s.ms) rfl rfl
    intro hon
    have hsent : (s.sent (s.engine.deviceDeathMessage device s.ms)).Announced :=
      (h hon).sent (by rw [hmark]; rfl)
    exact hsent.of_fields rfl rfl rfl (fun _ hd => List.mem_of_mem_erase hd) fun _ => rfl
  | unsent => exact h.passive _ _ _ _ _
  | @rebirth message source triggers =>
    intro hon
    have hfits : source.BdSeqFits s.debounced.engine.bdSeq := by
      have hsame : s.debounced.engine.bdSeq = s.engine.bdSeq := by
        unfold debounced
        split <;> rfl
      rw [hsame]
      exact hfit _ _ ⟨rfl, rfl, .inl triggers⟩
    exact (announced_birth s.debounced hfits).of_fields rfl rfl rfl (fun _ hd => hd) fun _ => rfl
  | @rebirthLost message source k _ triggers within fails lost =>
    have hfits : source.BdSeqFits s.engine.bdSeq := hfit _ _ ⟨rfl, rfl, .inl triggers⟩
    have hsafe : s.engine.state = .online → s.BirthSheltered w := fun hon =>
      (hsheltered hon).1 triggers
    unfold debounced at lost
    by_cases hlast : s.engine.lastRebirth.isSome = true
    · rw [if_pos hlast] at lost
      have htick : s.tick.Born := h.passive _ _ _ _ _
      exact htick.birthLost hfits within fails hsafe lost
    · rw [if_neg hlast] at lost
      exact h.birthLost hfits within fails hsafe lost
  | @followed message source state accepts =>
    have hset : Born (s.update fun node => { node with lastStateTs := some state.timestamp }) :=
      h.passive _ _ _ _ _
    unfold followed
    dsimp only
    by_cases hon : state.online = true
    · rw [if_pos hon]
      by_cases hwait : s.engine.state = .waitingForPrimaryHost
      · rw [if_pos hwait]
        exact fun _ => announced_birth _ (hfit _ _ ⟨rfl, rfl, .inr ⟨state, accepts, hon, hwait⟩⟩)
      · rw [if_neg hwait]
        exact hset
    · rw [if_neg hon]
      by_cases honline : s.engine.state = .online
      · rw [if_pos honline]
        exact born_of_state_ne (by simp [gone, update])
      · rw [if_neg honline]
        exact hset
  | followLost accepts online waiting lost =>
    refine born_of_state_ne ?_
    rw [EdgeNode.state_of_birthLost lost]
    have hwait : s.engine.state ≠ .online := by rw [waiting]; decide
    exact hwait
  | @leaveLost message source state k s' accepts offline on clear fails within lost died =>
    have hset : Born (s.update fun node => { node with lastStateTs := some state.timestamp }) :=
      h.passive _ _ _ _ _
    have hsafe := (hsheltered on).2 state accepts offline
    have hk : k = 0 := by
      by_contra hne
      obtain rfl : k = 1 := by omega
      exact fails (hsafe clear.1)
    rw [lost hk]
    exact hset.passive _ _ _ _ _
  | disconnect => exact born_of_state_ne (by simp [gone, update])
  | disconnectLost clear fails within state lost died =>
    exact h.leave clear fails within hsheltered state lost

end Observed

namespace Strained

variable [BdSeqStore S]

/-- An edge that has not connected yet. -/
def start (config : EdgeNodeConfig) (store : S) (clock : Clock) (answers : Answers) : Strained S :=
  (Observed.start config store clock).under answers

/-- The condition on a step of a run: the source of the call fits (`SourcesFit`), and the transport
fails it nowhere where that would matter (`Sheltered`). -/
def Safe (s : Strained S) (a : Action) : Prop :=
  s.seen.SourcesFit a ∧ s.seen.Sheltered s.answers a

/-- **Online means born.**  In every run of `EdgeNode`, on a transport that fails where it likes,
whose steps are safe: while the state is online, an NBIRTH with the current bdSeq has been published
and not been taken back, and `born_devices` and the alias map are what has been published since. -/
theorem online_announced (config : EdgeNodeConfig) (store : S) (clock : Clock) (answers : Answers)
    (actions : List Action) (hsafe : Always perform Safe (start config store clock answers) actions)
    (hon : (run perform (start config store clock answers) actions).engine.state = .online) :
    (run perform (start config store clock answers) actions).seen.Announced := by
  have hstart : (start config store clock answers).seen.Born :=
    Observed.born_of_state_ne (by simp [start, Observed.start, EdgeNode.new])
  have hstep : ∀ (s : Strained S) (a : Action), s.seen.Born → s.Safe a → (s.perform a).seen.Born :=
    fun s a hs ha => hs.trial (s.perform_trial a) ha.1 ha.2
  have hrun : (run perform (start config store clock answers) actions).seen.Born :=
    run_invariant hstep _ actions hstart hsafe
  exact hrun hon

end Strained

/-! ## 5. Calls that fail -/

open Strained

/-- All calls are answered but the one after `k` others. -/
def failsAt (k : Nat) : Answers := fun n => if n = k then some (.transport "broken pipe") else none

/-- A line without devices. -/
def soleLine : EdgeNodeConfig := { pumpLine with devices := [] }

/-- The NDATA of a line is not sent. -/
theorem announced_after_lost_data :
    (run perform (start soleLine (⟨0⟩ : InMemoryBdSeqStore) stopped (failsAt 3))
      [.connect silent, .publishNodeData []]).seen.Announced := by
  have hsafe : Always perform Safe (start soleLine (⟨0⟩ : InMemoryBdSeqStore) stopped (failsAt 3))
      [.connect silent, .publishNodeData []] := by
    refine ⟨⟨?_, fun hon => absurd hon (by decide)⟩, ⟨fun _ _ h => h.elim, fun _ => trivial⟩,
      trivial⟩
    rintro source bdSeq ⟨rfl, -, -⟩ h
    exact absurd h (by decide)
  exact online_announced soleLine (⟨0⟩ : InMemoryBdSeqStore) stopped (failsAt 3) _ hsafe
    (by decide +kernel)

/-- The latest entry of the log is an NDEATH. -/
def latestIsDeath : List Entry → Bool
  | .publish message :: _ => message.mark = .node .nDeath
  | _ => false

theorem not_bornBy_of_latest {bdSeq : UInt8} {log : List Entry} {births : List Payload}
    {devices : List String} (h : latestIsDeath log = true) : ¬ BornBy bdSeq log births devices := by
  intro hby
  cases hby with
  | nodeBirth mark written carries =>
    have hdeath := of_decide_eq_true h
    rw [mark] at hdeath
    exact absurd hdeath (by decide)
  | deviceBirth mark written hpast =>
    have hdeath := of_decide_eq_true h
    rw [mark] at hdeath
    exact absurd hdeath (by simp)
  | @other e past births devices mark hpast =>
    cases e with
    | publish message =>
      have hdeath : message.mark = .node .nDeath := of_decide_eq_true h
      have hnone : message.mark.isMilestone = false := mark
      rw [hdeath] at hnone
      exact absurd hnone (by decide)
    | _ => exact absurd h (by simp [latestIsDeath])

/-- **Online after its NDEATH.**  `disconnect` changes the state last: the NDEATH is published, the
transport does not disconnect, the error is returned, and the line stays online. -/
theorem online_after_death :
    ¬ ∀ (config : EdgeNodeConfig) (clock : Clock) (answers : Answers) (actions : List Action),
        (run perform (start config (⟨0⟩ : InMemoryBdSeqStore) clock answers) actions).engine.state =
          .online →
        (run perform (start config (⟨0⟩ : InMemoryBdSeqStore) clock answers)
          actions).seen.Announced := by
  intro claim
  have hon : (run perform (start soleLine (⟨0⟩ : InMemoryBdSeqStore) stopped (failsAt 4))
      [.connect silent, .disconnect]).engine.state = .online := by decide +kernel
  have hlatest : latestIsDeath (run perform (start soleLine (⟨0⟩ : InMemoryBdSeqStore) stopped
      (failsAt 4)) [.connect silent, .disconnect]).seen.engine.transport.log = true := by
    decide +kernel
  obtain ⟨births, devices, hby, -, -⟩ := claim _ _ _ _ hon
  exact not_bornBy_of_latest hlatest hby

end SparkplugB
