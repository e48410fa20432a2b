/-
# What the registry of an edge knows

An edge decodes its commands with one registry.  With aliases it holds what the latest NBIRTH and
the DBIRTHs after it declare, a later declaration in place of an earlier one, and nothing for the
control metrics; without aliases it stays empty.  A birth sequence that is cut short while the
edge is online is what can break this, and `Known.trial` says that nothing else does.
-/
import SparkplugB.Edge.Announced

namespace SparkplugB

open Codec

/-! ## 1. Declarations -/

/-- A metric that a birth declares to the registry: it has a name, and is no control metric. -/
def declares (b : Metric) : Bool :=
  match b.name with
  | none => false
  | some name => name ≠ NODE_CONTROL_REBIRTH && name ≠ BDSEQ_METRIC_NAME

/-- The metric `m` refers to the metric `b`: by its name or, if it has none, by its alias. -/
def refersTo (m b : Metric) : Bool :=
  match m.name with
  | some name => b.name = some name
  | none => m.alias.isSome && b.alias = m.alias

/-- The datatype of the latest metric among `bs` that was declared and that `m` refers to: what
`DataType` the flat registry of the edge has for the metric, read off the births. -/
def declaredDatatype (bs : List Metric) (m : Metric) : Option DataType :=
  ((bs.filter declares).reverse.find? (refersTo m)).map fun b => b.value.datatype

theorem recoverDatatype_announce (reg : AliasRegistry) (b m : Metric) :
    recoverDatatype (some (announce reg b)) m.name m.alias =
      if declares b && refersTo m b then some b.value.datatype
      else recoverDatatype (some reg) m.name m.alias := by
  unfold announce declares refersTo recoverDatatype
  cases hname : b.name with
  | none => simp
  | some name =>
    by_cases hcontrol : name = NODE_CONTROL_REBIRTH ∨ name = BDSEQ_METRIC_NAME
    · rcases hcontrol with rfl | rfl <;> simp
    · obtain ⟨hrebirth, hbdSeq⟩ := not_or.mp hcontrol
      simp only [if_neg hcontrol]
      cases hm : m.name with
      | some n => simp [AliasRegistry.datatypeForName_bind, hrebirth, hbdSeq]
      | none =>
        cases ha : m.alias with
        | some a => simp [AliasRegistry.datatypeForAlias_bind, hrebirth, hbdSeq]
        | none => simp

theorem declaredDatatype_cons (b : Metric) (bs : List Metric) (m : Metric) :
    declaredDatatype (b :: bs) m =
      (declaredDatatype bs m).or
        (if declares b && refersTo m b then some b.value.datatype else none) := by
  unfold declaredDatatype
  rcases hdeclares : declares b with - | -
  · simp [hdeclares]
  · rcases hrefers : refersTo m b with - | -
    · simp [hdeclares, List.find?_append, hrefers]
    · simp [hdeclares, List.find?_append, hrefers]

/-- The registry looks declarations up from the latest to the earliest. -/
theorem recoverDatatype_foldl (m : Metric) :
    ∀ (bs : List Metric) (reg : AliasRegistry),
      recoverDatatype (some (bs.foldl announce reg)) m.name m.alias =
        (declaredDatatype bs m).or (recoverDatatype (some reg) m.name m.alias)
  | [], _ => rfl
  | b :: bs, reg => by
    rw [List.foldl_cons, recoverDatatype_foldl m bs, recoverDatatype_announce,
      declaredDatatype_cons, Option.or_assoc]
    split
    · rfl
    · rfl

theorem recoverDatatype_announced (births : List Payload) (m : Metric) :
    recoverDatatype (some (announced births)) m.name m.alias =
      declaredDatatype (births.flatMap Payload.metrics) m := by
  have hnew : recoverDatatype (some AliasRegistry.new) m.name m.alias = none := by
    unfold recoverDatatype
    cases m.name with
    | some n => simp
    | none => cases m.alias <;> simp
  have hflat : announced births = (births.flatMap Payload.metrics).foldl announce .new := by
    rw [List.foldl_flatMap]
    rfl
  rw [hflat, recoverDatatype_foldl, hnew, Option.or_none]

/-! ## 2. The latest births of a log -/

/-- The entry is an NBIRTH or a DBIRTH. -/
def Mark.isBirth : Mark → Bool
  | .node .nBirth | .device _ .dBirth => true
  | _ => false

/-- The payloads of the latest NBIRTH in a log, the latest entry first, and of the DBIRTHs published
after it. -/
inductive LatestBirths : List Entry → List Payload → Prop
  | nodeBirth {message p past} (mark : message.mark = .node .nBirth)
      (written : message.payload = encode p .birth) :
    LatestBirths (.publish message :: past) [p]
  | deviceBirth {message p device past births} (mark : message.mark = .device device .dBirth)
      (written : message.payload = encode p .birth) (h : LatestBirths past births) :
    LatestBirths (.publish message :: past) (births ++ [p])
  | other {e past births} (mark : e.mark.isBirth = false) (h : LatestBirths past births) :
    LatestBirths (e :: past) births

/-- An entry that was not published is no birth. -/
theorem Entry.isBirth_of_not_publish {e : Entry} (h : ∀ message, e ≠ .publish message) :
    e.mark.isBirth = false := by
  cases e with
  | publish message => exact absurd rfl (h message)
  | handled message =>
    rcases message.mark_cases with hmark | ⟨hostId, state, hmark, -⟩
    · exact (congrArg Mark.isBirth hmark).trans rfl
    · exact (congrArg Mark.isBirth hmark).trans rfl
  | _ => rfl

theorem LatestBirths.append {births : List Payload} {past : List Entry}
    (h : LatestBirths past births) :
    ∀ {es : List Entry}, (∀ e ∈ es, ∀ message, e ≠ .publish message) →
      LatestBirths (es ++ past) births
  | [], _ => h
  | e :: _, hes =>
    .other (Entry.isBirth_of_not_publish (hes e List.mem_cons_self))
      (h.append fun e' he' => hes e' (List.mem_cons_of_mem e he'))

/-! ## 3. The registry -/

variable {S : Type}

namespace Observed

/-- The registry of the edge holds what these births declare, in the order in which they were
published, and nothing at all without aliases. -/
structure Recalls (s : Observed S) (births : List Payload) : Prop where
  latest : LatestBirths s.engine.transport.log births
  registry : s.engine.aliasing.aliases =
    if s.engine.config.useAliases then announced births else .new

/-- Without aliases the registry is empty. -/
def Plain (s : Observed S) : Prop :=
  s.engine.config.useAliases = false → s.engine.aliasing.aliases = .new

theorem Recalls.plain {s : Observed S} {births : List Payload} (h : s.Recalls births) :
    s.Plain := by
  intro huse
  rw [h.registry, huse]
  rfl

theorem Recalls.of_fields {s s' : Observed S} {births : List Payload} (h : s.Recalls births)
    (hlatest : LatestBirths s.engine.transport.log births →
      LatestBirths s'.engine.transport.log births)
    (hconfig : s'.engine.config = s.engine.config)
    (haliases : s'.engine.aliasing.aliases = s.engine.aliasing.aliases) : s'.Recalls births :=
  ⟨hlatest h.latest, by rw [haliases, hconfig, h.registry]⟩

/-- Data, a DDEATH or an NDEATH. -/
theorem Recalls.publish {s : Observed S} {births : List Payload} (h : s.Recalls births)
    {message : OutboundMessage} (hmark : message.mark.isBirth = false) :
    (s.note (.publish message)).Recalls births :=
  h.of_fields (.other hmark) rfl rfl

/-- What an NBIRTH or a DBIRTH does to the aliases. -/
theorem aliases_of_aliased (node : EdgeNode Recorder S) (metrics : List Metric) (ts : UInt64)
    {births : List Payload}
    (h : node.aliasing.aliases = if node.config.useAliases then announced births else .new) :
    (node.aliased metrics).2.aliases =
      if node.config.useAliases then
        announced (births ++ [node.sequenced (node.aliased metrics).1 ts])
      else .new := by
  rcases huse : node.config.useAliases with - | -
  · rw [huse] at h
    rw [EdgeNode.aliased, huse]
    exact h
  · rw [huse] at h
    rw [aliases_aliased node metrics ts huse, h, if_pos rfl, if_pos rfl, announced_concat]

theorem recalls_nodeBirth {s : Observed S} (h : s.Plain) (source : DataSource) :
    ∃ p, (s.nodeBirth source).Recalls [p] := by
  have hmark := EdgeNode.mark_node s.engine.resetForBirth
    (m := s.engine.resetForBirth.nodeBirthMessage source s.ms) rfl ⟨rfl, by decide⟩
  have hfresh : s.engine.resetForBirth.aliasing.aliases =
      if s.engine.resetForBirth.config.useAliases then announced [] else .new := by
    unfold EdgeNode.resetForBirth
    rcases huse : s.engine.config.useAliases with - | -
    · exact h huse
    · rfl
  exact ⟨_, .nodeBirth hmark rfl, aliases_of_aliased _ _ s.ms hfresh⟩

theorem Recalls.deviceBirth {s : Observed S} {births : List Payload} (h : s.Recalls births)
    (source : DataSource) (device : DeviceId) :
    ∃ p, (s.deviceBirth source device).Recalls (births ++ [p]) := by
  have hmark := EdgeNode.mark_device s.engine
    (m := s.engine.deviceBirthMessage source device s.ms) rfl rfl
  exact ⟨_, .deviceBirth hmark rfl h.latest, aliases_of_aliased _ _ s.ms h.registry⟩

theorem Recalls.deviceBirths (source : DataSource) :
    ∀ (devices : List DeviceId) {s : Observed S} {births : List Payload}, s.Recalls births →
      ∃ births', (devices.foldl (Observed.deviceBirth source) s).Recalls births'
  | [], _, births, h => ⟨births, h⟩
  | device :: rest, _, _, h => by
    obtain ⟨p, hp⟩ := h.deviceBirth source device
    exact deviceBirths source rest hp

theorem recalls_birth {s : Observed S} (h : s.Plain) (source : DataSource) :
    ∃ births, (s.birth source).Recalls births := by
  obtain ⟨p, hp⟩ := recalls_nodeBirth h source
  obtain ⟨births, hbirths⟩ := Recalls.deviceBirths source s.engine.config.devices hp
  exact ⟨births, hbirths.of_fields id rfl rfl⟩

/-! ## 4. Births that are cut short -/

/-- Without aliases, assigning them changes nothing. -/
theorem withAliases_of_plain {node : EdgeNode Recorder S} (h : node.config.useAliases = false)
    (metrics : List Metric) : (node.withAliases metrics).aliasing = node.aliasing := by
  have haliased : (node.aliased metrics).2 = node.aliasing := by
    unfold EdgeNode.aliased
    rw [if_neg (by rw [h]; decide)]
  exact haliased

theorem aliasing_nodeBirthLost {s : Observed S} (huse : s.engine.config.useAliases = false)
    (source : DataSource) : (s.nodeBirthLost source).engine.aliasing = s.engine.aliasing := by
  have hreset : s.engine.resetForBirth.aliasing = s.engine.aliasing := by
    unfold EdgeNode.resetForBirth
    rw [if_neg (by rw [huse]; decide)]
  have hsame := @withAliases_of_plain S s.engine.resetForBirth huse
    (EdgeNode.controlled s.engine.bdSeq source.nodeBirthMetrics)
  exact hsame.trans hreset

theorem config_deviceLost {s s' : Observed S} {source : DataSource} {devices : List DeviceId}
    (hlost : s.DeviceLost source devices s') : s'.engine.config = s.engine.config := by
  obtain ⟨pre, device, post, -, rfl⟩ := hlost
  exact EdgeNode.foldl_field EdgeNode.config
    (g := Observed.deviceBirth source) (fun _ _ => rfl) pre s

theorem Recalls.deviceLost {s s' : Observed S} {births : List Payload} {source : DataSource}
    {devices : List DeviceId} (h : s.Recalls births) (huse : s.engine.config.useAliases = false)
    (hlost : s.DeviceLost source devices s') : ∃ births', s'.Recalls births' := by
  have hconfig := config_deviceLost hlost
  obtain ⟨pre, device, post, -, rfl⟩ := hlost
  obtain ⟨births', hpre⟩ := Recalls.deviceBirths source pre h
  have hplain : (pre.foldl (Observed.deviceBirth source) s).engine.config.useAliases = false :=
    (congrArg EdgeNodeConfig.useAliases hconfig).trans huse
  exact ⟨births', hpre.of_fields id rfl
    (congrArg Aliasing.aliases (withAliases_of_plain hplain _))⟩

theorem Recalls.birthLost {s s' : Observed S} {births : List Payload} {source : DataSource}
    {k : Nat} (h : s.Recalls births) (huse : s.engine.config.useAliases = false)
    (hlost : s.BirthLost source k s') : ∃ births', s'.Recalls births' := by
  cases k with
  | zero =>
    obtain rfl : s' = s.nodeBirthLost source := hlost
    exact ⟨births, h.of_fields id rfl (congrArg Aliasing.aliases (aliasing_nodeBirthLost huse source))⟩
  | succ k =>
    obtain ⟨p, hp⟩ := recalls_nodeBirth h.plain source
    have hdevice : (s.nodeBirth source).DeviceLost source s.engine.config.devices s' := hlost
    exact hp.deviceLost huse hdevice

/-! ## 5. Runs -/

/-- The registry of an edge that is online holds what its latest births declare, and without aliases
it is empty: the invariant behind what the edge makes of a command. -/
structure Known (s : Observed S) : Prop where
  plain : s.Plain
  online : s.engine.state = .online → ∃ births, s.Recalls births

/-- The condition on a step: no birth sequence of an online edge that assigns aliases is cut short
by the transport.  Where one is, the map has already been cleared, and holds births that were never
sent. -/
def Unbroken [BdSeqStore S] (s : Observed S) (w : Answers) (a : Action) : Prop :=
  s.engine.state = .online → s.engine.config.useAliases = true →
    match a with
    | .connect _ => s.engine.config.primaryHostId = none → ¬ s.StoreFails →
      w.Clear (2 + s.engine.config.devices.length) → w.Clear s.engine.connectCalls
    | .publishBirthSequence _ => w.Clear (1 + s.engine.config.devices.length)
    | .handleIncoming message _ => s.Triggers message →
      w.Clear (1 + s.engine.config.devices.length)
    | _ => True

theorem Known.of_fields {s s' : Observed S} (h : s.Known)
    (hlatest : ∀ births, LatestBirths s.engine.transport.log births →
      LatestBirths s'.engine.transport.log births)
    (hconfig : s'.engine.config = s.engine.config)
    (haliases : s'.engine.aliasing.aliases = s.engine.aliasing.aliases)
    (hstate : s'.engine.state = .online → s.engine.state = .online) : s'.Known where
  plain := by
    intro huse
    rw [hconfig] at huse
    rw [haliases, h.plain huse]
  online := by
    intro hon
    obtain ⟨births, hbirths⟩ := h.online (hstate hon)
    exact ⟨births, hbirths.of_fields (hlatest births) hconfig haliases⟩

theorem Known.unpublished {s s' : Observed S} (h : s.Known) (hunpub : s.Unpublished s') :
    s'.Known := by
  obtain ⟨es, hlog, hes⟩ := hunpub.log
  refine h.of_fields (fun births hlatest => ?_) hunpub.config
    (congrArg Aliasing.aliases hunpub.aliasing) fun hon => hunpub.state ▸ hon
  rw [hlog]
  exact hlatest.append hes

/-- Data, a DDEATH or an NDEATH. -/
theorem Known.publish {s : Observed S} (h : s.Known) {message : OutboundMessage}
    (hmark : message.mark.isBirth = false) : (s.note (.publish message)).Known :=
  h.of_fields (fun _ hlatest => .other hmark hlatest) rfl rfl id

theorem known_of_recalls {s : Observed S} (h : ∃ births, s.Recalls births) : s.Known := by
  obtain ⟨births, hbirths⟩ := h
  exact ⟨hbirths.plain, fun _ => ⟨births, hbirths⟩⟩

theorem Known.birth {s : Observed S} (h : s.Known) (source : DataSource) :
    (s.birth source).Known := known_of_recalls (recalls_birth h.plain source)

/-- Without aliases the registry stays empty, wherever a birth sequence is cut short. -/
theorem plain_birthLost {s s' : Observed S} (h : s.Plain) {source : DataSource} {k : Nat}
    (hlost : s.BirthLost source k s') : s'.Plain := by
  intro huse
  cases k with
  | zero =>
    obtain rfl : s' = s.nodeBirthLost source := hlost
    have hsame : (s.nodeBirthLost source).engine.aliasing = s.engine.aliasing :=
      aliasing_nodeBirthLost (s := s) huse source
    rw [hsame]
    exact h huse
  | succ k =>
    obtain ⟨p, hp⟩ := recalls_nodeBirth h source
    have hdevice : (s.nodeBirth source).DeviceLost source s.engine.config.devices s' := hlost
    have hplain : (s.nodeBirth source).engine.config.useAliases = false := by
      rw [← config_deviceLost hdevice, huse]
    obtain ⟨births, hbirths⟩ := hp.deviceLost hplain hdevice
    exact hbirths.plain huse

/-- A birth sequence that is cut short. -/
theorem Known.birthLost {s s' : Observed S} (h : s.Known) {source : DataSource} {k : Nat}
    {w : Answers} (hwithin : k < 1 + s.engine.config.devices.length)
    (hfails : (w.drop k).head ≠ none)
    (hunbroken : s.engine.state = .online → s.engine.config.useAliases = true →
      w.Clear (1 + s.engine.config.devices.length))
    (hlost : s.BirthLost source k s') : s'.Known where
  plain := plain_birthLost h.plain hlost
  online := by
    intro hon
    rw [EdgeNode.state_of_birthLost hlost] at hon
    obtain ⟨births, hbirths⟩ := h.online hon
    have huse : s.engine.config.useAliases = false := by
      by_contra huse
      exact hfails ((hunbroken hon (Bool.not_eq_false _ ▸ huse)).head hwithin)
    exact hbirths.birthLost huse hlost

variable [BdSeqStore S]

omit [BdSeqStore S] in
/-- The fields that are not looked at. -/
theorem Known.passive {s : Observed S} (h : s.Known) (c : Clock) (store : S) (bdSeq : UInt8)
    (at' : Option Nat) (ts : Option Int64) (seq : Seq) :
    Known ⟨{ s.engine with
      bdseqStore := store, bdSeq := bdSeq, lastRebirth := at', lastStateTs := ts, seq := seq }, c⟩ :=
  h.of_fields (fun _ => id) rfl rfl id

omit [BdSeqStore S] in
theorem Known.gone {s : Observed S} (h : s.Known) : s.gone.Known where
  plain := h.plain
  online := fun hon => absurd hon (by simp [Observed.gone, update])

omit [BdSeqStore S] in
/-- An edge that has published its NDEATH and not been disconnected. -/
theorem Known.died {s : Observed S} (h : s.Known) : s.died.Known := by
  have hmark := EdgeNode.mark_node s.engine (m := s.engine.ndeathMessage s.ms) rfl
    ⟨rfl, by decide⟩
  have hsent : (s.note (.publish (s.engine.ndeathMessage s.ms))).Known :=
    h.publish (by rw [hmark]; rfl)
  exact hsent.of_fields (fun _ => id) rfl rfl id

omit [BdSeqStore S] in
/-- `connect` that succeeds. -/
theorem Known.session {s : Observed S} (h : s.Known) (source : DataSource) :
    (s.session source).Known := by
  have hconnected : s.connected.Known := h.unpublished (.connected s)
  unfold Observed.session
  cases s.engine.config.primaryHostId with
  | some hostId =>
    exact ⟨hconnected.plain, fun hon => absurd hon (by simp [update])⟩
  | none => exact hconnected.birth source

omit [BdSeqStore S] in
/-- `connect` that fails after the transport has connected. -/
theorem Known.sessionLost {s s' : Observed S} (h : s.Known) {source : DataSource} {w : Answers}
    {k : Nat} (hwithin : k < s.engine.connectCalls) (hclear : w.Clear k)
    (hfails : (w.drop k).head ≠ none) (hlost : s.SessionLost source k s')
    (hunbroken : s.engine.state = .online → s.engine.config.useAliases = true →
      s.engine.config.primaryHostId = none → w.Clear (2 + s.engine.config.devices.length) →
      w.Clear s.engine.connectCalls) : s'.Known := by
  by_cases hearly : k + 1 < s.engine.sessionCalls ∨ s.engine.config.primaryHostId ≠ none
  · exact h.unpublished (hlost.unpublished hearly)
  · -- the call that failed belongs to the birth sequence
    obtain ⟨hborn, hprimary⟩ := not_or.mp hearly
    have hnone : s.engine.config.primaryHostId = none := not_not.mp hprimary
    have hcalls : s.engine.sessionCalls = 2 + s.engine.config.devices.length + 1 := by
      rw [EdgeNode.sessionCalls]
      omega
    obtain ⟨j, rfl⟩ := Nat.exists_eq_add_of_le
      (show 2 + s.engine.config.devices.length ≤ k by omega)
    have hlost' := hlost.birthLost (by omega) hnone
    have hj : 2 + s.engine.config.devices.length + j + 1 - s.engine.sessionCalls = j := by omega
    have hconfig := EdgeNode.connected_config s
    have hconnected : s.connected.Known := h.unpublished (.connected s)
    rw [hj] at hlost'
    rw [EdgeNode.connectCalls, if_pos hnone, hcalls] at hwithin
    have hfails' : ((w.drop (2 + s.engine.config.devices.length)).drop j).head ≠ none := by
      rwa [Stream'.drop_drop]
    refine hconnected.birthLost (by rw [hconfig]; omega) hfails' (fun hon huse => ?_) hlost'
    rw [EdgeNode.connected_state] at hon
    rw [hconfig] at huse ⊢
    have hall := hunbroken hon huse hnone (hclear.mono (by omega))
    have hsplit : s.engine.connectCalls =
        2 + s.engine.config.devices.length + (1 + s.engine.config.devices.length) := by
      rw [EdgeNode.connectCalls, if_pos hnone, hcalls]
      omega
    rw [hsplit] at hall
    exact ((Answers.clear_add _ _ w).mp hall).2

omit [BdSeqStore S] in
/-- The debounce window has been checked. -/
theorem Known.debounced {s : Observed S} (h : s.Known) : s.debounced.Known := by
  unfold Observed.debounced
  split
  · exact h.passive _ _ _ _ _ _
  · exact h

omit [BdSeqStore S] in
/-- A STATE of the primary host has been accepted. -/
theorem Known.followed {s : Observed S} (h : s.Known) (source : DataSource)
    (state : StatePayload) : (s.followed source state).Known := by
  have hset : Known (s.update fun node => { node with lastStateTs := some state.timestamp }) :=
    h.passive _ _ _ _ _ _
  unfold Observed.followed
  dsimp only
  split
  · split
    · exact hset.birth source
    · exact hset
  · split
    · exact hset.gone
    · exact hset

/-- **One call.** -/
theorem Known.trial {s s' : Observed S} {w : Answers} {a : Action} (h : s.Known)
    (htrial : s.Trial w a s') (hunbroken : s.Unbroken w a) : s'.Known := by
  cases htrial with
  | kept c => exact h.passive c _ _ _ _ _
  | loadFails store => exact h.passive _ store _ _ _ _
  | saveFails load save => exact h.passive _ _ _ _ _ _
  | unconnected load save fails => exact h.passive _ _ _ _ _ _
  | @connectLost source bdSeq store store' k _ load save within clear fails lost =>
    have hset : (s.update (·.withBdSeq store' bdSeq)).Known := h.passive _ _ _ _ _ _
    have hstore : ¬ s.StoreFails := by
      rintro (⟨e, st, hfail⟩ | ⟨b, st, e, st', hload, hfail⟩)
      · exact absurd (load.symm.trans hfail) (by simp)
      · obtain ⟨rfl, rfl⟩ := EStateM.Result.ok.inj (load.symm.trans hload)
        exact absurd (save.symm.trans hfail) (by simp)
    exact hset.sessionLost within.2 clear fails lost fun hon huse hnone =>
      hunbroken hon huse hnone hstore
  | @connect source bdSeq store store' load save =>
    have hset : (s.update (·.withBdSeq store' bdSeq)).Known := h.passive _ _ _ _ _ _
    exact hset.session source
  | birth => exact h.birth _
  | birthLost within fails lost => exact h.birthLost within fails hunbroken lost
  | @nodeData metrics on =>
    have hmark := EdgeNode.mark_node s.engine (t := .nData)
      (m := s.engine.dataMessage (s.engine.nodeTopic .nData) metrics s.ms) rfl ⟨rfl, by decide⟩
    exact (h.publish (by rw [hmark]; rfl)).of_fields (fun _ => id) rfl rfl id
  | @deviceData device metrics born =>
    have hmark := EdgeNode.mark_device s.engine (t := .dData)
      (m := s.engine.dataMessage (s.engine.deviceTopic device .dData) metrics s.ms) rfl rfl
    exact (h.publish (by rw [hmark]; rfl)).of_fields (fun _ => id) rfl rfl id
  | @deviceDeath device born =>
    have hmark := EdgeNode.mark_device s.engine
      (m := s.engine.deviceDeathMessage device s.ms) rfl rfl
    exact (h.publish (by rw [hmark]; rfl)).of_fields (fun _ => id) rfl rfl id
  | unsent => exact h.passive _ _ _ _ _ _
  | @rebirth message source triggers =>
    exact (h.debounced.birth source).passive _ _ _ _ _ _
  | @rebirthLost message source k _ triggers within fails lost =>
    have hconfig : s.debounced.engine = s.engine := by
      unfold Observed.debounced
      split <;> rfl
    refine h.debounced.birthLost (by rw [hconfig]; exact within) fails (fun hon huse => ?_) lost
    rw [hconfig] at hon huse ⊢
    exact hunbroken hon huse triggers
  | @followed message source state accepts => exact h.followed source state
  | @followLost message source state k _ accepts online waiting lost =>
    have hset : Known (s.update fun node => { node with lastStateTs := some state.timestamp }) :=
      h.passive _ _ _ _ _ _
    refine ⟨plain_birthLost hset.plain lost, fun hon => ?_⟩
    rw [EdgeNode.state_of_birthLost lost] at hon
    exact absurd (waiting.symm.trans hon) (by decide)
  | @leaveLost message source state k s' accepts offline on clear fails within lost died =>
    have hset : Known (s.update fun node => { node with lastStateTs := some state.timestamp }) :=
      h.passive _ _ _ _ _ _
    by_cases hk : k = 0
    · exact lost hk ▸ hset.passive _ _ _ _ _ _
    · exact died hk ▸ hset.died
  | disconnect => exact h.gone
  | @disconnectLost k s' clear fails within state lost died =>
    by_cases hk : k = 0
    · exact lost hk ▸ h.passive _ _ _ _ _ _
    · exact died hk ▸ h.died

end Observed

/-- **The registry of every run** of `EdgeNode`, on a transport that may fail, in which no birth
sequence of an online edge that assigns aliases is cut short. -/
theorem Strained.known [BdSeqStore S] (config : EdgeNodeConfig) (store : S) (clock : Clock)
    (answers : Answers) (actions : List Action)
    (hunbroken : Machine.Always perform (fun s a => s.seen.Unbroken s.answers a)
      (start config store clock answers) actions) :
    (Machine.run perform (start config store clock answers) actions).seen.Known := by
  have hstart : (start config store clock answers).seen.Known :=
    ⟨fun _ => rfl, fun hon => absurd hon (by simp [start, Observed.start, EdgeNode.new])⟩
  have hstep : ∀ (s : Strained S) (a : Action), s.seen.Known → s.seen.Unbroken s.answers a →
      (s.perform a).seen.Known := fun s a hs ha => hs.trial (s.perform_trial a) ha
  exact Machine.run_invariant hstep _ actions hstart hunbroken

end SparkplugB
