/-
# What a host surfaces was said

The network may lose what an edge publishes, deliver it late, twice or in another order, and put wills
of the edge in between.  Data goes without its datatypes, and maybe without its names: a host that has
missed a birth reads it with an older one.  As long as all births of the edge declare the same, that
is no harm: whatever the host surfaces for a message is what the call of the edge meant.

* **Declarations** (`Alike`): births that differ in nothing that a registry holds.
* **The edge** (`sound_act`): what it writes can be read with the registries of its births.
* **The host** (`Turn.knows`): these are the registries it reads with.
-/
import SparkplugB.Link.Sessions

namespace SparkplugB

open AliasRegistry Codec HostApplication Machine

/-! ## 1. Declarations -/

/-- What a birth declares with a metric: name, alias and datatype, which its registry binds. -/
def Metric.declaration (m : Metric) : Option String × Option UInt64 × DataType :=
  (m.name, m.alias, m.value.datatype)

/-- A registry holds what the metrics declare. -/
theorem AliasRegistry.bindAll_declaration :
    ∀ (metrics metrics' : List Metric),
      metrics.map Metric.declaration = metrics'.map Metric.declaration →
      ∀ reg : AliasRegistry, reg.bindAll metrics = reg.bindAll metrics' := by
  intro metrics
  induction metrics with
  | nil =>
    rintro metrics' h reg
    obtain rfl := List.map_eq_nil_iff.mp h.symm
    rfl
  | cons m rest ih =>
    rintro metrics' h reg
    obtain ⟨m', rest', rfl, hm, hrest⟩ := List.map_eq_cons_iff.mp h.symm
    obtain ⟨hname, halias, htype⟩ : m'.name = m.name ∧ m'.alias = m.alias ∧
        m'.value.datatype = m.value.datatype := by
      simpa [Metric.declaration] using hm
    unfold bindAll
    rw [hname, halias, htype]
    cases m.name with
    | none => exact ih rest' hrest.symm reg
    | some name =>
      dsimp only
      cases reg.tryBind name m.alias m.value.datatype with
      | ok reg' => exact ih rest' hrest.symm reg'
      | error e => exact congrArg (fun result => (result.1, true)) (ih rest' hrest.symm reg)

theorem AliasRegistry.registryOf_declaration {metrics metrics' : List Metric}
    (h : metrics.map Metric.declaration = metrics'.map Metric.declaration) :
    registryOf metrics = registryOf metrics' :=
  congrArg Prod.fst (bindAll_declaration metrics metrics' h new)

/-- Two sources whose births declare the same metrics in the same order, whatever the values are.
The order matters: aliases are given out by it. -/
def DataSource.Alike (source source' : DataSource) (devices : List DeviceId) : Prop :=
  source.nodeBirthMetrics.map Metric.declaration =
      source'.nodeBirthMetrics.map Metric.declaration ∧
    ∀ device ∈ devices, (source.deviceBirthMetrics device.str).map Metric.declaration =
      (source'.deviceBirthMetrics device.str).map Metric.declaration

instance (source source' : DataSource) (devices : List DeviceId) :
    Decidable (source.Alike source' devices) :=
  inferInstanceAs (Decidable (source.nodeBirthMetrics.map Metric.declaration =
      source'.nodeBirthMetrics.map Metric.declaration ∧
    ∀ device ∈ devices, (source.deviceBirthMetrics device.str).map Metric.declaration =
      (source'.deviceBirthMetrics device.str).map Metric.declaration))

/-! ## 2. Births that declare the same -/

theorem map_declaration_stamp (metrics : List Metric) (ts : UInt64) :
    (stamp metrics ts).map Metric.declaration = metrics.map Metric.declaration := by
  unfold stamp
  rw [List.map_map]
  refine List.map_congr_left fun m _ => ?_
  show (stampMetric ts m).declaration = m.declaration
  unfold stampMetric
  split <;> rfl

/-- The aliases that are given out depend on the declarations and the next alias. -/
theorem Aliasing.assignAll_declaration :
    ∀ (metrics metrics' : List Metric) (a a' : Aliasing), a.nextAlias = a'.nextAlias →
      metrics.map Metric.declaration = metrics'.map Metric.declaration →
      (a.assignAll metrics).1.map Metric.declaration =
          (a'.assignAll metrics').1.map Metric.declaration ∧
        (a.assignAll metrics).2.nextAlias = (a'.assignAll metrics').2.nextAlias := by
  intro metrics
  induction metrics with
  | nil =>
    rintro metrics' a a' hnext h
    obtain rfl := List.map_eq_nil_iff.mp h.symm
    exact ⟨rfl, hnext⟩
  | cons m rest ih =>
    rintro metrics' a a' hnext h
    obtain ⟨m', rest', rfl, hm, hrest⟩ := List.map_eq_cons_iff.mp h.symm
    obtain ⟨hname, halias, htype⟩ : m'.name = m.name ∧ m'.alias = m.alias ∧
        m'.value.datatype = m.value.datatype := by
      simpa [Metric.declaration] using hm
    have hfirst : (a.assign m).1.declaration = (a'.assign m').1.declaration ∧
        (a.assign m).2.nextAlias = (a'.assign m').2.nextAlias := by
      unfold Aliasing.assign
      rw [hname]
      cases hn : m.name with
      | none => exact ⟨hm.symm, hnext⟩
      | some name =>
        dsimp only
        split
        · exact ⟨hm.symm, hnext⟩
        · refine ⟨?_, congrArg (· + 1) hnext⟩
          show (some name, some a.nextAlias, m.value.datatype) =
            (some name, some a'.nextAlias, m'.value.datatype)
          rw [hnext, htype]
    obtain ⟨hlist, hlast⟩ := ih rest' _ _ hfirst.2 hrest.symm
    refine ⟨?_, hlast⟩
    show (a.assign m).1.declaration :: ((a.assign m).2.assignAll rest).1.map Metric.declaration =
      (a'.assign m').1.declaration :: ((a'.assign m').2.assignAll rest').1.map Metric.declaration
    rw [hfirst.1, hlist]

/-- Two edges that give out the same alias next, if any. -/
def SameNext {S : Type} (s s' : Observed S) : Prop :=
  s.engine.config = s'.engine.config ∧ (s.engine.config.useAliases = true →
    s.engine.aliasing.nextAlias = s'.engine.aliasing.nextAlias)

namespace Observed

variable {S : Type}

theorem aliased_declaration {s s' : Observed S} (h : SameNext s s')
    {metrics metrics' : List Metric}
    (hsame : metrics.map Metric.declaration = metrics'.map Metric.declaration) :
    (s.engine.aliased metrics).1.map Metric.declaration =
        (s'.engine.aliased metrics').1.map Metric.declaration ∧
      (s.engine.config.useAliases = true →
        (s.engine.aliased metrics).2.nextAlias = (s'.engine.aliased metrics').2.nextAlias) := by
  unfold EdgeNode.aliased
  rw [← h.1]
  by_cases huse : s.engine.config.useAliases = true
  · rw [if_pos huse, if_pos huse]
    obtain ⟨hlist, hnext⟩ := Aliasing.assignAll_declaration metrics metrics' _ _ (h.2 huse) hsame
    exact ⟨hlist, fun _ => hnext⟩
  · rw [if_neg huse, if_neg huse]
    exact ⟨hsame, fun h => absurd h huse⟩

/-- The control metrics are the same ones. -/
theorem controlled_declaration (b b' : UInt8) {metrics metrics' : List Metric}
    (hsame : metrics.map Metric.declaration = metrics'.map Metric.declaration) :
    (EdgeNode.controlled b metrics).map Metric.declaration =
      (EdgeNode.controlled b' metrics').map Metric.declaration := by
  have hadd : ∀ (name : String) (value value' : MetricValue) (metrics metrics' : List Metric),
      value.datatype = value'.datatype →
      metrics.map Metric.declaration = metrics'.map Metric.declaration →
      (if metrics.any (fun m => m.name = some name) then metrics
          else metrics ++ [Metric.new name value]).map Metric.declaration =
        (if metrics'.any (fun m => m.name = some name) then metrics'
          else metrics' ++ [Metric.new name value']).map Metric.declaration := by
    intro name value value' metrics metrics' htype hsame
    have hany : ∀ ms : List Metric, ms.any (fun m => m.name = some name) =
        (ms.map Metric.declaration).any fun d => d.1 = some name := by
      intro ms
      rw [List.any_map]
      rfl
    rw [hany, hany, hsame]
    split
    · exact hsame
    · rw [List.map_append, List.map_append, hsame]
      show _ ++ [(some name, none, value.datatype)] = _ ++ [(some name, none, value'.datatype)]
      rw [htype]
  exact hadd _ _ _ _ _ rfl (hadd _ _ _ _ _ rfl hsame)

end Observed

/-- Two DBIRTHs of one device that declare the same. -/
def SameDeviceBirth (birth birth' : DeviceId × Payload) : Prop :=
  birth.1 = birth'.1 ∧
    birth.2.metrics.map Metric.declaration = birth'.2.metrics.map Metric.declaration

namespace Observed

variable {S : Type}

theorem deviceBirths_alike {source source' : DataSource} :
    ∀ (devices : List DeviceId) (s s' : Observed S), SameNext s s' →
      (∀ device ∈ devices, (source.deviceBirthMetrics device.str).map Metric.declaration =
        (source'.deviceBirthMetrics device.str).map Metric.declaration) →
      List.Forall₂ SameDeviceBirth (deviceBirths source devices s)
        (deviceBirths source' devices s') := by
  intro devices
  induction devices with
  | nil => exact fun _ _ _ _ => .nil
  | cons device rest ih =>
    intro s s' h hsame
    obtain ⟨hfirst, hrest⟩ := List.forall_mem_cons.mp hsame
    obtain ⟨hlist, hnext⟩ := aliased_declaration h hfirst
    refine .cons ⟨rfl, ?_⟩ (ih (s.deviceBirth source device) (s'.deviceBirth source' device)
      ⟨h.1, hnext⟩ hrest)
    show (stamp _ s.ms).map Metric.declaration = (stamp _ s'.ms).map Metric.declaration
    rw [map_declaration_stamp, map_declaration_stamp]
    exact hlist

/-- **Birth sequences that declare the same**, at two moments of one edge or at two edges with one
configuration: the order of the metrics and the fresh counter give the same aliases. -/
theorem births_alike {source source' : DataSource} {s s' : Observed S}
    (hconfig : s.engine.config = s'.engine.config)
    (h : source.Alike source' s.engine.config.devices) :
    (s.nodeBirthPayload source).metrics.map Metric.declaration =
        (s'.nodeBirthPayload source').metrics.map Metric.declaration ∧
      List.Forall₂ SameDeviceBirth (s.birthsOfDevices source) (s'.birthsOfDevices source') := by
  have hreset : SameNext (s.update EdgeNode.resetForBirth) (s'.update EdgeNode.resetForBirth) := by
    have hzero : ∀ s : Observed S, s.engine.config.useAliases = true →
        (s.update EdgeNode.resetForBirth).engine.aliasing.nextAlias = 0 := fun s huse =>
      congrArg Aliasing.nextAlias (if_pos huse)
    exact ⟨hconfig, fun huse => (hzero s huse).trans (hzero s' (hconfig ▸ huse)).symm⟩
  obtain ⟨hlist, hnext⟩ := aliased_declaration hreset
    (controlled_declaration s.engine.bdSeq s'.engine.bdSeq h.1)
  refine ⟨?_, ?_⟩
  · show (stamp _ s.ms).map Metric.declaration = (stamp _ s'.ms).map Metric.declaration
    rw [map_declaration_stamp, map_declaration_stamp]
    exact hlist
  · unfold birthsOfDevices
    rw [← hconfig]
    exact deviceBirths_alike s.engine.config.devices (s.nodeBirth source) (s'.nodeBirth source')
      ⟨hconfig, hnext⟩ h.2

/-- What rosters declare, after births that declare the same. -/
theorem declared_enrol_alike {births births' : List (DeviceId × Payload)}
    (h : List.Forall₂ SameDeviceBirth births births') :
    ∀ r r' : Roster, (∀ target, (r.declared target).map Metric.declaration =
        (r'.declared target).map Metric.declaration) →
      ∀ target, ((enrol r births).declared target).map Metric.declaration =
        ((enrol r' births').declared target).map Metric.declaration := by
  induction h with
  | nil => exact fun _ _ hr => hr
  | @cons birth birth' _ _ hfirst _ ih =>
    refine fun r r' hr => ih _ _ fun target => ?_
    cases target with
    | none => exact hr none
    | some d =>
      rw [Roster.declared, Roster.declared, Roster.device_bear, Roster.device_bear, hfirst.1]
      by_cases hd : d = birth'.1.str
      · rw [if_pos hd, if_pos hd]
        exact hfirst.2
      · rw [if_neg hd, if_neg hd]
        exact hr (some d)

/-- The registries of a host that has heard the births of a source: for the node, and for each
device. -/
def registries (s : Observed S) (source : DataSource) (target : Option String) : AliasRegistry :=
  registryOf ((s.birthRoster source).declared target)

theorem registries_alike {source source' : DataSource} {s s' : Observed S}
    (hconfig : s.engine.config = s'.engine.config)
    (h : source.Alike source' s.engine.config.devices) :
    registries s source = registries s' source' := by
  obtain ⟨hnode, hdevices⟩ := births_alike hconfig h
  refine funext fun target => registryOf_declaration
    (declared_enrol_alike hdevices _ _ (fun target => ?_) target)
  cases target with
  | none => exact hnode
  | some d => rfl

end Observed

/-! ## 3. What the edge writes -/

/-- The time stamp of a death fits into the `i64` of the event. -/
def Payload.Dated (p : Payload) : Prop := ∃ ts, p.timestamp = some ts ∧ ts.toNat < 2 ^ 63

/-- A birth that leaves the registries `R` behind, or a message that can be read with them. -/
def Remark.Sound (R : Option String → AliasRegistry) : Remark → Prop
  | .say (.nodeBirth p) => Deliverable p ∧ registryOf p.metrics = R none
  | .say (.deviceBirth device p) => Deliverable p ∧ registryOf p.metrics = R (some device.str)
  | .say (.nodeData p) => decode (encode p .data) (some (R none)) = .ok p
  | .say (.deviceData device p) =>
    decode (encode p .data) (some (R (some device.str))) = .ok p
  | .say (.deviceDeath _ p) | .leave p _ => decode (encode p .birth) none = .ok p ∧ p.Dated

/-- A remark with the names filled in. -/
def Remark.named (R : Option String → AliasRegistry) : Remark → Remark
  | .say (.nodeData p) =>
    .say (.nodeData { p with metrics := resolveNames (R none) p.metrics })
  | .say (.deviceData device p) =>
    .say (.deviceData device { p with metrics := resolveNames (R (some device.str)) p.metrics })
  | remark => remark

/-- A device that has died has left its birth. -/
theorem Roster.exists_of_bury {r : Roster} {device d : String} {b : Bool × List Metric}
    (h : (r.bury device).device d = some b) : ∃ b', r.device d = some b' ∧ b'.2 = b.2 := by
  rw [Roster.device_bury] at h
  by_cases hd : d = device
  · rw [if_pos hd] at h
    obtain ⟨b', hborn, rfl⟩ := Option.map_eq_some_iff.mp h
    exact ⟨b', hborn, rfl⟩
  · rw [if_neg hd] at h
    exact ⟨b, h, rfl⟩

namespace Told

variable {S : Type}

/-- The births that the roster tells of left the registries `R` behind. -/
structure Steadfast (R : Option String → AliasRegistry) (x : Told S) : Prop where
  node : x.edge.engine.state = .online → registryOf (x.roster.declared none) = R none
  device : ∀ d b, x.roster.device d = some b → registryOf b.2 = R (some d)

variable [BdSeqStore S] {R : Option String → AliasRegistry}

omit [BdSeqStore S] in
theorem steadfast_start (config : EdgeNodeConfig) (store : S) (clock : Clock) :
    (start config store clock).Steadfast R where
  node hon := absurd hon (by simp [start, Observed.start, EdgeNode.new])
  device d b hb := absurd hb (by simp [start, Roster.empty])

omit [BdSeqStore S] in
theorem Steadfast.of_state {x : Told S} (h : x.Steadfast R) {s' : Observed S}
    (hstate : s'.engine.state = .online → x.edge.engine.state = .online) :
    Steadfast R ⟨s', x.roster⟩ :=
  ⟨fun hon => h.node (hstate hon), h.device⟩

omit [BdSeqStore S] in
/-- The roster of a birth sequence. -/
theorem steadfast_births {s₀ s' : Observed S} {source : DataSource}
    (hregistries : Observed.registries s₀ source = R) :
    Steadfast R ⟨s', s₀.birthRoster source⟩ where
  node _ := congrFun hregistries none
  device d b hb := by
    rw [← congrFun hregistries (some d), Observed.registries, Roster.declared, hb]
    rfl

/-- **One call** of an edge whose births leave the same registries behind (`hregistries`): what it
says can be read with them, and means the same as with the roster. -/
theorem sound_act {x : Told S} (h : x.Settled) (hsteadfast : x.Steadfast R) {a : Action}
    (hplays : ∀ source, a.source? = some source → source.Plays x.edge.engine.config.devices)
    (hregistries : ∀ source, a.source? = some source → ∀ s₀ : Observed S,
      s₀.engine.config = x.edge.engine.config → Observed.registries s₀ source = R)
    (hproper : x.Proper a)
    (hsize : ∀ u ∈ x.edge.remarks x.edge.engine.toDataMetrics a, u.bytes.length < 2 ^ 63) :
    (∀ u ∈ x.edge.remarks x.edge.engine.toDataMetrics a,
        u.Sound R ∧ u.named R = x.roster.makesOf u) ∧
      (x.act a).Steadfast R := by
  have hread := h.readable hproper hsize
  have hstamped := hproper.orderly.stamped
  obtain ⟨-, -, hsession, hsaved, hdated⟩ := hproper
  have hsays := x.edge.perform_remarks x.edge.engine.toDataMetrics a
  unfold act
  generalize x.edge.remarks x.edge.engine.toDataMetrics a = us at *
  generalize x.edge.perform a = s' at *
  cases hsays with
  | silent same bdSeq =>
    exact ⟨by simp, hsteadfast.of_state fun hon => (congrArg Standing.state same).symm.trans hon⟩
  | unopened fails same =>
    exact ⟨by simp, hsteadfast.of_state fun hon => (congrArg Standing.state same).symm.trans hon⟩
  | awaits waits =>
    have hstate : s'.engine.state = .waitingForPrimaryHost := congrArg Standing.state waits
    exact ⟨by simp, hsteadfast.of_state fun hon => absurd (hstate.symm.trans hon) (by simp)⟩
  | births asks before after bdSeq =>
    rename_i source s₀
    have hsame : s₀.engine.config = x.edge.engine.config := congrArg Standing.config before
    have hsource := hplays source asks
    have hR := hregistries source asks s₀ hsame
    rw [← hsame] at hsource
    have hfits := s₀.birthFits_of_plays hsource hsize
    rw [s₀.note_births source x.roster]
    refine ⟨fun u hu => ?_, steadfast_births hR⟩
    obtain ⟨v, hv, rfl⟩ := List.mem_map.mp hu
    rcases List.mem_cons.mp hv with rfl | hv
    · have hnode : (s₀.birthRoster source).declared none = (s₀.nodeBirthPayload source).metrics :=
        (Observed.bdSeq_enrol _ _).2
      refine ⟨⟨s₀.deliverable_nodeBirth hfits, ?_⟩, rfl⟩
      rw [← congrFun hR none, Observed.registries, hnode]
    · obtain ⟨birth, hbirth, rfl⟩ := List.mem_map.mp hv
      refine ⟨⟨s₀.deliverable_deviceBirth hfits hbirth, ?_⟩, rfl⟩
      rw [← congrFun hR (some birth.1.str), Observed.registries,
        Observed.declared_of_birth (hsame ▸ h.tracked.devices) hbirth]
  | nodeData on =>
    have hnode := hsteadfast.node on
    refine ⟨fun u hu => ?_, hsteadfast.of_state fun hon => hon⟩
    have hreadable := hread _ List.mem_cons_self
    obtain rfl := List.mem_singleton.mp hu
    refine ⟨?_, ?_⟩
    · show decode _ (some (R none)) = .ok _
      rw [← hnode]
      exact hreadable
    · exact congrArg (fun reg => Remark.say (.nodeData { x.edge.engine.sequenced _ x.edge.ms with
        metrics := resolveNames reg _ })) hnode.symm
  | deviceData born =>
    rename_i device metrics
    obtain ⟨declared, halive⟩ := h.tracked.tracks.alive device.str born
    have hdevice : registryOf (x.roster.declared (some device.str)) = R (some device.str) := by
      rw [Roster.declared, halive]
      exact hsteadfast.device device.str _ halive
    refine ⟨fun u hu => ?_, hsteadfast.of_state fun hon => hon⟩
    have hreadable := hread _ List.mem_cons_self
    obtain rfl := List.mem_singleton.mp hu
    refine ⟨?_, ?_⟩
    · show decode _ (some (R (some device.str))) = .ok _
      rw [← hdevice]
      exact hreadable
    · exact congrArg (fun reg => Remark.say (.deviceData device
        { x.edge.engine.sequenced _ x.edge.ms with metrics := resolveNames reg _ })) hdevice.symm
  | deviceDeath born =>
    rename_i device
    refine ⟨fun u hu => ?_, ⟨fun hon => ?_, fun d b hb => ?_⟩⟩
    · have hlen := hsize _ hu
      obtain rfl := List.mem_singleton.mp hu
      exact ⟨⟨decode_bare x.edge hlen, _, rfl, hstamped device.str rfl⟩, rfl⟩
    · exact (congrArg registryOf (x.roster.declared_bury device.str none)).trans
        (hsteadfast.node hon)
    · obtain ⟨b', hborn, hmetrics⟩ := Roster.exists_of_bury hb
      rw [← hmetrics]
      exact hsteadfast.device d b' hborn
  | leaves before time bdSeq on after =>
    rename_i s₀
    have hstate : s'.engine.state = .disconnected := congrArg Standing.state after
    refine ⟨fun u hu => ?_, hsteadfast.of_state fun hon => absurd (hstate.symm.trans hon) (by simp)⟩
    have hlen := hsize _ hu
    obtain rfl := List.mem_singleton.mp hu
    refine ⟨⟨decode_leaving s₀ hlen, s₀.ms, rfl, ?_⟩, rfl⟩
    rw [time]
    exact hdated _ _ List.mem_cons_self

/-- A run of such calls. -/
theorem sound_acts {config : EdgeNodeConfig} :
    ∀ (actions : List Action) (x : Told S), x.Settled → x.Steadfast R →
      x.edge.engine.config = config → Always Told.act (Playable config) x actions →
      (∀ a ∈ actions, ∀ source, a.source? = some source → ∀ s₀ : Observed S,
        s₀.engine.config = config → Observed.registries s₀ source = R) →
      (∀ u ∈ x.edge.words actions, u.Sound R) ∧
        (x.edge.words actions).map (Remark.named R) = x.hears actions := by
  intro actions
  induction actions with
  | nil => exact fun x _ _ _ _ _ => ⟨by simp [Observed.words], rfl⟩
  | cons a rest ih =>
    rintro x h hsteadfast rfl ⟨⟨hplays, hproper, hsize⟩, hrest⟩ hregistries
    obtain ⟨hfirst, hmore⟩ := List.forall_mem_cons.mp hregistries
    obtain ⟨hsound, hnext⟩ := sound_act h hsteadfast hplays hfirst hproper hsize
    obtain ⟨hlast, hnamed⟩ := ih (x.act a) (conveys_act (T := Recorder) h hplays hproper hsize).2
      hnext (x.edge.config_perform_all a) hrest hmore
    rw [Observed.words, hears, List.map_append]
    refine ⟨fun u hu => (List.mem_append.mp hu).elim (fun hu => (hsound u hu).1) (hlast u), ?_⟩
    exact congrArg₂ (· ++ ·) (List.map_congr_left fun u hu => (hsound u hu).2) hnamed

end Told

/-! ## 4. What the host reads it with -/

/-- Within a session, the record has the registries `R`, for the node and for every device that
lives.  It may have missed devices, and be behind by any number of messages. -/
structure NodeState.Knows (R : Option String → AliasRegistry) (node : NodeState) : Prop where
  aliases : node.online = true → node.aliases = R none
  device : node.online = true → ∀ (d : String) state, node.devices[d]? = some state →
    state.online = true → state.aliases = R (some d)

/-- A death without the devices that a host held alive. -/
def HostEvent.unlisted : HostEvent → HostEvent
  | .nodeDeath group edge timestamp _ => .nodeDeath group edge timestamp []
  | event => event

/-- An event without aliases, and without the devices that a host held alive, which depend on the
messages that were lost. -/
def HostEvent.gist (event : HostEvent) : HostEvent := event.unaliased.unlisted

/-- The application is told something of an edge: the event is neither a request for a rebirth nor
`Ignored`. -/
def HostEvent.surfaces : HostEvent → Bool
  | .rebirthRequested _ _ | .ignored => false
  | _ => true

section Host

variable {R : Option String → AliasRegistry} {node : NodeState}

theorem NodeState.knows_offline (h : node.online = false) : node.Knows R where
  aliases hon := absurd (h.symm.trans hon) (by simp)
  device hon := absurd (h.symm.trans hon) (by simp)

theorem NodeState.Knows.of_session {after : NodeState} (hsame : node.session = after.session)
    (h : after.Knows R) : node.Knows R where
  aliases hon := (congrArg NodeState.aliases hsame).trans
    (h.aliases ((congrArg NodeState.online hsame).symm.trans hon))
  device hon d state hd := h.device ((congrArg NodeState.online hsame).symm.trans hon) d state
    ((congrArg (fun node : NodeState => node.devices[d]?) hsame).symm.trans hd)

/-- After an NBIRTH. -/
theorem NodeState.knows_birth {p : Payload} (h : registryOf p.metrics = R none) :
    (node.birth p).2.Knows R where
  aliases _ := h
  device _ d state hd := absurd (Std.ExtTreeMap.getElem?_empty.symm.trans hd) (by simp)

/-- After a message of a device. -/
theorem NodeState.Knows.putDevice (h : node.Knows R) (device : DeviceId) {state : DeviceState}
    (hstate : state.online = true → state.aliases = R (some device.str)) :
    (node.advance.putDevice device state).Knows R where
  aliases hon := h.aliases hon
  device hon d state' hd halive := by
    rw [getElem?_putDevice] at hd
    by_cases hsame : d = device.str
    · rw [if_pos hsame] at hd
      obtain rfl := Option.some.inj hd
      rw [hsame]
      exact hstate halive
    · rw [if_neg hsame] at hd
      exact h.device hon d state' hd halive

/-- A device that has died is not read any more. -/
theorem NodeState.Knows.deviceDeath (h : node.Knows R) (device : DeviceId) (p : Payload) :
    (node.accepted p (.deviceDeath device)).Knows R := by
  rw [accepted]
  split
  · exact h.putDevice device fun halive => absurd halive (by simp)
  · exact ⟨h.aliases, h.device⟩

variable {now : Reading} {group : GroupId} {edge : EdgeNodeId} {bytes : Bytes} {verdict : Verdict}
  {after : NodeState}

/-- A sequenced message that can be read whenever it is listened to. -/
theorem Turn.of_sequenced {m : NodeMessage} {p : Payload}
    (h : Turn now group edge node bytes m verdict after) (seq : m.isSequenced = true)
    (hread : node.listens m = true → node.reads m bytes = .ok p) :
    (after = node ∨ after = node.offline) ∧ verdict = .rebirth ∨
      node.listens m = true ∧ after = node.accepted p m ∧
        verdict = (node.decision now group edge p m).verdict := by
  by_cases hon : node.listens m = true
  · rcases h.of_read seq hon (hread hon) with ⟨-, rfl, rfl⟩ | ⟨-, rfl, rfl⟩
    · exact .inr ⟨hon, rfl, rfl⟩
    · exact .inl ⟨.inr rfl, rfl⟩
  · cases h with
    | deaf _ _ => exact .inl ⟨.inl rfl, rfl⟩
    | unreadable _ _ on _ => exact absurd on hon
    | malformed _ on _ => exact absurd on hon
    | gap _ on _ _ => exact absurd on hon
    | accept _ on _ _ => exact absurd on hon
    | _ => exact absurd seq (by decide)

/-- An NDEATH, whatever it says. -/
theorem Turn.knows_death (h : Turn now group edge node bytes .death verdict after)
    (hknows : node.Knows R) : after.Knows R := by
  cases h with
  | death _ _ _ _ => exact NodeState.knows_offline rfl
  | deaf seq _ => exact absurd seq (by decide)
  | unreadable seq _ _ _ => exact absurd seq (by decide)
  | malformed data _ _ => exact absurd data (by decide)
  | gap seq _ _ _ => exact absurd seq (by decide)
  | accept seq _ _ _ => exact absurd seq (by decide)
  | _ => exact hknows

theorem deathTimestamp_dated (now : Reading) {p : Payload} (hdated : p.Dated) :
    deathTimestamp now p = (p.timestamp.getD 0).toInt64 := by
  obtain ⟨ts, hts, hfits⟩ := hdated
  rw [deathTimestamp, hts, Option.bind_some, toInt64?, if_pos hfits]
  rfl

/-- The registry that the data of a device is read with. -/
theorem NodeState.Knows.listening (h : node.Knows R) {device : DeviceId}
    (hlistens : node.listens (.deviceData device) = true) :
    ((node.devices[device.str]?).getD .default).aliases = R (some device.str) := by
  have hboth : node.online = true ∧ node.deviceOnline device = true :=
    Bool.and_eq_true _ _ ▸ hlistens
  obtain ⟨state, hd, halive⟩ := (Option.any_eq_true _ _).mp hboth.2
  rw [hd]
  exact h.device hboth.1 device.str state hd halive

/-- A message that is refused leaves the registries, and surfaces nothing. -/
theorem NodeState.Knows.refused (hknows : node.Knows R) {after : NodeState} {verdict : Verdict}
    (hrefused : (after = node ∨ after = node.offline) ∧ verdict = .rebirth) (e : HostEvent) :
    after.Knows R ∧ ∀ event, verdict = .event event → event.gist = e.gist := by
  obtain ⟨hafter, rfl⟩ := hrefused
  refine ⟨?_, fun event heq => absurd heq (by simp)⟩
  rcases hafter with rfl | rfl
  · exact hknows
  · exact NodeState.knows_offline rfl

/-- **One message.**  The record keeps its registries, and an event that is surfaced is the one the
remark stands for. -/
theorem Turn.knows {u : Remark} (hsound : u.Sound R) (hknows : node.Knows R)
    (h : Turn now group edge node u.bytes u.kind verdict after) :
    after.Knows R ∧ ∀ event, verdict = .event event →
      event.gist = ((u.named R).event group edge).gist := by
  cases u with
  | say u =>
    cases u with
    | nodeBirth p =>
      obtain ⟨hdeliverable, hregistry⟩ := hsound
      obtain ⟨rfl, rfl⟩ := h.of_birth hdeliverable.decode
      refine ⟨NodeState.knows_birth hregistry, fun event heq => ?_⟩
      split at heq
      · exact absurd heq (by simp)
      · obtain rfl := Verdict.event.inj heq
        rfl
    | nodeData p =>
      have hread : node.online = true → decode (encode p .data) (some node.aliases) = .ok p := by
        intro hon
        rw [hknows.aliases hon]
        exact hsound
      rcases h.of_sequenced (p := p) rfl hread with hother | ⟨hon, rfl, rfl⟩
      · exact hknows.refused hother _
      · refine ⟨⟨hknows.aliases, hknows.device⟩, fun event heq => ?_⟩
        obtain rfl := Verdict.event.inj heq
        rw [hknows.aliases hon]
        rfl
    | deviceBirth device p =>
      obtain ⟨hdeliverable, hregistry⟩ := hsound
      rcases h.of_sequenced (p := p) rfl fun _ => hdeliverable.decode with hother | ⟨-, rfl, rfl⟩
      · exact hknows.refused hother _
      · refine ⟨hknows.putDevice device fun _ => hregistry, fun event heq => ?_⟩
        have hdecision : (if (AliasRegistry.new.bindAll p.metrics).2 = true then Step.rebirth
            else .event (.deviceBirth group.str edge.str device.str p.metrics)).verdict =
              .event event := heq
        split at hdecision
        · exact absurd hdecision (by simp [Step.verdict])
        · obtain rfl := Verdict.event.inj hdecision
          rfl
    | deviceData device p =>
      have hread : node.listens (.deviceData device) = true → decode (encode p .data)
          (some ((node.devices[device.str]?).getD .default).aliases) = .ok p := by
        intro hlistens
        rw [hknows.listening hlistens]
        exact hsound
      rcases h.of_sequenced (p := p) rfl hread with hother | ⟨hlistens, rfl, rfl⟩
      · exact hknows.refused hother _
      · refine ⟨⟨hknows.aliases, hknows.device⟩, fun event heq => ?_⟩
        obtain rfl := Verdict.event.inj heq
        rw [hknows.listening hlistens]
        rfl
    | deviceDeath device p =>
      obtain ⟨hread, hdated⟩ := hsound
      rcases h.of_sequenced (p := p) rfl fun _ => hread with hother | ⟨-, rfl, rfl⟩
      · exact hknows.refused hother _
      · refine ⟨hknows.deviceDeath device p, fun event heq => ?_⟩
        obtain rfl := Verdict.event.inj heq
        rw [deathTimestamp_dated now hdated]
        rfl
  | leave p born =>
    obtain ⟨hread, hdated⟩ := hsound
    refine ⟨h.knows_death hknows, fun event heq => ?_⟩
    rcases h.of_death hread with ⟨-, -, rfl⟩ | ⟨-, -, rfl⟩
    · obtain rfl := Verdict.event.inj heq
      rw [deathTimestamp_dated now hdated]
      rfl
    · exact absurd heq (by simp)

end Host

/-! ## 5. Whatever the network does -/

namespace HostApplication

variable {T : Type} [MqttTransport T] {group : GroupId} {edge : EdgeNodeId}
  {R : Option String → AliasRegistry}

/-- The message is one of these, or an NDEATH of the node, which the broker may send as a will. -/
def Echoes (group : GroupId) (edge : EdgeNodeId) (said : List Remark) (message : IncomingMessage) :
    Prop :=
  (∃ u ∈ said, message = (u.message group edge).delivered) ∨
    NodeMessage.of message = some (group, edge, .death)

theorem bytes_message (u : Remark) : (u.message group edge).delivered.payload = u.bytes := by
  cases u <;> rfl

/-- What a host returns for a remark. -/
theorem outcome_gist (host : HostApplication T) {input : Reading × IncomingMessage}
    (hknows : (host.node (key group edge)).Knows R) {u : Remark} (hsound : u.Sound R)
    (heq : input.2 = (u.message group edge).delivered) :
    ((host.next input).node (key group edge)).Knows R ∧
      ∀ event, host.outcome input = .ok event → event.surfaces = true →
        event.gist = ((u.named R).event group edge).gist := by
  have hof : NodeMessage.of input.2 = some (group, edge, u.kind) := heq ▸ u.of_message group edge
  obtain ⟨verdict, after, ht, hreal⟩ := handleIncoming_turn input.1 host hof
  rw [heq, bytes_message] at ht
  obtain ⟨hafter, hevent⟩ := ht.knows hsound hknows
  refine ⟨hafter.of_session hreal.session, fun event hok hsurfaces => ?_⟩
  have hshows : verdict.Shows group edge (.ok event) := by
    have hout := hreal.shows
    rw [show EStateM.Result.outcome _ = _ from hok] at hout
    exact hout
  cases verdict with
  | event e =>
    obtain rfl := Except.ok.inj hshows
    exact hevent event rfl
  | rebirth =>
    rcases hshows with h | h | ⟨e, h⟩
    · obtain rfl := Except.ok.inj h
      exact absurd hsurfaces (by simp [HostEvent.surfaces])
    · obtain rfl := Except.ok.inj h
      exact absurd hsurfaces (by simp [HostEvent.surfaces])
    · exact absurd h (by simp)
  | ignored =>
    obtain rfl := Except.ok.inj hshows
    exact absurd hsurfaces (by simp [HostEvent.surfaces])
  | failed e => exact absurd hshows (by simp [Verdict.Shows])

/-- Whatever is handled, the record keeps its registries. -/
theorem knows_next (host : HostApplication T) {said : List Remark} (hsound : ∀ u ∈ said, u.Sound R)
    (hknows : (host.node (key group edge)).Knows R) {input : Reading × IncomingMessage}
    (hecho : concerns group edge input = true → Echoes group edge said input.2) :
    ((host.next input).node (key group edge)).Knows R := by
  by_cases hmine : concerns group edge input = true
  · rcases hecho hmine with ⟨u, hu, heq⟩ | hdeath
    · exact (outcome_gist host hknows (hsound u hu) heq).1
    · obtain ⟨verdict, after, ht, hreal⟩ := handleIncoming_turn input.1 host hdeath
      exact (ht.knows_death hknows).of_session hreal.session
  · have hother : ∀ m, NodeMessage.of input.2 ≠ some (group, edge, m) := fun m hof =>
      hmine (concerns_iff.mpr ⟨m, hof⟩)
    have hsame : SameAt (key group edge) host (host.next input) :=
      handleIncoming_moves input.1 hother host
    rw [← hsame.node]
    exact hknows

/-- **A run.**  Whatever the host hears of the node is one of the remarks, in any order and any
number, or an NDEATH: each event it surfaces for a remark is the one the remark stands for. -/
theorem results_gist {said : List Remark} (hsound : ∀ u ∈ said, u.Sound R) :
    ∀ (inputs : List (Reading × IncomingMessage)) (host : HostApplication T),
      (host.node (key group edge)).Knows R →
      (∀ input ∈ inputs, concerns group edge input = true → Echoes group edge said input.2) →
      ∀ r ∈ results host inputs, ∀ u ∈ said, r.1.2 = (u.message group edge).delivered →
        ∀ event, r.2 = .ok event → event.surfaces = true →
          event.gist = ((u.named R).event group edge).gist := by
  intro inputs
  induction inputs with
  | nil => exact fun _ _ _ r hr => absurd hr List.not_mem_nil
  | cons input rest ih =>
    intro host hknows hechoes r hr u hu heq
    obtain ⟨hfirst, hrest⟩ := List.forall_mem_cons.mp hechoes
    rcases List.mem_cons.mp hr with rfl | hr
    · exact (outcome_gist host hknows (hsound u hu) heq).2
    · exact ih (host.next input) (knows_next host hsound hknows hfirst) hrest r hr u hu heq

/-- What an edge says whose births always declare the same. -/
theorem sound_words {S : Type} [BdSeqStore S] {config : EdgeNodeConfig} {store : S} {clock : Clock}
    {actions : List Action} {declared : DataSource} (hdevices : config.devices.Nodup)
    (hplays : ∀ a ∈ actions, ∀ source, a.source? = some source →
      source.Plays config.devices ∧ source.Alike declared config.devices)
    (hproper : Always Told.act Told.Proper (.start config store clock) actions)
    (hsized : Sized (journal config store clock actions)) :
    ∃ R, (∀ u ∈ (Observed.start config store clock).words actions, u.Sound R) ∧
      (((Observed.start config store clock).words actions).map (Remark.named R)).map
          Remark.unaliased =
        ((Observed.start config store clock).account actions).map Remark.unaliased := by
  have hcalls := Told.playable_of_journal (fun a ha source h => (hplays a ha source h).1) hproper
    hsized
  have hsettled := Told.settled_start hdevices store clock
  obtain ⟨-, hmeant⟩ := Told.conveys_acts (T := Recorder) actions _ hsettled rfl hcalls
  -- every birth of the run leaves the registries of this one behind
  obtain ⟨hsound, hnamed⟩ := Told.sound_acts
    (R := Observed.registries (.start config store clock) declared) actions _ hsettled
    (Told.steadfast_start config store clock) rfl hcalls fun a ha source h s₀ hconfig =>
      Observed.registries_alike hconfig (hconfig ▸ (hplays a ha source h).2)
  exact ⟨_, hsound, hnamed ▸ hmeant⟩

theorem map_gist_of_unaliased (group : GroupId) (edge : EdgeNodeId) {us us' : List Remark}
    (h : us.map Remark.unaliased = us'.map Remark.unaliased) :
    (us.map (Remark.event group edge)).map HostEvent.gist =
      (us'.map (Remark.event group edge)).map HostEvent.gist := by
  have hgist : ∀ us : List Remark, (us.map (Remark.event group edge)).map HostEvent.gist =
      ((us.map Remark.unaliased).map (Remark.event group edge)).map HostEvent.unlisted := by
    intro us
    rw [← Remark.map_event_unaliased]
    exact List.map_map.symm
  rw [hgist, hgist, h]

/-- **Only what was said.**  An edge whose births always declare the same, in the same order
(`hplays`), and a host that knows nothing of it (`hfresh`): the network may lose its messages,
deliver them late, again or in any order, and deliver NDEATHs that it never published (`hheard`).
Whatever the host surfaces for a message is what the call meant that published it, up to aliases and
to the devices it holds alive.  Were the births to differ, an alias could mean one name to the edge
and another to the host. -/
theorem only_what_was_said {S : Type} [BdSeqStore S] (host : HostApplication T)
    (config : EdgeNodeConfig) (store : S) (clock : Clock) (actions : List Action)
    (declared : DataSource) (inputs : List (Reading × IncomingMessage))
    (hdevices : config.devices.Nodup)
    (hplays : ∀ a ∈ actions, ∀ source, a.source? = some source →
      source.Plays config.devices ∧ source.Alike declared config.devices)
    (hproper : Always Told.act Told.Proper (.start config store clock) actions)
    (hsized : Sized (journal config store clock actions))
    (hfresh : (host.node (key config.group config.edge)).online = false)
    (hheard : ∀ input ∈ inputs, concerns config.group config.edge input = true →
      input.2 ∈ (published (journal config store clock actions)).map OutboundMessage.delivered ∨
        NodeMessage.of input.2 = some (config.group, config.edge, .death)) :
    ∀ r ∈ results host inputs,
      ∀ said ∈ ((Observed.start config store clock).words actions).zip
          ((Observed.start config store clock).account actions),
        r.1.2 = (said.1.message config.group config.edge).delivered →
        ∀ event, r.2 = .ok event → event.surfaces = true →
          event.gist = (said.2.event config.group config.edge).gist := by
  obtain ⟨R, hsound, hmeant⟩ := sound_words hdevices hplays hproper hsized
  have hpairs : List.Forall₂ (fun u meant : Remark =>
      ((u.named R).event config.group config.edge).gist =
        (meant.event config.group config.edge).gist)
      ((Observed.start config store clock).words actions)
      ((Observed.start config store clock).account actions) := by
    have heq := List.forall₂_eq_eq_eq ▸
      map_gist_of_unaliased config.group config.edge hmeant
    simpa only [List.forall₂_map_left_iff, List.forall₂_map_right_iff] using heq
  have hechoes : ∀ input ∈ inputs, concerns config.group config.edge input = true →
      Echoes config.group config.edge ((Observed.start config store clock).words actions)
        input.2 := by
    intro input hinput hmine
    refine (hheard input hinput hmine).imp_left fun hmem => ?_
    rw [Observed.published_words, List.map_map] at hmem
    obtain ⟨u, hu, heq⟩ := List.mem_map.mp hmem
    exact ⟨u, hu, heq.symm⟩
  rintro r hr ⟨u, meant⟩ hsaid heq event hok hsurfaces
  have hgist := results_gist hsound inputs host (NodeState.knows_offline hfresh) hechoes r hr u
    (List.of_mem_zip hsaid).1 heq event hok hsurfaces
  exact hgist.trans (List.forall₂_zip hpairs hsaid)

/-- The line declares the same whenever it is born. -/
theorem plays_day : ∀ a ∈ day, ∀ source, a.source? = some source →
    source.Plays dayLine.devices ∧ source.Alike metered dayLine.devices := by
  have hplays : metered.Plays dayLine.devices ∧ metered.Alike metered dayLine.devices := by decide
  simpa [day, Action.source?] using hplays

/-- Everything that the line published in a day is delivered, and then once more. -/
def dayTwice : List (Reading × IncomingMessage) := dayHeard ++ dayHeard

theorem only_what_was_said_day :
    (startedHost.node (key dayLine.group dayLine.edge)).online = false ∧
      ∀ r ∈ results startedHost dayTwice,
        ∀ said ∈ ((Observed.start dayLine (⟨0⟩ : InMemoryBdSeqStore) stopped).words day).zip
            ((Observed.start dayLine (⟨0⟩ : InMemoryBdSeqStore) stopped).account day),
          r.1.2 = (said.1.message dayLine.group dayLine.edge).delivered →
          ∀ event, r.2 = .ok event → event.surfaces = true →
            event.gist = (said.2.event dayLine.group dayLine.edge).gist := by
  have hfresh : (startedHost.node (key dayLine.group dayLine.edge)).online = false := by
    decide +kernel
  refine ⟨hfresh, only_what_was_said startedHost dayLine (⟨0⟩ : InMemoryBdSeqStore) stopped day
    metered dayTwice (by decide) plays_day proper_day (by decide +kernel) hfresh ?_⟩
  intro input hinput hmine
  have hday : input ∈ dayHeard := (List.mem_append.mp hinput).elim id id
  rcases List.mem_cons.mp hday with rfl | hpublished
  · exact absurd hmine (by decide +kernel)
  · obtain ⟨message, hmessage, rfl⟩ := List.mem_map.mp hpublished
    exact .inl (List.mem_map_of_mem hmessage)

/-! ## 6. In order -/

/-- What the application is told of the edges, in order: no errors, requests or ignored messages. -/
def surfaced (outcomes : List (Result HostEvent)) : List HostEvent :=
  (outcomes.filterMap Except.toOption).filter HostEvent.surfaces

theorem map_fst_results (host : HostApplication T) (inputs : List (Reading × IncomingMessage)) :
    (results host inputs).map Prod.fst = inputs := by
  induction inputs generalizing host with
  | nil => rfl
  | cons input rest ih => exact congrArg (input :: ·) (ih (host.next input))

/-- Outcomes, one for each remark. -/
theorem surfaced_sublist {group : GroupId} {edge : EdgeNodeId} {outcomes : List (Result HostEvent)}
    {meant : List Remark}
    (h : List.Forall₂ (fun outcome u => ∀ event, outcome = .ok event → event.surfaces = true →
      event.gist = (u.event group edge).gist) outcomes meant) :
    ((surfaced outcomes).map HostEvent.gist).Sublist
      ((meant.map (Remark.event group edge)).map HostEvent.gist) := by
  induction h with
  | nil => exact .slnil
  | @cons outcome u _ _ hfirst _ ih =>
    unfold surfaced at ih ⊢
    cases outcome with
    | error e => exact ih.cons _
    | ok event =>
      show ((List.filter HostEvent.surfaces (event :: _)).map _).Sublist _
      by_cases hsurfaces : event.surfaces = true
      · rw [List.filter_cons_of_pos hsurfaces, List.map_cons, hfirst event rfl hsurfaces]
        exact ih.cons_cons _
      · rw [List.filter_cons_of_neg hsurfaces]
        exact ih.cons _

/-- **In the order said.**  If the network loses messages of such an edge, but delivers none of them
twice or out of order (`hheard`), then what the host surfaces is what the calls meant, in order and
with nothing but what was lost or refused left out. -/
theorem in_the_order_said {S : Type} [BdSeqStore S] (host : HostApplication T)
    (config : EdgeNodeConfig) (store : S) (clock : Clock) (actions : List Action)
    (declared : DataSource) (inputs : List (Reading × IncomingMessage))
    (hdevices : config.devices.Nodup)
    (hplays : ∀ a ∈ actions, ∀ source, a.source? = some source →
      source.Plays config.devices ∧ source.Alike declared config.devices)
    (hproper : Always Told.act Told.Proper (.start config store clock) actions)
    (hsized : Sized (journal config store clock actions))
    (hfresh : (host.node (key config.group config.edge)).online = false)
    (hheard : ((inputs.filter (concerns config.group config.edge)).map Prod.snd).Sublist
      ((published (journal config store clock actions)).map OutboundMessage.delivered)) :
    ((surfaced (host.outcomesOf config.group config.edge inputs)).map HostEvent.gist).Sublist
      ((((Observed.start config store clock).account actions).map
        (Remark.event config.group config.edge)).map HostEvent.gist) := by
  have hmine : ((results host inputs).filter fun r =>
      concerns config.group config.edge r.1).map Prod.fst =
        inputs.filter (concerns config.group config.edge) := by
    have hall := map_fst_results host inputs
    conv_rhs => rw [← hall, List.filter_map]
    rfl
  obtain ⟨R, hsound, hmeant⟩ := sound_words hdevices hplays hproper hsized
  rw [← hmine, Observed.published_words, List.map_map, List.map_map] at hheard
  obtain ⟨heard, hsublist, hmessages⟩ := List.sublist_map_iff.mp hheard
  have hechoes : ∀ input ∈ inputs, concerns config.group config.edge input = true →
      Echoes config.group config.edge ((Observed.start config store clock).words actions)
        input.2 := by
    intro input hinput hof
    have hmem : input.2 ∈ heard.map
        (OutboundMessage.delivered ∘ Remark.message config.group config.edge) := by
      rw [← hmessages, ← List.map_map, hmine]
      exact List.mem_map_of_mem (List.mem_filter.mpr ⟨hinput, hof⟩)
    obtain ⟨u, hu, heq⟩ := List.mem_map.mp hmem
    exact .inl ⟨u, hsublist.subset hu, heq.symm⟩
  -- the host surfaces a remark as it is named, or not at all
  have hpairs : List.Forall₂ (fun outcome u => ∀ event, outcome = .ok event →
      event.surfaces = true → event.gist = (u.event config.group config.edge).gist)
      (host.outcomesOf config.group config.edge inputs) (heard.map (Remark.named R)) := by
    have hsame : List.Forall₂
        (fun (r : (Reading × IncomingMessage) × Result HostEvent) (u : Remark) =>
          r.1.2 = (u.message config.group config.edge).delivered) _ heard :=
      List.forall₂_map_left_iff.mp (List.forall₂_map_right_iff.mp
        (List.forall₂_eq_eq_eq ▸ hmessages))
    obtain ⟨hlength, hzip⟩ := List.forall₂_iff_zip.mp hsame
    rw [outcomesOf, List.forall₂_map_left_iff, List.forall₂_map_right_iff]
    refine List.forall₂_iff_zip.mpr ⟨hlength, fun {r u} hmem => ?_⟩
    obtain ⟨hr, hu⟩ := List.of_mem_zip hmem
    exact results_gist hsound inputs host (NodeState.knows_offline hfresh) hechoes r
      (List.mem_of_mem_filter hr) u (hsublist.subset hu) (hzip hmem)
  have hsaid := map_gist_of_unaliased config.group config.edge hmeant
  rw [← hsaid]
  exact (surfaced_sublist hpairs).trans (((hsublist.map _).map _).map _)

end HostApplication

end SparkplugB
