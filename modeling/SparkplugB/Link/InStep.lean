/-
# An edge and a host in step

`Told` is an edge with the roster of what it has said.  From the first birth on, a host that has
heard every message once and in order holds this roster and expects the number the edge uses next;
`conveys_call` says that a call keeps it so, and what the host returns for the messages of the call.
What is asked of the data is that a host which holds the roster can read it.
-/
import SparkplugB.Link.Calls

namespace SparkplugB

open AliasRegistry Codec HostApplication Machine

/-! ## 1. Births that say who is who -/

/-- Metrics that a birth can present: the codec can carry them, no two have the same name, and they
bring no aliases. -/
def Presentable (metrics : List Metric) : Prop :=
  Encodable metrics ∧ Unaliased metrics ∧ (namesOf metrics).Nodup

instance : DecidablePred Presentable := fun metrics =>
  inferInstanceAs (Decidable (Encodable metrics ∧ Unaliased metrics ∧ (namesOf metrics).Nodup))

/-- What the source supplies for the node, and for each device of the configuration, can be
presented.  Two births may use the same name. -/
def DataSource.Presents (source : DataSource) (devices : List DeviceId) : Prop :=
  Presentable source.nodeBirthMetrics ∧
    ∀ device ∈ devices, Presentable (source.deviceBirthMetrics device.str)

instance (source : DataSource) (devices : List DeviceId) : Decidable (source.Presents devices) :=
  inferInstanceAs (Decidable (Presentable source.nodeBirthMetrics ∧
    ∀ device ∈ devices, Presentable (source.deviceBirthMetrics device.str)))

/-- The control metrics take no name that the source uses. -/
theorem nodup_namesOf_controlled {metrics : List Metric} (h : (namesOf metrics).Nodup)
    (bdSeq : UInt8) : (namesOf (EdgeNode.controlled bdSeq metrics)).Nodup := by
  have hadd : ∀ (metrics : List Metric) (name : String) (value : MetricValue),
      (namesOf metrics).Nodup →
      (namesOf (if metrics.any (fun m => m.name = some name) then metrics
        else metrics ++ [Metric.new name value])).Nodup := by
    intro metrics name value h
    by_cases hany : metrics.any (fun m => m.name = some name) = true
    · rw [if_pos hany]
      exact h
    · rw [if_neg hany, namesOf, List.filterMap_append]
      refine h.append (List.nodup_singleton name) ?_
      intro n hn hname
      obtain rfl := List.mem_singleton.mp hname
      obtain ⟨m, hm, hmn⟩ := List.mem_filterMap.mp hn
      exact hany (List.any_eq_true.mpr ⟨m, hm, decide_eq_true hmn⟩)
  exact hadd _ _ _ (hadd _ _ _ h)

namespace Observed

variable {S : Type}

/-- The DBIRTHs of a sequence declare what the source supplies. -/
theorem dressed_deviceBirths (source : DataSource) :
    ∀ (devices : List DeviceId) (s : Observed S), ∀ birth ∈ deviceBirths source devices s,
      birth.1 ∈ devices ∧
        List.Forall₂ Dressed (source.deviceBirthMetrics birth.1.str) birth.2.metrics := by
  intro devices
  induction devices with
  | nil =>
    intro s birth hbirth
    exact absurd hbirth (by simp [deviceBirths])
  | cons device rest ih =>
    intro s birth hbirth
    rcases List.mem_cons.mp hbirth with rfl | hbirth
    · exact ⟨List.mem_cons_self, EdgeNode.dressed_sequenced s.engine _ s.ms⟩
    · obtain ⟨hdevice, hdressed⟩ := ih (s.deviceBirth source device) birth hbirth
      exact ⟨List.mem_cons_of_mem device hdevice, hdressed⟩

/-- What the roster of a birth sequence declares is one of its births, or nothing. -/
theorem declared_birthRoster (s : Observed S) (source : DataSource) (target : Option String) :
    (s.birthRoster source).declared target = [] ∨
      (s.birthRoster source).declared target = (s.nodeBirthPayload source).metrics ∨
      ∃ birth ∈ s.birthsOfDevices source,
        (s.birthRoster source).declared target = birth.2.metrics := by
  cases target with
  | none =>
    right
    left
    exact (bdSeq_enrol _ _).2
  | some device =>
    by_cases hborn : ∃ birth ∈ s.birthsOfDevices source, birth.1.str = device
    · obtain ⟨birth, hbirth, rfl⟩ := hborn
      have hdevice : birth.1 ∈ s.engine.config.devices :=
        (dressed_deviceBirths source s.engine.config.devices (s.nodeBirth source) birth hbirth).1
      obtain ⟨p, -, hmem, hroster⟩ := exists_last_deviceBirth s source hdevice
      refine .inr (.inr ⟨(birth.1, p), hmem, ?_⟩)
      rw [Roster.declared, hroster]
      rfl
    · left
      have hnone : (s.birthRoster source).device device = none :=
        device_enrol_other _ _ fun birth hbirth heq => hborn ⟨birth, hbirth, heq⟩
      rw [Roster.declared, hnone]
      rfl

end Observed

/-! ## 2. Edges and their rosters -/

/-- The roster is that of the edge: the devices that are born are alive on it, and every birth on it
resolves the names and the aliases it declares. -/
structure Tracks (e : Standing) (r : Roster) : Prop where
  distinct : e.born.Nodup
  alive : ∀ device ∈ e.born, ∃ metrics, r.device device = some (true, metrics)
  resolves : ∀ target, (registryOf (r.declared target)).Resolves (r.declared target)
  names : ∀ target, (namesOf (r.declared target)).Nodup

/-- A host that has heard the births holds the roster, and expects the next number; before any
birth, nothing is asked of it. -/
def Attuned (e : Standing) (r : Roster) (node : NodeState) : Prop :=
  e.state = .online ∨ e.born ≠ [] → node.Holds r e.seq.val

/-- Nothing has been said. -/
theorem tracks_empty {e : Standing} (hborn : e.born = []) : Tracks e .empty where
  distinct := by rw [hborn]; exact List.nodup_nil
  alive device hdevice := by
    rw [hborn] at hdevice
    exact absurd hdevice List.not_mem_nil
  resolves target := by
    cases target <;> exact resolves_registryOf (by simp [Roster.declared, Roster.empty, Clashes])
  names target := by cases target <;> exact List.nodup_nil

namespace Observed

variable {S : Type}

/-- The births of a source that presents itself, if none is too long. -/
theorem birthFits (s : Observed S) {source : DataSource}
    (hsource : source.Presents s.engine.config.devices)
    (hsize : ∀ message ∈ s.birthMessages source, message.payload.length < 2 ^ 63) :
    s.BirthFits source where
  node := ⟨hsource.1.1, hsource.1.2.1⟩
  device device hdevice := ⟨(hsource.2 device hdevice).1, (hsource.2 device hdevice).2.1⟩
  size := hsize

/-- After a birth sequence the roster is that of the edge. -/
theorem tracks_birth (s : Observed S) {source : DataSource}
    (hsource : source.Presents s.engine.config.devices) (hfits : s.BirthFits source)
    (hdevices : s.engine.config.devices.Nodup) :
    Tracks (s.birth source).standing (s.birthRoster source) := by
  have hborn : (s.birth source).standing.born = s.engine.config.devices.map Ident.str :=
    bornDevices_birth s source
  have hnode : (namesOf (s.nodeBirthPayload source).metrics).Nodup := by
    have hdressed := EdgeNode.dressed_sequenced s.engine.resetForBirth
      (EdgeNode.controlled s.engine.bdSeq source.nodeBirthMetrics) s.ms
    rw [nodeBirthPayload, namesOf_of_dressed hdressed]
    exact nodup_namesOf_controlled hsource.1.2.2 _
  have hdevice : ∀ birth ∈ s.birthsOfDevices source, (namesOf birth.2.metrics).Nodup := by
    intro birth hbirth
    obtain ⟨hmem, hdressed⟩ :=
      dressed_deviceBirths source s.engine.config.devices (s.nodeBirth source) birth hbirth
    rw [namesOf_of_dressed hdressed]
    exact (hsource.2 birth.1 hmem).2.2
  refine ⟨?_, ?_, fun target => resolves_registryOf ?_, ?_⟩
  · rw [hborn]
    exact hdevices.map fun _ _ => Ident.str_inj
  · intro device hmem
    rw [hborn] at hmem
    obtain ⟨id, hid, rfl⟩ := List.mem_map.mp hmem
    obtain ⟨p, -, -, hroster⟩ := exists_last_deviceBirth s source hid
    exact ⟨p.metrics, hroster⟩
  · rcases declared_birthRoster s source target with h | h | ⟨birth, hbirth, h⟩
    · rw [h]
      simp [Clashes]
    · rw [h]
      exact (deliverable_nodeBirth s hfits).unique
    · rw [h]
      exact (deliverable_deviceBirth s hfits hbirth).unique
  · intro target
    rcases declared_birthRoster s source target with h | h | ⟨birth, hbirth, h⟩
    · rw [h]
      exact List.nodup_nil
    · rw [h]
      exact hnode
    · rw [h]
      exact hdevice birth hbirth

end Observed

/-- Data changes neither the devices that are born nor the roster. -/
theorem Tracks.of_born {e e' : Standing} {r : Roster} (h : Tracks e r)
    (hborn : e'.born = e.born) : Tracks e' r where
  distinct := hborn ▸ h.distinct
  alive device hdevice := h.alive device (hborn ▸ hdevice)
  resolves := h.resolves
  names := h.names

/-- A DDEATH takes the device from both. -/
theorem Tracks.bury {e e' : Standing} {r : Roster} (h : Tracks e r) {device : String}
    (hborn : e'.born = e.born.erase device) : Tracks e' (r.bury device) where
  distinct := by
    rw [hborn]
    exact h.distinct.erase device
  alive d hd := by
    rw [hborn, h.distinct.mem_erase_iff] at hd
    obtain ⟨metrics, hmetrics⟩ := h.alive d hd.2
    refine ⟨metrics, ?_⟩
    rw [Roster.device_bury, if_neg hd.1]
    exact hmetrics
  resolves target := by
    rw [r.declared_bury]
    exact h.resolves target
  names target := by
    rw [r.declared_bury]
    exact h.names target

/-! ## 3. One call -/

/-- A host that holds the roster reads the data as it was written, by the registry of the birth of
its node or device. -/
def Readable (r : Roster) : Utterance → Prop
  | .nodeData p => decode (encode p .data) (some (registryOf (r.declared none))) = .ok p
  | .deviceData device p =>
    decode (encode p .data) (some (registryOf (r.declared (some device.str)))) = .ok p
  | _ => True

/-- An edge, and the roster of all it has said: what a host that has missed nothing would hold. -/
structure Told (S : Type) where
  edge : Observed S
  roster : Roster

namespace Told

variable {S : Type} [BdSeqStore S]

/-- After a call, with what it says added to the roster. -/
def call (x : Told S) (a : Action) : Told S :=
  ⟨x.edge.perform a, (x.edge.said a).foldl Roster.hear x.roster⟩

/-- What is asked of a call: it stays connected and brings nothing from the primary host, the births
can be presented, data can be read by those who hold the roster, and a DDEATH has a time that its
event has room for. -/
structure Sendable (x : Told S) (a : Action) : Prop where
  stays : a ≠ .disconnect
  unled : x.edge.engine.config.Unled a
  presents : ∀ source, a.source? = some source → source.Presents x.edge.engine.config.devices
  readable : ∀ u ∈ x.edge.said a, Readable x.roster u
  stamped : ∀ device, a = .publishDeviceDeath device → x.edge.ms.toNat < 2 ^ 63

/-- The devices of the edge are distinct, and the roster is its own.  Every call that can be sent
keeps this. -/
structure Tracked (x : Told S) : Prop where
  devices : x.edge.engine.config.devices.Nodup
  tracks : Tracks x.edge.standing x.roster

variable {T : Type} [MqttTransport T]

omit [BdSeqStore S] in
/-- The bare payload of a DDEATH is read as it was written. -/
theorem decode_bare (s : Observed S)
    (hsize : (encode (s.engine.sequenced [] s.ms) .birth).length < 2 ^ 63) :
    decode (encode (s.engine.sequenced [] s.ms) .birth) none = .ok (s.engine.sequenced [] s.ms) :=
  decode_birth (fun m hm => absurd hm (by simp [EdgeNode.sequenced, stamp])) (Nat.zero_le _) hsize
    none

/-- **One call.**  Whatever host holds the roster returns for each message of the call the event of
what it hears, and keeps in step with the edge. -/
theorem conveys_call {x : Told S} (h : x.Tracked) {a : Action} (hsend : x.Sendable a)
    (hsize : ∀ u ∈ x.edge.said a, u.bytes.length < 2 ^ 63) :
    Conveys T x.edge.engine.config.group x.edge.engine.config.edge
        (Attuned x.edge.standing x.roster)
        ((x.edge.said a).map
          (Utterance.message x.edge.engine.config.group x.edge.engine.config.edge))
        (((x.edge.said a).map x.roster.heard).map
          (Utterance.event x.edge.engine.config.group x.edge.engine.config.edge))
        (Attuned (x.call a).edge.standing (x.call a).roster) ∧
      (x.call a).Tracked := by
  obtain ⟨hstays, hunled, hpresents, hreadable, hstamped⟩ := hsend
  have hconfig := x.edge.config_perform hunled hstays
  have htells := Observed.perform_tells x.edge.engine.toDataMetrics x.edge hunled hstays
  unfold Observed.said at hreadable hsize ⊢
  have hkeep : Tracks (x.call a).edge.standing (x.call a).roster → (x.call a).Tracked := fun ht =>
    ⟨hconfig ▸ h.devices, ht⟩
  unfold call Observed.said at hkeep ⊢
  generalize x.edge.uttered x.edge.engine.toDataMetrics a = us at *
  generalize x.edge.perform a = s' at *
  cases htells with
  | silent same =>
    refine ⟨?_, hkeep (h.tracks.of_born (congrArg Standing.born same))⟩
    show Conveys T _ _ _ [] [] (Attuned s'.standing x.roster)
    rw [same]
    exact conveys_nil
  | awaits waits =>
    have hborn : s'.standing.born = x.edge.standing.born := by rw [waits]
    refine ⟨?_, hkeep (h.tracks.of_born hborn)⟩
    show Conveys T _ _ _ [] [] (Attuned s'.standing x.roster)
    rw [waits]
    -- an edge that waits is not online, but its devices may still be born
    refine conveys_nil.mono (fun _ h => h) fun node hnode hstarted => hnode ?_
    exact .inr (hstarted.resolve_left (by simp))
  | births asks before after =>
    rename_i source s₀
    have hsame : s₀.engine.config = x.edge.engine.config := congrArg Standing.config before
    have hsource := hpresents source asks
    rw [← hsame] at hsource ⊢
    rw [Observed.map_message_births, Observed.foldl_hear_births]
    have hfits : s₀.BirthFits source := s₀.birthFits hsource fun message hmessage => by
      rw [← Observed.map_message_births] at hmessage
      obtain ⟨u, hu, rfl⟩ := List.mem_map.mp hmessage
      exact hsize u hu
    rw [Observed.map_heard_births, Observed.map_event_births]
    have hafter : Tracks (s₀.birth source).standing (s₀.birthRoster source) :=
      s₀.tracks_birth hsource hfits (hsame ▸ h.devices)
    refine ⟨(Observed.conveys_birth s₀ hfits).mono (fun _ _ => trivial) fun node hholds _ => ?_, ?_⟩
    · have hseq : s'.standing.seq = (s₀.birth source).engine.seq := congrArg Standing.seq after
      rw [hseq]
      exact hholds
    · rw [Observed.foldl_hear_births] at hkeep
      exact hkeep (after ▸ hafter)
  | nodeData on =>
    refine ⟨?_, hkeep (h.tracks.of_born rfl)⟩
    have hread := hreadable _ List.mem_cons_self
    refine (conveys_nodeData rfl hread).mono (fun node hnode => hnode (.inl on))
      fun _ hholds _ => hholds
  | deviceData born =>
    rename_i device metrics
    refine ⟨?_, hkeep (h.tracks.of_born rfl)⟩
    have hread := hreadable _ List.mem_cons_self
    obtain ⟨declared, halive⟩ := h.tracks.alive device.str born
    refine (conveys_deviceData rfl halive hread).mono
      (fun node hnode => hnode (.inr (List.ne_nil_of_mem born))) fun _ hholds _ => hholds
  | deviceDeath born =>
    rename_i device
    refine ⟨?_, hkeep (h.tracks.bury rfl)⟩
    refine (conveys_deviceDeath rfl rfl (hstamped device.str rfl)
      (decode_bare x.edge (hsize _ List.mem_cons_self))).mono
      (fun node hnode => hnode (.inr (List.ne_nil_of_mem born))) fun _ hholds _ => hholds

/-! ## 4. Runs -/

/-- What a host makes of a run that it hears in full: each call by the roster before it. -/
def heard : Told S → List Action → List Utterance
  | _, [] => []
  | x, a :: rest => (x.edge.said a).map x.roster.heard ++ (x.call a).heard rest

/-- **A run is heard**, message by message: if every call can be sent and no message is longer than
a buffer can be, a host in step with the edge stays in step, and returns one event for each
message. -/
theorem conveys_run {group : GroupId} {edge : EdgeNodeId} :
    ∀ (actions : List Action) (x : Told S), x.Tracked →
      x.edge.engine.config.group = group → x.edge.engine.config.edge = edge →
      Always Told.call Told.Sendable x actions →
      (∀ u ∈ x.edge.speech actions, u.bytes.length < 2 ^ 63) →
      Conveys T group edge (Attuned x.edge.standing x.roster)
        ((x.edge.speech actions).map (Utterance.message group edge))
        ((x.heard actions).map (Utterance.event group edge))
        (Attuned (run Told.call x actions).edge.standing (run Told.call x actions).roster) := by
  intro actions
  induction actions with
  | nil => exact fun x _ _ _ _ _ => conveys_nil
  | cons a rest ih =>
    rintro x h rfl rfl ⟨hsend, hrest⟩ hsize
    obtain ⟨hfirst, hnext⟩ := conveys_call (T := T) h hsend
      fun u hu => hsize u (List.mem_append_left _ hu)
    have hconfig : (x.call a).edge.engine.config = x.edge.engine.config :=
      x.edge.config_perform hsend.unled hsend.stays
    have hlast := ih (x.call a) hnext (congrArg EdgeNodeConfig.group hconfig)
      (congrArg EdgeNodeConfig.edge hconfig) hrest fun u hu => hsize u (List.mem_append_right _ hu)
    rw [Observed.speech, heard, List.map_append, List.map_append]
    exact hfirst.append hlast

end Told

end SparkplugB
