/-
# All sessions of an edge, amid other traffic

A host hears an edge through all of its connections, and between the messages of the edge whatever
else comes in.  For each message of the edge it returns one event: the birth, the data or the death
that the call of the edge meant, and when the edge leaves, its death with the devices that were alive.

* **Frame** (`Conveys.amid`): a triple about one node holds amid the messages of all others.
* **Step** (`conveys_act`): what one call says is heard, whatever the call is.
* **Run** (`sessions_surfaced`): so is what all calls say.
-/
import SparkplugB.Host.Devices
import SparkplugB.Host.Isolation
import SparkplugB.Link.Aliasing
import SparkplugB.Link.Remarks

namespace SparkplugB

open AliasRegistry Codec HostApplication Machine

/-! ## 1. Other traffic -/

namespace HostApplication

variable {T : Type} [MqttTransport T] {group : GroupId} {edge : EdgeNodeId}
  {R R' : NodeState → Prop} {messages : List OutboundMessage} {events : List HostEvent}

theorem map_results (host : HostApplication T) (inputs : List (Reading × IncomingMessage)) :
    (results host inputs).map Prod.snd = host.outcomes inputs := by
  induction inputs generalizing host with
  | nil => rfl
  | cons input rest ih => exact congrArg (host.outcome input :: ·) (ih (host.next input))

/-- What a host returns for the messages of one node, in order, among all that it hears. -/
def outcomesOf (host : HostApplication T) (group : GroupId) (edge : EdgeNodeId)
    (inputs : List (Reading × IncomingMessage)) : List (Result HostEvent) :=
  ((results host inputs).filter fun r => concerns group edge r.1).map Prod.snd

/-- **The frame rule.**  A triple about one node holds amid the messages of all others, for a host
keeps a record for each node.  The host's own publications for the others must succeed
(`publishes`). -/
theorem Conveys.amid (publishes : MqttTransport.Publishes T)
    (h : Conveys T group edge R messages events R') (host : HostApplication T)
    (inputs : List (Reading × IncomingMessage))
    (hheard : Delivers messages (inputs.filter (concerns group edge)))
    (hR : R (host.node (key group edge))) :
    host.outcomesOf group edge inputs = events.map .ok ∧
      R' ((run next host inputs).node (key group edge)) := by
  obtain ⟨hresults, hrecord, -⟩ := node_isolated publishes host group edge inputs
  obtain ⟨hout, hafter⟩ := h host _ hheard hR
  refine ⟨?_, ?_⟩
  · rw [outcomesOf, hresults, map_results, hout]
  · have hnode : (run next host inputs).node (key group edge) =
        (run next host (inputs.filter (concerns group edge))).node (key group edge) :=
      congrArg (fun record => Option.getD record NodeState.new) hrecord
    rw [hnode]
    exact hafter

end HostApplication

/-! ## 2. Leaving -/

/-- The devices that are alive on a roster, in order. -/
theorem NodeState.Holds.onlineDevices {node : NodeState} {r : Roster} {seq : UInt8}
    (h : node.Holds r seq) {born : List String} (hdistinct : born.Nodup)
    (hborn : ∀ device, device ∈ born ↔ ∃ metrics, r.device device = some (true, metrics)) :
    node.onlineDevices = born.mergeSort fun a b => decide (a ≤ b) := by
  have hsorted := node.sorted_onlineDevices
  have hmem : ∀ device, device ∈ node.onlineDevices ↔ device ∈ born := by
    intro device
    rw [NodeState.mem_onlineDevices, NodeState.flag, h.devices, hborn]
    rcases r.device device with - | ⟨alive, metrics⟩
    · simp
    · simp
  have hnodup : node.onlineDevices.Nodup := hsorted.imp fun hlt => ne_of_lt hlt
  have hperm : node.onlineDevices.Perm (born.mergeSort fun a b => decide (a ≤ b)) :=
    ((List.perm_ext_iff_of_nodup hnodup hdistinct).mpr hmem).trans
      (List.mergeSort_perm born _).symm
  have hle : (born.mergeSort fun a b => decide (a ≤ b)).Pairwise (· ≤ ·) := by
    refine (List.pairwise_mergeSort ?_ ?_ born).imp fun hab => of_decide_eq_true hab
    · intro a b c hab hbc
      exact decide_eq_true (le_trans (of_decide_eq_true hab) (of_decide_eq_true hbc))
    · intro a b
      simpa using le_total a b
  exact hperm.eq_of_pairwise (fun a b _ _ hab hba => le_antisymm hab hba)
    (hsorted.imp fun hlt => le_of_lt hlt) hle

/-- The NDEATH can be read. -/
theorem decode_leaving {S : Type} (s : Observed S) (hsize : s.leaving.bytes.length < 2 ^ 63) :
    decode s.leaving.bytes none = .ok (s.engine.ndeathPayload s.ms) := by
  refine decode_birth (fun m hm => ?_) (Nat.zero_le _) hsize none
  obtain rfl := List.mem_singleton.mp hm
  exact ⟨trivial, trivial⟩

/-- The NDEATH with which an edge leaves. -/
theorem conveys_leave {T S : Type} [MqttTransport T] {group : GroupId} {edge : EdgeNodeId}
    {r : Roster} {seq : UInt8} (s : Observed S) (hdistinct : s.engine.bornDevices.Nodup)
    (hborn : ∀ device, device ∈ s.engine.bornDevices ↔
      ∃ metrics, r.device device = some (true, metrics))
    (hbdSeq : r.bdSeq = some (Int64.ofNat s.engine.bdSeq.toNat)) (hfits : s.ms.toNat < 2 ^ 63)
    (hsize : s.leaving.bytes.length < 2 ^ 63) :
    Conveys T group edge (·.Holds r seq) [s.leaving.message group edge]
      [s.leaving.event group edge] (fun _ => True) := by
  refine conveys_of_turn (NodeMessage.of_topic group edge .death _) (fun _ _ _ _ => trivial) ?_
  intro now node verdict after hR ht
  have hdec := decode_leaving s hsize
  have hsame : bdseqOf (s.engine.ndeathPayload s.ms) =
      some (Int64.ofNat s.engine.bdSeq.toNat) := rfl
  have hnode := hR.bdSeq.trans hbdSeq
  rcases ht.of_death hdec with ⟨-, -, rfl⟩ | ⟨hstale, -⟩
  · refine ⟨?_, trivial⟩
    have hstamped : deathTimestamp now (s.engine.ndeathPayload s.ms) = s.ms.toInt64 := by
      unfold deathTimestamp toInt64?
      rw [EdgeNode.ndeathPayload, Option.bind_some, if_pos hfits]
      rfl
    rw [hR.onlineDevices hdistinct hborn, hstamped]
    rfl
  · exact absurd ⟨hR.online, by rw [hnode]; rfl, hnode.trans hsame.symm⟩ hstale

/-! ## 3. One call -/

/-- The births of the source can be presented, and leave the bdSeq to the edge: one that the source
supplied would be published in its place. -/
def DataSource.Plays (source : DataSource) (devices : List DeviceId) : Prop :=
  source.Presents devices ∧ ∀ m ∈ source.nodeBirthMetrics, m.name ≠ some BDSEQ_METRIC_NAME

instance (source : DataSource) (devices : List DeviceId) : Decidable (source.Plays devices) :=
  inferInstanceAs (Decidable (source.Presents devices ∧
    ∀ m ∈ source.nodeBirthMetrics, m.name ≠ some BDSEQ_METRIC_NAME))

theorem DataSource.Plays.bdSeqFits {source : DataSource} {devices : List DeviceId}
    (h : source.Plays devices) (bdSeq : UInt8) : source.BdSeqFits bdSeq := by
  intro hany
  obtain ⟨m, hm, hname⟩ := List.any_eq_true.mp hany
  exact absurd (of_decide_eq_true hname) (h.2 m hm)

/-- The call is made for a device, or ends the session.  `EdgeNode` does not look at its state
there. -/
def Action.needsSession : Action → Bool
  | .publishDeviceData _ _ | .publishDeviceDeath _ | .disconnect => true
  | _ => false

theorem Roster.alive_of_bury {r : Roster} {device d : String} {metrics : List Metric}
    (h : (r.bury device).device d = some (true, metrics)) :
    d ≠ device ∧ r.device d = some (true, metrics) := by
  rw [Roster.device_bury] at h
  by_cases hsame : d = device
  · rw [if_pos hsame] at h
    obtain ⟨b, -, hb⟩ := Option.map_eq_some_iff.mp h
    exact absurd (congrArg Prod.fst hb) (by simp)
  · rw [if_neg hsame] at h
    exact ⟨hsame, h⟩

namespace Observed

variable {S : Type}

theorem note_births (s : Observed S) (source : DataSource) (r : Roster) :
    ((s.births source).map Remark.say).foldl Roster.note r = s.birthRoster source := by
  rw [Roster.foldl_note_say, foldl_hear_births]

/-- The births of a source that an edge plays, if none is too long. -/
theorem birthFits_of_plays (s : Observed S) {source : DataSource}
    (hsource : source.Plays s.engine.config.devices)
    (hsize : ∀ u ∈ (s.births source).map Remark.say, u.bytes.length < 2 ^ 63) :
    s.BirthFits source := by
  refine s.birthFits hsource.1 fun message hmessage => ?_
  rw [← map_message_births] at hmessage
  obtain ⟨u, hu, rfl⟩ := List.mem_map.mp hmessage
  exact hsize _ (List.mem_map_of_mem hu)

end Observed

namespace Told

variable {S : Type} [BdSeqStore S]

/-- After a call, whatever it is. -/
def act (x : Told S) (a : Action) : Told S :=
  ⟨x.edge.perform a, (x.edge.remarks x.edge.engine.toDataMetrics a).foldl Roster.note x.roster⟩

/-- What is asked of a call: its data follows the last birth, under a name that no later birth
declares again if there are aliases; a device reports, and the edge leaves, within a session; no
`connect` within a session fails at the bdSeq store, which may leave the edge with a bdSeq that its
births did not have; and a death has a time that its event has room for. -/
structure Proper (x : Told S) (a : Action) : Prop where
  orderly : x.Orderly a
  unshadowed : x.edge.engine.config.useAliases = true → x.Unshadowed a
  inSession : a.needsSession = true → x.edge.engine.state = .online
  saved : ∀ source, a = .connect source → x.edge.engine.state = .online → ¬ x.edge.StoreFails
  dated : ∀ p born, .leave p born ∈ x.edge.remarks x.edge.engine.toDataMetrics a →
    x.edge.ms.toNat < 2 ^ 63

/-- The roster is that of the edge, and within a session it is all there is to know of it: its bdSeq
and the devices that live.  Every proper call keeps this. -/
structure Settled (x : Told S) : Prop where
  tracked : x.Tracked
  registered : x.edge.engine.config.useAliases = true → Registered x.edge.standing x.roster
  bdSeq : x.edge.engine.state = .online →
    x.roster.bdSeq = some (Int64.ofNat x.edge.engine.bdSeq.toNat)
  alive : x.edge.engine.state = .online → ∀ device metrics,
    x.roster.device device = some (true, metrics) → device ∈ x.edge.engine.bornDevices

/-- Within a session, a host holds the roster and expects the next message.  Outside of one nothing
is asked of its record. -/
def Abreast (x : Told S) (node : NodeState) : Prop :=
  x.edge.engine.state = .online → node.Holds x.roster x.edge.engine.seq.val

omit [BdSeqStore S] in
/-- Nothing that a host can tell has changed. -/
theorem Settled.of_standing {x : Told S} (h : x.Settled) {s' : Observed S}
    (same : s'.standing = x.edge.standing)
    (hbdSeq : s'.engine.state = .online → s'.engine.bdSeq = x.edge.engine.bdSeq) :
    Settled ⟨s', x.roster⟩ where
  tracked := by
    have hconfig : s'.engine.config = x.edge.engine.config := congrArg Standing.config same
    exact ⟨hconfig ▸ h.tracked.devices, h.tracked.tracks.of_born (congrArg Standing.born same)⟩
  registered huse := by
    have hconfig : s'.engine.config = x.edge.engine.config := congrArg Standing.config same
    exact same ▸ h.registered (hconfig ▸ huse)
  bdSeq hon := by
    have hstate : s'.engine.state = x.edge.engine.state := congrArg Standing.state same
    rw [hbdSeq hon]
    exact h.bdSeq (hstate ▸ hon)
  alive hon device metrics hdevice := by
    have hstate : s'.engine.state = x.edge.engine.state := congrArg Standing.state same
    have hborn : s'.engine.bornDevices = x.edge.engine.bornDevices := congrArg Standing.born same
    exact hborn ▸ h.alive (hstate ▸ hon) device metrics hdevice

omit [BdSeqStore S] in
/-- The edge goes on, or stops. -/
theorem Settled.of_same {x : Told S} (h : x.Settled) {s' : Observed S}
    (hconfig : s'.engine.config = x.edge.engine.config)
    (haliasing : s'.engine.aliasing = x.edge.engine.aliasing)
    (hborn : s'.engine.bornDevices = x.edge.engine.bornDevices)
    (hsession : s'.engine.state = .online →
      x.edge.engine.state = .online ∧ s'.engine.bdSeq = x.edge.engine.bdSeq) :
    Settled ⟨s', x.roster⟩ where
  tracked := ⟨hconfig ▸ h.tracked.devices, h.tracked.tracks.of_born hborn⟩
  registered huse := registered_of_same (h.registered (hconfig ▸ huse)) hconfig haliasing fun _ => rfl
  bdSeq hon := by
    obtain ⟨hwas, hbdSeq⟩ := hsession hon
    rw [hbdSeq]
    exact h.bdSeq hwas
  alive hon device metrics hdevice := by
    rw [hborn]
    exact h.alive (hsession hon).1 device metrics hdevice

omit [BdSeqStore S] in
/-- An edge that is not online any more. -/
theorem Settled.of_offline {x : Told S} (h : x.Settled) {s' : Observed S}
    (hconfig : s'.engine.config = x.edge.engine.config)
    (haliasing : s'.engine.aliasing = x.edge.engine.aliasing)
    (hborn : s'.engine.bornDevices = x.edge.engine.bornDevices)
    (hoff : s'.engine.state ≠ .online) : Settled ⟨s', x.roster⟩ :=
  h.of_same hconfig haliasing hborn fun hon => absurd hon hoff

omit [BdSeqStore S] in
/-- After a birth sequence. -/
theorem settled_birth {s₀ s' : Observed S} {source : DataSource}
    (hsource : source.Plays s₀.engine.config.devices) (hfits : s₀.BirthFits source)
    (hdevices : s₀.engine.config.devices.Nodup) (hbdSeq : s'.engine.bdSeq = s₀.engine.bdSeq)
    (after : s'.standing = (s₀.birth source).standing) :
    Settled ⟨s', s₀.birthRoster source⟩ := by
  have hconfig : s'.engine.config = s₀.engine.config :=
    (congrArg Standing.config after).trans (EdgeNode.foldl_field EdgeNode.config
      (g := Observed.deviceBirth source) (fun _ _ => rfl) s₀.engine.config.devices
      (s₀.nodeBirth source))
  have htracks := s₀.tracks_birth hsource.1 hfits hdevices
  refine ⟨⟨hconfig ▸ hdevices, after ▸ htracks⟩, fun huse => ?_, fun _ => ?_,
    fun _ device metrics hdevice => ?_⟩
  · show Registered s'.standing _
    rw [after]
    exact s₀.registered_birth (hconfig ▸ huse) hsource.1 hdevices htracks.names
  · show _ = some (Int64.ofNat s'.engine.bdSeq.toNat)
    rw [hbdSeq]
    exact Observed.bdSeq_birthRoster s₀ (hsource.bdSeqFits _)
  · have hborn : s'.engine.bornDevices = s₀.engine.config.devices.map Ident.str :=
      (congrArg Standing.born after).trans (Observed.bornDevices_birth s₀ source)
    show device ∈ s'.engine.bornDevices
    rw [hborn]
    by_contra hnone
    have hother : (s₀.birthRoster source).device device = none := by
      refine Observed.device_enrol_other _ _ fun birth hbirth heq => hnone ?_
      refine List.mem_map.mpr ⟨birth.1, ?_, heq⟩
      rw [← Observed.map_fst_deviceBirths source s₀.engine.config.devices (s₀.nodeBirth source)]
      exact List.mem_map_of_mem hbirth
    exact absurd (hother.symm.trans hdevice) (by simp)

omit [BdSeqStore S] in
/-- The births of a sequence are heard by every host. -/
theorem conveys_births {T : Type} [MqttTransport T] {s₀ : Observed S} {source : DataSource}
    (hfits : s₀.BirthFits source) (r : Roster) :
    Conveys T s₀.engine.config.group s₀.engine.config.edge (fun _ => True)
      (((s₀.births source).map Remark.say).map
        (Remark.message s₀.engine.config.group s₀.engine.config.edge))
      ((((s₀.births source).map Remark.say).map r.makesOf).map
        (Remark.event s₀.engine.config.group s₀.engine.config.edge))
      (·.Holds (s₀.birthRoster source) (s₀.birth source).engine.seq.val) := by
  have hmessages : ((s₀.births source).map Remark.say).map
      (Remark.message s₀.engine.config.group s₀.engine.config.edge) = s₀.birthMessages source := by
    rw [List.map_map, ← Observed.map_message_births]
    rfl
  have hevents : (((s₀.births source).map Remark.say).map r.makesOf).map
      (Remark.event s₀.engine.config.group s₀.engine.config.edge) = s₀.birthEvents source := by
    have hheard : ((s₀.births source).map Remark.say).map r.makesOf =
        ((s₀.births source).map r.heard).map Remark.say := by
      rw [List.map_map, List.map_map]
      rfl
    rw [hheard, Observed.map_heard_births, List.map_map, ← Observed.map_event_births]
    rfl
  rw [hmessages, hevents]
  exact Observed.conveys_birth s₀ hfits

/-- A proper call writes its data as the last birth declares it. -/
theorem Settled.writes {x : Told S} (h : x.Settled) {a : Action} (hproper : x.Proper a) :
    x.Writes a := by
  by_cases huse : x.edge.engine.config.useAliases = true
  · exact writes_registered (h.registered huse) hproper.orderly (hproper.unshadowed huse)
  · exact x.writes_plain (Bool.not_eq_true _ ▸ huse) a

/-- What a proper call says can be read with the roster. -/
theorem Settled.readable {x : Told S} (h : x.Settled) {a : Action} (hproper : x.Proper a)
    (hsize : ∀ u ∈ x.edge.remarks x.edge.engine.toDataMetrics a, u.bytes.length < 2 ^ 63) :
    ∀ u, .say u ∈ x.edge.remarks x.edge.engine.toDataMetrics a → Readable x.roster u := by
  have hbirths : ∀ (s₀ : Observed S) (source : DataSource) u,
      .say u ∈ (s₀.births source).map Remark.say → Readable x.roster u := by
    intro s₀ source u hu
    obtain ⟨v, hv, heq⟩ := List.mem_map.mp hu
    obtain rfl := Remark.say.inj heq
    rcases List.mem_cons.mp hv with rfl | hv
    · trivial
    · obtain ⟨birth, -, rfl⟩ := List.mem_map.mp hv
      trivial
  have hsaid : a.message? = none → a ≠ .disconnect →
      x.edge.remarks x.edge.engine.toDataMetrics a = (x.edge.said a).map Remark.say →
      ∀ u, .say u ∈ x.edge.remarks x.edge.engine.toDataMetrics a → Readable x.roster u := by
    intro hmessage hstays heq u hu
    rw [heq] at hsize hu
    obtain ⟨v, hv, hsame⟩ := List.mem_map.mp hu
    obtain rfl := Remark.say.inj hsame
    exact readable_said h.tracked (x.edge.unled_of_silent hmessage) hstays hproper.orderly
      (h.writes hproper) (fun w hw => hsize _ (List.mem_map_of_mem hw)) v hv
  cases a with
  | handleIncoming message source =>
    intro u hu
    have hanswers : .say u ∈ x.edge.answers message source := hu
    unfold Observed.answers at hanswers
    split at hanswers
    · split at hanswers
      · split at hanswers
        · exact hbirths _ source u hanswers
        · exact absurd hanswers List.not_mem_nil
      · split at hanswers
        · exact absurd (List.mem_singleton.mp hanswers) (by simp [Observed.leaving])
        · exact absurd hanswers List.not_mem_nil
    · split at hanswers
      · exact hbirths _ source u hanswers
      · exact absurd hanswers List.not_mem_nil
  | disconnect =>
    exact fun u hu => absurd (List.mem_singleton.mp hu) (by simp [Observed.leaving])
  | publishBirthSequence source => exact hbirths x.edge source
  | connect source => exact hsaid rfl (by simp) rfl
  | publishNodeData metrics => exact hsaid rfl (by simp) rfl
  | publishDeviceData device metrics => exact hsaid rfl (by simp) rfl
  | publishDeviceDeath device => exact hsaid rfl (by simp) rfl

/-- **One call**, whatever it is.  What it says is heard by every host that is abreast of the edge,
and the host keeps abreast.  Sources play by the rules (`hplays`), the call is proper and its
messages are no longer than a buffer can be. -/
theorem conveys_act {T : Type} [MqttTransport T] {x : Told S} (h : x.Settled) {a : Action}
    (hplays : ∀ source, a.source? = some source → source.Plays x.edge.engine.config.devices)
    (hproper : x.Proper a)
    (hsize : ∀ u ∈ x.edge.remarks x.edge.engine.toDataMetrics a, u.bytes.length < 2 ^ 63) :
    Conveys T x.edge.engine.config.group x.edge.engine.config.edge x.Abreast
        ((x.edge.remarks x.edge.engine.toDataMetrics a).map
          (Remark.message x.edge.engine.config.group x.edge.engine.config.edge))
        (((x.edge.remarks x.edge.engine.toDataMetrics a).map x.roster.makesOf).map
          (Remark.event x.edge.engine.config.group x.edge.engine.config.edge))
        (x.act a).Abreast ∧
      (x.act a).Settled := by
  have hread := h.readable hproper hsize
  have hstamped := hproper.orderly.stamped
  obtain ⟨-, -, hsession, hsaved, hdated⟩ := hproper
  have hsays := x.edge.perform_remarks x.edge.engine.toDataMetrics a
  unfold act Abreast
  generalize x.edge.remarks x.edge.engine.toDataMetrics a = us at *
  generalize x.edge.perform a = s' at *
  cases hsays with
  | silent same bdSeq =>
    refine ⟨?_, h.of_standing same fun _ => bdSeq⟩
    have hstate : s'.engine.state = x.edge.engine.state := congrArg Standing.state same
    have hseq : s'.engine.seq = x.edge.engine.seq := congrArg Standing.seq same
    exact conveys_nil.mono (fun _ hnode => hnode) fun node hnode hon => by
      rw [hseq]
      exact hnode (hstate ▸ hon)
  | unopened fails same =>
    have hstate : s'.engine.state = x.edge.engine.state := congrArg Standing.state same
    have hoff : s'.engine.state ≠ .online := fun hon => hsaved _ rfl (hstate ▸ hon) fails
    exact ⟨conveys_nil.mono (fun _ hnode => hnode) fun _ _ hon => absurd hon hoff,
      h.of_standing same fun hon => absurd hon hoff⟩
  | awaits waits =>
    have hstate : s'.engine.state = .waitingForPrimaryHost := congrArg Standing.state waits
    have hoff : s'.engine.state ≠ .online := by simp [hstate]
    exact ⟨conveys_nil.mono (fun _ hnode => hnode) fun _ _ hon => absurd hon hoff,
      h.of_offline (congrArg Standing.config waits) (congrArg Standing.aliasing waits)
        (congrArg Standing.born waits) hoff⟩
  | births asks before after bdSeq =>
    rename_i source s₀
    have hsame : s₀.engine.config = x.edge.engine.config := congrArg Standing.config before
    have hsource := hplays source asks
    rw [← hsame] at hsource ⊢
    have hfits := s₀.birthFits_of_plays hsource hsize
    have hseq : s'.engine.seq = (s₀.birth source).engine.seq := congrArg Standing.seq after
    rw [s₀.note_births source x.roster]
    refine ⟨(conveys_births hfits x.roster).mono (fun _ _ => trivial) fun node hnode _ => ?_,
      settled_birth hsource hfits (hsame ▸ h.tracked.devices) bdSeq after⟩
    rw [hseq]
    exact hnode
  | nodeData on =>
    have hreadable := hread _ List.mem_cons_self
    exact ⟨(conveys_nodeData rfl hreadable).mono (fun node hnode => hnode on)
      fun _ hholds _ => hholds, h.of_same rfl rfl rfl fun hon => ⟨hon, rfl⟩⟩
  | deviceData born =>
    rename_i device metrics
    have hon := hsession rfl
    have hreadable := hread _ List.mem_cons_self
    obtain ⟨declared, halive⟩ := h.tracked.tracks.alive device.str born
    exact ⟨(conveys_deviceData rfl halive hreadable).mono (fun node hnode => hnode hon)
      fun _ hholds _ => hholds, h.of_same rfl rfl rfl fun hon => ⟨hon, rfl⟩⟩
  | deviceDeath born =>
    rename_i device
    have hon := hsession rfl
    refine ⟨(conveys_deviceDeath rfl rfl (hstamped device.str rfl)
      (decode_bare x.edge (hsize _ List.mem_cons_self))).mono (fun node hnode => hnode hon)
      fun _ hholds _ => hholds, ⟨h.tracked.devices, h.tracked.tracks.bury rfl⟩,
      fun huse => registered_of_same (h.registered huse) rfl rfl (x.roster.declared_bury _),
      h.bdSeq, fun _ d metrics hd => ?_⟩
    obtain ⟨hother, halive⟩ := Roster.alive_of_bury hd
    exact (List.mem_erase_of_ne hother).mpr (h.alive hon d metrics halive)
  | leaves before time bdSeq on after =>
    rename_i s₀
    have hon : x.edge.engine.state = .online := on.elim (fun heq => hsession (by rw [heq]; rfl)) id
    have hsame : s₀.engine.config = x.edge.engine.config := congrArg Standing.config before
    have hborn : s₀.engine.bornDevices = x.edge.engine.bornDevices := congrArg Standing.born before
    have hconfig : s'.engine.config = x.edge.engine.config :=
      (congrArg Standing.config after).trans hsame
    have hleft : s'.engine.bornDevices = x.edge.engine.bornDevices :=
      (congrArg Standing.born after).trans hborn
    have haliasing : s'.engine.aliasing = x.edge.engine.aliasing :=
      (congrArg Standing.aliasing after).trans (congrArg Standing.aliasing before)
    have hstate : s'.engine.state = .disconnected := congrArg Standing.state after
    have hoff : s'.engine.state ≠ .online := by simp [hstate]
    have hlives : ∀ device, device ∈ s₀.engine.bornDevices ↔
        ∃ metrics, x.roster.device device = some (true, metrics) := by
      intro device
      rw [hborn]
      refine ⟨h.tracked.tracks.alive device, ?_⟩
      rintro ⟨metrics, hd⟩
      exact h.alive hon device metrics hd
    have hleave := @conveys_leave T S _ x.edge.engine.config.group x.edge.engine.config.edge
      x.roster x.edge.engine.seq.val s₀ (hborn ▸ h.tracked.tracks.distinct) hlives
      (bdSeq ▸ h.bdSeq hon) (time ▸ hdated _ _ List.mem_cons_self) (hsize _ List.mem_cons_self)
    exact ⟨hleave.mono (fun node hnode => hnode hon) fun _ _ hon' => absurd hon' hoff,
      h.of_offline hconfig haliasing hleft hoff⟩

/-! ## 4. What is heard -/

end Told

/-- The remark, without aliases. -/
def Remark.unaliased : Remark → Remark
  | .say u => .say u.unaliased
  | .leave p born => .leave p born

theorem Remark.event_unaliased (group : GroupId) (edge : EdgeNodeId) (remark : Remark) :
    remark.unaliased.event group edge = (remark.event group edge).unaliased := by
  cases remark with
  | say u => exact u.event_unaliased group edge
  | leave p born => rfl

theorem map_unaliased_say (us : List Utterance) :
    (us.map Remark.say).map Remark.unaliased = (us.map Utterance.unaliased).map Remark.say := by
  rw [List.map_map, List.map_map]
  rfl

theorem map_makesOf_say (r : Roster) (us : List Utterance) :
    (us.map Remark.say).map r.makesOf = (us.map r.heard).map Remark.say := by
  rw [List.map_map, List.map_map]
  rfl

namespace Told

variable {S : Type} [BdSeqStore S]

omit [BdSeqStore S] in
/-- Births, and leaving, are heard as they are. -/
theorem makesOf_answers (s : Observed S) (r : Roster) (message : IncomingMessage)
    (source : DataSource) : (s.answers message source).map r.makesOf = s.answers message source := by
  unfold Observed.answers
  split
  · split
    · split
      · rw [map_makesOf_say, Observed.map_heard_births]
      · rfl
    · split <;> rfl
  · split
    · rw [map_makesOf_say, Observed.map_heard_births]
    · rfl

/-- **One call is heard as it was meant**, but for the aliases. -/
theorem makesOf_unaliased {x : Told S} (h : x.Settled) {a : Action} (hproper : x.Proper a) :
    ((x.edge.remarks x.edge.engine.toDataMetrics a).map x.roster.makesOf).map Remark.unaliased =
      (x.edge.remarks id a).map Remark.unaliased := by
  have hsaid : a.message? = none → a ≠ .disconnect →
      (((x.edge.said a).map Remark.say).map x.roster.makesOf).map Remark.unaliased =
        ((x.edge.meant a).map Remark.say).map Remark.unaliased := by
    intro hmessage hstays
    rw [map_makesOf_say, map_unaliased_say, map_unaliased_say, heard_unaliased h.tracked
      (x.edge.unled_of_silent hmessage) hstays hproper.orderly (h.writes hproper)]
  cases a with
  | connect source => exact hsaid rfl (by simp)
  | publishBirthSequence source => exact hsaid rfl (by simp)
  | publishNodeData metrics => exact hsaid rfl (by simp)
  | publishDeviceData device metrics => exact hsaid rfl (by simp)
  | publishDeviceDeath device => exact hsaid rfl (by simp)
  | handleIncoming message source =>
    exact congrArg (List.map Remark.unaliased) (makesOf_answers x.edge x.roster message source)
  | disconnect => rfl

/-- What a host makes of a run that it hears in full: each call by the roster before it. -/
def hears : Told S → List Action → List Remark
  | _, [] => []
  | x, a :: rest =>
    (x.edge.remarks x.edge.engine.toDataMetrics a).map x.roster.makesOf ++ (x.act a).hears rest

/-- What is asked of a call of a run, its sources and messages included. -/
structure Playable (config : EdgeNodeConfig) (x : Told S) (a : Action) : Prop where
  plays : ∀ source, a.source? = some source → source.Plays config.devices
  proper : x.Proper a
  size : ∀ u ∈ x.edge.remarks x.edge.engine.toDataMetrics a, u.bytes.length < 2 ^ 63

/-- **A run is heard**, message by message, as it was meant but for the aliases, over any number of
connections. -/
theorem conveys_acts {T : Type} [MqttTransport T] {config : EdgeNodeConfig} :
    ∀ (actions : List Action) (x : Told S), x.Settled → x.edge.engine.config = config →
      Always Told.act (Playable config) x actions →
      Conveys T config.group config.edge x.Abreast
          ((x.edge.words actions).map (Remark.message config.group config.edge))
          ((x.hears actions).map (Remark.event config.group config.edge))
          (run Told.act x actions).Abreast ∧
        (x.hears actions).map Remark.unaliased = (x.edge.account actions).map Remark.unaliased := by
  intro actions
  induction actions with
  | nil => exact fun x _ _ _ => ⟨conveys_nil, rfl⟩
  | cons a rest ih =>
    rintro x h rfl ⟨⟨hplays, hproper, hsize⟩, hrest⟩
    obtain ⟨hfirst, hnext⟩ := conveys_act (T := T) h hplays hproper hsize
    obtain ⟨hlast, hlast'⟩ := ih (x.act a) hnext (x.edge.config_perform_all a) hrest
    rw [Observed.words, hears, Observed.account, List.map_append, List.map_append, List.map_append,
      List.map_append, makesOf_unaliased h hproper]
    exact ⟨hfirst.append hlast, congrArg (_ ++ ·) hlast'⟩

/-- What is true of all that a run says is true of what each of its calls says. -/
theorem always_words {Q : Remark → Prop} :
    ∀ (actions : List Action) (x : Told S), (∀ u ∈ x.edge.words actions, Q u) →
      Always Told.act (fun x a => ∀ u ∈ x.edge.remarks x.edge.engine.toDataMetrics a, Q u) x
        actions := by
  intro actions
  induction actions with
  | nil => exact fun _ _ => trivial
  | cons a rest ih =>
    exact fun x h => ⟨fun u hu => h u (List.mem_append_left _ hu),
      ih (x.act a) fun u hu => h u (List.mem_append_right _ hu)⟩

omit [BdSeqStore S] in
theorem settled_start {config : EdgeNodeConfig} (hdevices : config.devices.Nodup) (store : S)
    (clock : Clock) : (start config store clock).Settled where
  tracked := tracked_start hdevices store clock
  registered _ target b hb := by
    cases target <;> exact absurd hb List.not_mem_nil
  bdSeq hon := absurd hon (by simp [start, Observed.start, EdgeNode.new])
  alive hon := absurd hon (by simp [start, Observed.start, EdgeNode.new])

/-- What is asked of a run, from its journal. -/
theorem playable_of_journal {config : EdgeNodeConfig} {store : S} {clock : Clock}
    {actions : List Action}
    (hplays : ∀ a ∈ actions, ∀ source, a.source? = some source → source.Plays config.devices)
    (hproper : Always Told.act Proper (.start config store clock) actions)
    (hsized : Sized (journal config store clock actions)) :
    Always Told.act (Playable config) (.start config store clock) actions := by
  have hsize : ∀ u ∈ (Observed.start config store clock).words actions,
      u.bytes.length < 2 ^ 63 := by
    intro u hu
    have hmem : u.message config.group config.edge ∈
        published (journal config store clock actions) := by
      rw [Observed.published_words]
      exact List.mem_map_of_mem hu
    have hlen := hsized _ (mem_of_mem_published hmem) _ (List.mem_singleton_self _)
    cases u <;> exact hlen
  refine always_mono (fun _ _ h => ⟨h.1, h.2.1, h.2.2⟩) _ actions (always_and _ actions ?_
    (always_and _ actions hproper (always_words actions _ hsize)))
  exact always_of_mem (fun a ha _ => hplays a ha) _

end Told

/-- Events that differ in their aliases only, from what was said. -/
theorem Remark.map_event_unaliased (group : GroupId) (edge : EdgeNodeId) (remarks : List Remark) :
    (remarks.map (Remark.event group edge)).map HostEvent.unaliased =
      (remarks.map Remark.unaliased).map (Remark.event group edge) := by
  rw [List.map_map, List.map_map]
  exact List.map_congr_left fun u _ => (u.event_unaliased group edge).symm

/-- What a host returns, but for the aliases. -/
theorem map_unaliased_ok {group : GroupId} {edge : EdgeNodeId} {heard meant : List Remark}
    {outcomes : List (Result HostEvent)}
    (hout : outcomes = (heard.map (Remark.event group edge)).map .ok)
    (hsame : heard.map Remark.unaliased = meant.map Remark.unaliased) :
    outcomes.map (Except.map HostEvent.unaliased) =
      ((meant.map (Remark.event group edge)).map HostEvent.unaliased).map .ok := by
  rw [Remark.map_event_unaliased, ← hsame, ← Remark.map_event_unaliased, hout]
  simp only [List.map_map]
  rfl

namespace HostApplication

/-- **All sessions of an edge are surfaced**, amid whatever else the host hears: for each message of
the edge the host returns the birth, the data or the death that the call meant, and when the edge
leaves, its death with the devices that were alive.  The host may have heard anything before.  It is
handed the messages of the edge each once and in order (`hheard`), sources play by the rules
(`hplays`), calls are proper (`hproper`), and the host's requests to others go out (`publishes`). -/
theorem sessions_surfaced {T S : Type} [MqttTransport T] [BdSeqStore S]
    (publishes : MqttTransport.Publishes T) (host : HostApplication T) (config : EdgeNodeConfig)
    (store : S) (clock : Clock) (actions : List Action)
    (inputs : List (Reading × IncomingMessage)) (hdevices : config.devices.Nodup)
    (hplays : ∀ a ∈ actions, ∀ source, a.source? = some source → source.Plays config.devices)
    (hproper : Always Told.act Told.Proper (.start config store clock) actions)
    (hsized : Sized (journal config store clock actions))
    (hheard : Delivers (published (journal config store clock actions))
      (inputs.filter (concerns config.group config.edge))) :
    (host.outcomesOf config.group config.edge inputs).map (Except.map HostEvent.unaliased) =
      ((((Observed.start config store clock).account actions).map
        (Remark.event config.group config.edge)).map HostEvent.unaliased).map .ok := by
  rw [Observed.published_words] at hheard
  have hcalls := Told.playable_of_journal hplays hproper hsized
  obtain ⟨hconveys, hmeant⟩ := @Told.conveys_acts S _ T _ config actions
    (.start config store clock) (Told.settled_start hdevices store clock) rfl hcalls
  obtain ⟨hout, -⟩ := hconveys.amid publishes host inputs hheard fun hon =>
    absurd hon (by simp [Told.start, Observed.start, EdgeNode.new])
  exact map_unaliased_ok hout hmeant

/-- The line starts the day, reports, shuts down for lunch, and comes back for its pump. -/
def day : List Action :=
  [.connect metered, .publishNodeData [Metric.new "temperature" (.int32 22)], .disconnect,
    .connect metered, .publishDeviceData "pump" [Metric.new "rpm" (.int32 901)],
    .publishDeviceDeath "pump", .disconnect]

/-- The line, which assigns aliases. -/
abbrev dayLine : EdgeNodeConfig := { pumpLine with useAliases := true }

/-- The day of the line, after an NDATA of the mixer. -/
def dayHeard : List (Reading × IncomingMessage) :=
  (noon, mixerData 9) ::
    (published (journal dayLine (⟨0⟩ : InMemoryBdSeqStore) stopped day)).map fun message =>
      (noon, message.delivered)

theorem not_storeFails_inMemory (s : Observed InMemoryBdSeqStore) : ¬ s.StoreFails := by
  rintro (⟨e, store, h⟩ | ⟨bdSeq, store, e, store', -, h⟩)
  · exact absurd h (by simp [BdSeqStore.loadNextDeath])
  · exact absurd h (by simp [BdSeqStore.storeNextDeath])

/-- A call of the day, made at a time that every event has room for. -/
theorem proper_of {x : Told InMemoryBdSeqStore} {a : Action} (horderly : x.Orderly a)
    (hfree : x.Unshadowed a) (hsession : a.needsSession = true → x.edge.engine.state = .online)
    (htime : x.edge.ms.toNat < 2 ^ 63) : x.Proper a where
  orderly := horderly
  unshadowed _ := hfree
  inSession := hsession
  saved _ _ _ := not_storeFails_inMemory x.edge
  dated _ _ _ := htime

/-- The calls of the day are proper. -/
theorem proper_day : Always Told.act Told.Proper
    (.start dayLine (⟨0⟩ : InMemoryBdSeqStore) stopped) day := by
  have hsilent : ∀ (x : Told InMemoryBdSeqStore) {a : Action}, a.data? = none → x.Unshadowed a :=
    fun x a hdata target metrics h => absurd (hdata.symm.trans h) (by simp)
  refine ⟨proper_of (orderly_of_silent _ rfl (by simp)) (hsilent _ rfl) (by simp [Action.needsSession])
    (by decide +kernel), ?_, proper_of (orderly_of_silent _ rfl (by simp)) (hsilent _ rfl)
    (fun _ => by decide +kernel) (by decide +kernel), proper_of (orderly_of_silent _ rfl (by simp))
    (hsilent _ rfl) (by simp [Action.needsSession]) (by decide +kernel), ?_, ?_,
    proper_of (orderly_of_silent _ rfl (by simp)) (hsilent _ rfl)
    (fun _ => by decide +kernel) (by decide +kernel), trivial⟩
  · refine proper_of (orderly_of_metric _ rfl ⟨by simp [Metric.new], "temperature", rfl,
      by decide +kernel⟩ (by decide) (by simp)) ?_ (by simp [Action.needsSession])
      (by decide +kernel)
    rintro _ _ h m hm n hn
    obtain ⟨rfl, rfl⟩ := Prod.mk.inj (Option.some.inj h)
    obtain rfl := List.mem_singleton.mp hm
    obtain rfl := Option.some.inj hn
    decide +kernel
  · refine proper_of (orderly_of_metric _ rfl ⟨by simp [Metric.new], "rpm", rfl,
      by decide +kernel⟩ (by decide) (by simp)) ?_ (fun _ => by decide +kernel)
      (by decide +kernel)
    rintro _ _ h m hm n hn
    obtain ⟨rfl, rfl⟩ := Prod.mk.inj (Option.some.inj h)
    obtain rfl := List.mem_singleton.mp hm
    obtain rfl := Option.some.inj hn
    decide +kernel
  · exact proper_of ⟨by simp [Action.data?], by simp [Action.data?], fun _ _ => by decide +kernel⟩
      (hsilent _ rfl) (fun _ => by decide +kernel) (by decide +kernel)

end HostApplication

end SparkplugB
