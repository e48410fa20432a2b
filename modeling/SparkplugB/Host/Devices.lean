/-
# Which devices a node's death names

The devices a `NodeDeath` names are those whose last word since the node's birth was a DBIRTH
(`Heard.Lives`), and after it no device is online before the node and the device are born anew.
The events a device shows the application follow its lifecycle as long as a DDEATH only comes
while the device is online, and no DBIRTH with a corrupt alias map brings it online.
-/
import SparkplugB.Host.History

namespace SparkplugB

open Machine Past HostApplication

/-! ## 1. The devices of a record -/

namespace NodeState

/-- Whether the record of the node has the device of this name as online. -/
def flag (node : NodeState) (name : String) : Bool := (node.devices[name]?).any DeviceState.online

theorem deviceOnline_eq_flag (node : NodeState) (device : DeviceId) :
    node.deviceOnline device = node.flag device.str := rfl

theorem mem_onlineDevices {node : NodeState} {name : String} :
    name ∈ node.onlineDevices ↔ node.flag name = true := by
  unfold onlineDevices flag
  rw [List.mem_mergeSort, List.mem_map]
  constructor
  · rintro ⟨⟨n, device⟩, hmem, rfl⟩
    rw [List.mem_filter] at hmem
    rw [Std.ExtTreeMap.mem_toList_iff_getElem?_eq_some.mp hmem.1]
    exact hmem.2
  · intro hflag
    obtain ⟨device, hget, honline⟩ := (Option.any_eq_true _ _).mp hflag
    exact ⟨(name, device), List.mem_filter.mpr
      ⟨Std.ExtTreeMap.mem_toList_iff_getElem?_eq_some.mpr hget, honline⟩, rfl⟩

/-- No name is listed twice, so sorting makes the list strictly increasing. -/
theorem sorted_onlineDevices (node : NodeState) : node.onlineDevices.Pairwise (· < ·) := by
  have hdistinct : ((node.devices.toList.filter (fun d => d.2.online)).map Prod.fst).Nodup := by
    have hkeys : (node.devices.toList.map Prod.fst).Nodup := by
      rw [List.Nodup, List.pairwise_map]
      refine Std.ExtTreeMap.distinct_keys_toList.imp ?_
      intro a b hne heq
      exact hne (Std.LawfulEqCmp.compare_eq_iff_eq.mpr heq)
    exact hkeys.sublist (List.filter_sublist.map _)
  have hnodup : node.onlineDevices.Nodup := (List.mergeSort_perm _ _).nodup_iff.mpr hdistinct
  have hsorted : node.onlineDevices.Pairwise (fun a b => decide (a ≤ b) = true) := by
    refine List.pairwise_mergeSort ?_ ?_ _
    · intro a b c hab hbc
      simp only [decide_eq_true_eq] at *
      exact le_trans hab hbc
    · intro a b
      simpa using le_total a b
  refine (hsorted.and hnodup).imp ?_
  rintro a b ⟨hle, hne⟩
  exact lt_of_le_of_ne (of_decide_eq_true hle) hne

variable {node after : NodeState}

theorem flag_of_session (h : after.session = node.session) (name : String) :
    after.flag name = node.flag name := by
  unfold flag
  rw [devices_of_session h]

theorem flag_birth (node : NodeState) (p : Payload) (name : String) :
    (node.birth p).2.flag name = false := rfl

theorem flag_death (node : NodeState) (name : String) : node.death.flag name = false := by
  unfold flag death
  simp only [Std.ExtTreeMap.getElem?_map]
  cases node.devices[name]? <;> rfl

theorem flag_putDevice (node : NodeState) (device : DeviceId) (state : DeviceState)
    (name : String) : (node.putDevice device state).flag name =
      if name = device.str then state.online else node.flag name := by
  unfold flag
  rw [getElem?_putDevice]
  split <;> rfl

/-- What a message that passes does to the flags. -/
theorem flag_accepted (node : NodeState) (p : Payload) (m : NodeMessage) (name : String) :
    (node.accepted p m).flag name =
      match m with
      | .deviceBirth device => if name = device.str then true else node.flag name
      | .deviceDeath device => if name = device.str then false else node.flag name
      | _ => node.flag name := by
  cases m with
  | deviceBirth device => exact flag_putDevice node.advance device _ name
  | deviceDeath device =>
    simp only [accepted]
    rcases hget : node.devices[device.str]? with - | state
    · by_cases hname : name = device.str
      · subst hname
        rw [if_pos rfl]
        show ((node.devices[device.str]?).any DeviceState.online) = false
        rw [hget]
        rfl
      · rw [if_neg hname]
        rfl
    · exact flag_putDevice node.advance device _ name
  | _ => rfl

end NodeState

/-! ## 2. The devices that live -/

section Lives

variable {T : Type} [MqttTransport T] (group : GroupId) (edge : EdgeNodeId) (node : NodeState)
  (past : List (Heard T))

/-- The device is alive: since the node's latest NBIRTH that decodes, a DBIRTH of it carried the
expected number, and no DDEATH of it did later.  This is read off the history and does not mention
the record. -/
def Heard.Lives (device : DeviceId) (past : List (Heard T)) : Prop :=
  Since (fun x => x.birth group edge = none ∧ ¬ x.Passes group edge (.deviceDeath device))
    (fun x => x.Passes group edge (.deviceBirth device)) past

/-- While the node is online, the devices flagged online are those that live: the invariant behind
the names of a death. -/
def FlagsLive : Prop :=
  node.online = true → ∀ name, node.flag name = true ↔
    ∃ device : DeviceId, device.str = name ∧ Heard.Lives group edge device past

/-- After a death that was surfaced, an online node was born anew, and a device that is online was
born anew after the node: no flag outlives its session. -/
def Renewed : Prop :=
  ∀ later y earlier, past = later ++ y :: earlier → SurfacesDeath group edge y.1 y.2 →
    (node.online = true → ∃ n ∈ later, n.birth group edge ≠ none) ∧
    ∀ name, node.flag name = true → ∃ device : DeviceId, device.str = name ∧
      ∃ newer b older, later = newer ++ b :: older ∧ b.Passes group edge (.deviceBirth device) ∧
        ∃ n ∈ older, n.birth group edge ≠ none

variable {group edge node past}

omit [MqttTransport T] in
theorem Heard.lives_pass {x : Heard T} {m : NodeMessage} (hpass : x.Passes group edge m)
    (device : DeviceId) :
    Heard.Lives group edge device (x :: past) ↔
      m = .deviceBirth device ∨
        (m ≠ .deviceDeath device ∧ Heard.Lives group edge device past) := by
  obtain ⟨p, hread, hexp⟩ := hpass
  have hkind : ∀ n, x.Passes group edge n ↔ m = n := by
    intro n
    constructor
    · rintro ⟨q, hread', -⟩
      exact (hread.unique hread').1
    · rintro rfl
      exact ⟨p, hread, hexp⟩
  unfold Heard.Lives
  rw [since_cons, hkind, hkind]
  exact or_congr_right (and_congr_left fun _ => and_iff_right hread.unborn)

omit [MqttTransport T] in
theorem Heard.lives_fail {x : Heard T} (unborn : x.birth group edge = none)
    (failed : ∀ m, ¬ x.Passes group edge m) (device : DeviceId) :
    Heard.Lives group edge device (x :: past) ↔ Heard.Lives group edge device past := by
  unfold Heard.Lives
  rw [since_cons, or_iff_right (failed _), and_iff_right ⟨unborn, failed _⟩]

theorem FlagsLive.change (x : Heard T) (h : FlagsLive group edge (x.before group edge) past) :
    FlagsLive group edge (x.after group edge) (x :: past) := by
  intro honline name
  cases x.change group edge with
  | birth p born alive next =>
    rw [NodeState.flag_of_session next, NodeState.flag_birth]
    refine iff_of_false Bool.false_ne_true ?_
    rintro ⟨device, -, (⟨q, hread, -⟩ | ⟨⟨hunborn, -⟩, -⟩)⟩
    · exact absurd (hread.unborn.symm.trans born) (by simp)
    · exact absurd (hunborn.symm.trans born) (by simp)
  | death addressed surfaced next =>
    rw [NodeState.online_of_session next] at honline
    exact absurd honline Bool.false_ne_true
  | pass m p read expected shows next =>
    rw [NodeState.flag_of_session next, NodeState.flag_accepted]
    simp only [Heard.lives_pass ⟨p, read, expected⟩]
    have hbefore := h read.online name
    cases m with
    | deviceBirth device =>
      simp only [NodeMessage.deviceBirth.injEq, ne_eq, reduceCtorEq, not_false_eq_true, true_and]
      by_cases hname : name = device.str
      · rw [if_pos hname]
        exact iff_of_true rfl ⟨device, hname.symm, .inl rfl⟩
      · rw [if_neg hname, hbefore]
        refine exists_congr fun d => and_congr_right fun hd => ?_
        exact (or_iff_right fun heq => hname (by rw [heq, hd])).symm
    | deviceDeath device =>
      simp only [NodeMessage.deviceDeath.injEq, ne_eq, reduceCtorEq, false_or]
      by_cases hname : name = device.str
      · rw [if_pos hname]
        refine iff_of_false Bool.false_ne_true ?_
        rintro ⟨d, hd, hother, -⟩
        exact hother (Ident.str_inj (hname.symm.trans hd.symm))
      · rw [if_neg hname, hbefore]
        refine exists_congr fun d => and_congr_right fun hd => ?_
        exact (and_iff_right fun heq => hname (by rw [heq, hd])).symm
    | _ => simpa using hbefore
  | drop unborn failed silent next =>
    rw [NodeState.online_of_session next] at honline
    exact absurd honline Bool.false_ne_true
  | stay unborn failed kept silent next =>
    rw [NodeState.online_of_session next] at honline
    rw [NodeState.flag_of_session next, h honline name]
    simp only [Heard.lives_fail unborn failed]

omit [MqttTransport T] in
theorem Heard.exists_cons {later : List (Heard T)} {y : Heard T}
    (h : ∃ n ∈ later, n.birth group edge ≠ none) :
    ∃ n ∈ y :: later, n.birth group edge ≠ none := by
  obtain ⟨n, hn, hborn⟩ := h
  exact ⟨n, List.mem_cons_of_mem _ hn, hborn⟩

theorem Renewed.change (x : Heard T) (h : Renewed group edge (x.before group edge) past) :
    Renewed group edge (x.after group edge) (x :: past) := by
  intro later y earlier heq hdeath
  cases later with
  | nil =>
    -- the message itself was surfaced as the death
    obtain ⟨rfl, rfl⟩ := List.cons.inj heq
    have hnext : (x.after group edge).session = (x.before group edge).death.session := by
      cases x.change group edge with
      | birth p born alive next => exact absurd hdeath alive
      | death addressed surfaced next => exact next
      | pass m p read expected shows next =>
        exact absurd hdeath (Heard.not_surfacesDeath_of_decision shows)
      | drop unborn failed silent next => exact absurd hdeath silent.not_surfacesDeath
      | stay unborn failed kept silent next => exact absurd hdeath silent.not_surfacesDeath
    rw [NodeState.online_of_session hnext]
    refine ⟨fun h => absurd h Bool.false_ne_true, ?_⟩
    intro name hflag
    rw [NodeState.flag_of_session hnext, NodeState.flag_death] at hflag
    exact absurd hflag Bool.false_ne_true
  | cons z later =>
    obtain ⟨rfl, rfl⟩ := List.cons.inj heq
    obtain ⟨hborn, hdevices⟩ := h later y earlier rfl hdeath
    have hkept : ∀ name, (x.before group edge).flag name = true → ∃ device : DeviceId,
        device.str = name ∧ ∃ newer b older, x :: later = newer ++ b :: older ∧
          b.Passes group edge (.deviceBirth device) ∧ ∃ n ∈ older, n.birth group edge ≠ none := by
      intro name hflag
      obtain ⟨device, hname, newer, b, older, rfl, hb, hn⟩ := hdevices name hflag
      exact ⟨device, hname, x :: newer, b, older, rfl, hb, hn⟩
    cases x.change group edge with
    | birth p born alive next =>
      refine ⟨fun _ => ⟨x, List.mem_cons_self, by simp [born]⟩, ?_⟩
      intro name hflag
      rw [NodeState.flag_of_session next, NodeState.flag_birth] at hflag
      exact absurd hflag Bool.false_ne_true
    | death addressed surfaced next =>
      rw [NodeState.online_of_session next]
      refine ⟨fun h => absurd h Bool.false_ne_true, ?_⟩
      intro name hflag
      rw [NodeState.flag_of_session next, NodeState.flag_death] at hflag
      exact absurd hflag Bool.false_ne_true
    | pass m p read expected shows next =>
      rw [NodeState.online_of_session next, NodeState.accepted_online]
      refine ⟨fun h => Heard.exists_cons (hborn h), ?_⟩
      intro name hflag
      rw [NodeState.flag_of_session next, NodeState.flag_accepted] at hflag
      cases m with
      | deviceBirth device =>
        by_cases hname : name = device.str
        · exact ⟨device, hname.symm, [], x, later, rfl, ⟨p, read, expected⟩, hborn read.online⟩
        · simp only [if_neg hname] at hflag
          exact hkept name hflag
      | deviceDeath device =>
        by_cases hname : name = device.str
        · simp only [if_pos hname] at hflag
          exact absurd hflag Bool.false_ne_true
        · simp only [if_neg hname] at hflag
          exact hkept name hflag
      | _ => exact hkept name hflag
    | drop unborn failed silent next =>
      rw [NodeState.online_of_session next]
      refine ⟨fun h => absurd h Bool.false_ne_true, ?_⟩
      intro name hflag
      rw [NodeState.flag_of_session next] at hflag
      exact hkept name hflag
    | stay unborn failed kept silent next =>
      rw [NodeState.online_of_session next]
      refine ⟨fun h => Heard.exists_cons (hborn h), ?_⟩
      intro name hflag
      rw [NodeState.flag_of_session next] at hflag
      exact hkept name hflag

end Lives

/-- The turn in which the death of a node is surfaced. -/
theorem Turn.of_nodeDeath {now : Reading} {group : GroupId} {edge : EdgeNodeId}
    {node after : NodeState} {bytes : Bytes} {m : NodeMessage} {ts : Int64} {devices : List String}
    (h : Turn now group edge node bytes m
      (.event (.nodeDeath group.str edge.str ts devices)) after) :
    node.online = true ∧ devices = node.onlineDevices := by
  generalize hv : Verdict.event _ = verdict at h
  cases h with
  | birth _ _ => cases hv
  | death _ online _ _ =>
    cases hv
    exact ⟨online, rfl⟩
  | @accept m p _ _ _ _ =>
    cases m with
    | deviceBirth device =>
      simp only [NodeState.decision] at hv
      split at hv <;> cases hv
    | _ => cases hv
  | _ => cases hv

/-! ## 3. The devices a death names -/

/-- A death that is surfaced names the devices that live, once each and in order, and a device that
is online after it was born after the node was born anew. -/
structure Heard.NamesLive {T : Type} [MqttTransport T] (group : GroupId) (edge : EdgeNodeId)
    (x : Heard T) (past : List (Heard T)) : Prop where
  sorted : ∀ ts devices, x.1.outcome x.2 = .ok (.nodeDeath group.str edge.str ts devices) →
    devices.Pairwise (· < ·)
  named : ∀ ts devices, x.1.outcome x.2 = .ok (.nodeDeath group.str edge.str ts devices) →
    ∀ name, name ∈ devices ↔
      ∃ device : DeviceId, device.str = name ∧ Heard.Lives group edge device past
  afterwards : ∀ later y earlier, x :: past = later ++ y :: earlier →
    SurfacesDeath group edge y.1 y.2 → ∀ device, (x.after group edge).deviceOnline device = true →
    ∃ newer b older, later = newer ++ b :: older ∧ b.Passes group edge (.deviceBirth device) ∧
      ∃ n ∈ older, n.birth group edge ≠ none

/-- **A death names exactly the live devices.**  In every run of a fresh host, whatever messages it
handles for whatever nodes and whatever its transport answers, every `NodeDeath` event names the
devices that live at that point. -/
theorem HostApplication.nodeDeath_names_live {T : Type} [MqttTransport T] (group : GroupId)
    (edge : EdgeNodeId) (config : HostConfig) (transport : T) (stateTs : Int64)
    (messages : List (Reading × IncomingMessage)) :
    Throughout (Heard.NamesLive group edge)
      ((fresh config transport stateTs).history messages) := by
  refine throughout_log (P := fun _ _ => True) (fun host past =>
    FlagsLive group edge (host.node (key group edge)) past ∧
      Renewed group edge (host.node (key group edge)) past) ?_ _ messages []
    ?_ (always_of_forall (fun _ _ => trivial) _ _) .nil
  · rintro host input past ⟨hlive, hrenewed⟩ -
    have hlive' := FlagsLive.change (host, input) hlive
    have hrenewed' := Renewed.change (host, input) hrenewed
    refine ⟨⟨?_, ?_, ?_⟩, hlive', hrenewed'⟩
    · intro ts devices hout
      obtain ⟨m, after, -, hturn⟩ := turn_of_surfaced host hout rfl
      rw [hturn.of_nodeDeath.2]
      exact NodeState.sorted_onlineDevices _
    · intro ts devices hout name
      obtain ⟨m, after, -, hturn⟩ := turn_of_surfaced host hout rfl
      obtain ⟨honline, rfl⟩ := hturn.of_nodeDeath
      rw [NodeState.mem_onlineDevices]
      exact hlive honline name
    · intro later y earlier heq hdeath device honline
      obtain ⟨d, hd, hborn⟩ := (hrenewed' later y earlier heq hdeath).2 device.str honline
      obtain rfl := Ident.str_inj hd
      exact hborn
  · refine ⟨fun honline => absurd honline Bool.false_ne_true, ?_⟩
    intro later y earlier heq
    exact absurd heq (by simp)

end SparkplugB
