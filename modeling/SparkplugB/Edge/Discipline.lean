/-
# The discipline of an edge session

What an edge publishes, seen as a log of marks: the topic of a message is all that counts.  Within
a connection the node is born before it publishes data, and a device before its data and its
death.  The engine keeps the two facts in two fields, `state` and `bornDevices`, and
`marks_disciplined` says of which calls the fields tell too little.
-/
import SparkplugB.Edge.Session
import SparkplugB.Lib.Past

namespace SparkplugB

open Past

/-! ## 1. Marks -/

/-- What one entry of the journal is about: the type of a published message and its device, or the
STATE in a message that was handled.  All else about messages is left out, so that the discipline of
a session is a matter of lists of marks. -/
inductive Mark where
  | connect
  | disconnect
  | node (ty : MessageType)
  | device (device : String) (ty : MessageType)
  | state (hostId : String) (state : StatePayload)
  | other
  deriving DecidableEq

/-- The mark of a published message. -/
def OutboundMessage.mark (message : OutboundMessage) : Mark :=
  match SparkplugTopic.parse message.topic with
  | .ok (.node _ _ ty) => .node ty
  | .ok (.device _ _ device ty) => .device device.str ty
  | _ => .other

/-- The mark of a message that was handled: STATE messages count. -/
def IncomingMessage.mark (message : IncomingMessage) : Mark :=
  match SparkplugTopic.parse message.topic with
  | .ok (.hostState hostId) => ((message.stateOf hostId).map (Mark.state hostId)).getD .other
  | _ => .other

def Entry.mark : Entry → Mark
  | .connect _ => .connect
  | .subscribe _ _ => .other
  | .publish message => message.mark
  | .disconnect => .disconnect
  | .handled message => message.mark

/-- The mark of a handled message is that of a STATE or none at all. -/
theorem IncomingMessage.mark_cases (message : IncomingMessage) :
    message.mark = .other ∨ ∃ hostId state, message.mark = .state hostId state ∧
      message.stateOf hostId = some state := by
  unfold IncomingMessage.mark
  cases hparse : SparkplugTopic.parse message.topic with
  | error e => exact .inl rfl
  | ok topic =>
    cases topic with
    | hostState hostId =>
      cases hstate : message.stateOf hostId with
      | none =>
        left
        simp only [hstate, Option.map_none, Option.getD_none]
      | some state =>
        right
        refine ⟨hostId, state, ?_, hstate⟩
        simp only [hstate, Option.map_some, Option.getD_some]
    | _ => exact .inl rfl

/-- A STATE that is read as one of `hostId` is marked as such. -/
theorem IncomingMessage.mark_of_stateOf {message : IncomingMessage} {hostId : String}
    {state : StatePayload} (h : message.stateOf hostId = some state) :
    message.mark = .state hostId state := by
  have hread := h
  unfold IncomingMessage.stateOf at h
  unfold IncomingMessage.mark
  cases hparse : SparkplugTopic.parse message.topic with
  | error e =>
    rw [hparse] at h
    exact absurd h (by simp)
  | ok topic =>
    rw [hparse] at h
    cases topic with
    | hostState id =>
      by_cases hid : id = hostId
      · rw [hid]
        simp only [hread, Option.map_some, Option.getD_some]
      · dsimp only at h
        rw [if_neg hid] at h
        exact absurd h (by simp)
    | _ => exact absurd h (by simp)

namespace EdgeNode

variable {S : Type}

theorem mark_node (node : EdgeNode Recorder S) {t : MessageType} {m : OutboundMessage}
    (htopic : m.topic = node.nodeTopic t)
    (hty : t.hasDevice = false ∧ t ≠ .state) : m.mark = .node t := by
  have hparse := SparkplugTopic.parse_toString
    (t := .node node.config.group node.config.edge t) hty
  unfold OutboundMessage.mark
  rw [htopic, nodeTopic, hparse]

theorem mark_device (node : EdgeNode Recorder S) {device : DeviceId} {t : MessageType}
    {m : OutboundMessage} (htopic : m.topic = node.deviceTopic device t)
    (hty : t.hasDevice = true) : m.mark = .device device.str t := by
  have hparse := SparkplugTopic.parse_toString
    (t := .device node.config.group node.config.edge device t) hty
  unfold OutboundMessage.mark
  rw [htopic, deviceTopic, hparse]

end EdgeNode

/-! ## 2. The view of an edge -/

/-- What the discipline of an edge is about: its marks, and the fields of the engine that guard them
(`devices`, `primary_host_id`, `state`, `born_devices`, `last_state_ts`).  Each call is a function
on views. -/
structure View where
  devices : List DeviceId
  primary : Option String
  state : EdgeState
  born : List String
  lastStateTs : Option Int64
  marks : List Mark

namespace View

def push (m : Mark) (v : View) : View := { v with marks := m :: v.marks }

/-- After a birth sequence. -/
def birth (v : View) : View :=
  { v with
    state := .online
    born := v.devices.map Ident.str
    marks := v.devices.reverse.map (fun device => .device device.str .dBirth) ++
      .node .nBirth :: v.marks }

/-- After the subscriptions of a new connection. -/
def connected (v : View) : View :=
  { v with marks := List.replicate (v.devices.length + 1) .other ++ .connect :: v.marks }

/-- After `connect`. -/
def session (v : View) : View :=
  match v.primary with
  | some _ => { v.connected.push .other with state := .waitingForPrimaryHost }
  | none => v.connected.birth

/-- After `disconnect`. -/
def gone (v : View) : View :=
  { (v.push (.node .nDeath)).push .disconnect with state := .disconnected }

/-- After an accepted STATE of the primary host. -/
def followed (state : StatePayload) (v : View) : View :=
  let v' := { v with lastStateTs := some state.timestamp }
  if state.online then
    if v.state = .waitingForPrimaryHost then v'.birth else v'
  else
    if v.state = .online then v'.gone else v'

end View

namespace Observed

variable {S : Type}

def view (s : Observed S) : View where
  devices := s.engine.config.devices
  primary := s.engine.config.primaryHostId
  state := s.engine.state
  born := s.engine.bornDevices
  lastStateTs := s.engine.lastStateTs
  marks := s.engine.transport.log.map Entry.mark

@[simp] theorem view_note (e : Entry) (s : Observed S) : (s.note e).view = s.view.push e.mark := rfl

@[simp] theorem view_debounced (s : Observed S) : s.debounced.view = s.view := by
  unfold debounced
  split <;> rfl

theorem view_deviceBirth (source : DataSource) (s : Observed S) (device : DeviceId) :
    (s.deviceBirth source device).view =
      { s.view with
        born := s.view.born ++ [device.str]
        marks := .device device.str .dBirth :: s.view.marks } := by
  have hmark := EdgeNode.mark_device s.engine
    (m := s.engine.deviceBirthMessage source device s.ms) rfl rfl
  show View.mk _ _ _ _ _ (Entry.mark _ :: _) = _
  rw [Entry.mark, hmark]
  rfl

/-- The births of the devices, one by one. -/
theorem view_deviceBirths (source : DataSource) :
    ∀ (devices : List DeviceId) (s : Observed S),
      (devices.foldl (deviceBirth source) s).view =
        { s.view with
          born := s.view.born ++ devices.map Ident.str
          marks := devices.reverse.map (fun device => .device device.str .dBirth) ++
            s.view.marks }
  | [], s => by simp
  | device :: rest, s => by
    rw [List.foldl_cons, view_deviceBirths source rest, view_deviceBirth]
    simp

theorem view_birth (source : DataSource) (s : Observed S) :
    (s.birth source).view = s.view.birth := by
  have hnode : (s.nodeBirth source).view =
      { s.view with born := [], marks := .node .nBirth :: s.view.marks } := by
    have hmark := EdgeNode.mark_node s.engine.resetForBirth
      (m := s.engine.resetForBirth.nodeBirthMessage source s.ms) rfl ⟨rfl, by decide⟩
    show View.mk _ _ _ _ _ (Entry.mark _ :: _) = _
    rw [Entry.mark, hmark]
    rfl
  have hdevices := view_deviceBirths source s.engine.config.devices (s.nodeBirth source)
  rw [hnode] at hdevices
  show ({ (s.engine.config.devices.foldl (deviceBirth source) (s.nodeBirth source)).view with
    state := EdgeState.online } : View) = _
  rw [hdevices, List.nil_append]
  rfl

theorem view_gone (s : Observed S) : s.gone.view = s.view.gone := by
  have hmark := EdgeNode.mark_node s.engine (m := s.engine.ndeathMessage s.ms) rfl
    ⟨rfl, by decide⟩
  show View.mk _ _ _ _ _ (.disconnect :: Entry.mark _ :: _) = _
  rw [Entry.mark, hmark]
  rfl

theorem view_sent (message : OutboundMessage) (s : Observed S) :
    (s.sent message).view = s.view.push message.mark := rfl

theorem view_subscribed (topic : DeviceId → String) :
    ∀ (devices : List DeviceId) (s : Observed S),
      (devices.foldl (fun s device => s.subscribe (topic device)) s).view =
        { s.view with marks := List.replicate devices.length .other ++ s.view.marks }
  | [], s => rfl
  | device :: rest, s => by
    rw [List.foldl_cons, view_subscribed topic rest, List.length_cons, List.replicate_succ']
    simp [subscribe, View.push, Entry.mark]

theorem view_connected (s : Observed S) : s.connected.view = s.view.connected := by
  unfold connected
  rw [view_subscribed, View.connected, List.replicate_succ', List.append_assoc]
  rfl

theorem view_session (source : DataSource) (s : Observed S) :
    (s.session source).view = s.view.session := by
  unfold session View.session
  show _ = match s.engine.config.primaryHostId with
    | some _ => { s.view.connected.push .other with state := .waitingForPrimaryHost }
    | none => s.view.connected.birth
  rw [← view_connected]
  cases s.engine.config.primaryHostId with
  | some hostId => rfl
  | none => exact view_birth source s.connected

theorem view_followed (source : DataSource) (state : StatePayload) (s : Observed S) :
    (s.followed source state).view = s.view.followed state := by
  unfold followed View.followed
  dsimp only
  show View.mk _ _ _ _ _ _ = if state.online = true then
      if s.engine.state = .waitingForPrimaryHost then _ else _
    else if s.engine.state = .online then _ else _
  by_cases hon : state.online = true
  · rw [if_pos hon, if_pos hon]
    by_cases hwait : s.engine.state = .waitingForPrimaryHost
    · rw [if_pos hwait, if_pos hwait]
      exact view_birth source _
    · rw [if_neg hwait, if_neg hwait]
      rfl
  · rw [if_neg hon, if_neg hon]
    by_cases honline : s.engine.state = .online
    · rw [if_pos honline, if_pos honline]
      exact view_gone _
    · rw [if_neg honline, if_neg honline]
      rfl

theorem view_rebirth (source : DataSource) (s : Observed S) :
    (s.rebirth source).view = s.view.birth := by
  rw [← view_debounced s, ← view_birth]
  rfl

end Observed

/-! ## 3. The discipline -/

/-- A connect of the transport, and no disconnect since: what `connect` and `disconnect` of
`edge.rs` bring about. -/
def Connected : List Mark → Prop := Since (· ≠ .disconnect) (· = .connect)

/-- An NBIRTH, and since then neither an NDEATH nor a new connection: the node has a session in the
eyes of every host. -/
def NodeBorn : List Mark → Prop :=
  Since (fun m => m ≠ .connect ∧ m ≠ .node .nDeath) (· = .node .nBirth)

/-- A DBIRTH of the device, and since then neither a DDEATH of it nor another NBIRTH, which starts a
birth sequence anew. -/
def DeviceBorn (device : String) : List Mark → Prop :=
  Since (fun m => m ≠ .node .nBirth ∧ m ≠ .device device .dDeath) (· = .device device .dBirth)

/-- **The discipline**: what must have come before a message.  An NBIRTH and a DBIRTH need a
connection, an NDATA needs a born node as well, and a DDATA and a DDEATH also a born device.
Nothing is asked of an NDEATH or of what is not published. -/
def Allowed : Mark → List Mark → Prop
  | .node .nBirth, past => Connected past
  | .device _ .dBirth, past => Connected past
  | .node .nData, past => Connected past ∧ NodeBorn past
  | .device device .dData, past => Connected past ∧ NodeBorn past ∧ DeviceBorn device past
  | .device device .dDeath, past => Connected past ∧ NodeBorn past ∧ DeviceBorn device past
  | _, _ => True

/-- The mark ends no connection, no session of the node and no session of a device. -/
def Mark.inert : Mark → Bool
  | .connect | .disconnect | .node .nDeath | .node .nBirth | .device _ .dDeath => false
  | _ => true

theorem Connected.push {past : List Mark} (h : Connected past) {m : Mark}
    (hm : m.inert = true) : Connected (m :: past) := by
  refine h.cons ?_
  rintro rfl
  exact absurd hm (by simp [Mark.inert])

theorem NodeBorn.push {past : List Mark} (h : NodeBorn past) {m : Mark} (hm : m.inert = true) :
    NodeBorn (m :: past) := by
  refine h.cons ⟨?_, ?_⟩
  · rintro rfl
    exact absurd hm (by simp [Mark.inert])
  · rintro rfl
    exact absurd hm (by simp [Mark.inert])

theorem DeviceBorn.push {d : String} {past : List Mark} (h : DeviceBorn d past) {m : Mark}
    (hm : m.inert = true) : DeviceBorn d (m :: past) := by
  refine h.cons ⟨?_, ?_⟩
  · rintro rfl
    exact absurd hm (by simp [Mark.inert])
  · rintro rfl
    exact absurd hm (by simp [Mark.inert])

/-- The invariant of runs of orderly calls: the marks kept the discipline, and the fields of the
engine are to be trusted.  A node that is not disconnected has a connection, one that is online is
born, and then so is every device that `born_devices` lists as often as the configuration does. -/
structure View.Disciplined (v : View) : Prop where
  connected : v.state ≠ .disconnected → Connected v.marks
  nodeBorn : v.state = .online → NodeBorn v.marks
  deviceBorn : v.state = .online → ∀ d ∈ v.born,
    v.born.count d = (v.devices.map Ident.str).count d → DeviceBorn d v.marks
  allowed : Throughout Allowed v.marks

namespace View

variable {v : View}

theorem Disciplined.push (h : v.Disciplined) {m : Mark} (hm : m.inert = true)
    (hallowed : Allowed m v.marks) : (v.push m).Disciplined where
  connected hon := (h.connected hon).push hm
  nodeBorn hon := (h.nodeBorn hon).push hm
  deviceBorn hon d hd hcount := (h.deviceBorn hon d hd hcount).push hm
  allowed := .cons hallowed h.allowed

/-- A birth sequence within a connection. -/
theorem Disciplined.birth (hconnected : Connected v.marks) (hallowed : Throughout Allowed v.marks) :
    v.birth.Disciplined := by
  have hbirth : ∀ m ∈ v.devices.reverse.map (fun device => Mark.device device.str .dBirth),
      ∃ d, m = .device d .dBirth := by
    intro m hm
    obtain ⟨device, -, rfl⟩ := List.mem_map.mp hm
    exact ⟨device.str, rfl⟩
  have hopen : ∀ older : List Mark, (∀ m ∈ older, ∃ d, m = .device d .dBirth) →
      Connected (older ++ .node .nBirth :: v.marks) := by
    intro older holder
    refine (hconnected.cons (by simp)).append fun m hm => ?_
    obtain ⟨d, rfl⟩ := holder m hm
    simp
  refine ⟨fun _ => hopen _ hbirth, fun _ => since_append_cons rfl fun m hm => ?_,
    fun _ d hd _ => ?_,
    Throughout.append (.cons hconnected hallowed) fun newer m older heq => ?_⟩
  · obtain ⟨d, rfl⟩ := hbirth m hm
    simp
  · -- the DBIRTH of `d` is one of those after the NBIRTH
    have hmem : Mark.device d .dBirth ∈
        v.devices.reverse.map (fun device => Mark.device device.str .dBirth) := by
      obtain ⟨device, hdevice, rfl⟩ := List.mem_map.mp hd
      exact List.mem_map.mpr ⟨device, List.mem_reverse.mpr hdevice, rfl⟩
    obtain ⟨newer, older, heq⟩ := List.append_of_mem hmem
    show DeviceBorn d (_ ++ _)
    rw [heq, List.append_assoc, List.cons_append]
    refine since_append_cons rfl fun m hm => ?_
    obtain ⟨d', rfl⟩ := hbirth m (by rw [heq]; exact List.mem_append_left _ hm)
    simp
  · obtain ⟨d, rfl⟩ := hbirth m (by rw [heq]; simp)
    refine hopen older fun m' hm' => hbirth m' ?_
    rw [heq]
    exact List.mem_append_right _ (List.mem_cons_of_mem _ hm')

theorem Disciplined.gone (h : v.Disciplined) : v.gone.Disciplined where
  connected hon := absurd rfl hon
  nodeBorn hon := absurd hon (by simp [View.gone])
  deviceBorn hon := absurd hon (by simp [View.gone])
  allowed := .cons trivial (.cons trivial h.allowed)

theorem Disciplined.session (h : v.Disciplined) : v.session.Disciplined := by
  have hother : ∀ m ∈ List.replicate (v.devices.length + 1) Mark.other, m = .other := fun m hm =>
    (List.mem_replicate.mp hm).2
  have hconnected : Connected v.connected.marks := by
    unfold Connected
    refine since_append_cons rfl fun m hm => ?_
    rw [hother m hm]
    simp
  have hallowed : Throughout Allowed v.connected.marks := by
    refine Throughout.append (.cons trivial h.allowed) fun newer m older heq => ?_
    obtain rfl := hother m (by rw [heq]; simp)
    trivial
  unfold View.session
  cases v.primary with
  | some hostId =>
    exact ⟨fun _ => hconnected.push rfl, fun hon => absurd hon (by simp),
      fun hon => absurd hon (by simp), .cons trivial hallowed⟩
  | none => exact Disciplined.birth hconnected hallowed

theorem Disciplined.followed (h : v.Disciplined) (state : StatePayload) :
    (v.followed state).Disciplined := by
  have hset : View.Disciplined { v with lastStateTs := some state.timestamp } :=
    ⟨h.connected, h.nodeBorn, h.deviceBorn, h.allowed⟩
  unfold View.followed
  dsimp only
  by_cases hon : state.online = true
  · rw [if_pos hon]
    by_cases hwait : v.state = .waitingForPrimaryHost
    · rw [if_pos hwait]
      exact Disciplined.birth (h.connected (by rw [hwait]; decide)) h.allowed
    · rw [if_neg hwait]
      exact hset
  · rw [if_neg hon]
    by_cases honline : v.state = .online
    · rw [if_pos honline]
      exact hset.gone
    · rw [if_neg honline]
      exact hset

/-- The DDEATH of a device that was born as often as it is listed. -/
theorem Disciplined.deviceDeath (h : v.Disciplined) {d : String} (hon : v.state = .online)
    (hd : d ∈ v.born) (hcount : v.born.count d = (v.devices.map Ident.str).count d) :
    View.Disciplined { v.push (.device d .dDeath) with born := v.born.erase d } := by
  have hconnected := h.connected (by rw [hon]; decide)
  have hborn := h.deviceBorn hon d hd hcount
  refine ⟨fun _ => Since.cons hconnected (by simp), fun _ => Since.cons (h.nodeBorn hon) (by simp),
    fun _ d' hd' hcount' => ?_, .cons ⟨hconnected, h.nodeBorn hon, hborn⟩ h.allowed⟩
  have hmem : d' ∈ v.born := List.mem_of_mem_erase hd'
  by_cases hsame : d' = d
  · -- one occurrence is gone: the device is no longer listed as often as it is born
    subst hsame
    have hpos : 0 < v.born.count d' := List.count_pos_iff.mpr hmem
    have herase : (v.born.erase d').count d' = v.born.count d' - 1 := List.count_erase_self
    have heq : (v.born.erase d').count d' = (v.devices.map Ident.str).count d' := hcount'
    omega
  · have herase : (v.born.erase d).count d' = v.born.count d' := List.count_erase_of_ne hsame
    refine Since.cons (h.deviceBorn hon d' hmem (herase.symm.trans hcount')) ⟨by simp, ?_⟩
    intro heq
    exact hsame (Mark.device.inj heq).1.symm

end View

/-! ## 4. Runs -/

namespace Observed

variable {S : Type} [BdSeqStore S]

/-- The condition under which the guards of `edge.rs` are right about a call: a rebirth command is
obeyed within a connection, and `publish_device_data` and `publish_device_death` are called, for a
device listed as born, while the node is online and lists it as often as the configuration does.
The methods themselves ask for less. -/
def Orderly (s : Observed S) : Action → Prop
  | .handleIncoming message _ => s.Triggers message → s.engine.state ≠ .disconnected
  | .publishDeviceData d _ | .publishDeviceDeath d => d ∈ s.engine.bornDevices →
    s.engine.state = .online ∧
      s.engine.bornDevices.count d = (s.engine.config.devices.map Ident.str).count d
  | _ => True

/-- One call keeps the invariant: it goes through the ways of `perform_move` one by one. -/
theorem disciplined_perform (s : Observed S) (a : Action) (h : s.view.Disciplined)
    (hbirth : a.isBirth = false) (horderly : s.Orderly a) : (s.perform a).view.Disciplined := by
  have hheard : ∀ message : IncomingMessage, (s.view.push message.mark).Disciplined := by
    intro message
    rcases message.mark_cases with hmark | ⟨hostId, state, hmark, -⟩ <;> rw [hmark] <;>
      exact h.push rfl trivial
  have hmove := s.perform_move a
  generalize s.perform a = s' at hmove ⊢
  cases hmove with
  | storeFails fails store bdSeq => exact h
  | connect load save =>
    rw [view_session]
    exact h.session
  | birth => exact absurd hbirth (by simp [Action.isBirth])
  | nodeDataRefused off => exact h
  | nodeData on =>
    rw [view_sent, EdgeNode.mark_node s.engine (t := .nData) rfl ⟨rfl, by decide⟩]
    exact h.push rfl ⟨h.connected (by rw [show s.view.state = _ from on]; decide), h.nodeBorn on⟩
  | deviceDataRefused => exact h
  | @deviceData device metrics born =>
    obtain ⟨hon, hcount⟩ := horderly born
    rw [view_sent, EdgeNode.mark_device s.engine (t := .dData) rfl rfl]
    exact h.push rfl ⟨h.connected (by rw [show s.view.state = _ from hon]; decide),
      h.nodeBorn hon, h.deviceBorn hon _ born hcount⟩
  | deviceDeathRefused => exact h
  | @deviceDeath device born =>
    obtain ⟨hon, hcount⟩ := horderly born
    have hmark := EdgeNode.mark_device s.engine (t := .dDeath)
      (m := s.engine.deviceDeathMessage device s.ms) rfl rfl
    show View.Disciplined { s.view.push (s.engine.deviceDeathMessage device s.ms).mark with
      born := s.view.born.erase device.str }
    rw [hmark]
    exact h.deviceDeath hon born hcount
  | unheeded other => exact hheard _
  | debounced other =>
    rw [view_debounced]
    exact hheard _
  | @rebirth message source triggers =>
    rw [view_rebirth]
    have hon := hheard message
    exact .birth (hon.connected (horderly triggers)) hon.allowed
  | outdated old => exact hheard _
  | followed accepts =>
    rw [view_followed]
    exact (hheard _).followed _
  | disconnect =>
    rw [view_gone]
    exact h.gone

/-- **The discipline of an edge session.**  In every run of `EdgeNode`, whatever the calls,
messages, stores and clocks are, every message is published after what it needs.  `hbirth` leaves
out direct calls of `publish_birth_sequence`, which the application is to make within a connection,
and `horderly` asks that each call be orderly in the state it meets. -/
theorem marks_disciplined (config : EdgeNodeConfig) (store : S) (clock : Clock)
    (actions : List Action) (hbirth : ∀ a ∈ actions, a.isBirth = false)
    (horderly : Machine.Always perform Orderly (start config store clock) actions) :
    Throughout Allowed (Machine.run perform (start config store clock) actions).view.marks := by
  have hstart : (start config store clock).view.Disciplined :=
    ⟨fun h => absurd rfl h, fun h => absurd h (by simp [view, start, EdgeNode.new]),
      fun h => absurd h (by simp [view, start, EdgeNode.new]), .nil⟩
  have hboth : Machine.Always perform (fun s a => a.isBirth = false ∧ s.Orderly a)
      (start config store clock) actions := by
    rw [Machine.always_iff_split] at horderly ⊢
    intro pre a post heq
    exact ⟨hbirth a (by rw [heq]; simp), horderly pre a post heq⟩
  exact (Machine.run_invariant
    (fun s a hs ha => disciplined_perform s a hs ha.1 ha.2) _ _ hstart hboth).allowed

end Observed

/-! ## 5. A line with one pump -/

open Observed

/-- The configuration of an edge with one device. -/
def pumpLine : EdgeNodeConfig where
  group := ⟨"plant", by decide⟩
  edge := ⟨"line", by decide⟩
  devices := [⟨"pump", by decide⟩]
  primaryHostId := none
  useAliases := false
  rebirthDebounce := .fromSecs 5
  clientId := "plant-line"
  host := "localhost"
  port := 1883
  keepAliveSecs := 30
  tls := none

/-- A source without metrics. -/
def silent : DataSource := ⟨[], fun _ => []⟩

/-- The readings of a thermometer, and the speed of the pump. -/
def metered : DataSource :=
  ⟨[Metric.new "temperature" (.int32 21)], fun _ => [Metric.new "rpm" (.int32 900)]⟩

/-- A clock that stands still. -/
def stopped : Clock := Stream'.const ⟨some 1700000000000, 0⟩

/-- The pump of a connected line is heard and dies. -/
theorem marks_disciplined_pump :
    Throughout Allowed (Machine.run perform (start pumpLine (⟨0⟩ : InMemoryBdSeqStore) stopped)
      [.connect silent, .publishDeviceData "pump" [], .publishDeviceDeath "pump"]).view.marks := by
  have hborn : ((start pumpLine (⟨0⟩ : InMemoryBdSeqStore) stopped).perform
      (.connect silent)).engine.bornDevices = ["pump"] := by decide +kernel
  have hon : ((start pumpLine (⟨0⟩ : InMemoryBdSeqStore) stopped).perform
      (.connect silent)).engine.state = .online := by decide +kernel
  have horderly : Machine.Always perform Orderly
      (start pumpLine (⟨0⟩ : InMemoryBdSeqStore) stopped)
      [.connect silent, .publishDeviceData "pump" [], .publishDeviceDeath "pump"] := by
    refine ⟨trivial, fun _ => ⟨hon, by rw [hborn]; decide +kernel⟩, fun _ => ⟨?_, ?_⟩, trivial⟩
    · decide +kernel
    · decide +kernel
  refine marks_disciplined pumpLine (⟨0⟩ : InMemoryBdSeqStore) stopped
    [.connect silent, .publishDeviceData "pump" [], .publishDeviceDeath "pump"] ?_ horderly
  decide

/-- **Data of a device after the end of the connection.**  `disconnect` leaves `born_devices` as it
is, and `publish_device_data` looks at nothing else: after `connect` and `disconnect` a DDATA of the
pump is published. -/
theorem deviceData_after_disconnect :
    ¬ ∀ (config : EdgeNodeConfig) (clock : Clock) (actions : List Action),
        (∀ a ∈ actions, a.isBirth = false) →
        Throughout Allowed (Machine.run perform
          (start config (⟨0⟩ : InMemoryBdSeqStore) clock) actions).view.marks := by
  intro claim
  have h := claim pumpLine stopped [.connect silent, .disconnect, .publishDeviceData "pump" []]
    (by decide)
  have hmarks : (Machine.run perform (start pumpLine (⟨0⟩ : InMemoryBdSeqStore) stopped)
      [.connect silent, .disconnect, .publishDeviceData "pump" []]).view.marks =
      [.device "pump" .dData, .disconnect, .node .nDeath, .device "pump" .dBirth, .node .nBirth,
        .other, .other, .connect] := by decide +kernel
  rw [hmarks] at h
  obtain ⟨⟨hconnected, -⟩, -⟩ := throughout_cons.mp h
  simp [Connected] at hconnected

end SparkplugB
