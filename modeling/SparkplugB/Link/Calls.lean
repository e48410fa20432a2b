/-
# What the calls of an edge say

An edge to which its primary host says nothing publishes births, data and DDEATHs until it
disconnects, and `uttered` says what each call publishes.  A host can tell nothing else of an edge
than its `Standing`: a call with nothing to say leaves it as it was, or makes it wait.
-/
import SparkplugB.Edge.Commands
import SparkplugB.Link.Resync
import SparkplugB.Link.Utterances

namespace SparkplugB

open Codec

/-! ## 1. What can be told of an edge -/

/-- What an entry of the journal publishes. -/
def Entry.published? : Entry → Option OutboundMessage
  | .publish message => some message
  | _ => none

/-- The messages that were published, in order; a journal has its last entry first. -/
def published (log : List Entry) : List OutboundMessage :=
  (log.filterMap Entry.published?).reverse

/-- The messages an edge has published, and the fields of `EdgeNode` that the next ones depend on;
the clock, the store, the bdSeq and the time of the last rebirth are left out. -/
structure Standing where
  config : EdgeNodeConfig
  state : EdgeState
  seq : Seq
  aliasing : Aliasing
  born : List String
  spoken : List OutboundMessage

/-- The call hands the edge no STATE of its primary host, so the edge is not made to wait by it, nor
to publish its births. -/
def EdgeNodeConfig.Unled (config : EdgeNodeConfig) (a : Action) : Prop :=
  ∀ message hostId, a.message? = some message → config.primaryHostId = some hostId →
    message.stateOf hostId = none

theorem EdgeNodeConfig.unled_of_none {config : EdgeNodeConfig} (h : config.primaryHostId = none)
    (a : Action) : config.Unled a := by
  intro message hostId _ hsome
  exact absurd (hsome.symm.trans h) (by simp)

namespace Observed

variable {S : Type}

def standing (s : Observed S) : Standing where
  config := s.engine.config
  state := s.engine.state
  seq := s.engine.seq
  aliasing := s.engine.aliasing
  born := s.engine.bornDevices
  spoken := published s.engine.transport.log

@[simp] theorem standing_tick (s : Observed S) : s.tick.standing = s.standing := rfl

theorem standing_note {e : Entry} (he : e.published? = none) (s : Observed S) :
    (s.note e).standing = s.standing := by
  have hlog : published (s.note e).engine.transport.log = published s.engine.transport.log := by
    show (List.filterMap Entry.published? (e :: s.engine.transport.log)).reverse = _
    rw [List.filterMap_cons, he]
    rfl
  unfold standing
  rw [hlog]
  rfl

theorem standing_debounced (s : Observed S) : s.debounced.standing = s.standing := by
  unfold debounced
  split <;> rfl

/-- The subscriptions of a new connection. -/
theorem standing_connected (s : Observed S) : s.connected.standing = s.standing := by
  have hloop : ∀ (topic : DeviceId → String) (devices : List DeviceId) (s : Observed S),
      (devices.foldl (fun s' device => s'.subscribe (topic device)) s).standing = s.standing := by
    intro topic devices
    induction devices with
    | nil => exact fun s => rfl
    | cons device rest ih =>
      intro s
      rw [List.foldl_cons, ih]
      exact standing_note rfl s
  unfold connected
  rw [hloop]
  exact (standing_note rfl _).trans (standing_note rfl s.tick)

/-- One more message. -/
theorem spoken_publish (s : Observed S) (message : OutboundMessage) :
    (s.note (.publish message)).standing.spoken = s.standing.spoken ++ [message] := by
  show published (.publish message :: s.engine.transport.log) = _
  unfold published
  rw [List.filterMap_cons]
  exact List.reverse_cons

/-- The messages of a birth sequence. -/
theorem spoken_birth (s : Observed S) (source : DataSource) :
    (s.birth source).standing.spoken = s.standing.spoken ++ s.birthMessages source := by
  have hmap : ∀ messages : List OutboundMessage,
      (messages.map Entry.publish).filterMap Entry.published? = messages := by
    intro messages
    rw [List.filterMap_map]
    exact List.filterMap_some
  show published (s.birth source).engine.transport.log = _
  rw [log_birth]
  unfold published
  rw [List.filterMap_append, List.reverse_append, List.filterMap_reverse, List.reverse_reverse, hmap]
  rfl

/-! ## 2. What a call says -/

/-- What `publish_birth_sequence` says: the NBIRTH, then the DBIRTHs. -/
def births (s : Observed S) (source : DataSource) : List Utterance :=
  .nodeBirth (s.nodeBirthPayload source) ::
    (s.birthsOfDevices source).map fun birth => .deviceBirth birth.1 birth.2

theorem map_message_births (s : Observed S) (source : DataSource) :
    (s.births source).map (Utterance.message s.engine.config.group s.engine.config.edge) =
      s.birthMessages source := by
  rw [births, List.map_cons, List.map_map]
  rfl

theorem map_event_births (s : Observed S) (source : DataSource) :
    (s.births source).map (Utterance.event s.engine.config.group s.engine.config.edge) =
      s.birthEvents source := by
  rw [births, List.map_cons, List.map_map]
  rfl

/-- Births are heard as they are. -/
theorem map_heard_births (s : Observed S) (source : DataSource) (r : Roster) :
    (s.births source).map r.heard = s.births source := by
  rw [births, List.map_cons, List.map_map]
  rfl

theorem foldl_hear_births (s : Observed S) (source : DataSource) (r : Roster) :
    (s.births source).foldl Roster.hear r = s.birthRoster source := by
  rw [births, List.foldl_cons, List.foldl_map]
  rfl

/-- The edge with the bdSeq of the next connection, as `connect` takes it from the store, unless the
store fails. -/
def opened? [BdSeqStore S] (s : Observed S) : Option (Observed S) :=
  match (BdSeqStore.loadNextDeath : EStateM String S UInt8).run s.engine.bdseqStore with
  | .ok bdSeq store =>
    match (BdSeqStore.storeNextDeath (bdSeq + 1)).run store with
    | .ok _ store' => some (s.update (·.withBdSeq store' bdSeq))
    | .error _ _ => none
  | .error _ _ => none

/-- The device of this name, if it is born and the name is a valid id; `publish_device_data` and
`publish_device_death` refuse any other. -/
def born? (s : Observed S) (device : String) : Option DeviceId :=
  if device ∈ s.engine.bornDevices then (Ident.new device : Result DeviceId).toOption else none

/-- Whether `handle_incoming` answers the message with a birth sequence: an NCMD that decodes with
its registry and asks for a rebirth, when the last one is not too recent. -/
def asksRebirth (s : Observed S) (message : IncomingMessage) : Bool :=
  match SparkplugTopic.parse message.topic with
  | .ok (.node _ _ .nCmd) =>
    (decode message.payload (some s.engine.aliasing.aliases)).toOption.any EdgeNode.isRebirth &&
      s.engine.rebirthDue s.clock.head.instant
  | _ => false

/-- What a call says within a connection, if `write` is what becomes of the metrics of data.  A call
that is refused says nothing, nor does `connect` while the edge waits for its primary host. -/
def uttered [BdSeqStore S] (write : List Metric → List Metric) (s : Observed S) :
    Action → List Utterance
  | .connect source =>
    if s.engine.config.primaryHostId.isNone then
      s.opened?.toList.flatMap fun s' => s'.connected.births source
    else []
  | .publishBirthSequence source => s.births source
  | .publishNodeData metrics =>
    if s.engine.state = .online then [.nodeData (s.engine.sequenced (write metrics) s.ms)] else []
  | .publishDeviceData device metrics =>
    (s.born? device).toList.map fun id => .deviceData id (s.engine.sequenced (write metrics) s.ms)
  | .publishDeviceDeath device =>
    (s.born? device).toList.map fun id => .deviceDeath id (s.engine.sequenced [] s.ms)
  | .handleIncoming message source =>
    if s.asksRebirth message then (s.note (.handled message)).debounced.births source else []
  | .disconnect => []

/-- How much a call says does not depend on what becomes of its data. -/
theorem length_uttered [BdSeqStore S] (write write' : List Metric → List Metric) (s : Observed S)
    (a : Action) : (s.uttered write a).length = (s.uttered write' a).length := by
  unfold uttered
  cases a with
  | publishNodeData metrics =>
    dsimp only
    split <;> rfl
  | publishDeviceData device metrics =>
    dsimp only
    cases s.born? device <;> rfl
  | _ => rfl

/-- What a call says on the wire, where `to_data_metrics` has put aliases for the names. -/
def said [BdSeqStore S] (s : Observed S) (a : Action) : List Utterance :=
  s.uttered s.engine.toDataMetrics a

/-- What a call means: the same messages, data with the metrics that the caller gives. -/
def meant [BdSeqStore S] (s : Observed S) (a : Action) : List Utterance := s.uttered id a

/-- What a run of calls says, in the order of publishing. -/
def speech [BdSeqStore S] : Observed S → List Action → List Utterance
  | _, [] => []
  | s, a :: rest => s.said a ++ (s.perform a).speech rest

/-- What a run of calls means.  It is what the application at the other end should learn, and says
nothing of hosts or bytes. -/
def tale [BdSeqStore S] : Observed S → List Action → List Utterance
  | _, [] => []
  | s, a :: rest => s.meant a ++ (s.perform a).tale rest

theorem asksRebirth_iff (s : Observed S) (message : IncomingMessage) :
    s.asksRebirth message = true ↔ s.Triggers message := by
  unfold asksRebirth Triggers
  constructor
  · intro h
    split at h
    · rename_i group edge hparse
      obtain ⟨hread, hdue⟩ := Bool.and_eq_true _ _ ▸ h
      obtain ⟨p, hp, hask⟩ := (Option.any_eq_true _ _).mp hread
      have hdec : decode message.payload (some s.engine.aliasing.aliases) = .ok p := by
        cases hd : decode message.payload (some s.engine.aliasing.aliases) with
        | error e =>
          rw [hd] at hp
          exact absurd hp (by simp [Except.toOption])
        | ok q =>
          rw [hd] at hp
          exact congrArg Except.ok (Option.some.inj hp)
      exact ⟨⟨group, edge, hparse⟩, ⟨p, hdec, hask⟩, hdue⟩
    · exact absurd h (by decide)
  · rintro ⟨⟨group, edge, hparse⟩, ⟨p, hdec, hask⟩, hdue⟩
    rw [hparse]
    dsimp only
    rw [hdec, hdue, Bool.and_true]
    exact hask

theorem str_of_born? {s : Observed S} {device : String} {id : DeviceId}
    (h : s.born? device = some id) : id.str = device ∧ device ∈ s.engine.bornDevices := by
  unfold born? at h
  split at h
  · rename_i hborn
    cases hid : (Ident.new device : Result DeviceId) with
    | error e =>
      rw [hid] at h
      exact absurd h (by simp [Except.toOption])
    | ok id' =>
      rw [hid] at h
      obtain rfl := Option.some.inj h
      obtain rfl := Ident.new_ok hid
      exact ⟨rfl, hborn⟩
  · exact absurd h (by simp)

/-! ## 3. What a call does -/

/-- **Everything a call can do** to the standing of an edge, with what it says: nothing at all, wait
for the primary host, one birth sequence, or one message of data or of a device's death. -/
inductive Tells (write : List Metric → List Metric) (s : Observed S) :
    Action → List Utterance → Observed S → Prop
  | silent {a} {s' : Observed S} (same : s'.standing = s.standing) : Tells write s a [] s'
  | awaits {source} {s' : Observed S}
      (waits : s'.standing = { s.standing with state := .waitingForPrimaryHost }) :
    Tells write s (.connect source) [] s'
  | births {a source} {s₀ s' : Observed S} (asks : a.source? = some source) (before : s₀.standing = s.standing)
      (after : s'.standing = (s₀.birth source).standing) : Tells write s a (s₀.births source) s'
  | nodeData {metrics} (on : s.engine.state = .online) :
    Tells write s (.publishNodeData metrics)
      [.nodeData (s.engine.sequenced (write metrics) s.ms)]
      (s.sent (s.engine.dataMessage (s.engine.nodeTopic .nData) metrics s.ms))
  | deviceData {device : DeviceId} {metrics} (born : device.str ∈ s.engine.bornDevices) :
    Tells write s (.publishDeviceData device.str metrics)
      [.deviceData device (s.engine.sequenced (write metrics) s.ms)]
      (s.sent (s.engine.dataMessage (s.engine.deviceTopic device .dData) metrics s.ms))
  | deviceDeath {device : DeviceId} (born : device.str ∈ s.engine.bornDevices) :
    Tells write s (.publishDeviceDeath device.str)
      [.deviceDeath device (s.engine.sequenced [] s.ms)]
      ((s.sent (s.engine.deviceDeathMessage device s.ms)).update fun node =>
        { node with bornDevices := s.engine.bornDevices.erase device.str })

variable [BdSeqStore S]

theorem opened?_of_fails {s : Observed S} (h : s.StoreFails) : s.opened? = none := by
  unfold opened?
  rcases h with ⟨e, store, hload⟩ | ⟨bdSeq, store, e, store', hload, hsave⟩
  · rw [hload]
  · rw [hload]
    dsimp only
    rw [hsave]

theorem opened?_of_ok {s : Observed S} {bdSeq : UInt8} {store store' : S}
    (hload : (BdSeqStore.loadNextDeath : EStateM String S UInt8).run s.engine.bdseqStore =
      .ok bdSeq store)
    (hsave : (BdSeqStore.storeNextDeath (bdSeq + 1)).run store = .ok () store') :
    s.opened? = some (s.update (·.withBdSeq store' bdSeq)) := by
  unfold opened?
  rw [hload]
  dsimp only
  rw [hsave]

/-- Handling a command that asks for a rebirth when one is due. -/
theorem perform_rebirth {s : Observed S} {message : IncomingMessage} (source : DataSource)
    (h : s.Triggers message) :
    s.perform (.handleIncoming message source) =
      (s.note (.handled message)).rebirth source := by
  obtain ⟨⟨group, edge, hparse⟩, ⟨p, hdec, hask⟩, hdue⟩ := h
  have hrun : (EdgeNode.handleIncoming message source).run (s.note (.handled message)) =
      .ok .rebirthed ((s.note (.handled message)).rebirth source) := by
    have hdue' : (s.note (.handled message)).engine.rebirthDue
      (s.note (.handled message)).clock.head.instant = true := hdue
    rw [EdgeNode.handleIncoming_nodeCommand hparse,
      EdgeNode.run_onNodeCommand (s := s.note (.handled message)) hdec, if_pos hask, if_pos hdue']
  show (EStateM.run (EdgeNode.handleIncoming message source >>= fun _ => pure ())
    (s.note (.handled message))).state = _
  rw [EStateM.bind_ok hrun]
  rfl

/-- Any other message leaves the standing as it was, unless the primary host speaks (`hunled`). -/
theorem standing_handleIncoming {s : Observed S} {message : IncomingMessage} (source : DataSource)
    (hunled : s.engine.config.Unled (.handleIncoming message source)) (h : ¬ s.Triggers message) :
    (s.perform (.handleIncoming message source)).standing = s.standing := by
  have hnote := standing_note (e := .handled message) rfl s
  have hmove := s.perform_move (.handleIncoming message source)
  generalize s.perform (.handleIncoming message source) = s' at hmove ⊢
  cases hmove with
  | unheeded other => exact hnote
  | debounced other => exact (standing_debounced _).trans hnote
  | rebirth triggers => exact absurd triggers h
  | outdated old =>
    obtain ⟨hostId, state, hsome, hof, -⟩ := old
    exact absurd (hof.symm.trans (hunled message hostId rfl hsome)) (by simp)
  | followed accepts =>
    obtain ⟨⟨hostId, hsome, hof⟩, -⟩ := accepts
    exact absurd (hof.symm.trans (hunled message hostId rfl hsome)) (by simp)

/-- **Every call says what `uttered` says**, and does what goes with it, if it stays connected and
the primary host says nothing (`hunled`). -/
theorem perform_tells (write : List Metric → List Metric) (s : Observed S) {a : Action}
    (hunled : s.engine.config.Unled a) (hstays : a ≠ .disconnect) :
    Tells write s a (s.uttered write a) (s.perform a) := by
  cases a with
  | connect source =>
    rcases EdgeNode.run_connect source s with ⟨e, store, bdSeq, hfails, h⟩ |
      ⟨bdSeq, store, store', hload, hsave, h⟩
    · have hperform : s.perform (.connect source) = s.update (·.withBdSeq store bdSeq) :=
        congrArg EStateM.Result.state h
      have hnothing : s.uttered write (.connect source) = [] := by
        rw [uttered, opened?_of_fails hfails]
        split <;> rfl
      rw [hperform, hnothing]
      exact .silent rfl
    · have hperform : s.perform (.connect source) =
          (s.update (·.withBdSeq store' bdSeq)).session source := congrArg EStateM.Result.state h
      have hsame : (s.update (·.withBdSeq store' bdSeq)).engine.config.primaryHostId =
          s.engine.config.primaryHostId := rfl
      have hstanding := standing_connected (s.update (·.withBdSeq store' bdSeq))
      rw [hperform, uttered, opened?_of_ok hload hsave, Option.toList_some, List.flatMap_singleton]
      unfold session
      rw [hsame]
      cases s.engine.config.primaryHostId with
      | none => exact .births rfl hstanding rfl
      | some hostId =>
        refine .awaits ?_
        have hsubscribed := standing_note (e := .subscribe s!"spBv1.0/STATE/{hostId}" .atLeastOnce)
          rfl (s.update (·.withBdSeq store' bdSeq)).connected
        exact congrArg (fun e : Standing => { e with state := .waitingForPrimaryHost })
          (hsubscribed.trans hstanding)
  | publishBirthSequence source =>
    have hperform : s.perform (.publishBirthSequence source) = s.birth source :=
      congrArg EStateM.Result.state (EdgeNode.run_publishBirthSequence source s)
    rw [hperform]
    exact .births rfl rfl rfl
  | publishNodeData metrics =>
    rw [uttered]
    by_cases hon : s.engine.state = .online
    · have hperform : s.perform (.publishNodeData metrics) = _ :=
        congrArg EStateM.Result.state (EdgeNode.run_publishNodeData hon)
      rw [hperform, if_pos hon]
      exact .nodeData hon
    · obtain ⟨e, h⟩ := EdgeNode.run_publishNodeData_refused metrics hon
      have hperform : s.perform (.publishNodeData metrics) = s := congrArg EStateM.Result.state h
      rw [hperform, if_neg hon]
      exact .silent rfl
  | publishDeviceData device metrics =>
    rw [uttered, born?]
    by_cases hborn : device ∈ s.engine.bornDevices
    · have h := @EdgeNode.run_publishDeviceData S device metrics s hborn
      rw [if_pos hborn]
      cases hid : (Ident.new device : Result DeviceId) with
      | error e =>
        rw [hid] at h
        have hperform : s.perform (.publishDeviceData device metrics) = s :=
          congrArg EStateM.Result.state h
        rw [hperform]
        exact .silent rfl
      | ok id =>
        rw [hid] at h
        have hperform : s.perform (.publishDeviceData device metrics) = _ :=
          congrArg EStateM.Result.state h
        rw [hperform]
        obtain rfl := Ident.new_ok hid
        exact .deviceData hborn
    · obtain ⟨e, h⟩ := EdgeNode.run_publishDeviceData_refused metrics (.inl hborn)
      have hperform : s.perform (.publishDeviceData device metrics) = s :=
        congrArg EStateM.Result.state h
      rw [hperform, if_neg hborn]
      exact .silent rfl
  | publishDeviceDeath device =>
    rw [uttered, born?]
    by_cases hborn : device ∈ s.engine.bornDevices
    · have h := EdgeNode.run_publishDeviceDeath hborn
      rw [if_pos hborn]
      cases hid : (Ident.new device : Result DeviceId) with
      | error e =>
        rw [hid] at h
        have hperform : s.perform (.publishDeviceDeath device) = s :=
          congrArg EStateM.Result.state h
        rw [hperform]
        exact .silent rfl
      | ok id =>
        rw [hid] at h
        have hperform : s.perform (.publishDeviceDeath device) = _ :=
          congrArg EStateM.Result.state h
        rw [hperform]
        obtain rfl := Ident.new_ok hid
        exact .deviceDeath hborn
    · obtain ⟨e, h⟩ := EdgeNode.run_publishDeviceDeath_refused (.inl hborn)
      have hperform : s.perform (.publishDeviceDeath device) = s :=
        congrArg EStateM.Result.state h
      rw [hperform, if_neg hborn]
      exact .silent rfl
  | handleIncoming message source =>
    rw [uttered]
    by_cases hasks : s.asksRebirth message = true
    · rw [if_pos hasks, perform_rebirth source ((s.asksRebirth_iff message).mp hasks)]
      exact .births rfl ((standing_debounced _).trans (standing_note rfl s)) rfl
    · rw [if_neg hasks]
      exact .silent (standing_handleIncoming source hunled
        fun htriggers => hasks ((s.asksRebirth_iff message).mpr htriggers))
  | disconnect => exact absurd rfl hstays

/-! ## 4. What is published -/

theorem config_perform (s : Observed S) {a : Action} (hunled : s.engine.config.Unled a)
    (hstays : a ≠ .disconnect) : (s.perform a).engine.config = s.engine.config := by
  have htells := perform_tells id s hunled hstays
  generalize s.uttered id a = us at htells
  generalize s.perform a = s' at htells ⊢
  cases htells with
  | silent same => exact congrArg Standing.config same
  | awaits waits => exact congrArg Standing.config waits
  | births asks before after =>
    rename_i source s₀
    have hbirth : (s₀.birth source).engine.config = s₀.engine.config :=
      EdgeNode.foldl_field EdgeNode.config (g := deviceBirth source) (fun _ _ => rfl)
        s₀.engine.config.devices (s₀.nodeBirth source)
    exact (congrArg Standing.config after).trans (hbirth.trans (congrArg Standing.config before))
  | nodeData on => rfl
  | deviceData born => rfl
  | deviceDeath born => rfl

/-- What a call says is what it publishes, as messages of the edge's own group and name. -/
theorem spoken_perform (s : Observed S) {a : Action} (hunled : s.engine.config.Unled a)
    (hstays : a ≠ .disconnect) :
    (s.perform a).standing.spoken = s.standing.spoken ++
      (s.said a).map (Utterance.message s.engine.config.group s.engine.config.edge) := by
  have htells := perform_tells s.engine.toDataMetrics s hunled hstays
  unfold said
  generalize s.uttered s.engine.toDataMetrics a = us at *
  generalize s.perform a = s' at *
  cases htells with
  | silent same =>
    rw [same]
    exact (List.append_nil _).symm
  | awaits waits =>
    rw [waits]
    exact (List.append_nil _).symm
  | births asks before after =>
    rename_i source s₀
    have hsame : s₀.engine.config = s.engine.config := congrArg Standing.config before
    rw [← hsame, map_message_births, after, spoken_birth, before]
  | nodeData on => exact spoken_publish s _
  | deviceData born => exact spoken_publish s _
  | deviceDeath born => exact spoken_publish s _

/-- **What a run says is what it publishes**, message by message, in every run within a connection
in which the primary host says nothing. -/
theorem spoken_run {group : GroupId} {edge : EdgeNodeId} :
    ∀ (actions : List Action) (s : Observed S), (∀ a ∈ actions, s.engine.config.Unled a) →
      s.engine.config.group = group → s.engine.config.edge = edge →
      .disconnect ∉ actions →
      (Machine.run perform s actions).standing.spoken =
        s.standing.spoken ++ (s.speech actions).map (Utterance.message group edge) := by
  intro actions
  induction actions with
  | nil => exact fun s _ _ _ _ => (List.append_nil _).symm
  | cons a rest ih =>
    rintro s hunled rfl rfl hstays
    obtain ⟨hfirst, hrest⟩ := not_or.mp (mt List.mem_cons.mpr hstays)
    obtain ⟨hfirst', hrest'⟩ := List.forall_mem_cons.mp hunled
    have hconfig := s.config_perform hfirst' (Ne.symm hfirst)
    have hlast := ih (s.perform a) (hconfig ▸ hrest') (congrArg EdgeNodeConfig.group hconfig)
      (congrArg EdgeNodeConfig.edge hconfig) hrest
    rw [Machine.run_cons, hlast, s.spoken_perform hfirst' (Ne.symm hfirst), speech,
      List.map_append, List.append_assoc]

/-- Without aliases, data goes over the wire as it is meant. -/
theorem said_plain {s : Observed S} (huse : s.engine.config.useAliases = false) (a : Action) :
    s.said a = s.meant a := by
  have hid : s.engine.toDataMetrics = id := by
    funext metrics
    unfold EdgeNode.toDataMetrics
    rw [huse]
    rfl
  unfold said meant
  rw [hid]

theorem speech_plain :
    ∀ (actions : List Action) (s : Observed S), (∀ a ∈ actions, s.engine.config.Unled a) →
      s.engine.config.useAliases = false → .disconnect ∉ actions →
      s.speech actions = s.tale actions := by
  intro actions
  induction actions with
  | nil => exact fun _ _ _ _ => rfl
  | cons a rest ih =>
    intro s hunled huse hstays
    obtain ⟨hfirst, hrest⟩ := not_or.mp (mt List.mem_cons.mpr hstays)
    obtain ⟨hfirst', hrest'⟩ := List.forall_mem_cons.mp hunled
    have hconfig := s.config_perform hfirst' (Ne.symm hfirst)
    rw [speech, tale, said_plain huse, ih (s.perform a) (hconfig ▸ hrest') (hconfig ▸ huse) hrest]

end Observed

end SparkplugB
