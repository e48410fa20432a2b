/-
# What an edge says until it is gone

`Utterance` is what an edge says within a connection.  Over all of its connections it says one thing
more: that it leaves, when its user or a STATE of its primary host makes it disconnect.  `remarks` is
what each call of a user publishes, whatever the call is, and `perform_remarks` says what becomes of
the edge with it.
-/
import SparkplugB.Link.InStep

namespace SparkplugB

open Codec

/-! ## 1. Remarks -/

/-- What an edge says in one message: an utterance, or the NDEATH with which it leaves while these
devices are born. -/
inductive Remark where
  | say (u : Utterance)
  | leave (p : Payload) (born : List String)

namespace Remark

def bytes : Remark → Bytes
  | say u => u.bytes
  | leave p _ => encode p .birth

/-- As it is published; an NDEATH with QoS 1, like the will. -/
def message (group : GroupId) (edge : EdgeNodeId) : Remark → OutboundMessage
  | say u => u.message group edge
  | leave p _ =>
    { topic := (NodeMessage.death.topic group edge).toString
      qos := .atLeastOnce
      retain := false
      payload := encode p .birth }

/-- The event it stands for; a host lists the devices in order. -/
def event (group : GroupId) (edge : EdgeNodeId) : Remark → HostEvent
  | say u => u.event group edge
  | leave p born =>
    .nodeDeath group.str edge.str (p.timestamp.getD 0).toInt64
      (born.mergeSort fun a b => decide (a ≤ b))

/-- The message of the node that it is. -/
def kind : Remark → NodeMessage
  | say u => u.kind
  | leave _ _ => .death

theorem of_message (group : GroupId) (edge : EdgeNodeId) (remark : Remark) :
    NodeMessage.of (remark.message group edge).delivered = some (group, edge, remark.kind) := by
  cases remark with
  | say u => exact u.of_message group edge
  | leave p born => exact NodeMessage.of_topic group edge .death _

end Remark

/-- A remark as a host that holds the roster hears it: data with the names filled in, all else as it
is. -/
def Roster.makesOf (r : Roster) : Remark → Remark
  | .say u => .say (r.heard u)
  | .leave p born => .leave p born

/-- The roster after a remark; leaving takes nothing back. -/
def Roster.note (r : Roster) : Remark → Roster
  | .say u => r.hear u
  | .leave _ _ => r

theorem Roster.foldl_note_say (us : List Utterance) (r : Roster) :
    (us.map Remark.say).foldl Roster.note r = us.foldl Roster.hear r := by
  rw [List.foldl_map]
  rfl

namespace Observed

variable {S : Type}

/-- The NDEATH of an edge that disconnects, with its bdSeq and the time, and the devices that are
born. -/
def leaving (s : Observed S) : Remark := .leave (s.engine.ndeathPayload s.ms) s.engine.bornDevices

theorem message_leaving (s : Observed S) :
    s.leaving.message s.engine.config.group s.engine.config.edge = s.engine.ndeathMessage s.ms := rfl

/-- The edge that has taken note of a STATE: its timestamp is the last one accepted. -/
def mindful (s : Observed S) (message : IncomingMessage) (state : StatePayload) : Observed S :=
  (s.note (.handled message)).update fun node => { node with lastStateTs := some state.timestamp }

/-- The STATE of its primary host that the edge accepts with a message: one no older than the last
one. -/
def accepted? (s : Observed S) (message : IncomingMessage) : Option StatePayload :=
  (s.engine.config.primaryHostId.bind message.stateOf).filter fun state =>
    !s.engine.lastStateTs.any fun last => state.timestamp < last

theorem accepted?_eq_some {s : Observed S} {message : IncomingMessage} {state : StatePayload} :
    s.accepted? message = some state ↔ s.Accepts message state := by
  unfold accepted? Accepts
  rw [Option.filter_eq_some_iff, Option.bind_eq_some_iff]
  simp

/-- What a message makes the edge say in `handle_incoming`: its births, at an ONLINE STATE it has
waited for or an NCMD that asks for them, or its NDEATH, at an OFFLINE STATE. -/
def answers (s : Observed S) (message : IncomingMessage) (source : DataSource) : List Remark :=
  match s.accepted? message with
  | some state =>
    if state.online then
      if s.engine.state = .waitingForPrimaryHost then
        ((s.mindful message state).births source).map .say
      else []
    else
      if s.engine.state = .online then [(s.mindful message state).leaving] else []
  | none =>
    if s.asksRebirth message then
      ((s.note (.handled message)).debounced.births source).map .say
    else []

/-- What a call says, if `write` is what becomes of the metrics of data.  Unlike `uttered` it knows
of leaving, and of the primary host. -/
def remarks [BdSeqStore S] (write : List Metric → List Metric) (s : Observed S) :
    Action → List Remark
  | .connect source => (s.uttered write (.connect source)).map .say
  | .publishBirthSequence source => (s.births source).map .say
  | .publishNodeData metrics => (s.uttered write (.publishNodeData metrics)).map .say
  | .publishDeviceData device metrics =>
    (s.uttered write (.publishDeviceData device metrics)).map .say
  | .publishDeviceDeath device => (s.uttered write (.publishDeviceDeath device)).map .say
  | .handleIncoming message source => s.answers message source
  | .disconnect => [s.leaving]

/-- What a run of calls means, over any number of connections. -/
def account [BdSeqStore S] : Observed S → List Action → List Remark
  | _, [] => []
  | s, a :: rest => s.remarks id a ++ (s.perform a).account rest

/-- What a run of calls says on the wire. -/
def words [BdSeqStore S] : Observed S → List Action → List Remark
  | _, [] => []
  | s, a :: rest => s.remarks s.engine.toDataMetrics a ++ (s.perform a).words rest

/-! ## 2. What becomes of the edge -/

/-- **Everything a call can do**, with what it says: nothing, or wait, or a birth sequence, or one
message of data or of a device's death, or leave.  A `connect` whose store fails says nothing, but
may leave the edge with another bdSeq. -/
inductive Says [BdSeqStore S] (write : List Metric → List Metric) (s : Observed S) :
    Action → List Remark → Observed S → Prop
  | silent {a} {s' : Observed S} (same : s'.standing = s.standing)
      (bdSeq : s'.engine.bdSeq = s.engine.bdSeq) : Says write s a [] s'
  | unopened {source} {s' : Observed S} (fails : s.StoreFails) (same : s'.standing = s.standing) :
    Says write s (.connect source) [] s'
  | awaits {source} {s' : Observed S}
      (waits : s'.standing = { s.standing with state := .waitingForPrimaryHost }) :
    Says write s (.connect source) [] s'
  | births {a source} {s₀ s' : Observed S} (asks : a.source? = some source)
      (before : s₀.standing = s.standing) (after : s'.standing = (s₀.birth source).standing)
      (bdSeq : s'.engine.bdSeq = s₀.engine.bdSeq) :
    Says write s a ((s₀.births source).map .say) s'
  | nodeData {metrics} (on : s.engine.state = .online) :
    Says write s (.publishNodeData metrics)
      [.say (.nodeData (s.engine.sequenced (write metrics) s.ms))]
      (s.sent (s.engine.dataMessage (s.engine.nodeTopic .nData) metrics s.ms))
  | deviceData {device : DeviceId} {metrics} (born : device.str ∈ s.engine.bornDevices) :
    Says write s (.publishDeviceData device.str metrics)
      [.say (.deviceData device (s.engine.sequenced (write metrics) s.ms))]
      (s.sent (s.engine.dataMessage (s.engine.deviceTopic device .dData) metrics s.ms))
  | deviceDeath {device : DeviceId} (born : device.str ∈ s.engine.bornDevices) :
    Says write s (.publishDeviceDeath device.str)
      [.say (.deviceDeath device (s.engine.sequenced [] s.ms))]
      ((s.sent (s.engine.deviceDeathMessage device s.ms)).update fun node =>
        { node with bornDevices := s.engine.bornDevices.erase device.str })
  | leaves {a} {s₀ s' : Observed S} (before : s₀.standing = s.standing)
      (time : s₀.ms = s.ms) (bdSeq : s₀.engine.bdSeq = s.engine.bdSeq)
      (on : a = .disconnect ∨ s.engine.state = .online)
      (after : s'.standing = s₀.gone.standing) : Says write s a [s₀.leaving] s'

theorem bdSeq_birth (s : Observed S) (source : DataSource) :
    (s.birth source).engine.bdSeq = s.engine.bdSeq :=
  EdgeNode.foldl_field EdgeNode.bdSeq (g := deviceBirth source) (fun _ _ => rfl)
    s.engine.config.devices (s.nodeBirth source)

theorem bdSeq_debounced (s : Observed S) : s.debounced.engine.bdSeq = s.engine.bdSeq := by
  unfold debounced
  split <;> rfl

/-- A STATE that is not accepted is none of the primary host, or too old. -/
theorem accepted?_eq_none {s : Observed S} {message : IncomingMessage}
    (h : ∀ state, ¬ s.Accepts message state) : s.accepted? message = none := by
  cases haccepts : s.accepted? message with
  | none => rfl
  | some state => exact absurd (accepted?_eq_some.mp haccepts) (h state)

variable [BdSeqStore S]

omit [BdSeqStore S] in
/-- A message that is no STATE of the primary host. -/
theorem answers_of_other {s : Observed S} {message : IncomingMessage}
    (h : ∀ hostId, s.engine.config.primaryHostId = some hostId → message.stateOf hostId = none)
    (source : DataSource) :
    s.answers message source = if s.asksRebirth message then
      ((s.note (.handled message)).debounced.births source).map .say else [] := by
  have hnone : s.accepted? message = none := accepted?_eq_none fun state haccepts => by
    obtain ⟨⟨hostId, hsome, hof⟩, -⟩ := haccepts
    exact absurd (hof.symm.trans (h hostId hsome)) (by simp)
  unfold answers
  rw [hnone]

/-- What the edge does with a message. -/
theorem handle_says (write : List Metric → List Metric) (s : Observed S)
    (message : IncomingMessage) (source : DataSource) :
    Says write s (.handleIncoming message source) (s.answers message source)
      (s.perform (.handleIncoming message source)) := by
  have hnote := standing_note (e := .handled message) rfl s
  by_cases hasks : s.asksRebirth message = true
  · have htriggers := (s.asksRebirth_iff message).mp hasks
    have hnone : ∀ hostId, message.stateOf hostId = none := by
      obtain ⟨⟨group, edge, hparse⟩, -⟩ := htriggers
      exact fun hostId => IncomingMessage.stateOf_of_parse hparse (by simp)
    rw [answers_of_other (fun hostId _ => hnone hostId), if_pos hasks, perform_rebirth source htriggers]
    exact .births rfl ((standing_debounced _).trans hnote) rfl (bdSeq_birth _ source)
  · have hmove := s.perform_move (.handleIncoming message source)
    generalize s.perform (.handleIncoming message source) = s' at hmove ⊢
    cases hmove with
    | unheeded other =>
      rw [answers_of_other other, if_neg hasks]
      exact .silent hnote rfl
    | debounced other =>
      rw [answers_of_other (fun hostId _ => other hostId), if_neg hasks]
      exact .silent ((standing_debounced _).trans hnote) (bdSeq_debounced _)
    | rebirth triggers => exact absurd ((s.asksRebirth_iff message).mpr triggers) hasks
    | outdated old =>
      have hnone : s.accepted? message = none := accepted?_eq_none fun state haccepts => by
        obtain ⟨hostId, state', hsome, hof, hold⟩ := old
        obtain ⟨⟨hostId', hsome', hof'⟩, hnew⟩ := haccepts
        obtain rfl := Option.some.inj (hsome.symm.trans hsome')
        obtain rfl := Option.some.inj (hof.symm.trans hof')
        exact hnew hold
      unfold answers
      rw [hnone]
      dsimp only
      rw [if_neg hasks]
      exact .silent hnote rfl
    | followed accepts =>
      rename_i state
      have hmindful : (s.mindful message state).standing = s.standing := hnote
      have hstate : (s.note (.handled message)).engine.state = s.engine.state := rfl
      unfold answers followed
      rw [accepted?_eq_some.mpr accepts, hstate]
      dsimp only
      split
      · split
        · exact .births rfl hmindful rfl (bdSeq_birth _ source)
        · exact .silent hmindful rfl
      · split
        · rename_i hon
          exact .leaves hmindful rfl rfl (.inr hon) rfl
        · exact .silent hmindful rfl

omit [BdSeqStore S] in
/-- A call that hands the edge no message. -/
theorem unled_of_silent (s : Observed S) {a : Action} (h : a.message? = none) :
    s.engine.config.Unled a := by
  intro message hostId hmessage
  exact absurd (h.symm.trans hmessage) (by simp)

/-- A call that publishes no births keeps the bdSeq. -/
theorem bdSeq_perform (s : Observed S) {a : Action} (h : a.source? = none) :
    (s.perform a).engine.bdSeq = s.engine.bdSeq := by
  have hmove := s.perform_move a
  generalize s.perform a = s' at hmove ⊢
  cases hmove with
  | nodeDataRefused | nodeData | deviceDataRefused | deviceData | deviceDeathRefused | deviceDeath
  | disconnect => rfl
  | _ => exact absurd h (by simp [Action.source?])

/-- Data and DDEATHs are what they were. -/
theorem says_of_tells {write : List Metric → List Metric} {s s' : Observed S} {a : Action}
    {us : List Utterance} (h : Tells write s a us s') (hsource : a.source? = none)
    (hbdSeq : s'.engine.bdSeq = s.engine.bdSeq) : Says write s a (us.map .say) s' := by
  cases h with
  | silent same => exact .silent same hbdSeq
  | awaits waits => exact absurd hsource (by simp [Action.source?])
  | births asks before after => exact absurd (hsource.symm.trans asks) (by simp)
  | nodeData on => exact .nodeData on
  | deviceData born => exact .deviceData born
  | deviceDeath born => exact .deviceDeath born

/-- **Every call says what `remarks` says**, and does what goes with it; nothing is asked of the
call or of the edge. -/
theorem perform_remarks (write : List Metric → List Metric) (s : Observed S) (a : Action) :
    Says write s a (s.remarks write a) (s.perform a) := by
  cases a with
  | connect source =>
    rcases EdgeNode.run_connect source s with ⟨e, store, bdSeq, hfails, h⟩ |
      ⟨bdSeq, store, store', hload, hsave, h⟩
    · have hperform : s.perform (.connect source) = s.update (·.withBdSeq store bdSeq) :=
        congrArg EStateM.Result.state h
      have hnothing : s.uttered write (.connect source) = [] := by
        rw [uttered, opened?_of_fails hfails]
        split <;> rfl
      rw [hperform, remarks, hnothing]
      exact .unopened hfails rfl
    · have hperform : s.perform (.connect source) =
          (s.update (·.withBdSeq store' bdSeq)).session source := congrArg EStateM.Result.state h
      have hsame : (s.update (·.withBdSeq store' bdSeq)).engine.config.primaryHostId =
          s.engine.config.primaryHostId := rfl
      have hstanding := standing_connected (s.update (·.withBdSeq store' bdSeq))
      rw [hperform, remarks, uttered, opened?_of_ok hload hsave, Option.toList_some,
        List.flatMap_singleton]
      unfold session
      rw [hsame]
      cases s.engine.config.primaryHostId with
      | none => exact .births rfl hstanding rfl (bdSeq_birth _ source)
      | some hostId =>
        refine .awaits ?_
        have hsubscribed := standing_note (e := .subscribe s!"spBv1.0/STATE/{hostId}" .atLeastOnce)
          rfl (s.update (·.withBdSeq store' bdSeq)).connected
        exact congrArg (fun e : Standing => { e with state := .waitingForPrimaryHost })
          (hsubscribed.trans hstanding)
  | publishBirthSequence source =>
    have hperform : s.perform (.publishBirthSequence source) = s.birth source :=
      congrArg EStateM.Result.state (EdgeNode.run_publishBirthSequence source s)
    rw [hperform]
    exact .births rfl rfl rfl (bdSeq_birth s source)
  | handleIncoming message source => exact s.handle_says write message source
  | disconnect =>
    have hperform : s.perform .disconnect = s.gone :=
      congrArg EStateM.Result.state (EdgeNode.run_disconnect s)
    rw [hperform]
    exact .leaves rfl rfl rfl (.inl rfl) rfl
  | publishNodeData metrics =>
    exact says_of_tells (s.perform_tells write (s.unled_of_silent rfl) (by simp)) rfl
      (s.bdSeq_perform rfl)
  | publishDeviceData device metrics =>
    exact says_of_tells (s.perform_tells write (s.unled_of_silent rfl) (by simp)) rfl
      (s.bdSeq_perform rfl)
  | publishDeviceDeath device =>
    exact says_of_tells (s.perform_tells write (s.unled_of_silent rfl) (by simp)) rfl
      (s.bdSeq_perform rfl)

/-! ## 3. What is published -/

/-- No call changes the configuration. -/
theorem config_perform_all (s : Observed S) (a : Action) :
    (s.perform a).engine.config = s.engine.config := by
  have hsays := s.perform_remarks id a
  generalize s.remarks id a = us at hsays
  generalize s.perform a = s' at hsays ⊢
  cases hsays with
  | silent same bdSeq => exact congrArg Standing.config same
  | unopened fails same => exact congrArg Standing.config same
  | awaits waits => exact congrArg Standing.config waits
  | births asks before after bdSeq =>
    rename_i source s₀
    have hbirth : (s₀.birth source).engine.config = s₀.engine.config :=
      EdgeNode.foldl_field EdgeNode.config (g := deviceBirth source) (fun _ _ => rfl)
        s₀.engine.config.devices (s₀.nodeBirth source)
    exact (congrArg Standing.config after).trans (hbirth.trans (congrArg Standing.config before))
  | nodeData on => rfl
  | deviceData born => rfl
  | deviceDeath born => rfl
  | leaves before time bdSeq on after =>
    exact (congrArg Standing.config after).trans (congrArg Standing.config before)

omit [BdSeqStore S] in
theorem spoken_gone (s : Observed S) :
    s.gone.standing.spoken = s.standing.spoken ++ [s.engine.ndeathMessage s.ms] := by
  have hleft := standing_note (e := .disconnect) rfl
    (s.tick.note (.publish (s.engine.ndeathMessage s.ms)))
  exact (congrArg Standing.spoken hleft).trans
    (spoken_publish s.tick (s.engine.ndeathMessage s.ms))

/-- What a call says is what it publishes. -/
theorem spoken_remarks (s : Observed S) (a : Action) :
    (s.perform a).standing.spoken = s.standing.spoken ++
      (s.remarks s.engine.toDataMetrics a).map
        (Remark.message s.engine.config.group s.engine.config.edge) := by
  have hsays := s.perform_remarks s.engine.toDataMetrics a
  generalize s.remarks s.engine.toDataMetrics a = us at hsays ⊢
  generalize s.perform a = s' at hsays ⊢
  cases hsays with
  | silent same bdSeq =>
    rw [same]
    exact (List.append_nil _).symm
  | unopened fails same =>
    rw [same]
    exact (List.append_nil _).symm
  | awaits waits =>
    rw [waits]
    exact (List.append_nil _).symm
  | births asks before after bdSeq =>
    rename_i source s₀
    have hsame : s₀.engine.config = s.engine.config := congrArg Standing.config before
    have hmessages := map_message_births s₀ source
    rw [hsame] at hmessages
    rw [after, spoken_birth, before, List.map_map, ← hmessages]
    rfl
  | nodeData on => exact spoken_publish s _
  | deviceData born => exact spoken_publish s _
  | deviceDeath born => exact spoken_publish s _
  | leaves before time bdSeq on after =>
    rename_i s₀
    have hsame : s₀.engine.config = s.engine.config := congrArg Standing.config before
    have hleaving := s₀.message_leaving
    rw [hsame] at hleaving
    rw [after, spoken_gone, before, List.map_singleton, hleaving]

/-- **What a run says is what it publishes**, message by message, over any number of connections. -/
theorem spoken_words {group : GroupId} {edge : EdgeNodeId} :
    ∀ (actions : List Action) (s : Observed S), s.engine.config.group = group →
      s.engine.config.edge = edge →
      (Machine.run perform s actions).standing.spoken =
        s.standing.spoken ++ (s.words actions).map (Remark.message group edge) := by
  intro actions
  induction actions with
  | nil => exact fun s _ _ => (List.append_nil _).symm
  | cons a rest ih =>
    rintro s rfl rfl
    have hconfig := s.config_perform_all a
    have hlast := ih (s.perform a) (congrArg EdgeNodeConfig.group hconfig)
      (congrArg EdgeNodeConfig.edge hconfig)
    rw [Machine.run_cons, hlast, s.spoken_remarks a, words, List.map_append, List.append_assoc]

/-- The journal lists what the edge says. -/
theorem published_words (config : EdgeNodeConfig) (store : S) (clock : Clock)
    (actions : List Action) :
    published (journal config store clock actions) =
      ((start config store clock).words actions).map
        (Remark.message config.group config.edge) := by
  have hspoken := spoken_words actions (.start config store clock) rfl rfl
  exact hspoken.trans (List.nil_append _)

end Observed

end SparkplugB
