/-
# A loss and its repair

Whatever a host has missed of an edge, and whatever it has made of the rest: at the next anomaly it
asks the edge for a rebirth, unless it has asked a moment ago.  The edge publishes its births when the
request reaches it, unless it has answered one a moment ago; and a host that hears these births, and
what the edge says after them, surfaces all of it, whatever it has heard in between.
-/
import SparkplugB.Host.Requests
import SparkplugB.Link.Sessions

namespace SparkplugB

open Codec HostApplication Machine

/-! ## 1. The host asks -/

namespace HostApplication

variable {group : GroupId} {edge : EdgeNodeId} {m : NodeMessage}

/-- A request whose window has passed, on a transport that keeps a journal. -/
theorem run_rebirth_recorded (host : HostApplication Recorder) {now : Reading}
    (hdue : (host.node (key group edge)).Due host.config.rebirthDebounce now.instant) :
    ((rebirth now group edge).run host).outcome = .ok (.rebirthRequested group.str edge.str) ∧
      ((rebirth now group edge).run host).state.transport.log =
        .publish (rebirthRequest now group edge) :: host.transport.log := by
  rcases NodeState.takeRebirthSlot_eq (host.node (key group edge)) host.config.rebirthDebounce
    now.instant with ⟨-, hslot⟩ | ⟨hnot, -⟩
  · unfold rebirth
    simp only [EStateM.run_bind, EStateM.run_get, hslot, EStateM.run_set, if_true]
    exact ⟨rfl, rfl⟩
  · exact absurd hdue hnot

/-- **The host asks** for a rebirth at an anomaly, with one NCMD that it publishes, if the last
request was long enough ago (`hdue`). -/
theorem asks_at_anomaly (host : HostApplication Recorder) {input : Reading × IncomingMessage}
    (hof : NodeMessage.of input.2 = some (group, edge, m))
    (hanom : (host.node (key group edge)).Anomalous input.2.payload m)
    (hdue : (host.node (key group edge)).Due host.config.rebirthDebounce input.1.instant) :
    host.outcome input = .ok (.rebirthRequested group.str edge.str) ∧
      (host.next input).transport.log =
        .publish (rebirthRequest input.1 group edge) :: host.transport.log := by
  obtain ⟨verdict, after, ht, halike⟩ := handleIncoming_takes input.1 host hof
  obtain rfl := ht.verdict_iff.mpr hanom
  have hdue' : ((host.putNode (key group edge) after).node (key group edge)).Due
      (host.putNode (key group edge) after).config.rebirthDebounce input.1.instant := by
    rw [node_putNode, if_pos rfl]
    unfold NodeState.Due
    rw [ht.lastRebirth]
    exact hdue
  obtain ⟨hout, hlog⟩ := run_rebirth_recorded (host.putNode (key group edge) after) hdue'
  refine ⟨halike.outcome.trans hout, ?_⟩
  exact (congrArg Recorder.log halike.state.transport).trans hlog

/-- The request is short at any time. -/
theorem length_rebirthRequest (now : Reading) (group : GroupId) (edge : EdgeNodeId) :
    (rebirthRequest now group edge).payload.length < 2 ^ 63 := by
  have hmetrics : (Codec.encodeMetrics false
      [Metric.new NODE_CONTROL_REBIRTH (.boolean true)]).length ≤ 64 := by decide +kernel
  have htag : (Writer.tag 1 WIRE_VARINT).length ≤ 64 := by decide +kernel
  have hstamp := Writer.length_writeVarint_le (toUInt64OrZero now.hostMs)
  have hpayload : (rebirthRequest now group edge).payload =
      Writer.tag 1 WIRE_VARINT ++ Writer.writeVarint (toUInt64OrZero now.hostMs) ++
        Codec.encodeMetrics false [Metric.new NODE_CONTROL_REBIRTH (.boolean true)] ++ [] ++ [] ++
          [] := rfl
  rw [hpayload]
  simp only [List.length_append, List.length_nil]
  omega

/-- What the host sends asks every edge that reads it. -/
theorem asksRebirth_rebirthRequest (now : Reading) (group : GroupId) (edge : EdgeNodeId) :
    (rebirthRequest now group edge).delivered.AsksRebirth := by
  refine ⟨⟨group, edge, SparkplugTopic.parse_toString (t := .node group edge .nCmd)
    ⟨rfl, by decide⟩⟩, _, decode_birth (fun m hm => ?_) ?_
    (length_rebirthRequest now group edge) none, rfl⟩
  · obtain rfl := List.mem_singleton.mp hm
    exact ⟨trivial, trivial⟩
  · exact Nat.zero_le _

end HostApplication

/-! ## 2. The edge answers -/

namespace Told

variable {S : Type} [BdSeqStore S]

/-- The births with which an edge answers a request that is due. -/
theorem remarks_of_request {x : Told S} {request : IncomingMessage} (hasks : request.AsksRebirth)
    (hdue : x.edge.engine.rebirthDue x.edge.clock.head.instant = true) (source : DataSource)
    (write : List Metric → List Metric) :
    x.edge.remarks write (.handleIncoming request source) =
      ((x.edge.note (.handled request)).debounced.births source).map .say := by
  have hnone : ∀ hostId, request.stateOf hostId = none := by
    obtain ⟨⟨group, edge, hparse⟩, -⟩ := hasks
    exact fun hostId => IncomingMessage.stateOf_of_parse hparse (by simp)
  have hrebirth : x.edge.asksRebirth request = true := by
    rw [Observed.asksRebirth_eq hasks]
    exact hdue
  rw [Observed.remarks, Observed.answers_of_other (fun hostId _ => hnone hostId), if_pos hrebirth]

/-- **The edge answers** a request with its births, and every host that hears the answer is abreast
of the edge then, whatever it held before. -/
theorem conveys_answer {T : Type} [MqttTransport T] {config : EdgeNodeConfig} {x : Told S}
    (hconfig : x.edge.engine.config = config) {request : IncomingMessage}
    {source : DataSource} (hasks : request.AsksRebirth)
    (hdue : x.edge.engine.rebirthDue x.edge.clock.head.instant = true)
    (hplayable : x.Playable config (.handleIncoming request source)) :
    Conveys T config.group config.edge (fun _ => True)
      ((x.edge.remarks x.edge.engine.toDataMetrics (.handleIncoming request source)).map
        (Remark.message config.group config.edge))
      (((x.edge.remarks x.edge.engine.toDataMetrics (.handleIncoming request source)).map
        x.roster.makesOf).map (Remark.event config.group config.edge))
      (x.act (.handleIncoming request source)).Abreast := by
  obtain ⟨hplays, -, hsize⟩ := hplayable
  have hperform : x.edge.perform (.handleIncoming request source) =
      (x.edge.note (.handled request)).rebirth source := by
    refine Observed.perform_rebirth source ((x.edge.asksRebirth_iff request).mp ?_)
    rw [Observed.asksRebirth_eq hasks]
    exact hdue
  rw [remarks_of_request hasks hdue] at hsize ⊢
  have hsame : (x.edge.note (.handled request)).debounced.engine.config = config :=
    (congrArg Standing.config ((Observed.standing_debounced _).trans
      (Observed.standing_note (e := .handled request) rfl x.edge))).trans hconfig
  have hfits : (x.edge.note (.handled request)).debounced.BirthFits source := by
    refine Observed.birthFits _ ((hsame ▸ hplays source rfl).1) fun message hmessage => ?_
    rw [← Observed.map_message_births] at hmessage
    obtain ⟨u, hu, rfl⟩ := List.mem_map.mp hmessage
    exact hsize _ (List.mem_map_of_mem hu)
  have hbirths := conveys_births (T := T) hfits x.roster
  rw [hsame] at hbirths
  refine hbirths.mono (fun _ _ => trivial) fun node hnode _ => ?_
  unfold act
  rw [remarks_of_request hasks hdue, Roster.foldl_note_say, Observed.foldl_hear_births, hperform]
  exact hnode

/-- Where proper calls lead. -/
theorem settled_run {config : EdgeNodeConfig} :
    ∀ (actions : List Action) (x : Told S), x.Settled → x.edge.engine.config = config →
      Always Told.act (Playable config) x actions →
      (run Told.act x actions).Settled ∧ (run Told.act x actions).edge.engine.config = config := by
  intro actions
  induction actions with
  | nil => exact fun x h hconfig _ => ⟨h, hconfig⟩
  | cons a rest ih =>
    rintro x h rfl ⟨⟨hplays, hproper, hsize⟩, hrest⟩
    exact ih (x.act a) (conveys_act (T := Recorder) h hplays hproper hsize).2
      (x.edge.config_perform_all a) hrest

/-- The edge of a run. -/
theorem edge_run_act :
    ∀ (actions : List Action) (x : Told S),
      (run Told.act x actions).edge = run Observed.perform x.edge actions := by
  intro actions
  induction actions with
  | nil => exact fun _ => rfl
  | cons a rest ih => exact fun x => ih (x.act a)

end Told

theorem Observed.words_append {S : Type} [BdSeqStore S] :
    ∀ (actions rest : List Action) (s : Observed S),
      s.words (actions ++ rest) = s.words actions ++ (run Observed.perform s actions).words rest := by
  intro actions rest
  induction actions with
  | nil => exact fun _ => rfl
  | cons a actions ih =>
    intro s
    rw [List.cons_append, words, words, ih, List.append_assoc]
    rfl

/-- What is published from some moment on. -/
theorem Observed.published_append {S : Type} [BdSeqStore S] (config : EdgeNodeConfig) (store : S)
    (clock : Clock) (before after : List Action) :
    published (journal config store clock (before ++ after)) =
      published (journal config store clock before) ++
        ((run perform (start config store clock) before).words after).map
          (Remark.message config.group config.edge) := by
  rw [published_words, published_words, words_append, List.map_append]

/-! ## 3. The loop -/

namespace HostApplication

/-- The calls of an edge from the moment on at which it is handed the request of a host; the edge
rebirths with `source`. -/
def answering (config : EdgeNodeConfig) (now : Reading) (source : DataSource)
    (after : List Action) : List Action :=
  .handleIncoming (rebirthRequest now config.group config.edge).delivered source :: after

/-- **A loss is repaired.**  At an anomaly the host asks the edge for a rebirth, and once the edge
has been handed the request, the host surfaces everything that the edge says from then on, births
first, whatever the edge has said and the host has heard before, whatever it is handed in between
(`between`), and whatever it hears of other nodes.  Neither side may be within its debounce (`hdue`,
`hready`), the sources play by the rules of births (`hplays`), and data follows its birth
(`hproper`). -/
theorem loss_repaired {S : Type} [BdSeqStore S] (host : HostApplication Recorder)
    (config : EdgeNodeConfig) (store : S) (clock : Clock) (before after : List Action)
    (source : DataSource) (anomaly : Reading × IncomingMessage) (m : NodeMessage)
    (messages : List OutboundMessage) (between inputs : List (Reading × IncomingMessage))
    (hof : NodeMessage.of anomaly.2 = some (config.group, config.edge, m))
    (hanom : (host.node (key config.group config.edge)).Anomalous anomaly.2.payload m)
    (hdue : (host.node (key config.group config.edge)).Due host.config.rebirthDebounce
      anomaly.1.instant)
    (hdevices : config.devices.Nodup)
    (hplays : ∀ a ∈ before ++ answering config anomaly.1 source after, ∀ source,
      a.source? = some source → source.Plays config.devices)
    (hproper : Always Told.act Told.Proper (.start config store clock)
      (before ++ answering config anomaly.1 source after))
    (hsized : Sized (journal config store clock
      (before ++ answering config anomaly.1 source after)))
    (hready : (run Observed.perform (.start config store clock) before).engine.rebirthDue
      (run Observed.perform (.start config store clock) before).clock.head.instant = true)
    (hsent : published (journal config store clock
        (before ++ answering config anomaly.1 source after)) =
      published (journal config store clock before) ++ messages)
    (hheard : Delivers messages (inputs.filter (concerns config.group config.edge))) :
    host.outcome anomaly = .ok (.rebirthRequested config.group.str config.edge.str) ∧
      (host.next anomaly).transport.log =
        .publish (rebirthRequest anomaly.1 config.group config.edge) :: host.transport.log ∧
      ((run next (host.next anomaly) between).outcomesOf config.group config.edge inputs).map
          (Except.map HostEvent.unaliased) =
        ((((run Observed.perform (.start config store clock) before).account
          (answering config anomaly.1 source after)).map
            (Remark.event config.group config.edge)).map HostEvent.unaliased).map .ok := by
  obtain ⟨hout, hlog⟩ := asks_at_anomaly host hof hanom hdue
  refine ⟨hout, hlog, ?_⟩
  have hcalls := Told.playable_of_journal hplays hproper hsized
  rw [always_append] at hcalls
  obtain ⟨hbefore, hanswer, hafter⟩ := hcalls
  obtain ⟨hsettled, hconfig⟩ := Told.settled_run before (.start config store clock)
    (Told.settled_start hdevices store clock) rfl hbefore
  have hedge := Told.edge_run_act before (Told.start config store clock)
  have hmessages : messages = ((run Observed.perform (.start config store clock) before).words
      (answering config anomaly.1 source after)).map (Remark.message config.group config.edge) := by
    rw [Observed.published_append] at hsent
    exact (List.append_cancel_left hsent).symm
  have hstart : (Told.start config store clock).edge = .start config store clock := rfl
  rw [hstart] at hedge
  rw [← hedge] at hready hmessages ⊢
  generalize run Told.act (Told.start config store clock) before = x at *
  have hfirst := Told.conveys_answer (T := Recorder) hconfig
    (asksRebirth_rebirthRequest anomaly.1 config.group config.edge) hready hanswer
  obtain ⟨hplays', hproper', hsize'⟩ := hanswer
  have hnext := (Told.conveys_act (T := Recorder) hsettled (hconfig ▸ hplays') hproper' hsize').2
  obtain ⟨hrest, hmeant⟩ := Told.conveys_acts (T := Recorder) after _ hnext
    ((x.edge.config_perform_all _).trans hconfig) hafter
  have hall := hfirst.append hrest
  rw [← List.map_append, ← List.map_append] at hall
  rw [hmessages] at hheard
  obtain ⟨houtcomes, -⟩ := hall.amid Recorder.publishes (run next (host.next anomaly) between)
    inputs hheard trivial
  refine map_unaliased_ok houtcomes ?_
  rw [List.map_append, Told.makesOf_unaliased hsettled hproper', hmeant, ← List.map_append]
  rfl

/-- The line is born unheard, and reports its temperature once it has been asked for its births. -/
def unheard : List Action := [.connect metered]

def resumed : List Action := [.publishNodeData [Metric.new "temperature" (.int32 22)]]

/-- An NDATA of the line is the first that the host hears of it. -/
theorem loss_repaired_unheard :
    ((startedHost.next (noon, lineMessage .nData (some 1) .data)).outcomesOf pumpLine.group
        pumpLine.edge ((((run Observed.perform (.start pumpLine (⟨0⟩ : InMemoryBdSeqStore) stopped)
          unheard).words (answering pumpLine noon metered resumed)).map
            (Remark.message pumpLine.group pumpLine.edge)).map fun message =>
              (noon, message.delivered))).map (Except.map HostEvent.unaliased) =
      ((((run Observed.perform (.start pumpLine (⟨0⟩ : InMemoryBdSeqStore) stopped) unheard).account
        (answering pumpLine noon metered resumed)).map
          (Remark.event pumpLine.group pumpLine.edge)).map HostEvent.unaliased).map .ok := by
  have hdue : (startedHost.node (key pumpLine.group pumpLine.edge)).Due
      startedHost.config.rebirthDebounce noon.instant := by
    have hnever : (startedHost.node (key pumpLine.group pumpLine.edge)).lastRebirth = none := by
      decide +kernel
    rintro t ht
    rw [hnever] at ht
    cases ht
  have hpresents : metered.Plays pumpLine.devices := by decide
  have hplays : ∀ a ∈ unheard ++ answering pumpLine noon metered resumed, ∀ source,
      a.source? = some source → source.Plays pumpLine.devices := by
    simpa [unheard, answering, resumed, Action.source?] using hpresents
  have hsilent : ∀ (x : Told InMemoryBdSeqStore) {a : Action}, a.data? = none → x.Unshadowed a :=
    fun x a hdata target metrics h => absurd (hdata.symm.trans h) (by simp)
  have hproper : Always Told.act Told.Proper (.start pumpLine (⟨0⟩ : InMemoryBdSeqStore) stopped)
      (unheard ++ answering pumpLine noon metered resumed) := by
    refine ⟨proper_of (orderly_of_silent _ rfl (by simp)) (hsilent _ rfl)
      (by simp [Action.needsSession]) (by decide +kernel),
      proper_of (orderly_of_silent _ rfl (by simp)) (hsilent _ rfl)
      (by simp [Action.needsSession]) (by decide +kernel), ?_, trivial⟩
    refine proper_of (orderly_of_metric _ rfl ⟨by simp [Metric.new], "temperature", rfl,
      by decide +kernel⟩ (by decide) (by simp)) ?_ (by simp [Action.needsSession])
      (by decide +kernel)
    rintro _ _ h m hm n hn
    obtain ⟨rfl, rfl⟩ := Prod.mk.inj (Option.some.inj h)
    obtain rfl := List.mem_singleton.mp hm
    obtain rfl := Option.some.inj hn
    decide +kernel
  have hfilter : ∀ messages : List Remark, ((messages.map
      (Remark.message pumpLine.group pumpLine.edge)).map fun message =>
        (noon, message.delivered)).filter (concerns pumpLine.group pumpLine.edge) =
      (messages.map (Remark.message pumpLine.group pumpLine.edge)).map fun message =>
        (noon, message.delivered) := by
    refine fun messages => List.filter_eq_self.mpr fun input hinput => ?_
    obtain ⟨message, hmessage, rfl⟩ := List.mem_map.mp hinput
    obtain ⟨u, -, rfl⟩ := List.mem_map.mp hmessage
    exact concerns_iff.mpr ⟨_, u.of_message pumpLine.group pumpLine.edge⟩
  exact (loss_repaired startedHost pumpLine (⟨0⟩ : InMemoryBdSeqStore) stopped unheard resumed
    metered (noon, lineMessage .nData (some 1) .data) .data _ [] _ (by decide +kernel)
    (.inl (by decide +kernel)) hdue (by decide) hplays hproper (by decide +kernel)
    (by decide +kernel) (Observed.published_append _ _ _ _ _)
    ((congrArg (List.map Prod.snd) (hfilter _)).trans (delivers_at noon _))).2.2

end HostApplication

end SparkplugB
