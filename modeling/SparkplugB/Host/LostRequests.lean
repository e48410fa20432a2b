/-
# Requests that could not be sent

The host takes the debounce slot of a node before it publishes the NCMD, so a request that fails
occupies the window like one that was sent.  The next anomaly of the node is answered with an NCMD
exactly if it comes a whole window after the failure (`retried_iff`): no request that was sent can
account for the silence, since the failed one came a window after it.
-/
import SparkplugB.Host.Requests

namespace SparkplugB

open Machine

namespace HostApplication

variable {group : GroupId} {edge : EdgeNodeId}

/-- Among the messages handled so far there is one that published the NCMD of the node, less than a
window before `now`. -/
def SentWithin (group : GroupId) (edge : EdgeNodeId) (host : HostApplication Ledger)
    (inputs : List (Reading × IncomingMessage)) (now : Nat) : Prop :=
  ∃ before earlier between, inputs = before ++ earlier :: between ∧
    Sends group edge (run next host before) earlier ∧
    now - earlier.1.instant < host.config.rebirthDebounce

/-- Handling the message fails because the NCMD of the node cannot be published: `handle_incoming`
returns the error of the transport. -/
def Fails (group : GroupId) (edge : EdgeNodeId) (host : HostApplication Ledger)
    (input : Reading × IncomingMessage) : Prop :=
  Tries group edge host input ∧ ∃ e, host.outcome input = .error e

/-- The next anomaly of the node after `failed`, with `between` before it, is answered: the host tries
to publish the NCMD, or did publish it within the debounce window. -/
def Answered (group : GroupId) (edge : EdgeNodeId) (host : HostApplication Ledger)
    (before between : List (Reading × IncomingMessage))
    (failed later : Reading × IncomingMessage) : Prop :=
  Tries group edge (run next host (before ++ failed :: between)) later ∨
    SentWithin group edge host (before ++ failed :: between) later.1.instant

theorem Sends.tries {host : HostApplication Ledger} {input : Reading × IncomingMessage}
    (h : Sends group edge host input) : Tries group edge host input := by
  obtain ⟨attempt, hmem, hmessage, -⟩ := h
  exact ⟨attempt, hmem, hmessage⟩

/-- What failed was not sent. -/
theorem Fails.not_sends {host : HostApplication Ledger} {input : Reading × IncomingMessage}
    (h : Fails group edge host input) : ¬ Sends group edge host input := by
  obtain ⟨htries, e, houtcome⟩ := h
  obtain ⟨⟨m, hof, hanom⟩, hdue⟩ := tries_iff.mp htries
  obtain ⟨-, htransport, -, hresult⟩ := next_due hof hanom hdue
  rw [houtcome] at hresult
  rintro ⟨attempt, hmem, -, hnone⟩
  rw [asked_of_transport htransport, List.map_singleton, List.mem_singleton] at hmem
  have hhead : host.transport.answers.head = none := by
    rw [hmem] at hnone
    exact hnone
  rw [hhead] at hresult
  exact absurd hresult (by simp)

/-- Messages without an anomaly of the node leave its window as it is. -/
theorem lastRebirth_run_calm (group : GroupId) (edge : EdgeNodeId) :
    ∀ (inputs : List (Reading × IncomingMessage)) (host : HostApplication Ledger),
      Always next (fun host input => ¬ Wants group edge host input) host inputs →
      ((run next host inputs).node (key group edge)).lastRebirth =
        (host.node (key group edge)).lastRebirth := by
  intro inputs
  induction inputs with
  | nil => exact fun _ _ => rfl
  | cons input rest ih =>
    intro host ⟨hcalm, hrest⟩
    have hnot : ¬ Tries group edge host input := fun h => hcalm (tries_iff.mp h).1
    exact (ih (host.next input) hrest).trans ((lastRebirth_next group edge host input).2 hnot)

/-- A run at whose end a message is handled. -/
theorem run_concat (host : HostApplication Ledger)
    (before between : List (Reading × IncomingMessage)) (input : Reading × IncomingMessage) :
    run next host (before ++ input :: between) =
      run next ((run next host before).next input) between := by
  rw [run_append, run_cons]

/-- The failed request occupies the window until the next anomaly of the node. -/
theorem lastRebirth_after {host : HostApplication Ledger}
    {before between : List (Reading × IncomingMessage)} {failed : Reading × IncomingMessage}
    (htries : Tries group edge (run next host before) failed)
    (hcalm : Always next (fun host input => ¬ Wants group edge host input)
      (run next host (before ++ [failed])) between) :
    ((run next host (before ++ failed :: between)).node (key group edge)).lastRebirth =
      some failed.1.instant := by
  have hlast := (lastRebirth_next group edge (run next host before) failed).1 htries
  rw [run_append] at hcalm
  rw [run_concat]
  exact (lastRebirth_run_calm group edge between _ hcalm).trans hlast

/-- No NCMD was published in the window before the next anomaly. -/
theorem not_sentWithin {host : HostApplication Ledger}
    {before between : List (Reading × IncomingMessage)}
    {failed later : Reading × IncomingMessage}
    (hclock : Clocked (before ++ failed :: (between ++ [later])))
    (hfails : Fails group edge (run next host before) failed)
    (hcalm : Always next (fun host input => ¬ Wants group edge host input)
      (run next host (before ++ [failed])) between) :
    ¬ SentWithin group edge host (before ++ failed :: between) later.1.instant := by
  rintro ⟨pre, sent, post, heq, hsends, hwithin⟩
  have hwindow : failed.1.instant ≤ later.1.instant := by
    obtain ⟨-, htail, -⟩ := List.pairwise_append.mp hclock
    exact (List.pairwise_cons.mp htail).1 later (by simp)
  rcases List.append_eq_append_iff.mp heq with ⟨middle, hpre, htail⟩ | ⟨middle, hbefore, htail⟩
  · cases middle with
    | nil =>
      -- the failed message itself
      obtain ⟨rfl, -⟩ := List.cons.inj htail
      rw [hpre, List.append_nil] at hsends
      exact hfails.not_sends hsends
    | cons x middle =>
      -- one of those between: it was no anomaly
      obtain ⟨rfl, hbetween⟩ := List.cons.inj htail
      have hwants := (tries_iff.mp hsends.tries).1
      have hat := (always_iff_split _ _).mp hcalm middle sent post hbetween
      have hrun : run next (run next host (before ++ [failed])) middle = run next host pre := by
        rw [hpre, ← run_append, List.append_assoc]
        rfl
      rw [hrun] at hat
      exact hat hwants
  · cases middle with
    | nil =>
      obtain ⟨rfl, -⟩ := List.cons.inj htail
      rw [hbefore, List.append_nil] at hfails
      exact hfails.not_sends hsends
    | cons x middle =>
      -- an earlier one: the failed request came a window after it
      obtain ⟨rfl, -⟩ := List.cons.inj htail
      rw [hbefore] at hclock hfails
      have hsorted : (pre ++ sent :: (middle ++ failed :: (between ++ [later]))).Pairwise
          fun input input' => input.1.instant ≤ input'.1.instant := by
        simpa [Clocked] using hclock
      have hspaced := (debounced group edge).spaced hsorted hsends.tries hfails.1
      omega

/-- **When a failed request is made up for**: exactly if the next anomaly of the node comes at least
a window after it, since `take_rebirth_slot` notes the attempt before it is made.  `hfails` is the
failed request, `hcalm` says that no anomaly of the node comes in between, `hwants` that the last
message is one, and `hclock` that the clock does not go back. -/
theorem retried_iff {host : HostApplication Ledger}
    {before between : List (Reading × IncomingMessage)}
    {failed later : Reading × IncomingMessage}
    (hclock : Clocked (before ++ failed :: (between ++ [later])))
    (hfails : Fails group edge (run next host before) failed)
    (hcalm : Always next (fun host input => ¬ Wants group edge host input)
      (run next host (before ++ [failed])) between)
    (hwants : Wants group edge (run next host (before ++ failed :: between)) later) :
    Answered group edge host before between failed later ↔
      failed.1.instant + host.config.rebirthDebounce ≤ later.1.instant := by
  have hlast := lastRebirth_after hfails.1 hcalm
  have hwindow : (run next host (before ++ failed :: between)).config.rebirthDebounce =
    host.config.rebirthDebounce := (debounced group edge).window_run host _
  have hordered : failed.1.instant ≤ later.1.instant := by
    obtain ⟨-, htail, -⟩ := List.pairwise_append.mp hclock
    exact (List.pairwise_cons.mp htail).1 later (by simp)
  rw [Answered, or_iff_left (not_sentWithin hclock hfails hcalm), tries_iff, and_iff_right hwants]
  unfold Due NodeState.Due
  rw [hlast, hwindow]
  constructor
  · intro hdue
    have hwindow := (Nat.le_sub_iff_add_le hordered).mp (hdue _ rfl)
    rwa [Nat.add_comm] at hwindow
  · rintro hlate t ht
    obtain rfl := Option.some.inj ht
    rw [Nat.add_comm] at hlate
    exact (Nat.le_sub_iff_add_le hordered).mpr hlate

end HostApplication

/-! ## A request that is lost -/

open HostApplication

/-- The line is not known, so its NDATA is an anomaly. -/
theorem wants_unbornData {host : HostApplication Ledger} (instant : Nat)
    (honline : (host.node (key plant line)).online = false) :
    Wants plant line host (afternoon instant, unbornData) := by
  have hof : NodeMessage.of unbornData = some (plant, line, .data) := by decide +kernel
  exact ⟨.data, hof, .inl honline⟩

/-- The first NCMD of the strained host is lost. -/
theorem fails_strainedHost : Fails plant line strainedHost (afternoon 0, unbornData) := by
  have hwants : Wants plant line strainedHost (afternoon 0, unbornData) :=
    wants_unbornData 0 (by decide +kernel)
  have hdue : Due plant line strainedHost (afternoon 0, unbornData) := fun t ht =>
    absurd ((unasked_strainedHost _).symm.trans ht) (by simp)
  obtain ⟨m, hof, hanom⟩ := hwants
  obtain ⟨-, -, -, houtcome⟩ := next_due hof hanom hdue
  exact ⟨tries_iff.mpr ⟨⟨m, hof, hanom⟩, hdue⟩, _, houtcome⟩

theorem clocked_afternoon (instant : Nat) :
    Clocked ([] ++ (afternoon 0, unbornData) :: ([] ++ [(afternoon instant, unbornData)])) := by
  unfold Clocked
  simp [afternoon]

/-- It is made up for after five seconds. -/
theorem retried_after_five_seconds :
    Answered plant line strainedHost [] [] (afternoon 0, unbornData)
      (afternoon 5000000000, unbornData) :=
  (retried_iff (clocked_afternoon 5000000000) fails_strainedHost (always_nil _)
    (wants_unbornData 5000000000 (by decide +kernel))).mpr (by decide +kernel)

/-- **A lost request silences the host.**  The NCMD for an unknown line fails, and the next NDATA of
the line, a nanosecond later, does not make the host try again. -/
theorem not_retried_at_once :
    ¬ ∀ (host : HostApplication Ledger) (before between : List (Reading × IncomingMessage))
        (failed later : Reading × IncomingMessage),
        Clocked (before ++ failed :: (between ++ [later])) →
        Fails plant line (run next host before) failed →
        Always next (fun host input => ¬ Wants plant line host input)
          (run next host (before ++ [failed])) between →
        Wants plant line (run next host (before ++ failed :: between)) later →
        Answered plant line host before between failed later := by
  intro claim
  have hwants : Wants plant line (run next strainedHost [(afternoon 0, unbornData)])
      (afternoon 1, unbornData) := wants_unbornData 1 (by decide +kernel)
  rcases claim strainedHost [] [] (afternoon 0, unbornData) (afternoon 1, unbornData)
    (clocked_afternoon 1) fails_strainedHost (always_nil _) hwants with htries | hsent
  · have hlast : ((run next strainedHost [(afternoon 0, unbornData)]).node
        (key plant line)).lastRebirth = some 0 := by decide +kernel
    exact absurd ((tries_iff.mp htries).2 0 hlast) (by decide +kernel)
  · exact not_sentWithin (clocked_afternoon 1) fails_strainedHost (always_nil _) hsent

end SparkplugB
