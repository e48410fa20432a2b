/-
# Topic filters

A topic has levels, between its slashes.  A subscriber gives a filter: `+` stands for one level,
whatever it is, and a `#` at the end for any number of them.  A filter that begins with a wildcard
matches no topic that begins with a dollar sign.

* **Plain filters** (`matches_plain`): a filter without wildcards matches itself and nothing else.
* **Subtrees** (`matches_subtree`): one with a `#` at the end, and no other, matches what begins with
  the levels in front of it.
-/
import Mathlib.Data.List.Basic

namespace Mqtt

/-- The levels of a topic or a filter. -/
def levels (text : String) : List String := (text.toList.splitOn '/').map String.ofList

/-- The level is a wildcard, in a filter. -/
def wild (level : String) : Bool := level == "+" || level == "#"

/-- The levels of a filter, against those of a topic. -/
def levelsMatch : List String → List String → Bool
  | ["#"], _ => true
  | [], [] => true
  | f :: fs, t :: ts => (f == "+" || f == t) && levelsMatch fs ts
  | _, _ => false

/-- Whether a filter matches a topic. -/
def topicMatches (filter topic : String) : Bool :=
  levelsMatch (levels filter) (levels topic) &&
    !((levels filter).head?.any wild && topic.toList.head? == some '$')

/-! ## 1. Levels -/

theorem levels_injective {s t : String} (h : levels s = levels t) : s = t := by
  have hsplit : s.toList.splitOn '/' = t.toList.splitOn '/' :=
    List.map_injective_iff.mpr (fun _ _ heq => String.ofList_inj.mp heq) h
  have hjoin := congrArg (List.intercalate ['/']) hsplit
  rw [List.intercalate_splitOn, List.intercalate_splitOn] at hjoin
  exact String.toList_inj.mp hjoin

/-- Without wildcards, only the same levels match. -/
theorem levelsMatch_plain :
    ∀ {fs : List String}, (∀ f ∈ fs, wild f = false) → ∀ ts, levelsMatch fs ts = true ↔ fs = ts := by
  intro fs
  induction fs with
  | nil =>
    intro _ ts
    cases ts <;> simp [levelsMatch]
  | cons f fs ih =>
    intro hplain ts
    obtain ⟨hf, hfs⟩ := List.forall_mem_cons.mp hplain
    have hne : ¬ f = "+" ∧ ¬ f = "#" := by simpa [wild] using hf
    cases ts with
    | nil => simp [levelsMatch, hne.2]
    | cons t ts =>
      rw [levelsMatch, Bool.and_eq_true, ih hfs ts, List.cons.injEq]
      · simp [hne.1]
      · rintro rfl
        exact fun _ => hne.2 rfl

/-- With a `#` behind them, what begins with these levels matches. -/
theorem levelsMatch_subtree :
    ∀ {fs : List String}, (∀ f ∈ fs, wild f = false) →
      ∀ ts, levelsMatch (fs ++ ["#"]) ts = true ↔ fs <+: ts := by
  intro fs
  induction fs with
  | nil =>
    intro _ ts
    simp [levelsMatch]
  | cons f fs ih =>
    intro hplain ts
    obtain ⟨hf, hfs⟩ := List.forall_mem_cons.mp hplain
    have hne : ¬ f = "+" ∧ ¬ f = "#" := by simpa [wild] using hf
    cases ts with
    | nil => cases fs <;> simp [levelsMatch]
    | cons t ts =>
      rw [List.cons_append, levelsMatch, Bool.and_eq_true, ih hfs ts, List.cons_prefix_cons]
      · simp [hne.1]
      · simp

/-! ## 2. Filters -/

/-- The filter has no wildcards. -/
def Plain (filter : String) : Prop := ∀ level ∈ levels filter, wild level = false

theorem Plain.head {filter : String} (h : Plain filter) : (levels filter).head?.any wild = false := by
  cases hlevels : levels filter with
  | nil => rfl
  | cons level rest => exact h level (hlevels ▸ List.mem_cons_self)

/-- **A plain filter** matches itself alone. -/
theorem matches_plain {filter : String} (h : Plain filter) (topic : String) :
    topicMatches filter topic = true ↔ topic = filter := by
  rw [topicMatches, h.head, Bool.false_and, Bool.not_false, Bool.and_true, levelsMatch_plain h]
  exact ⟨fun heq => (levels_injective heq).symm, fun heq => congrArg levels heq.symm⟩

/-- **A subtree**: what is before the `#` is plain. -/
theorem matches_subtree {filter : String} {front : List String} (hne : front ≠ [])
    (hfilter : levels filter = front ++ ["#"]) (hplain : ∀ level ∈ front, wild level = false)
    (topic : String) : topicMatches filter topic = true ↔ front <+: levels topic := by
  obtain ⟨level, rest, rfl⟩ := List.exists_cons_of_ne_nil hne
  have hhead : (levels filter).head?.any wild = false := by
    rw [hfilter]
    exact hplain level List.mem_cons_self
  rw [topicMatches, hhead, Bool.false_and, Bool.not_false, Bool.and_true, hfilter,
    levelsMatch_subtree hplain]

example : topicMatches "plant/+/pump/#" "plant/line/pump/rpm" = true := by decide

end Mqtt
