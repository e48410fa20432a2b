/-
# Properties of the past of a log

A log lists what happened, the latest first.  `Since stay start past` says that some entry of
`past` is a `start` and every later one is a `stay`; `Throughout φ log` says that every entry of
the log satisfies `φ` with respect to what came before it.  `Machine.log` is the log of a run of
a machine, and `throughout_log` the rule that goes with it.
-/
import SparkplugB.Lib.Run

namespace Past

variable {α : Type} {stay start : α → Prop} {φ ψ : α → List α → Prop}

/-- Some entry is a `start`, and every later one is a `stay`. -/
def Since (stay start : α → Prop) : List α → Prop
  | [] => False
  | e :: past => start e ∨ (stay e ∧ Since stay start past)

/-- Every entry satisfies `φ` with what came before it. -/
inductive Throughout (φ : α → List α → Prop) : List α → Prop
  | nil : Throughout φ []
  | cons {e : α} {past : List α} : φ e past → Throughout φ past → Throughout φ (e :: past)

@[simp] theorem since_nil : ¬ Since stay start [] := id

@[simp] theorem since_cons {e : α} {past : List α} :
    Since stay start (e :: past) ↔ start e ∨ (stay e ∧ Since stay start past) := Iff.rfl

@[simp] theorem throughout_cons {e : α} {past : List α} :
    Throughout φ (e :: past) ↔ φ e past ∧ Throughout φ past := by
  constructor
  · rintro (- | ⟨he, hpast⟩)
    exact ⟨he, hpast⟩
  · exact fun h => .cons h.1 h.2

/-- One more `stay` entry changes nothing. -/
theorem Since.cons {past : List α} (h : Since stay start past) {e : α} (he : stay e) :
    Since stay start (e :: past) := Or.inr ⟨he, h⟩

/-- A stretch of `stay` entries changes nothing. -/
theorem Since.append {past : List α} (h : Since stay start past) :
    ∀ {later : List α}, (∀ e ∈ later, stay e) → Since stay start (later ++ past)
  | [], _ => h
  | e :: later, hstay =>
    (h.append fun e' he' => hstay e' (List.mem_cons_of_mem _ he')).cons (hstay e (by simp))

/-- A `start` at the beginning of a stretch of `stay` entries. -/
theorem since_append_cons {e : α} {past later : List α} (he : start e)
    (hstay : ∀ e' ∈ later, stay e') : Since stay start (later ++ e :: past) :=
  (since_cons.mpr (Or.inl he)).append hstay

/-- The entries of a stretch are judged one by one, each with the earlier ones of the stretch in
its past. -/
theorem Throughout.append {past : List α} (h : Throughout φ past) :
    ∀ {later : List α},
      (∀ newer e older, later = newer ++ e :: older → φ e (older ++ past)) →
      Throughout φ (later ++ past)
  | [], _ => h
  | e :: later, hall =>
    .cons (hall [] e later rfl) (h.append fun newer e' older heq =>
      hall (e :: newer) e' older (by rw [heq]; rfl))

theorem throughout_iff_split {log : List α} :
    Throughout φ log ↔ ∀ later e earlier, log = later ++ e :: earlier → φ e earlier := by
  induction log with
  | nil => exact iff_of_true .nil fun later e earlier heq => absurd heq (by simp)
  | cons e past ih =>
    rw [throughout_cons, ih]
    constructor
    · rintro ⟨he, hpast⟩ later e' earlier heq
      cases later with
      | nil =>
        obtain ⟨rfl, rfl⟩ := List.cons.inj heq
        exact he
      | cons x later => exact hpast later e' earlier (List.cons.inj heq).2
    · intro h
      exact ⟨h [] e past rfl, fun later e' earlier heq => h (e :: later) e' earlier (by rw [heq]; rfl)⟩

end Past

/-! ## The log of a run -/

namespace Machine

open Past

variable {σ ι : Type} {next : σ → ι → σ} {P : σ → ι → Prop} {φ : σ × ι → List (σ × ι) → Prop}

/-- The steps of a run put before those in `past`: each input, with the state it came to. -/
def log (next : σ → ι → σ) : σ → List ι → List (σ × ι) → List (σ × ι)
  | _, [], past => past
  | s, i :: is, past => log next (next s i) is ((s, i) :: past)

/-- **The rule for the log of a run**: an invariant of the state and of the log before it, and
what it says of the next step. -/
theorem throughout_log (Inv : σ → List (σ × ι) → Prop)
    (step : ∀ s i past, Inv s past → P s i → φ (s, i) past ∧ Inv (next s i) ((s, i) :: past)) :
    ∀ (s : σ) (is : List ι) (past : List (σ × ι)), Inv s past → Always next P s is →
      Throughout φ past → Throughout φ (log next s is past)
  | _, [], _, _, _, hpast => hpast
  | s, i :: is, past, hinv, ⟨hp, hrest⟩, hpast => by
    obtain ⟨hi, hnext⟩ := step s i past hinv hp
    exact throughout_log Inv step (next s i) is _ hnext hrest (.cons hi hpast)

end Machine
