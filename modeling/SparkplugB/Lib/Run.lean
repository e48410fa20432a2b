/-
# Runs of a deterministic machine

A machine is a function `next` from a state and an input to the next state.  `run` folds it over
a list of inputs; `Always P` says that `P` holds before every step of the run.  The one rule that
matters is `run_invariant`: what each step with `P` preserves, a run with `Always P` preserves.
-/
import Mathlib.Data.List.Basic

namespace Machine

variable {σ ι : Type} {next : σ → ι → σ} {P Q : σ → ι → Prop}

/-- The state after the inputs, in order. -/
def run (next : σ → ι → σ) : σ → List ι → σ
  | s, [] => s
  | s, i :: is => run next (next s i) is

/-- `P` holds of the state and the input of every step. -/
def Always (next : σ → ι → σ) (P : σ → ι → Prop) : σ → List ι → Prop
  | _, [] => True
  | s, i :: is => P s i ∧ Always next P (next s i) is

@[simp] theorem run_nil (s : σ) : run next s [] = s := rfl

@[simp] theorem run_cons (s : σ) (i : ι) (is : List ι) :
    run next s (i :: is) = run next (next s i) is := rfl

@[simp] theorem always_nil (s : σ) : Always next P s [] := trivial

@[simp] theorem always_cons (s : σ) (i : ι) (is : List ι) :
    Always next P s (i :: is) ↔ P s i ∧ Always next P (next s i) is := Iff.rfl

instance decidableAlways [∀ s i, Decidable (P s i)] :
    ∀ (s : σ) (is : List ι), Decidable (Always next P s is)
  | _, [] => isTrue trivial
  | s, i :: is =>
    have := decidableAlways (next s i) is
    inferInstanceAs (Decidable (P s i ∧ Always next P (next s i) is))

theorem run_append (s : σ) : ∀ is js : List ι, run next s (is ++ js) = run next (run next s is) js
  | [], _ => rfl
  | i :: is, js => run_append (next s i) is js

theorem always_append (s : σ) :
    ∀ is js : List ι,
      Always next P s (is ++ js) ↔ Always next P s is ∧ Always next P (run next s is) js
  | [], _ => by simp
  | i :: is, js => by
    rw [List.cons_append, always_cons, always_cons, always_append (next s i) is js, and_assoc,
      run_cons]

theorem always_mono (h : ∀ s i, P s i → Q s i) :
    ∀ (s : σ) (is : List ι), Always next P s is → Always next Q s is
  | _, [], _ => trivial
  | s, i :: is, ⟨hp, hrest⟩ => ⟨h s i hp, always_mono h (next s i) is hrest⟩

theorem always_of_forall (h : ∀ s i, P s i) : ∀ (s : σ) (is : List ι), Always next P s is
  | _, [] => trivial
  | s, i :: is => ⟨h s i, always_of_forall h (next s i) is⟩

/-- **The invariant rule.** -/
theorem run_invariant {Inv : σ → Prop} (step : ∀ s i, Inv s → P s i → Inv (next s i)) :
    ∀ (s : σ) (is : List ι), Inv s → Always next P s is → Inv (run next s is)
  | _, [], hs, _ => hs
  | s, i :: is, hs, ⟨hp, hrest⟩ => run_invariant step (next s i) is (step s i hs hp) hrest

theorem always_and (s : σ) :
    ∀ is : List ι, Always next P s is → Always next Q s is →
      Always next (fun s i => P s i ∧ Q s i) s is := by
  intro is
  induction is generalizing s with
  | nil => exact fun _ _ => trivial
  | cons i is ih => exact fun hp hq => ⟨⟨hp.1, hq.1⟩, ih (next s i) hp.2 hq.2⟩

theorem always_of_mem {is : List ι} (h : ∀ i ∈ is, ∀ s, P s i) (s : σ) : Always next P s is := by
  induction is generalizing s with
  | nil => trivial
  | cons i is ih =>
    exact ⟨h i List.mem_cons_self s, ih (fun j hj => h j (List.mem_cons_of_mem i hj)) (next s i)⟩

/-- What holds of a step by an invariant. -/
theorem always_of_invariant {Inv : σ → Prop}
    (step : ∀ s i, Inv s → P s i → Q s i ∧ Inv (next s i)) :
    ∀ (s : σ) (is : List ι), Inv s → Always next P s is → Always next Q s is
  | _, [], _, _ => trivial
  | s, i :: is, hs, ⟨hp, hrest⟩ =>
    ⟨(step s i hs hp).1, always_of_invariant step (next s i) is (step s i hs hp).2 hrest⟩

/-- `Always`, read at the positions of the run. -/
theorem always_iff_split :
    ∀ (s : σ) (is : List ι),
      Always next P s is ↔ ∀ pre i post, is = pre ++ i :: post → P (run next s pre) i
  | s, [] => by simp
  | s, j :: is => by
    rw [always_cons, always_iff_split (next s j) is]
    constructor
    · rintro ⟨hj, hrest⟩ pre i post heq
      cases pre with
      | nil =>
        obtain ⟨rfl, -⟩ := List.cons.inj heq
        exact hj
      | cons k pre =>
        obtain ⟨rfl, hpost⟩ := List.cons.inj heq
        exact hrest pre i post hpost
    · intro h
      exact ⟨h [] j is rfl, fun pre i post heq => h (j :: pre) i post (by rw [heq]; rfl)⟩

/-- A run in which `P` fails somewhere has a first step at which it fails. -/
theorem first_failure {s : σ} {is : List ι} (h : ¬ Always next P s is) :
    ∃ pre i post, is = pre ++ i :: post ∧ Always next P s pre ∧ ¬ P (run next s pre) i := by
  induction is generalizing s with
  | nil => exact absurd trivial h
  | cons j is ih =>
    by_cases hj : P s j
    · obtain ⟨pre, i, post, heq, hpre, hi⟩ := ih fun hrest => h ⟨hj, hrest⟩
      exact ⟨j :: pre, i, post, by rw [heq]; rfl, ⟨hj, hpre⟩, hi⟩
    · exact ⟨[], j, is, rfl, trivial, hj⟩

end Machine
