/-
# Machines that debounce

A machine fires now and then, and remembers when it last did.  It is `Debounced` when it fires only
if its window has passed since, and when nothing but firing changes what it remembers.  Over a run
whose times do not decrease, any two firings are then at least a window apart (`spaced`), and what
the machine remembers is a firing of the run (`last_run`), so nothing else can hold one back.
-/
import SparkplugB.Lib.Run

namespace Machine

variable {σ ι : Type}

/-- It fires only if its window has passed, and remembers the last time it did. -/
structure Debounced (next : σ → ι → σ) (fires : σ → ι → Prop) (time : ι → Nat)
    (last : σ → Option Nat) (window : σ → Nat) : Prop where
  due : ∀ s i, fires s i → ∀ t, last s = some t → window s ≤ time i - t
  sets : ∀ s i, fires s i → last (next s i) = some (time i)
  keeps : ∀ s i, ¬ fires s i → last (next s i) = last s
  window_next : ∀ s i, window (next s i) = window s

namespace Debounced

variable {next : σ → ι → σ} {fires : σ → ι → Prop} {time : ι → Nat} {last : σ → Option Nat}
  {window : σ → Nat}

theorem window_run (h : Debounced next fires time last window) (s : σ) (is : List ι) :
    window (run next s is) = window s := by
  induction is generalizing s with
  | nil => rfl
  | cons i is ih => exact (ih (next s i)).trans (h.window_next s i)

/-- What is remembered was there before, or is a firing of the run. -/
theorem last_run (h : Debounced next fires time last window) {s : σ} {is : List ι} {t : Nat}
    (hlast : last (run next s is) = some t) :
    last s = some t ∨
      ∃ pre i post, is = pre ++ i :: post ∧ fires (run next s pre) i ∧ time i = t := by
  induction is generalizing s with
  | nil => exact .inl hlast
  | cons i is ih =>
    rcases ih hlast with hbefore | ⟨pre, j, post, heq, hfires, htime⟩
    · by_cases hi : fires s i
      · rw [h.sets s i hi] at hbefore
        exact .inr ⟨[], i, is, rfl, hi, Option.some.inj hbefore⟩
      · rw [h.keeps s i hi] at hbefore
        exact .inl hbefore
    · exact .inr ⟨i :: pre, j, post, by rw [heq]; rfl, hfires, htime⟩

/-- What is remembered never moves back. -/
theorem last_mono (h : Debounced next fires time last window) {s : σ} {is : List ι} {t : Nat}
    (hlast : ∃ t', last s = some t' ∧ t ≤ t') (hlater : ∀ i ∈ is, t ≤ time i) :
    ∃ t', last (run next s is) = some t' ∧ t ≤ t' := by
  induction is generalizing s with
  | nil => exact hlast
  | cons i is ih =>
    refine ih ?_ fun j hj => hlater j (List.mem_cons_of_mem i hj)
    by_cases hi : fires s i
    · exact ⟨time i, h.sets s i hi, hlater i List.mem_cons_self⟩
    · rw [h.keeps s i hi]
      exact hlast

/-- **Two firings are a window apart.** -/
theorem spaced (h : Debounced next fires time last window) {s : σ} {pre mid post : List ι}
    {i j : ι} (hsorted : (pre ++ i :: (mid ++ j :: post)).Pairwise fun i j => time i ≤ time j)
    (hi : fires (run next s pre) i) (hj : fires (run next s (pre ++ i :: mid)) j) :
    time i + window s ≤ time j := by
  obtain ⟨-, htail, -⟩ := List.pairwise_append.mp hsorted
  obtain ⟨hlater, -⟩ := List.pairwise_cons.mp htail
  have hij : time i ≤ time j := hlater j (by simp)
  have hmid : ∀ k ∈ mid, time i ≤ time k := fun k hk => hlater k (by simp [hk])
  obtain ⟨t, hlast, ht⟩ := h.last_mono ⟨time i, h.sets _ i hi, Nat.le_refl _⟩ hmid
  have hrun : run next s (pre ++ i :: mid) = run next (next (run next s pre) i) mid := by
    rw [run_append, run_cons]
  rw [← hrun] at hlast
  have hdue := h.due _ j hj t hlast
  rw [h.window_run] at hdue
  omega

end Debounced

end Machine
