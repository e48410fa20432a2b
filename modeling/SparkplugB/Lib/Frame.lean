/-
# What a program reads and what it writes

Two runs of a program are `Alike` under a relation of states when they return the same and leave
related states: the program reads nothing the relation leaves open.  A program `Moves` within a
relation when every run ends in a state related to the one it started from: it writes nothing the
relation holds fixed.  A machine that does both for a relation and a class of inputs runs the same
with all the other inputs taken out (`Machine.unwinding`).
-/
import Mathlib.Order.Defs.Unbundled
import SparkplugB.Lib.Fallible
import SparkplugB.Lib.Run

namespace EStateM

variable {ε σ τ ρ α β : Type} {R : σ → τ → Prop} {M : σ → σ → Prop}

/-! ## 1. Runs that are alike -/

/-- The results agree and their states are related. -/
inductive Result.Alike (R : σ → τ → Prop) : Result ε σ α → Result ε τ α → Prop
  | ok (a : α) {s : σ} {t : τ} (h : R s t) : Alike R (.ok a s) (.ok a t)
  | error (e : ε) {s : σ} {t : τ} (h : R s t) : Alike R (.error e s) (.error e t)

theorem Result.Alike.outcome {r : Result ε σ α} {r' : Result ε τ α} (h : Result.Alike R r r') :
    r.outcome = r'.outcome := by
  cases h with
  | ok _ _ => rfl
  | error _ _ => rfl

theorem Result.Alike.state {r : Result ε σ α} {r' : Result ε τ α} (h : Result.Alike R r r') :
    R r.state r'.state := by
  cases h with
  | ok _ hR => exact hR
  | error _ hR => exact hR

/-- From related states, the programs have results that agree. -/
def Alike (R : σ → τ → Prop) (p : EStateM ε σ α) (q : EStateM ε τ α) : Prop :=
  ∀ s t, R s t → Result.Alike R (p.run s) (q.run t)

theorem alike_pure (a : α) : Alike R (pure a : EStateM ε σ α) (pure a : EStateM ε τ α) :=
  fun _ _ h => .ok a h

theorem alike_liftExcept (x : Except ε α) :
    Alike R (liftExcept x : EStateM ε σ α) (liftExcept x : EStateM ε τ α) := by
  intro s t h
  cases x with
  | ok a => exact .ok a h
  | error e => exact .error e h

theorem Alike.bind {p : EStateM ε σ α} {q : EStateM ε τ α} {f : α → EStateM ε σ β}
    {g : α → EStateM ε τ β} (hp : Alike R p q) (hf : ∀ a, Alike R (f a) (g a)) :
    Alike R (p >>= f) (q >>= g) := by
  intro s t h
  rw [run_bind, run_bind]
  have hrun := hp s t h
  cases hs : p.run s with
  | ok a s' =>
    rw [hs] at hrun
    cases ht : q.run t with
    | ok b t' =>
      rw [ht] at hrun
      cases hrun with
      | ok _ hR => exact hf a s' t' hR
    | error e t' => rw [ht] at hrun; cases hrun
  | error e s' =>
    rw [hs] at hrun
    cases ht : q.run t with
    | ok b t' => rw [ht] at hrun; cases hrun
    | error e' t' =>
      rw [ht] at hrun
      cases hrun with
      | error _ hR => exact .error e hR

/-- After `get`, the two programs may differ in the state they have read. -/
theorem alike_get_bind {f : σ → EStateM ε σ α} {g : τ → EStateM ε τ α}
    (h : ∀ s t, R s t → Result.Alike R ((f s).run s) ((g t).run t)) :
    Alike R (get >>= f) (get >>= g) := by
  intro s t hR
  rw [run_bind, run_bind]
  exact h s t hR

/-! ## 2. Runs that move within a relation -/

/-- Every run ends in a state related to the one it started from. -/
def Moves (M : σ → σ → Prop) (p : EStateM ε σ α) : Prop := ∀ s, M s (p.run s).state

theorem moves_pure [IsPreorder σ M] (a : α) : Moves M (pure a : EStateM ε σ α) :=
  fun s => refl_of M s

theorem moves_liftExcept [IsPreorder σ M] (x : Except ε α) :
    Moves M (liftExcept x : EStateM ε σ α) := by
  intro s
  cases x with
  | ok a => exact refl_of M s
  | error e => exact refl_of M s

theorem Moves.bind [IsPreorder σ M] {p : EStateM ε σ α} {f : α → EStateM ε σ β}
    (hp : Moves M p) (hf : ∀ a, Moves M (f a)) : Moves M (p >>= f) := by
  intro s
  rw [run_bind]
  have hrun := hp s
  cases hs : p.run s with
  | ok a s' =>
    rw [hs] at hrun
    exact trans_of M hrun (hf a s')
  | error e s' =>
    rw [hs] at hrun
    exact hrun

theorem moves_get_bind {f : σ → EStateM ε σ α} (h : ∀ s, M s ((f s).run s).state) :
    Moves M (get >>= f) := by
  intro s
  rw [run_bind]
  exact h s

/-- A loop over a list. -/
theorem moves_forM [IsPreorder σ M] {f : α → EStateM ε σ PUnit} (hf : ∀ a, Moves M (f a)) :
    ∀ as : List α, Moves M (as.forM f)
  | [] => moves_pure _
  | a :: as => by
    rw [List.forM_eq_forM, List.forM_cons]
    exact (hf a).bind fun _ => moves_forM hf as

theorem moves_focus {get : σ → τ} {put : τ → σ → σ} (h : ∀ t s, M s (put t s))
    (p : EStateM ε τ α) : Moves M (focus get put p) := by
  intro s
  rw [state_run_focus]
  exact h _ s

end EStateM

/-! ## 3. Unwinding -/

namespace Machine

variable {σ ι ω : Type} {next : σ → ι → σ} {out : σ → ι → ω}

/-- Every input of a run, with what the machine put out for it. -/
def transcript (next : σ → ι → σ) (out : σ → ι → ω) : σ → List ι → List (ι × ω)
  | _, [] => []
  | s, i :: is => (i, out s i) :: transcript next out (next s i) is

theorem transcript_append :
    ∀ (s : σ) (is js : List ι), transcript next out s (is ++ js) =
      transcript next out s is ++ transcript next out (run next s is) js
  | _, [], _ => rfl
  | s, i :: is, js => congrArg ((i, out s i) :: ·) (transcript_append (next s i) is js)

/-- **Unwinding.**  If an input that is `mine` has the same output in related states and leaves
related states, and any other input leaves a state related to whatever it was related to before,
then the run without the other inputs ends in a related state, and its transcript is what the
whole run's says about the inputs that are mine. -/
theorem unwinding {R : σ → σ → Prop} {mine : ι → Bool}
    (same : ∀ s t i, mine i = true → R s t → out s i = out t i ∧ R (next s i) (next t i))
    (frame : ∀ s t i, mine i = false → R s t → R (next s i) t) :
    ∀ (s t : σ) (is : List ι), R s t →
      (transcript next out s is).filter (fun r => mine r.1) =
          transcript next out t (is.filter mine) ∧
        R (run next s is) (run next t (is.filter mine))
  | _, _, [], h => ⟨rfl, h⟩
  | s, t, i :: is, h => by
    rcases hmine : mine i with - | -
    · obtain ⟨htranscript, hrun⟩ := unwinding same frame (next s i) t is (frame s t i hmine h)
      rw [List.filter_cons_of_neg (by simp [hmine])]
      refine ⟨?_, hrun⟩
      rw [transcript, List.filter_cons_of_neg (by simp [hmine])]
      exact htranscript
    · obtain ⟨hout, hnext⟩ := same s t i hmine h
      obtain ⟨htranscript, hrun⟩ := unwinding same frame (next s i) (next t i) is hnext
      rw [List.filter_cons_of_pos hmine]
      refine ⟨?_, hrun⟩
      rw [transcript, List.filter_cons_of_pos (by simpa using hmine), htranscript, hout, transcript]

end Machine
