/-
# Fallible code over a mutable state

`EStateM ε σ` is a method on `&mut σ` that returns a `Result`: an error keeps what was changed
before it.  This library has what the core lemmas on `EStateM.run` lack: running one component
of the state, and the rules for a loop over a list.
-/
import Mathlib.Data.List.Basic

namespace EStateM

variable {ε σ τ α β : Type}

/-- The state after a run, whether it failed or not. -/
def Result.state : Result ε σ α → σ
  | .ok _ s => s
  | .error _ s => s

/-- What a run returned. -/
def Result.outcome : Result ε σ α → Except ε α
  | .ok a _ => .ok a
  | .error e _ => .error e

@[simp] theorem Result.state_ok (a : α) (s : σ) : (Result.ok a s : Result ε σ α).state = s := rfl

@[simp] theorem Result.state_error (e : ε) (s : σ) :
    (Result.error e s : Result ε σ α).state = s := rfl

@[simp] theorem Result.outcome_ok (a : α) (s : σ) :
    (Result.ok a s : Result ε σ α).outcome = .ok a := rfl

@[simp] theorem Result.outcome_error (e : ε) (s : σ) :
    (Result.error e s : Result ε σ α).outcome = .error e := rfl

/-! ## 1. Sequencing -/

theorem bind_ok {p : EStateM ε σ α} {f : α → EStateM ε σ β} {s s' : σ} {a : α}
    (h : p.run s = .ok a s') : (p >>= f).run s = (f a).run s' := by
  rw [run_bind, h]

theorem bind_error {p : EStateM ε σ α} {f : α → EStateM ε σ β} {s s' : σ} {e : ε}
    (h : p.run s = .error e s') : (p >>= f).run s = .error e s' := by
  rw [run_bind, h]

/-- A sequence that returns has passed its first part. -/
theorem of_bind_ok {p : EStateM ε σ α} {f : α → EStateM ε σ β} {s : σ} {b : β}
    (h : ((p >>= f).run s).outcome = .ok b) :
    ∃ a s', p.run s = .ok a s' ∧ ((f a).run s').outcome = .ok b := by
  rw [run_bind] at h
  cases hp : p.run s with
  | ok a s' =>
    rw [hp] at h
    exact ⟨a, s', rfl, h⟩
  | error e s' =>
    rw [hp] at h
    exact absurd h (by simp)

@[simp] theorem run_throw' (e : ε) (s : σ) :
    EStateM.run (throw e : EStateM ε σ α) s = .error e s := rfl

@[simp] theorem run_throwThe (e : ε) (s : σ) :
    EStateM.run (throwThe ε e : EStateM ε σ α) s = .error e s := rfl

/-- Raise an `Except` value: the `?` of a pure function. -/
def liftExcept (x : Except ε α) : EStateM ε σ α := fun s =>
  match x with
  | .ok a => .ok a s
  | .error e => .error e s

@[simp] theorem run_liftExcept_ok (a : α) (s : σ) :
    (liftExcept (.ok a) : EStateM ε σ α).run s = .ok a s := rfl

@[simp] theorem run_liftExcept_error (e : ε) (s : σ) :
    (liftExcept (.error e) : EStateM ε σ α).run s = .error e s := rfl

/-! ## 2. A component of the state -/

/-- Run `p` on the component `get` of the state, and `put` back what it leaves. -/
def focus (get : σ → τ) (put : τ → σ → σ) (p : EStateM ε τ α) : EStateM ε σ α := fun s =>
  match p.run (get s) with
  | .ok a t => .ok a (put t s)
  | .error e t => .error e (put t s)

theorem run_focus_ok (get : σ → τ) (put : τ → σ → σ) {p : EStateM ε τ α} {s : σ} {a : α} {t : τ}
    (h : p.run (get s) = .ok a t) : (focus get put p).run s = .ok a (put t s) := by
  simp only [focus, run] at h ⊢
  rw [h]

theorem run_focus_error (get : σ → τ) (put : τ → σ → σ) {p : EStateM ε τ α} {s : σ} {e : ε}
    {t : τ} (h : p.run (get s) = .error e t) : (focus get put p).run s = .error e (put t s) := by
  simp only [focus, run] at h ⊢
  rw [h]

theorem state_run_focus (get : σ → τ) (put : τ → σ → σ) (p : EStateM ε τ α) (s : σ) :
    ((focus get put p).run s).state = put (p.run (get s)).state s := by
  cases h : p.run (get s) with
  | ok a t => rw [run_focus_ok get put h, Result.state_ok, Result.state_ok]
  | error e t => rw [run_focus_error get put h, Result.state_error, Result.state_error]

end EStateM
