/-
# Code that may panic

A run of safe Rust returns a value, returns an error, or panics.  `Run ε` has the three outcomes;
`ofResult` embeds the code that cannot panic, and the operations that can are here with the
condition they check: an addition that overflows a `usize`, a shift by the width of its operand or
more, an index or a range outside its slice, a slice of the wrong length where an array is
expected.

`Follows V x' x Q` is the way to show that code over a state never panics: from every state in `V`,
`x'` does what the panic-free `x` does, the state stays in `V`, and a returned value satisfies
`Q`.  It is built up along the code (`Follows.bind` and its siblings).
-/
import Mathlib

namespace Panic

/-- Why a run stopped without a value. -/
inductive Stop (ε : Type) where
  | error (e : ε)
  | panic
  deriving DecidableEq, Repr

abbrev Run (ε α : Type) := Except (Stop ε) α

variable {ε σ α β : Type}

/-- Code that returns a value or an error. -/
def ofResult : Except ε α → Run ε α
  | .ok a => .ok a
  | .error e => .error (.error e)

@[simp] theorem ofResult_ok (a : α) : (ofResult (.ok a) : Run ε α) = .ok a := rfl

@[simp] theorem ofResult_error (e : ε) : (ofResult (.error e) : Run ε α) = .error (.error e) := rfl

/-- What returns or fails does not panic. -/
theorem ofResult_ne_panic (x : Except ε α) : ofResult x ≠ .error .panic := by
  cases x <;> simp

theorem ofResult_bind (x : Except ε α) (f : α → Except ε β) :
    ofResult (x >>= f) = ofResult x >>= fun a => ofResult (f a) := by
  cases x <;> rfl

/-! ## 1. Operations that check -/

/-- `a + b` on `usize`. -/
def add (a b : Nat) : Run ε Nat := if a + b < 2 ^ 64 then .ok (a + b) else .error .panic

/-- `a.checked_add(b)` on `usize`. -/
def checkedAdd (a b : Nat) : Option Nat := if a + b < 2 ^ 64 then some (a + b) else none

/-- `v << k` on `u64`. -/
def shiftLeft (v : UInt64) (k : Nat) : Run ε UInt64 :=
  if k < 64 then .ok (v <<< UInt64.ofNat k) else .error .panic

/-- `v >> k` on `u8`. -/
def shiftRight (v : UInt8) (k : Nat) : Run ε UInt8 :=
  if k < 8 then .ok (v >>> UInt8.ofNat k) else .error .panic

/-- `xs[i]`. -/
def index (xs : List α) (i : Nat) : Run ε α :=
  match xs[i]? with
  | some x => .ok x
  | none => .error .panic

/-- `&xs[i..]`. -/
def sliceFrom (xs : List α) (i : Nat) : Run ε (List α) :=
  if i ≤ xs.length then .ok (xs.drop i) else .error .panic

/-- `xs.get(a..b)`. -/
def getRange (xs : List α) (a b : Nat) : Option (List α) :=
  if a ≤ b ∧ b ≤ xs.length then some ((xs.drop a).take (b - a)) else none

/-- `xs.try_into().expect(..)` to an array of length `n`. -/
def expectArray (n : Nat) (xs : List α) : Run ε (List α) :=
  if xs.length = n then .ok xs else .error .panic

/-- `assert!(c)`. -/
def assert (c : Prop) [Decidable c] : Run ε Unit := if c then .ok () else .error .panic

section Checks

variable {a b k i : Nat} {xs : List α}

theorem add_of_lt (h : a + b < 2 ^ 64) : (add a b : Run ε Nat) = .ok (a + b) := if_pos h

theorem checkedAdd_of_lt (h : a + b < 2 ^ 64) : checkedAdd a b = some (a + b) := if_pos h

theorem checkedAdd_of_ge (h : 2 ^ 64 ≤ a + b) : checkedAdd a b = none := if_neg (by omega)

theorem shiftLeft_of_lt {v : UInt64} (h : k < 64) :
    (shiftLeft v k : Run ε UInt64) = .ok (v <<< UInt64.ofNat k) := if_pos h

theorem shiftRight_of_lt {v : UInt8} (h : k < 8) :
    (shiftRight v k : Run ε UInt8) = .ok (v >>> UInt8.ofNat k) := if_pos h

theorem index_of_lt (h : i < xs.length) : (index xs i : Run ε α) = .ok xs[i] := by
  rw [index, List.getElem?_eq_getElem h]

theorem sliceFrom_of_le (h : i ≤ xs.length) : (sliceFrom xs i : Run ε (List α)) = .ok (xs.drop i) :=
  if_pos h

theorem getRange_add (h : a + b ≤ xs.length) : getRange xs a (a + b) = some ((xs.drop a).take b) := by
  rw [getRange, if_pos ⟨Nat.le_add_right a b, h⟩, Nat.add_sub_cancel_left]

theorem getRange_of_gt (h : xs.length < b) : getRange xs a b = none := if_neg (by omega)

theorem expectArray_of_length {n : Nat} (h : xs.length = n) :
    (expectArray n xs : Run ε (List α)) = .ok xs := if_pos h

theorem assert_of {c : Prop} [Decidable c] (h : c) : (assert c : Run ε Unit) = .ok () := if_pos h

/-- A loop whose every round returns. -/
theorem mapM_ok {f : α → Run ε β} {g : α → β} :
    ∀ {l : List α}, (∀ x ∈ l, f x = .ok (g x)) → l.mapM f = .ok (l.map g)
  | [], _ => rfl
  | x :: l, h => by
    have hl := mapM_ok fun y hy => h y (List.mem_cons_of_mem x hy)
    rw [List.mapM_cons, h x List.mem_cons_self, hl]
    rfl

/-- A loop whose every round returns or fails. -/
theorem mapM_ofResult {f' : α → Run ε β} {f : α → Except ε β} :
    ∀ {l : List α}, (∀ x ∈ l, f' x = ofResult (f x)) → l.mapM f' = ofResult (l.mapM f)
  | [], _ => rfl
  | x :: l, h => by
    have hl := mapM_ofResult fun y hy => h y (List.mem_cons_of_mem x hy)
    rw [List.mapM_cons, List.mapM_cons, h x List.mem_cons_self, hl, ofResult_bind]
    congr 1
    funext y
    cases l.mapM f <;> rfl

/-- `[xs[0], .., xs[n - 1]]`. -/
theorem mapM_index {n : Nat} (xs : List α) (h : n ≤ xs.length) :
    (List.range n).mapM (index xs) = (.ok (xs.take n) : Run ε (List α)) := by
  induction n with
  | zero => rfl
  | succ n ih =>
    have hn : n < xs.length := by omega
    rw [List.range_succ, List.mapM_append, ih (by omega), List.take_succ_eq_append_getElem hn]
    simp only [List.mapM_cons, List.mapM_nil, index_of_lt hn]
    rfl

end Checks

/-! ## 2. Code that never panics -/

/-- From states in `V`, `x'` does what `x` does, stays in `V` and returns values in `Q`. -/
def Follows (V : σ → Prop) (x' : StateT σ (Except (Stop ε)) α) (x : StateT σ (Except ε) α)
    (Q : α → Prop) : Prop :=
  ∀ s, V s → x' s = ofResult (x s) ∧ ∀ a s', x s = .ok (a, s') → V s' ∧ Q a

namespace Follows

variable {V : σ → Prop} {Q : α → Prop}

theorem pure {a : α} (h : Q a) : Follows V (Pure.pure a) (Pure.pure a : StateT σ (Except ε) α) Q := by
  intro s hs
  refine ⟨rfl, fun a' s' h' => ?_⟩
  obtain ⟨rfl, rfl⟩ := Prod.mk.inj (Except.ok.inj h')
  exact ⟨hs, h⟩

theorem throw (e : ε) :
    Follows V (MonadExcept.throw (Stop.error e)) (MonadExcept.throw e : StateT σ (Except ε) α) Q := by
  intro s _
  exact ⟨rfl, fun a' s' h' => absurd h' (by
    simp [MonadExcept.throw, throwThe, MonadExceptOf.throw, StateT.lift, Bind.bind, Except.bind])⟩

theorem bind {x' : StateT σ (Except (Stop ε)) α} {x : StateT σ (Except ε) α}
    {f' : α → StateT σ (Except (Stop ε)) β} {f : α → StateT σ (Except ε) β} {R : β → Prop}
    (hx : Follows V x' x Q) (hf : ∀ a, Q a → Follows V (f' a) (f a) R) :
    Follows V (x' >>= f') (x >>= f) R := by
  intro s hs
  obtain ⟨heq, hok⟩ := hx s hs
  simp only [Bind.bind, StateT.bind, Except.bind, heq]
  cases hxs : x s with
  | error e => exact ⟨rfl, fun b s' h => absurd h (by simp)⟩
  | ok p =>
    obtain ⟨hs', ha⟩ := hok p.1 p.2 hxs
    exact hf p.1 ha p.2 hs'

theorem map {x' : StateT σ (Except (Stop ε)) α} {x : StateT σ (Except ε) α} {f : α → β}
    {R : β → Prop} (hx : Follows V x' x Q) (hf : ∀ a, Q a → R (f a)) :
    Follows V (x' >>= fun a => Pure.pure (f a)) (x >>= fun a => Pure.pure (f a)) R :=
  hx.bind fun a ha => .pure (hf a ha)

/-- Code that leaves the state alone. -/
theorem lift {x' : Run ε α} {x : Except ε α} (heq : x' = ofResult x) (hx : ∀ a, x = .ok a → Q a) :
    Follows V (liftM x' : StateT σ (Except (Stop ε)) α) (liftM x) Q := by
  intro s hs
  subst heq
  cases x with
  | error e =>
    exact ⟨rfl, fun a s' h => absurd h (by
      simp [liftM, monadLift, MonadLift.monadLift, StateT.lift, Bind.bind, Except.bind])⟩
  | ok a =>
    refine ⟨rfl, fun a' s' h => ?_⟩
    obtain ⟨rfl, rfl⟩ := Prod.mk.inj (Except.ok.inj h)
    exact ⟨hs, hx a rfl⟩

/-- A check that passes. -/
theorem checked {c : Run ε β} {b : β} {f' : β → StateT σ (Except (Stop ε)) α}
    {x : StateT σ (Except ε) α} (hc : c = .ok b) (hf : Follows V (f' b) x Q) :
    Follows V (liftM c >>= f') x Q := by
  subst hc
  exact hf

theorem imp {x' : StateT σ (Except (Stop ε)) α} {x : StateT σ (Except ε) α} {R : α → Prop}
    (hx : Follows V x' x Q) (hQ : ∀ a, Q a → R a) : Follows V x' x R := by
  intro s hs
  obtain ⟨heq, hok⟩ := hx s hs
  exact ⟨heq, fun a s' h => ⟨(hok a s' h).1, hQ a (hok a s' h).2⟩⟩

end Follows

end Panic
