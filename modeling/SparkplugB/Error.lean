/-
# The crate-wide error type

`src/error.rs`.  One constructor per variant of `SparkplugError`, with the data each variant
carries.  The `Display` texts (`#[error(..)]`) are not modelled: no function of the crate
reads them back.
-/
import Mathlib

namespace SparkplugB

/-- Errors produced while building, encoding, decoding, or parsing Sparkplug B data. -/
inductive SparkplugError where
  | invalidTopic (msg : String)
  | invalidId (msg : String)
  | truncated
  | varintOverflow
  | invalidWireType (wire : Nat)
  | invalidUtf8
  | unknownDataType (code : UInt32)
  | missingDataType (what : String)
  | arrayLength (len width : Nat)
  | dataSetShape (msg : String)
  | valueTypeMismatch (msg : String)
  | recursionLimit
  | invalidState (msg : String)
  | io (msg : String)
  | transport (msg : String)
  deriving DecidableEq, Repr

/-- `crate::error::Result`. -/
abbrev Result (α : Type) := Except SparkplugError α

/-- A result that passes a test is an `Ok`. -/
theorem exists_ok {α : Type} (x : Result α) (test : α → Bool)
    (h : x.toOption.any test = true) : ∃ a, x = .ok a ∧ test a = true := by
  cases x with
  | error e => exact absurd h (by simp [Except.toOption])
  | ok a => exact ⟨a, rfl, h⟩

/-- A result that is not an `Ok` is an `Err`. -/
theorem exists_error {α : Type} (x : Result α) (h : x.isOk = false) : ∃ e, x = .error e := by
  cases x with
  | error e => exact ⟨e, rfl⟩
  | ok a => exact absurd h (by simp [Except.isOk, Except.toBool])

theorem ok_of_bind {α β : Type} {x : Result α} {f : α → Result β} {b : β} (h : x.bind f = .ok b) :
    ∃ a, x = .ok a ∧ f a = .ok b := by
  cases x with
  | ok a => exact ⟨a, rfl, h⟩
  | error e => exact absurd h (by simp [Except.bind])

theorem bind_of_ok {α β : Type} {x : Result α} {f : α → Result β} {a : α} {b : β} (hx : x = .ok a)
    (hb : f a = .ok b) : x.bind f = .ok b := by
  rw [hx]
  exact hb

theorem ok_of_map {α β : Type} {x : Result α} {f : α → β} {b : β}
    (h : (do pure (f (← x)) : Result β) = .ok b) :
    ∃ a, x = .ok a ∧ f a = b := by
  obtain ⟨a, ha, hb⟩ := ok_of_bind h
  exact ⟨a, ha, Except.ok.inj hb⟩

theorem map_mono {α β : Type} {x x' : Result α} {f : α → β} {b : β}
    (hx : ∀ a, x = .ok a → x' = .ok a) (h : (do pure (f (← x)) : Result β) = .ok b) :
    (do pure (f (← x')) : Result β) = .ok b := by
  obtain ⟨a, ha, rfl⟩ := ok_of_map h
  rw [hx a ha]
  rfl

theorem exists_of_isOk {α : Type} {x : Result α} (h : x.isOk = true) : ∃ a, x = .ok a := by
  cases x with
  | ok a => exact ⟨a, rfl⟩
  | error e => exact absurd h (by simp [Except.isOk, Except.toBool])

/-- `&[u8]`, `Vec<u8>` and `bytes::Bytes`. -/
abbrev Bytes := List UInt8

/-- `{c:?}` for one character of a string: what `str::escape_debug` makes of the ASCII range.
Outside of it Rust also escapes what its Unicode tables call unprintable or combining, and here it
stands as it is; only the texts of errors show the difference. -/
def debugChar (c : Char) : List Char :=
  if c = '"' then ['\\', '"']
  else if c = '\\' then ['\\', '\\']
  else if c = '\n' then ['\\', 'n']
  else if c = '\r' then ['\\', 'r']
  else if c = '\t' then ['\\', 't']
  else if c.toNat = 0 then ['\\', '0']
  else if c.toNat < 32 ∨ c.toNat = 127 then
    ['\\', 'u', '\x7b'] ++ Nat.toDigits 16 c.toNat ++ ['\x7d']
  else [c]

/-- `{s:?}` of a string. -/
def debugStr (s : String) : String :=
  String.ofList (['"'] ++ s.toList.flatMap debugChar ++ ['"'])

end SparkplugB
