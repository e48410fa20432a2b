/-
# The grammar of JSON

`Value.Spells v t` says that the characters `t` are a JSON text of the value `v`, without white
space around it.  A number without fraction and exponent is an integer; the others are kept as
they are written.  A string is the list of its code units: a plain character counts with its code
point and `\uXXXX` with the number `XXXX`, so that an escaped surrogate is a unit of its own.  An
object is the list of its members in the order of the text, equal names included.

The results say what a text looks like from outside: a literal or a number holds plain characters
only, and every other text stands between two delimiters (`Value.Spells.shape`); a string written
without escapes is its own text (`StringSpells.eq_map`); and a text that reads as a flag or as an
integer is one of that value (`Value.Spells.eq_bool`, `Value.Spells.eq_int`).
-/
import Mathlib

namespace Json

/-! ## 1. Values -/

inductive Value where
  | null
  | bool (b : Bool)
  | int (n : Int)
  | decimal (text : List Char)
  | string (units : List Nat)
  | array (elements : List Value)
  | object (members : List (List Nat × Value))

/-- The code units of a string that needs no escapes. -/
def unitsOf (s : String) : List Nat := s.toList.map Char.toNat

/-! ## 2. Texts -/

/-- Insignificant white space. -/
def Space (s : List Char) : Prop := ∀ c ∈ s, c = ' ' ∨ c = '\t' ∨ c = '\n' ∨ c = '\r'

/-- The units of the two-character escapes. -/
def escapeUnit : Char → Option Nat
  | '"' => some 0x22
  | '\\' => some 0x5c
  | '/' => some 0x2f
  | 'b' => some 0x08
  | 'f' => some 0x0c
  | 'n' => some 0x0a
  | 'r' => some 0x0d
  | 't' => some 0x09
  | _ => none

def hexDigit (c : Char) : Option Nat :=
  if '0' ≤ c ∧ c ≤ '9' then some (c.toNat - '0'.toNat)
  else if 'a' ≤ c ∧ c ≤ 'f' then some (c.toNat - 'a'.toNat + 10)
  else if 'A' ≤ c ∧ c ≤ 'F' then some (c.toNat - 'A'.toNat + 10)
  else none

/-- What stands between the quotes of a string. -/
inductive StringSpells : List Nat → List Char → Prop
  | nil : StringSpells [] []
  | plain {c : Char} {us : List Nat} {t : List Char} : c ≠ '"' → c ≠ '\\' → 0x20 ≤ c.toNat →
      StringSpells us t → StringSpells (c.toNat :: us) (c :: t)
  | escape {c : Char} {u : Nat} {us : List Nat} {t : List Char} : escapeUnit c = some u →
      StringSpells us t → StringSpells (u :: us) ('\\' :: c :: t)
  | unicode {c1 c2 c3 c4 : Char} {d1 d2 d3 d4 : Nat} {us : List Nat} {t : List Char} :
      hexDigit c1 = some d1 → hexDigit c2 = some d2 → hexDigit c3 = some d3 →
      hexDigit c4 = some d4 → StringSpells us t →
      StringSpells ((((d1 * 16 + d2) * 16 + d3) * 16 + d4) :: us)
        ('\\' :: 'u' :: c1 :: c2 :: c3 :: c4 :: t)

/-- A run of decimal digits. -/
def Digits (t : List Char) : Prop := t ≠ [] ∧ ∀ c ∈ t, c.isDigit = true

/-- A natural number, without superfluous zeros. -/
inductive NatSpells : Nat → List Char → Prop
  | zero : NatSpells 0 ['0']
  | digits {c : Char} {cs : List Char} : c ≠ '0' → Digits (c :: cs) →
      NatSpells (Nat.ofDigitChars 10 (c :: cs) 0) (c :: cs)

inductive IntSpells : Int → List Char → Prop
  | nonneg {n : Nat} {t : List Char} : NatSpells n t → IntSpells n t
  | neg {n : Nat} {t : List Char} : NatSpells n t → IntSpells (-(n : Int)) ('-' :: t)

inductive FractionSpells : List Char → Prop
  | none : FractionSpells []
  | some {t : List Char} : Digits t → FractionSpells ('.' :: t)

inductive ExponentSpells : List Char → Prop
  | none : ExponentSpells []
  | some {e : Char} {sign t : List Char} : e = 'e' ∨ e = 'E' →
      sign = [] ∨ sign = ['+'] ∨ sign = ['-'] → Digits t → ExponentSpells (e :: (sign ++ t))

mutual

/-- A JSON text. -/
inductive Value.Spells : Value → List Char → Prop
  | null : Value.Spells .null "null".toList
  | bool (b : Bool) : Value.Spells (.bool b) (toString b).toList
  | int {n : Int} {t : List Char} : IntSpells n t → Value.Spells (.int n) t
  | decimal {n : Int} {i f e : List Char} : IntSpells n i → FractionSpells f → ExponentSpells e →
      f ++ e ≠ [] → Value.Spells (.decimal (i ++ (f ++ e))) (i ++ (f ++ e))
  | string {us : List Nat} {t : List Char} : StringSpells us t →
      Value.Spells (.string us) ('"' :: (t ++ ['"']))
  | emptyArray {w : List Char} : Space w → Value.Spells (.array []) ('[' :: (w ++ [']']))
  | array {vs : List Value} {ts : List (List Char)} : vs ≠ [] → List.Forall₂ Element.Spells vs ts →
      Value.Spells (.array vs) ('[' :: ([','].intercalate ts ++ [']']))
  | emptyObject {w : List Char} : Space w → Value.Spells (.object []) ('\x7b' :: (w ++ ['\x7d']))
  | object {ms : List (List Nat × Value)} {ts : List (List Char)} : ms ≠ [] →
      List.Forall₂ Member.Spells ms ts →
      Value.Spells (.object ms) ('\x7b' :: ([','].intercalate ts ++ ['\x7d']))

/-- An element of an array: a value with white space around it. -/
inductive Element.Spells : Value → List Char → Prop
  | mk {v : Value} {a t b : List Char} : Space a → Value.Spells v t → Space b →
      Element.Spells v (a ++ (t ++ b))

/-- A member of an object: a quoted name, a colon and a value, with white space around each. -/
inductive Member.Spells : List Nat × Value → List Char → Prop
  | mk {name : List Nat} {v : Value} {a k b c t d : List Char} : Space a → StringSpells name k →
      Space b → Space c → Value.Spells v t → Space d →
      Member.Spells (name, v) (a ++ ('"' :: (k ++ ['"']) ++ b) ++ ':' :: (c ++ (t ++ d)))

end

/-! ## 3. What a text looks like -/

/-- A string written without escapes. -/
theorem StringSpells.eq_map {us : List Nat} {t : List Char} (h : StringSpells us t)
    (hplain : '\\' ∉ t) : us = t.map Char.toNat ∧ '"' ∉ t := by
  induction h with
  | nil => simp
  | @plain c us t hquote _ _ _ ih =>
    obtain ⟨rfl, hrest⟩ := ih fun hmem => hplain (List.mem_cons_of_mem _ hmem)
    refine ⟨rfl, fun hmem => ?_⟩
    rcases List.mem_cons.mp hmem with rfl | hmem
    · exact hquote rfl
    · exact hrest hmem
  | escape => exact absurd List.mem_cons_self hplain
  | unicode => exact absurd List.mem_cons_self hplain

/-- A string that needs no escapes may be written as it is. -/
theorem StringSpells.of_plain {t : List Char}
    (h : ∀ c ∈ t, c ≠ '"' ∧ c ≠ '\\' ∧ 0x20 ≤ c.toNat) : StringSpells (t.map Char.toNat) t := by
  induction t with
  | nil => exact .nil
  | cons c t ih =>
    obtain ⟨hquote, hescape, hcontrol⟩ := h c List.mem_cons_self
    exact .plain hquote hescape hcontrol (ih fun d hd => h d (List.mem_cons_of_mem _ hd))

/-- An integer is its digits, with a minus sign or without. -/
theorem IntSpells.exists_digits {n : Int} {t : List Char} (h : IntSpells n t) :
    ∃ ds, Digits ds ∧ (t = ds ∧ n = (Nat.ofDigitChars 10 ds 0 : Nat) ∨
      t = '-' :: ds ∧ n = -((Nat.ofDigitChars 10 ds 0 : Nat) : Int)) := by
  have hnat : ∀ {m : Nat} {u : List Char}, NatSpells m u →
      Digits u ∧ m = Nat.ofDigitChars 10 u 0 := by
    intro m u hu
    cases hu with
    | zero => exact ⟨⟨by simp, by simp⟩, rfl⟩
    | digits _ hds => exact ⟨hds, rfl⟩
  cases h with
  | nonneg h =>
    obtain ⟨hds, rfl⟩ := hnat h
    exact ⟨_, hds, .inl ⟨rfl, rfl⟩⟩
  | neg h =>
    obtain ⟨hds, rfl⟩ := hnat h
    exact ⟨_, hds, .inr ⟨rfl, rfl⟩⟩

/-- The characters of literals and numbers. -/
def PlainChar (c : Char) : Prop := c.isAlphanum = true ∨ c = '-' ∨ c = '+' ∨ c = '.'

theorem PlainChar.of_isDigit {c : Char} (h : c.isDigit = true) : PlainChar c :=
  .inl (by simp [Char.isAlphanum, h])

theorem IntSpells.plain {n : Int} {t : List Char} (h : IntSpells n t) : ∀ c ∈ t, PlainChar c := by
  obtain ⟨ds, hds, ⟨rfl, -⟩ | ⟨rfl, -⟩⟩ := h.exists_digits
  · exact fun c hc => .of_isDigit (hds.2 c hc)
  · intro c hc
    rcases List.mem_cons.mp hc with rfl | hc
    · exact .inr (.inl rfl)
    · exact .of_isDigit (hds.2 c hc)

theorem FractionSpells.plain {t : List Char} (h : FractionSpells t) : ∀ c ∈ t, PlainChar c := by
  cases h with
  | none => simp
  | some hds =>
    intro c hc
    rcases List.mem_cons.mp hc with rfl | hc
    · exact .inr (.inr (.inr rfl))
    · exact .of_isDigit (hds.2 c hc)

theorem ExponentSpells.plain {t : List Char} (h : ExponentSpells t) : ∀ c ∈ t, PlainChar c := by
  cases h with
  | none => simp
  | some he hsign hds =>
    intro c hc
    rcases List.mem_cons.mp hc with rfl | hc
    · rcases he with rfl | rfl
      · exact .inl (by decide)
      · exact .inl (by decide)
    · rcases List.mem_append.mp hc with hc | hc
      · rcases hsign with rfl | rfl | rfl
        · exact absurd hc List.not_mem_nil
        · exact .inr (.inr (.inl (List.mem_singleton.mp hc)))
        · exact .inr (.inl (List.mem_singleton.mp hc))
      · exact .of_isDigit (hds.2 c hc)

/-- The characters that stand around the text of a string, an array or an object. -/
def Delimiters (a b : Char) : Prop :=
  (a = '"' ∧ b = '"') ∨ (a = '[' ∧ b = ']') ∨ (a = '\x7b' ∧ b = '\x7d')

/-- **The shape of a text.** -/
theorem Value.Spells.shape {v : Value} {t : List Char} (h : v.Spells t) :
    (∀ c ∈ t, PlainChar c) ∨ ∃ a m b, t = a :: (m ++ [b]) ∧ Delimiters a b := by
  cases h with
  | null =>
    have hall : "null".toList.all Char.isAlphanum = true := by decide
    exact .inl fun c hc => .inl (List.all_eq_true.mp hall c hc)
  | bool b =>
    have hall : (toString b).toList.all Char.isAlphanum = true := by cases b <;> decide
    exact .inl fun c hc => .inl (List.all_eq_true.mp hall c hc)
  | int h => exact .inl h.plain
  | decimal hi hf he _ =>
    refine .inl fun c hc => ?_
    rcases List.mem_append.mp hc with hc | hc
    · exact hi.plain c hc
    · rcases List.mem_append.mp hc with hc | hc
      · exact hf.plain c hc
      · exact he.plain c hc
  | string _ => exact .inr ⟨_, _, _, rfl, .inl ⟨rfl, rfl⟩⟩
  | emptyArray _ => exact .inr ⟨_, _, _, rfl, .inr (.inl ⟨rfl, rfl⟩)⟩
  | array _ _ => exact .inr ⟨_, _, _, rfl, .inr (.inl ⟨rfl, rfl⟩)⟩
  | emptyObject _ => exact .inr ⟨_, _, _, rfl, .inr (.inr ⟨rfl, rfl⟩)⟩
  | object _ _ => exact .inr ⟨_, _, _, rfl, .inr (.inr ⟨rfl, rfl⟩)⟩

/-- The first character of a text of the value. -/
def Value.Opens : Value → Char → Prop
  | .null, c => c = 'n'
  | .bool b, c => c = if b then 't' else 'f'
  | .int _, c | .decimal _, c => c.isDigit = true ∨ c = '-'
  | .string _, c => c = '"'
  | .array _, c => c = '['
  | .object _, c => c = '\x7b'

theorem IntSpells.opens {n : Int} {t : List Char} (h : IntSpells n t) :
    ∃ c cs, t = c :: cs ∧ (c.isDigit = true ∨ c = '-') := by
  obtain ⟨ds, hds, ⟨rfl, -⟩ | ⟨rfl, -⟩⟩ := h.exists_digits
  · obtain ⟨c, cs, rfl⟩ := List.exists_cons_of_ne_nil hds.1
    exact ⟨c, cs, rfl, .inl (hds.2 c List.mem_cons_self)⟩
  · exact ⟨'-', ds, rfl, .inr rfl⟩

/-- The kind of a value can be told from the first character of a text. -/
theorem Value.Spells.opens {v : Value} {t : List Char} (h : v.Spells t) :
    ∃ c cs, t = c :: cs ∧ v.Opens c := by
  cases h with
  | null => exact ⟨'n', "ull".toList, rfl, rfl⟩
  | bool b => cases b <;> exact ⟨_, _, rfl, rfl⟩
  | int h => exact h.opens
  | decimal hi _ _ _ =>
    obtain ⟨c, cs, rfl, hc⟩ := hi.opens
    exact ⟨c, _, rfl, hc⟩
  | string _ => exact ⟨_, _, rfl, rfl⟩
  | emptyArray _ => exact ⟨_, _, rfl, rfl⟩
  | array _ _ => exact ⟨_, _, rfl, rfl⟩
  | emptyObject _ => exact ⟨_, _, rfl, rfl⟩
  | object _ _ => exact ⟨_, _, rfl, rfl⟩

/-- Only a flag is written like one. -/
theorem Value.Spells.eq_bool {v : Value} {b : Bool} (h : v.Spells (toString b).toList) :
    v = .bool b := by
  obtain ⟨c, cs, hc, hopens⟩ := h.opens
  have hhead : c = if b then 't' else 'f' := by
    cases b <;> exact (List.cons.inj hc).1.symm
  cases v with
  | bool b' => cases b <;> cases b' <;> simp_all [Value.Opens]
  | _ => cases b <;> simp_all [Value.Opens]

theorem exists_mem_of_decimal {f e : List Char} (hf : FractionSpells f) (he : ExponentSpells e)
    (hne : f ++ e ≠ []) : ∃ c ∈ f ++ e, c = '.' ∨ c = 'e' ∨ c = 'E' := by
  cases hf with
  | some _ => exact ⟨'.', by simp, .inl rfl⟩
  | none =>
    cases he with
    | none => exact absurd rfl hne
    | @some x _ _ hx _ _ => exact ⟨x, by simp, .inr hx⟩

/-- Only an integer is written with digits and signs alone. -/
theorem Value.Spells.int_of_digits {v : Value} {t : List Char} (h : v.Spells t)
    (hall : ∀ c ∈ t, c.isDigit = true ∨ c = '-' ∨ c = '+') : ∃ n, v = .int n ∧ IntSpells n t := by
  obtain ⟨c, cs, hc, hopens⟩ := h.opens
  have hhead := hall c (by rw [hc]; exact List.mem_cons_self)
  cases h with
  | int h => exact ⟨_, rfl, h⟩
  | decimal _ hf he hne =>
    obtain ⟨x, hx, hx'⟩ := exists_mem_of_decimal hf he hne
    have hdigit := hall x (List.mem_append_right _ hx)
    rcases hx' with rfl | rfl | rfl <;> exact absurd hdigit (by decide)
  | bool b => cases b <;> (rw [show c = _ from hopens] at hhead; exact absurd hhead (by decide))
  | _ => rw [show c = _ from hopens] at hhead; exact absurd hhead (by decide)

/-- A text of digits, with a minus sign or without, is an integer; with a plus sign it is none. -/
theorem Value.Spells.eq_int {v : Value} {t ds : List Char} (h : v.Spells t) (hds : Digits ds) :
    (t = ds → v = .int (Nat.ofDigitChars 10 ds 0 : Nat)) ∧
    (t = '-' :: ds → v = .int (-((Nat.ofDigitChars 10 ds 0 : Nat) : Int))) ∧ t ≠ '+' :: ds := by
  have hsign : ∀ c, c = '-' ∨ c = '+' → c ∉ ds := by
    intro c hc hmem
    have hdigit := hds.2 c hmem
    rcases hc with rfl | rfl <;> exact absurd hdigit (by decide)
  refine ⟨?_, ?_, ?_⟩
  · rintro rfl
    obtain ⟨n, rfl, hn⟩ := h.int_of_digits fun c hc => .inl (hds.2 c hc)
    obtain ⟨ds', -, ⟨rfl, rfl⟩ | ⟨rfl, -⟩⟩ := hn.exists_digits
    · rfl
    · exact absurd List.mem_cons_self (hsign '-' (.inl rfl))
  · rintro rfl
    obtain ⟨n, rfl, hn⟩ := h.int_of_digits fun c hc => by
      rcases List.mem_cons.mp hc with rfl | hc
      · exact .inr (.inl rfl)
      · exact .inl (hds.2 c hc)
    obtain ⟨ds', hds', ⟨rfl, -⟩ | ⟨hcons, rfl⟩⟩ := hn.exists_digits
    · exact absurd (hds'.2 '-' List.mem_cons_self) (by decide)
    · rw [(List.cons.inj hcons).2]
  · rintro rfl
    obtain ⟨n, rfl, hn⟩ := h.int_of_digits fun c hc => by
      rcases List.mem_cons.mp hc with rfl | hc
      · exact .inr (.inr rfl)
      · exact .inl (hds.2 c hc)
    obtain ⟨ds', hds', ⟨rfl, -⟩ | ⟨hcons, -⟩⟩ := hn.exists_digits
    · exact absurd (hds'.2 '+' List.mem_cons_self) (by decide)
    · exact absurd (List.cons.inj hcons).1 (by decide)

end Json
