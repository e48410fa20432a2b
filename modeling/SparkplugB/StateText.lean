/-
# A STATE that is written is read back

`parse` accepts what `toJson` writes, for either flag and every timestamp.  The digits of the
timestamp are read in the sign's direction, so the least one is read without an overflow.
-/
import SparkplugB.State

namespace SparkplugB

/-! ## 1. Integers -/

theorem le_ofDigitChars (ds : List Char) : ∀ acc : Nat, acc ≤ Nat.ofDigitChars 10 ds acc := by
  induction ds with
  | nil =>
    intro acc
    rw [Nat.ofDigitChars_nil]
  | cons c ds ih =>
    intro acc
    rw [Nat.ofDigitChars_cons]
    exact le_trans (by omega) (ih _)

/-- The digits, read with either sign, as long as the number fits. -/
theorem parseDigits_ofDigitChars (negative : Bool) :
    ∀ (ds : List Char), (∀ c ∈ ds, c.isDigit = true) → ∀ acc : Nat,
      Nat.ofDigitChars 10 ds acc < 2 ^ 63 + negative.toNat →
      parseDigits negative (if negative then -(acc : Int) else acc) ds =
        .ok (if negative then -(Nat.ofDigitChars 10 ds acc : Int) else Nat.ofDigitChars 10 ds acc) := by
  intro ds
  induction ds with
  | nil =>
    intro _ acc _
    rw [Nat.ofDigitChars_nil, parseDigits]
  | cons c ds ih =>
    intro hdigits acc hfits
    have hc := hdigits c List.mem_cons_self
    have hrest : ∀ c ∈ ds, c.isDigit = true := fun c hc => hdigits c (List.mem_cons_of_mem _ hc)
    rw [Nat.ofDigitChars_cons] at hfits ⊢
    have hgrow := le_ofDigitChars ds (10 * acc + (c.toNat - '0'.toNat))
    have hrange : '0' ≤ c ∧ c ≤ '9' := by
      simp only [Char.isDigit, Bool.and_eq_true, decide_eq_true_eq] at hc
      exact hc
    have hnat : '0'.toNat ≤ c.toNat := hrange.1
    have hzero : '0'.toNat = 48 := rfl
    rw [hzero] at hnat hfits hgrow ⊢
    rw [parseDigits, if_neg (not_not.mpr hrange)]
    dsimp only
    have hstep := ih hrest (10 * acc + (c.toNat - 48)) hfits
    cases negative with
    | true =>
      simp only [if_true, Bool.toNat_true] at hfits hstep ⊢
      have hval : (-(acc : Int)) * 10 - ((c.toNat : Int) - ('0'.toNat : Int)) =
          -((10 * acc + (c.toNat - 48) : Nat) : Int) := by
        rw [hzero]
        omega
      rw [hval, if_neg (by omega), hstep]
    | false =>
      simp only [Bool.false_eq_true, if_false, Bool.toNat_false] at hfits hstep ⊢
      have hval : (acc : Int) * 10 + ((c.toNat : Int) - ('0'.toNat : Int)) =
          ((10 * acc + (c.toNat - 48) : Nat) : Int) := by
        rw [hzero]
        omega
      rw [hval, if_neg (by omega), hstep]

/-- The digits of a number are digits, and there is at least one. -/
theorem parseInt64_digits {c : Char} {cs : List Char} (hc : c.isDigit = true) :
    parseInt64 (c :: cs) = (parseDigits false 0 (c :: cs)).map Int64.ofInt := by
  have hplus : c ≠ '+' := by
    rintro rfl
    exact absurd hc (by decide)
  have hminus : c ≠ '-' := by
    rintro rfl
    exact absurd hc (by decide)
  unfold parseInt64
  split <;> simp_all

/-- Digits that fit are read as their number. -/
theorem parseInt64_of_digits {ds : List Char} (hne : ds ≠ [])
    (hdigits : ∀ c ∈ ds, c.isDigit = true) (hfits : Nat.ofDigitChars 10 ds 0 < 2 ^ 63) :
    parseInt64 ds = .ok (Int64.ofInt (Nat.ofDigitChars 10 ds 0)) := by
  have hparse := parseDigits_ofDigitChars false ds hdigits 0 (by rwa [Bool.toNat_false])
  simp only [Bool.false_eq_true, if_false, Nat.cast_zero] at hparse
  obtain ⟨c, cs, rfl⟩ := List.exists_cons_of_ne_nil hne
  rw [parseInt64_digits (hdigits c List.mem_cons_self), hparse]
  rfl

/-- So are digits behind a minus sign, down to the least integer. -/
theorem parseInt64_of_minus {ds : List Char} (hne : ds ≠ [])
    (hdigits : ∀ c ∈ ds, c.isDigit = true) (hfits : Nat.ofDigitChars 10 ds 0 < 2 ^ 63 + 1) :
    parseInt64 ('-' :: ds) = .ok (Int64.ofInt (-(Nat.ofDigitChars 10 ds 0 : Int))) := by
  have hparse := parseDigits_ofDigitChars true ds hdigits 0 (by rwa [Bool.toNat_true])
  simp only [if_true, Nat.cast_zero, neg_zero] at hparse
  have hread : parseInt64 ('-' :: ds) = (parseDigits true 0 ds).map Int64.ofInt := by
    obtain ⟨c, cs, rfl⟩ := List.exists_cons_of_ne_nil hne
    rfl
  rw [hread, hparse]
  rfl

theorem isDigit_of_mem {n : Nat} {c : Char} (hc : c ∈ Nat.toDigits 10 n) : c.isDigit = true :=
  Nat.isDigit_of_mem_toDigits (by decide) (by decide) hc

theorem toInt_lt (n : Int64) : n.toInt < 2 ^ 63 := by
  have hle := n.toInt_le
  have hmax : Int64.maxValue.toInt = 2 ^ 63 - 1 := by decide
  omega

theorem le_toInt (n : Int64) : -2 ^ 63 ≤ n.toInt := by
  have hge := n.le_toInt
  have hmin : Int64.minValue.toInt = -2 ^ 63 := by decide
  omega

/-- **An integer that is printed is read back.** -/
theorem parseInt64_toString (n : Int64) : parseInt64 (toString n.toInt).toList = .ok n := by
  have hlt := toInt_lt n
  have hge := le_toInt n
  rw [Int.toString_eq_repr, Int.repr_eq_if]
  by_cases hpos : 0 ≤ n.toInt
  · rw [if_pos hpos, Nat.toList_repr,
      parseInt64_of_digits Nat.toDigits_ne_nil (fun c hc => isDigit_of_mem hc)
        (by rw [Nat.ofDigitChars_ten_toDigits]; omega),
      Nat.ofDigitChars_ten_toDigits, Int.toNat_of_nonneg hpos, Int64.ofInt_toInt]
  · have hlist : ("-" ++ (-n.toInt).toNat.repr).toList =
        '-' :: Nat.toDigits 10 (-n.toInt).toNat := by
      rw [String.toList_append, Nat.toList_repr]
      rfl
    rw [if_neg hpos, hlist,
      parseInt64_of_minus Nat.toDigits_ne_nil (fun c hc => isDigit_of_mem hc)
        (by rw [Nat.ofDigitChars_ten_toDigits]; omega),
      Nat.ofDigitChars_ten_toDigits, Int.toNat_of_nonneg (by omega), neg_neg, Int64.ofInt_toInt]

/-! ### What can be read -/

theorem parseDigits_ok (negative : Bool) : ∀ (ds : List Char) (acc : Nat) (r : Int),
    acc < 2 ^ 63 + negative.toNat →
    parseDigits negative (if negative then -(acc : Int) else acc) ds = .ok r →
      (∀ c ∈ ds, c.isDigit = true) ∧ Nat.ofDigitChars 10 ds acc < 2 ^ 63 + negative.toNat ∧
      r = if negative then -(Nat.ofDigitChars 10 ds acc : Int) else Nat.ofDigitChars 10 ds acc := by
  intro ds
  induction ds with
  | nil =>
    intro acc r hacc h
    rw [parseDigits] at h
    rw [Nat.ofDigitChars_nil]
    exact ⟨by simp, hacc, (Except.ok.inj h).symm⟩
  | cons c ds ih =>
    intro acc r hacc h
    rw [parseDigits] at h
    split at h
    · contradiction
    · rename_i hrange
      have hrange : '0' ≤ c ∧ c ≤ '9' := not_not.mp hrange
      have hdigit : c.isDigit = true := by
        simp only [Char.isDigit, Bool.and_eq_true, decide_eq_true_eq]
        exact hrange
      have hnat : '0'.toNat ≤ c.toNat := hrange.1
      have hzero : '0'.toNat = 48 := rfl
      dsimp only at h
      rw [hzero] at hnat h
      rw [Nat.ofDigitChars_cons, hzero]
      have hall : ∀ {d : List Char}, (∀ x ∈ d, x.isDigit = true) → ∀ x ∈ c :: d, x.isDigit = true :=
        fun hd x hx => (List.mem_cons.mp hx).elim (fun hxc => hxc ▸ hdigit) (hd x)
      cases negative with
      | true =>
        simp only [if_true, Bool.toNat_true] at h ih hacc ⊢
        split at h
        · contradiction
        · have hval : (-(acc : Int)) * 10 - ((c.toNat : Int) - ((48 : Nat) : Int)) =
              -((10 * acc + (c.toNat - 48) : Nat) : Int) := by omega
          rw [hval] at h
          obtain ⟨hds, hlt, hr⟩ := ih _ r (by omega) h
          exact ⟨hall hds, hlt, hr⟩
      | false =>
        simp only [Bool.false_eq_true, if_false, Bool.toNat_false] at h ih hacc ⊢
        split at h
        · contradiction
        · have hval : (acc : Int) * 10 + ((c.toNat : Int) - ((48 : Nat) : Int)) =
              ((10 * acc + (c.toNat - 48) : Nat) : Int) := by omega
          rw [hval] at h
          obtain ⟨hds, hlt, hr⟩ := ih _ r (by omega) h
          exact ⟨hall hds, hlt, hr⟩

/-- What is read as an integer: digits, behind a sign or not, of a number that fits. -/
theorem parseInt64_ok {t : List Char} {n : Int64} (h : parseInt64 t = .ok n) :
    ∃ ds, ds ≠ [] ∧ (∀ c ∈ ds, c.isDigit = true) ∧
      ((t = ds ∨ t = '+' :: ds) ∧ n.toInt = (Nat.ofDigitChars 10 ds 0 : Nat) ∨
        t = '-' :: ds ∧ n.toInt = -((Nat.ofDigitChars 10 ds 0 : Nat) : Int)) := by
  have hread : ∀ (negative : Bool) (ds : List Char),
      (parseDigits negative 0 ds).map Int64.ofInt = .ok n →
      (∀ c ∈ ds, c.isDigit = true) ∧ n.toInt =
        if negative then -((Nat.ofDigitChars 10 ds 0 : Nat) : Int)
        else (Nat.ofDigitChars 10 ds 0 : Nat) := by
    intro negative ds hds
    cases hr : parseDigits negative 0 ds with
    | error e =>
      rw [hr] at hds
      contradiction
    | ok r =>
      rw [hr] at hds
      obtain rfl := Except.ok.inj hds
      obtain ⟨hdigits, hlt, rfl⟩ := parseDigits_ok negative ds 0 r (by cases negative <;> decide)
        (by cases negative <;> simpa using hr)
      refine ⟨hdigits, ?_⟩
      cases negative with
      | true =>
        simp only [if_true, Bool.toNat_true] at hlt ⊢
        exact Int64.toInt_ofInt_of_le (by omega) (by omega)
      | false =>
        simp only [Bool.false_eq_true, if_false, Bool.toNat_false] at hlt ⊢
        exact Int64.toInt_ofInt_of_le (by omega) (by omega)
  unfold parseInt64 at h
  split at h
  · contradiction
  · contradiction
  · contradiction
  · rename_i ds hplus
    obtain ⟨hdigits, hn⟩ := hread false ds h
    exact ⟨ds, fun hnil => hplus (by rw [hnil]), hdigits, .inl ⟨.inr rfl, hn⟩⟩
  · rename_i ds hminus
    obtain ⟨hdigits, hn⟩ := hread true ds h
    exact ⟨ds, fun hnil => hminus (by rw [hnil]), hdigits, .inr ⟨rfl, hn⟩⟩
  · rename_i hne _ _ _ _
    obtain ⟨hdigits, hn⟩ := hread false t h
    exact ⟨t, hne, hdigits, .inl ⟨.inl rfl, hn⟩⟩

/-! ## 2. The object -/

/-- Nothing is stripped from a text that begins and ends with other characters. -/
theorem trimMatches_of_ends {p : Char → Bool} {a b : Char} {s : List Char} (ha : p a = false)
    (hb : p b = false) : trimMatches p (a :: (s ++ [b])) = a :: (s ++ [b]) := by
  unfold trimMatches
  rw [List.dropWhile_cons, ha, if_neg Bool.false_ne_true, ← List.cons_append,
    List.rdropWhile_concat, hb, if_neg Bool.false_ne_true]

theorem splitOnce_append {c : Char} {before after : List Char} (h : c ∉ before) :
    splitOnce c (before ++ c :: after) = some (before, after) := by
  unfold splitOnce
  have hspan : (before ++ c :: after).span (· ≠ c) = (before, c :: after) := by
    rw [List.span_eq_takeWhile_dropWhile]
    have hall : ∀ x ∈ before, decide (x ≠ c) = true := by
      intro x hx
      simp only [decide_eq_true_eq]
      rintro rfl
      exact h hx
    rw [List.takeWhile_append_of_pos hall, List.dropWhile_append_of_pos hall]
    simp
  rw [hspan]

theorem trimMatches_of_all {p : Char → Bool} {s : List Char} (h : ∀ c ∈ s, p c = false) :
    trimMatches p s = s := by
  unfold trimMatches
  have hfront : s.dropWhile p = s := by
    cases s with
    | nil => rfl
    | cons c s => rw [List.dropWhile_cons, h c List.mem_cons_self, if_neg Bool.false_ne_true]
  rw [hfront, List.rdropWhile_eq_self_iff]
  intro hne
  rw [h _ (List.getLast_mem hne)]
  exact Bool.false_ne_true

/-- A printed integer consists of digits, and a sign. -/
theorem mem_toString_int {n : Int} {c : Char} (hc : c ∈ (toString n).toList) :
    c.isDigit = true ∨ c = '-' := by
  rw [Int.toString_eq_repr, Int.repr_eq_if] at hc
  split at hc
  · rw [Nat.toList_repr] at hc
    exact .inl (isDigit_of_mem hc)
  · rw [String.toList_append, Nat.toList_repr] at hc
    rcases List.mem_append.mp hc with hc | hc
    · exact .inr (List.mem_singleton.mp hc)
    · exact .inl (isDigit_of_mem hc)

/-- A printed integer needs no trimming, and holds no separator. -/
theorem plain_of_mem {n : Int} {c : Char} (hc : c ∈ (toString n).toList) :
    isWhitespace c = false ∧ c ≠ ',' := by
  rcases mem_toString_int hc with hdigit | rfl
  · simp only [Char.isDigit, Bool.and_eq_true, decide_eq_true_eq] at hdigit
    have hlow : 48 ≤ c.toNat := hdigit.1
    have hhigh : c.toNat ≤ 57 := hdigit.2
    refine ⟨?_, ?_⟩
    · unfold isWhitespace
      simp only [Bool.or_eq_false_iff, Bool.and_eq_false_iff, decide_eq_false_iff_not]
      omega
    · rintro rfl
      exact absurd hlow (by decide)
  · decide

namespace StatePayload

/-- The two fields of the object. -/
def onlineField (online : Bool) : List Char := ("\"online\":" ++ toString online).toList

def timestampField (timestamp : Int64) : List Char :=
  ("\"timestamp\":" ++ toString timestamp.toInt).toList

theorem parseField_online (online : Bool) :
    parseField (none, none) (onlineField online) = .ok (some online, none) := by
  cases online <;> decide +kernel

theorem toList_toJson (s : StatePayload) :
    s.toJson.toList = '\x7b' :: (onlineField s.online ++ ',' :: timestampField s.timestamp ++
      ['\x7d']) := by
  have hopen : "\x7b\"online\":".toList = '\x7b' :: "\"online\":".toList := by decide
  have hcomma : ",\"timestamp\":".toList = ',' :: "\"timestamp\":".toList := by decide
  have hclose : "\x7d".toList = ['\x7d'] := by decide
  unfold toJson onlineField timestampField
  simp only [String.toList_append, hopen, hcomma, hclose, List.cons_append, List.append_assoc]

theorem parseField_timestamp (online : Bool) (timestamp : Int64) :
    parseField (some online, none) (timestampField timestamp) =
      .ok (some online, some timestamp) := by
  have hfield : timestampField timestamp =
      "\"timestamp\"".toList ++ ':' :: (toString timestamp.toInt).toList := by
    have hcolon : "\"timestamp\":".toList = "\"timestamp\"".toList ++ [':'] := by decide
    rw [timestampField, String.toList_append, hcolon, List.append_assoc]
    rfl
  have hcut : trim (timestampField timestamp) = timestampField timestamp := by
    have hname : "\"timestamp\":".toList.all (fun c => !isWhitespace c) = true := by
      decide +kernel
    refine trimMatches_of_all fun c hc => ?_
    rw [timestampField, String.toList_append] at hc
    rcases List.mem_append.mp hc with hc | hc
    · exact Bool.not_eq_true' _ ▸ List.all_eq_true.mp hname c hc
    · exact (plain_of_mem hc).1
  have hvalue : trim (toString timestamp.toInt).toList = (toString timestamp.toInt).toList :=
    trimMatches_of_all fun c hc => (plain_of_mem hc).1
  have hkey : String.ofList (trimMatches (· = '"') (trim "\"timestamp\"".toList)) = "timestamp" := by
    decide +kernel
  unfold parseField
  rw [hcut, if_neg (by rw [hfield]; simp), hfield, splitOnce_append (by decide)]
  dsimp only
  rw [hkey, hvalue, if_neg (by decide), if_pos rfl, parseInt64_toString]

/-- **A STATE that is written is read back.** -/
theorem parse_toJson (s : StatePayload) : parse s.toJson = .ok s := by
  have hcut : trim s.toJson.toList = s.toJson.toList := by
    rw [toList_toJson]
    exact trimMatches_of_ends (by decide) (by decide)
  have hinner : stripBraces s.toJson.toList =
      some (onlineField s.online ++ ',' :: timestampField s.timestamp) := by
    rw [toList_toJson, stripBraces, List.getLast?_concat, if_pos rfl, List.dropLast_concat]
  have hsplit : (onlineField s.online ++ ',' :: timestampField s.timestamp).splitOn ',' =
      [onlineField s.online, timestampField s.timestamp] := by
    rw [List.splitOn_append_cons_self_of_not_mem, List.splitOn_eq_singleton]
    · intro hmem
      rw [timestampField, String.toList_append] at hmem
      rcases List.mem_append.mp hmem with hmem | hmem
      · revert hmem
        decide
      · exact (plain_of_mem hmem).2 rfl
    · cases s.online <;> decide
  have hfields : [onlineField s.online, timestampField s.timestamp].foldlM parseField
      (none, none) = .ok (some s.online, some s.timestamp) := by
    rw [List.foldlM_cons, parseField_online]
    show parseField (some s.online, none) (timestampField s.timestamp) >>= pure = _
    rw [parseField_timestamp]
    rfl
  unfold parse
  rw [hcut, hinner]
  simp only [bind, Except.bind, hsplit, hfields]

end StatePayload

end SparkplugB
