/-
# Booleans packed eight to a byte, most significant bit first

`packByte` sets bit `128 >> i` for the `i`-th element of a chunk of at most eight, `packBits`
does so for the consecutive chunks of a list, and `unpackBits` reads `count` bits back.
`unpackBits_packBits` says that nothing is lost, and `packBits_unpackBits` that packing again
only clears what `unpackBits` did not read (`masked`).
-/
import Mathlib

namespace BitPacking

/-- `byte |= 128 >> bit` for every set element; `bit` is the index of the head. -/
def packFrom (bit : Nat) : List Bool → UInt8
  | [] => 0
  | b :: rest => (if b then (128 : UInt8) >>> UInt8.ofNat bit else 0) ||| packFrom (bit + 1) rest

/-- One byte from at most eight booleans. -/
def packByte (chunk : List Bool) : UInt8 := packFrom 0 chunk

/-- Test bit `i` of a byte, counted from the most significant one. -/
def testBit (byte : UInt8) (i : Nat) : Bool := byte &&& ((128 : UInt8) >>> UInt8.ofNat i) != 0

/-- The packed bytes of a list of booleans. -/
def packBits (v : List Bool) : List UInt8 :=
  if _h : v = [] then [] else packByte (v.take 8) :: packBits (v.drop 8)
termination_by v.length
decreasing_by
  have := List.length_pos_of_ne_nil _h
  simp only [List.length_drop]; omega

/-- The first `count` bits of packed bytes. -/
def unpackBits (bits : List UInt8) (count : Nat) : List Bool :=
  (List.range count).map fun i => testBit (bits.getD (i / 8) 0) (i % 8)

@[simp] theorem packBits_nil : packBits [] = [] := by rw [packBits]; simp

theorem packBits_of_ne_nil {v : List Bool} (h : v ≠ []) :
    packBits v = packByte (v.take 8) :: packBits (v.drop 8) := by
  rw [packBits, dif_neg h]

@[simp] theorem length_unpackBits (bits : List UInt8) (count : Nat) :
    (unpackBits bits count).length = count := by simp [unpackBits]

/-- A list of `n` elements packs into `⌈n / 8⌉` bytes. -/
theorem length_packBits : ∀ v : List Bool, (packBits v).length = (v.length + 7) / 8 := by
  intro v
  induction v using packBits.induct with
  | case1 => simp
  | case2 v h ih =>
    have hpos := List.length_pos_of_ne_nil h
    rw [packBits_of_ne_nil h, List.length_cons, ih, List.length_drop]
    omega

/-- The bits of one packed byte are the elements of its chunk. -/
theorem testBit_packByte {v : List Bool} (hlen : v.length ≤ 8) {i : Nat} (hi : i < 8) :
    testBit (packByte v) i = v.getD i false := by
  -- Padding with zeros up to eight elements leaves the byte as it is, and eight booleans
  -- have finitely many values.
  have hall : ∀ b0 b1 b2 b3 b4 b5 b6 b7 : Bool, ∀ j : Fin 8,
      testBit (packByte [b0, b1, b2, b3, b4, b5, b6, b7]) j
        = [b0, b1, b2, b3, b4, b5, b6, b7].getD j false := by decide +kernel
  have hpad : ∀ (l : List Bool) (bit : Nat), packFrom bit (l ++ [false]) = packFrom bit l := by
    intro l
    induction l with
    | nil => intro bit; simp [packFrom]
    | cons b l ih => intro bit; simp [packFrom, ih]
  have hget : ∀ l : List Bool, (l ++ [false]).getD i false = l.getD i false := by
    intro l
    rcases Nat.lt_trichotomy i l.length with h | h | h
    · rw [List.getD_append _ _ _ _ h]
    · subst h
      rw [List.getD_append_right _ _ _ _ (Nat.le_refl _), List.getD_eq_default l _ (Nat.le_refl _)]
      simp
    · have hle : (l ++ [false]).length ≤ i := by rw [List.length_append]; exact h
      rw [List.getD_eq_default _ _ hle, List.getD_eq_default _ _ (by omega)]
  -- Induction on how many elements are missing from eight.
  obtain ⟨k, hk⟩ : ∃ k, v.length + k = 8 := ⟨8 - v.length, by omega⟩
  induction k generalizing v with
  | zero =>
    match v, hk with
    | [b0, b1, b2, b3, b4, b5, b6, b7], _ => exact hall b0 b1 b2 b3 b4 b5 b6 b7 ⟨i, hi⟩
  | succ k ih =>
    have := ih (v := v ++ [false]) (by simp; omega) (by simp; omega)
    rwa [packByte, hpad, hget] at this

@[simp] theorem testBit_zero (i : Nat) : testBit 0 i = false := by simp [testBit]

/-- Reading bit `i` of the packed list finds element `i`, and no set bit behind the last one. -/
theorem testBit_packBits : ∀ (v : List Bool) (i : Nat),
    testBit ((packBits v).getD (i / 8) 0) (i % 8) = v.getD i false := by
  intro v
  induction v using packBits.induct with
  | case1 => intro i; simp
  | case2 v h ih =>
    intro i
    rw [packBits_of_ne_nil h]
    rcases Nat.lt_or_ge i 8 with h8 | h8
    · rw [Nat.div_eq_of_lt h8, Nat.mod_eq_of_lt h8, List.getD_cons_zero,
        testBit_packByte (by simp) h8]
      simp [List.getD_eq_getElem?_getD, h8]
    · obtain ⟨j, rfl⟩ : ∃ j, i = j + 8 := ⟨i - 8, by omega⟩
      rw [Nat.add_div_right _ (by omega), Nat.add_mod_right, List.getD_cons_succ, ih j]
      simp [List.getD_eq_getElem?_getD, Nat.add_comm]

theorem unpackBits_packBits (v : List Bool) : unpackBits (packBits v) v.length = v := by
  refine List.ext_getElem (by simp) fun i h1 h2 => ?_
  simp only [unpackBits, List.getElem_map, List.getElem_range]
  rw [testBit_packBits v i, List.getD_eq_getElem _ _ h2]

/-! ## Packing what was unpacked -/

/-- The `k` high bits of a byte, the rest cleared, for `k` from 1 to 7. -/
def keepHigh (k : Nat) (byte : UInt8) : UInt8 := byte &&& ((0xff : UInt8) <<< UInt8.ofNat (8 - k))

/-- The bytes that `count` bits take, with the unused low bits of the last one cleared. -/
def masked (bits : List UInt8) (count : Nat) : List UInt8 :=
  bits.take (count / 8) ++
    if count % 8 = 0 then [] else [keepHigh (count % 8) (bits.getD (count / 8) 0)]

theorem testBit_eq_getLsbD (byte : UInt8) {i : Nat} (hi : i < 8) :
    testBit byte i = byte.toBitVec.getLsbD (7 - i) := by
  have hall : ∀ (n : Fin 256) (j : Fin 8),
      testBit (UInt8.ofNat n.val) j = (UInt8.ofNat n.val).toBitVec.getLsbD (7 - j) := by
    decide +kernel
  have h := hall ⟨byte.toNat, byte.toNat_lt⟩ ⟨i, hi⟩
  simpa using h

/-- A byte is known by its eight bits. -/
theorem eq_of_testBit {a b : UInt8} (h : ∀ i < 8, testBit a i = testBit b i) : a = b := by
  apply UInt8.eq_of_toBitVec_eq
  apply BitVec.eq_of_getLsbD_eq
  intro i hi
  have hbit := h (7 - i) (by omega)
  rwa [testBit_eq_getLsbD a (by omega), testBit_eq_getLsbD b (by omega),
    Nat.sub_sub_self (by omega)] at hbit

theorem testBit_keepHigh {k i : Nat} (hpos : 0 < k) (hk : k < 8) (hi : i < 8) (byte : UInt8) :
    testBit (keepHigh k byte) i = (decide (i < k) && testBit byte i) := by
  have hmask : ∀ j l : Fin 8, 0 < j.val →
      testBit ((0xff : UInt8) <<< UInt8.ofNat (8 - j.val)) l = decide (l.val < j.val) := by
    decide +kernel
  rw [keepHigh, testBit_eq_getLsbD _ hi, UInt8.toBitVec_and, BitVec.getLsbD_and,
    ← testBit_eq_getLsbD _ hi, ← testBit_eq_getLsbD _ hi, hmask ⟨k, hk⟩ ⟨i, hi⟩ hpos,
    Bool.and_comm]

theorem length_masked {bits : List UInt8} {count : Nat} (h : (count + 7) / 8 ≤ bits.length) :
    (masked bits count).length = (count + 7) / 8 := by
  rw [masked, List.length_append, List.length_take_of_le (by omega)]
  split
  · simp only [List.length_nil]
    omega
  · simp only [List.length_singleton]
    omega

/-- The bits of the masked bytes are those that were counted. -/
theorem testBit_masked {bits : List UInt8} {count i j : Nat} (h : (count + 7) / 8 ≤ bits.length)
    (hi : i < (count + 7) / 8) (hj : j < 8) :
    testBit ((masked bits count).getD i 0) j =
      (decide (8 * i + j < count) && testBit (bits.getD i 0) j) := by
  have htake : (bits.take (count / 8)).length = count / 8 := List.length_take_of_le (by omega)
  rcases Nat.lt_or_ge i (count / 8) with hlt | hge
  · have hin : 8 * i + j < count := by omega
    rw [masked, List.getD_append _ _ _ _ (by omega)]
    simp [List.getD_eq_getElem?_getD, hlt, hin]
  · -- the last byte, of which `count % 8` bits are counted
    obtain rfl : i = count / 8 := by omega
    have hin : (8 * (count / 8) + j < count) ↔ j < count % 8 := by omega
    rw [masked, if_neg (by omega), List.getD_append_right _ _ _ _ (by omega), htake, Nat.sub_self,
      List.getD_cons_zero, testBit_keepHigh (by omega) (by omega) hj]
    simp only [hin]

/-- **Packing again.**  What was unpacked packs into the bytes it was read from, with the unread
bits cleared. -/
theorem packBits_unpackBits {bits : List UInt8} {count : Nat}
    (h : (count + 7) / 8 ≤ bits.length) :
    packBits (unpackBits bits count) = masked bits count := by
  have hpacked : (packBits (unpackBits bits count)).length = (count + 7) / 8 := by
    rw [length_packBits, length_unpackBits]
  refine List.ext_getElem (by rw [hpacked, length_masked h]) fun i h1 h2 => ?_
  have hi : i < (count + 7) / 8 := by omega
  rw [← List.getD_eq_getElem _ 0 h1, ← List.getD_eq_getElem _ 0 h2]
  refine eq_of_testBit fun j hj => ?_
  have hbit := testBit_packBits (unpackBits bits count) (8 * i + j)
  have hdiv : (8 * i + j) / 8 = i := by omega
  have hmod : (8 * i + j) % 8 = j := by omega
  rw [hdiv, hmod] at hbit
  rw [hbit, testBit_masked h hi hj]
  by_cases hin : 8 * i + j < count
  · rw [List.getD_eq_getElem _ _ (by simpa using hin)]
    simp [unpackBits, hin, hdiv, hmod]
  · rw [List.getD_eq_default _ _ (by simpa using hin)]
    simp [hin]

end BitPacking
