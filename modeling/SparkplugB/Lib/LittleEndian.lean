/-
# Fixed-width little-endian numbers and equal-width chunks

`bytes w n` is the `w`-byte little-endian form of `n` and `value` reads any byte list as such a
form; the two are inverse on `w` bytes.  `chunksExact` cuts a list into pieces of one width and
leaves out a shorter rest, which is how a packed array of fixed-width elements is read; without a
rest the pieces make up the whole list (`flatten_chunksExact`).
-/
import Mathlib

namespace LittleEndian

/-- The little-endian number a byte list spells. -/
def value (bs : List UInt8) : Nat := Nat.ofDigits 256 (bs.map UInt8.toNat)

@[simp] theorem value_nil : value [] = 0 := rfl

@[simp] theorem value_cons (b : UInt8) (bs : List UInt8) :
    value (b :: bs) = b.toNat + 256 * value bs := by
  simp [value, Nat.ofDigits_cons]

/-- The `w` low bytes of `n`, least significant first. -/
def bytes : Nat → Nat → List UInt8
  | 0, _ => []
  | w + 1, n => UInt8.ofNat n :: bytes w (n / 256)

@[simp] theorem length_bytes : ∀ (w n : Nat), (bytes w n).length = w
  | 0, _ => rfl
  | w + 1, n => by simp [bytes, length_bytes w]

theorem value_bytes : ∀ (w n : Nat), value (bytes w n) = n % 256 ^ w
  | 0, n => by simp [bytes, Nat.mod_one]
  | w + 1, n => by
    have hpow : 256 ^ (w + 1) = 256 * 256 ^ w := by rw [Nat.pow_succ, Nat.mul_comm]
    rw [bytes, value_cons, value_bytes w, UInt8.toNat_ofNat', hpow, Nat.mod_mul]

theorem value_bytes_of_lt {w n : Nat} (h : n < 256 ^ w) : value (bytes w n) = n := by
  rw [value_bytes, Nat.mod_eq_of_lt h]

theorem value_lt : ∀ bs : List UInt8, value bs < 256 ^ bs.length
  | [] => by simp
  | b :: bs => by
    have hb := b.toNat_lt
    have ih := value_lt bs
    rw [value_cons, List.length_cons, Nat.pow_succ]
    omega

/-- A byte list is the form of the number it spells. -/
theorem bytes_value : ∀ bs : List UInt8, bytes bs.length (value bs) = bs
  | [] => rfl
  | b :: bs => by
    have hb := b.toNat_lt
    have hlow : UInt8.ofNat (b.toNat + 256 * value bs) = b := by
      apply UInt8.toNat_inj.mp
      rw [UInt8.toNat_ofNat']
      omega
    have hhigh : (b.toNat + 256 * value bs) / 256 = value bs := by omega
    rw [List.length_cons, value_cons, bytes, hlow, hhigh, bytes_value bs]

end LittleEndian

namespace List

variable {α β : Type}

/-- The consecutive pieces of length `w` of a list, without a shorter rest. -/
def chunksExact (w : Nat) (l : List α) : List (List α) :=
  if _h : w = 0 ∨ l.length < w then [] else l.take w :: chunksExact w (l.drop w)
termination_by l.length
decreasing_by simp only [List.length_drop]; omega

@[simp] theorem chunksExact_nil (w : Nat) : chunksExact w ([] : List α) = [] := by
  rw [chunksExact]
  rcases Nat.eq_zero_or_pos w with h | h <;> simp [h]

theorem length_of_mem_chunksExact {w : Nat} {l c : List α} (h : c ∈ chunksExact w l) :
    c.length = w := by
  induction l using chunksExact.induct w with
  | case1 l hstop =>
    rw [chunksExact, dif_pos hstop] at h
    exact absurd h List.not_mem_nil
  | case2 l hmore ih =>
    rw [chunksExact, dif_neg hmore] at h
    rcases List.mem_cons.mp h with rfl | h
    · rw [List.length_take]
      omega
    · exact ih h

/-- A first piece of the right length comes off. -/
theorem chunksExact_append {w : Nat} (hw : 0 < w) {a : List α} (ha : a.length = w) (l : List α) :
    chunksExact w (a ++ l) = a :: chunksExact w l := by
  rw [chunksExact, dif_neg (by simp; omega), List.take_left' ha, List.drop_left' ha]

/-- Pieces of one length, concatenated, come apart again. -/
theorem chunksExact_flatMap {w : Nat} (hw : 0 < w) (f : β → List α) (hf : ∀ x, (f x).length = w) :
    ∀ l : List β, chunksExact w (l.flatMap f) = l.map f
  | [] => by simp
  | x :: l => by
    rw [List.flatMap_cons, chunksExact_append hw (hf x), chunksExact_flatMap hw f hf l,
      List.map_cons]

/-- Where no shorter rest is left out, the pieces make up the list. -/
theorem flatten_chunksExact {w : Nat} {l : List α} (h : w ∣ l.length) :
    (chunksExact w l).flatten = l := by
  induction l using chunksExact.induct w with
  | case1 l hstop =>
    have hnil : l = [] := by
      apply List.length_eq_zero_iff.mp
      rcases hstop with rfl | hlt
      · exact Nat.eq_zero_of_zero_dvd h
      · exact Nat.eq_zero_of_dvd_of_lt h hlt
    simp [hnil]
  | case2 l hmore ih =>
    have hdrop : w ∣ (l.drop w).length := by
      rw [List.length_drop]
      exact Nat.dvd_sub h (Nat.dvd_refl w)
    rw [chunksExact, dif_neg hmore, List.flatten_cons, ih hdrop, List.take_append_drop]

end List
