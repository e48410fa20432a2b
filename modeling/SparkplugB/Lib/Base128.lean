/-
# Base-128 varints

A natural number as bytes that hold seven bits each, least significant first, with the high bit
set on every byte but the last.  `value` reads the seven-bit digits of any byte list;
`Terminated` is the shape of one complete varint; `encode` is the shortest one.

The results: `encode` is terminated and has the value it was made from (`terminated_encode`,
`value_encode`), and a number below `128 ^ k` takes at most `k` bytes (`length_encode_le`).  The
complete varint that a byte string starts with is unique (`Terminated.prefix_unique`).
-/
import Mathlib

namespace Base128

/-- The number the seven-bit digits of `bs` spell, whatever the high bits are. -/
def value (bs : List UInt8) : Nat := Nat.ofDigits 128 (bs.map fun b => b.toNat % 128)

@[simp] theorem value_nil : value [] = 0 := rfl

@[simp] theorem value_cons (b : UInt8) (bs : List UInt8) :
    value (b :: bs) = b.toNat % 128 + 128 * value bs := by
  simp [value, Nat.ofDigits_cons]

/-- One complete varint: the high bit is set on every byte but the last. -/
inductive Terminated : List UInt8 → Prop
  | last {b : UInt8} : b.toNat < 128 → Terminated [b]
  | more {b : UInt8} {bs : List UInt8} : 128 ≤ b.toNat → Terminated bs → Terminated (b :: bs)

theorem Terminated.ne_nil {bs : List UInt8} (h : Terminated bs) : bs ≠ [] := by
  cases h <;> simp

/-- The beginning of a varint that is not complete: every byte has the high bit set. -/
def Unfinished (bs : List UInt8) : Prop := ∀ b ∈ bs, 128 ≤ b.toNat

theorem value_append (as bs : List UInt8) :
    value (as ++ bs) = value as + 128 ^ as.length * value bs := by
  simp [value, Nat.ofDigits_append]

theorem value_lt (bs : List UInt8) : value bs < 128 ^ bs.length := by
  have h := Nat.ofDigits_lt_base_pow_length (b := 128) (l := bs.map fun b => b.toNat % 128)
    (by norm_num) (by
      intro x hx
      obtain ⟨b, -, rfl⟩ := List.mem_map.mp hx
      exact Nat.mod_lt _ (by norm_num))
  rwa [List.length_map] at h

/-- A complete varint is an unfinished one and a last byte. -/
theorem Terminated.exists_concat {bs : List UInt8} (h : Terminated bs) :
    ∃ init x, bs = init ++ [x] ∧ Unfinished init ∧ x.toNat < 128 := by
  induction h with
  | @last b hb => exact ⟨[], b, rfl, by simp [Unfinished], hb⟩
  | @more b bs hb _ ih =>
    obtain ⟨init, x, rfl, hinit, hx⟩ := ih
    refine ⟨b :: init, x, rfl, ?_, hx⟩
    intro c hc
    rcases List.mem_cons.mp hc with rfl | hc
    · exact hb
    · exact hinit c hc

theorem Unfinished.terminated_concat {init : List UInt8} {x : UInt8} (h : Unfinished init)
    (hx : x.toNat < 128) : Terminated (init ++ [x]) := by
  induction init with
  | nil => exact .last hx
  | cons b init ih =>
    exact .more (h b List.mem_cons_self) (ih fun c hc => h c (List.mem_cons_of_mem _ hc))

/-- Of two complete varints at the front of one byte string neither goes on behind the other. -/
theorem Terminated.prefix_unique {as bs : List UInt8} (has : Terminated as) :
    ∀ {r s : List UInt8}, Terminated bs → as ++ r = bs ++ s → as = bs ∧ r = s := by
  induction has generalizing bs with
  | @last a ha =>
    intro r s hbs h
    cases hbs with
    | last hb =>
      obtain ⟨rfl, rfl⟩ : a = _ ∧ r = s := by simpa using h
      exact ⟨rfl, rfl⟩
    | more hb _ =>
      obtain ⟨rfl, -⟩ : a = _ ∧ _ := by simpa using h
      omega
  | @more a as ha _ ih =>
    intro r s hbs h
    cases hbs with
    | last hb =>
      obtain ⟨rfl, -⟩ : a = _ ∧ _ := by simpa using h
      omega
    | more hb hbs =>
      obtain ⟨rfl, htail⟩ := List.cons.inj h
      obtain ⟨rfl, rfl⟩ := ih hbs htail
      exact ⟨rfl, rfl⟩

/-- The shortest varint of `n`. -/
def encode (n : Nat) : List UInt8 :=
  if n < 128 then [UInt8.ofNat n] else UInt8.ofNat (n % 128 + 128) :: encode (n / 128)

theorem encode_of_lt {n : Nat} (h : n < 128) : encode n = [UInt8.ofNat n] := by
  rw [encode, if_pos h]

theorem encode_of_ge {n : Nat} (h : 128 ≤ n) :
    encode n = UInt8.ofNat (n % 128 + 128) :: encode (n / 128) := by
  rw [encode, if_neg (by omega)]

theorem terminated_encode (n : Nat) : Terminated (encode n) := by
  induction n using encode.induct with
  | case1 n h =>
    rw [encode_of_lt h]
    exact .last (by rw [UInt8.toNat_ofNat']; omega)
  | case2 n h ih =>
    rw [encode_of_ge (by omega)]
    exact .more (by rw [UInt8.toNat_ofNat']; omega) ih

@[simp] theorem value_encode (n : Nat) : value (encode n) = n := by
  induction n using encode.induct with
  | case1 n h =>
    rw [encode_of_lt h, value_cons, value_nil, UInt8.toNat_ofNat']
    omega
  | case2 n h ih =>
    rw [encode_of_ge (by omega), value_cons, ih, UInt8.toNat_ofNat']
    omega

/-- `k` digits are enough below `128 ^ k`. -/
theorem length_encode_le : ∀ (k n : Nat), n < 128 ^ (k + 1) → (encode n).length ≤ k + 1
  | 0, n, h => by
    rw [encode_of_lt (by omega)]
    simp
  | k + 1, n, h => by
    rcases Nat.lt_or_ge n 128 with hn | hn
    · rw [encode_of_lt hn]
      simp
    · have hdiv : n / 128 < 128 ^ (k + 1) := by
        rw [Nat.div_lt_iff_lt_mul (by omega)]
        rwa [Nat.pow_succ] at h
      have ih := length_encode_le k (n / 128) hdiv
      rw [encode_of_ge hn, List.length_cons]
      omega

theorem one_le_length_encode (n : Nat) : 1 ≤ (encode n).length :=
  List.length_pos_of_ne_nil (terminated_encode n).ne_nil

end Base128
