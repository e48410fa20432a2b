/-
# Which byte strings `read_varint` takes for which numbers

`read_varint` of `src/codec/wire.rs`, placed before any byte string whatever.

* **The outcomes** (`readVarint_between`, `readVarint_overlong`, `readVarint_cut`): a complete
  varint of at most ten bytes is read, and counts modulo `2 ^ 64`; ten bytes with the high bit set
  are an overflow; a shorter run of them, up to the end of the buffer, is truncated.
* **Where this is the exact number** (`readsExactly_iff`): everywhere but before nine bytes with
  the high bit set and a tenth between 2 and 127 (`Spills`).  There the bits of the tenth byte
  above the lowest fall off the shift, and a number above 64 bits is not reported as one.
-/
import SparkplugB.Codec.Grammar

namespace SparkplugB.Reader

open Base128 (Terminated Unfinished)

/-! ## 1. What `read_varint` does before any byte string -/

/-- Bytes with the high bit set are all consumed, as long as the shift stays below 64. -/
theorem readVarintFrom_unfinished : ∀ {bs : Bytes}, Unfinished bs → ∀ (pre rest : Bytes)
    (acc : UInt64) (shift : Nat), shift + 7 * bs.length ≤ 70 →
    ∃ acc', readVarintFrom acc shift (between pre (bs ++ rest)) =
      readVarintFrom acc' (shift + 7 * bs.length) (between (pre ++ bs) rest)
  | [], _, pre, rest, acc, shift, _ => ⟨acc, by simp⟩
  | b :: bs, h, pre, rest, acc, shift, hlen => by
    rw [List.length_cons] at hlen
    have hmore : ¬ (b &&& 0x80 = 0) := fun h0 => by
      have := (high_bit_eq_zero_iff b).mp h0
      have := h b List.mem_cons_self
      omega
    obtain ⟨acc', hrest⟩ := readVarintFrom_unfinished (fun c hc => h c (List.mem_cons_of_mem _ hc))
      (pre ++ [b]) rest (acc ||| ((b &&& 0x7f).toUInt64 <<< UInt64.ofNat shift)) (shift + 7)
      (by omega)
    refine ⟨acc', ?_⟩
    rw [readVarintFrom, dif_neg (by omega), List.cons_append]
    simp only [bind, StateT.bind, readByte_between, Except.bind, hmore, if_false, hrest,
      List.append_assoc, List.singleton_append, List.length_cons]
    rw [Nat.mul_succ, Nat.add_assoc shift, Nat.add_comm 7]

/-- Ten bytes with the high bit set are an overflow. -/
theorem readVarint_overlong {bs : Bytes} (h : Unfinished bs) (hlen : bs.length = 10)
    (pre rest : Bytes) :
    readVarint (between pre (bs ++ rest)) = .error .varintOverflow := by
  obtain ⟨acc', hread⟩ := readVarintFrom_unfinished h pre rest 0 0 (by omega)
  rw [readVarint, hread, readVarintFrom, dif_pos (by omega)]
  rfl

/-- Fewer of them at the end of the buffer are truncated. -/
theorem readVarint_cut {bs : Bytes} (h : Unfinished bs) (hlen : bs.length < 10) (pre : Bytes) :
    readVarint (between pre bs) = .error .truncated := by
  obtain ⟨acc', hread⟩ := readVarintFrom_unfinished h pre [] 0 0 (by omega)
  rw [List.append_nil] at hread
  rw [readVarint, hread, readVarintFrom, dif_neg (by omega)]
  simp [bind, StateT.bind, readByte, between, Except.bind]

/-! ## 2. The exact reading -/

/-- What an exact reader of 64-bit varints does before the bytes `b`, wherever in the buffer they
stand. -/
structure ReadsExactly (b : Bytes) : Prop where
  /-- It returns `v` behind the bytes `bs` where `bs` is one complete varint of at most ten bytes
  with the value `v`, and nowhere else. -/
  accepted : ∀ (pre bs rest : Bytes) (v : UInt64), b = bs ++ rest →
    (readVarint (between pre b) = .ok (v, between (pre ++ bs) rest) ↔
      Terminated bs ∧ bs.length ≤ 10 ∧ Base128.value bs = v.toNat)
  /-- A number that needs more than 64 bits is an overflow. -/
  too_large : ∀ (pre bs rest : Bytes), b = bs ++ rest → Terminated bs → bs.length ≤ 10 →
    2 ^ 64 ≤ Base128.value bs → readVarint (between pre b) = .error .varintOverflow
  /-- So are ten bytes that do not end. -/
  too_long : ∀ pre : Bytes, 10 ≤ b.length → Unfinished (b.take 10) →
    readVarint (between pre b) = .error .varintOverflow
  /-- A shorter run that does not end is truncated. -/
  cut : ∀ pre : Bytes, b.length < 10 → Unfinished b →
    readVarint (between pre b) = .error .truncated

/-- Nine bytes with the high bit set, and a tenth without it that has a bit for a place above the
64th. -/
def Spills (b : Bytes) : Prop :=
  Unfinished (b.take 9) ∧ ∃ x ∈ b[9]?, 2 ≤ x.toNat ∧ x.toNat < 128

/-- Only the tenth byte can carry a number over 64 bits. -/
theorem spills_iff (b : Bytes) :
    Spills b ↔ ∃ bs rest, b = bs ++ rest ∧ Terminated bs ∧ bs.length ≤ 10 ∧
      2 ^ 64 ≤ Base128.value bs := by
  constructor
  · rintro ⟨hhigh, x, hx, h2, hlast⟩
    have hget : b[9]? = some x := hx
    have hlen : 9 < b.length := (List.getElem?_eq_some_iff.mp hget).1
    have htake : b.take 10 = b.take 9 ++ [x] := by
      rw [List.take_add_one, hget]
      rfl
    have hnine : (b.take 9).length = 9 := List.length_take_of_le (by omega)
    refine ⟨b.take 10, b.drop 10, (List.take_append_drop 10 b).symm, ?_, ?_, ?_⟩
    · rw [htake]
      exact hhigh.terminated_concat hlast
    · exact List.length_take_le 10 b
    · rw [htake, Base128.value_append, hnine, Base128.value_cons, Base128.value_nil,
        Nat.mod_eq_of_lt hlast]
      omega
  · rintro ⟨bs, rest, rfl, hbs, hlen, hval⟩
    obtain ⟨init, x, rfl, hinit, hx⟩ := hbs.exists_concat
    rw [List.length_append, List.length_singleton] at hlen
    have hlow := Base128.value_lt init
    rw [Base128.value_append, Base128.value_cons, Base128.value_nil, Nat.mod_eq_of_lt hx,
      Nat.mul_zero, Nat.add_zero] at hval
    -- with fewer than ten bytes the digits do not reach the 64th place
    have hnine : init.length = 9 := by
      by_contra hne
      have hpow : 128 ^ (init.length + 1) ≤ 128 ^ 9 :=
        Nat.pow_le_pow_right (by norm_num) (by omega)
      have hdigit : 128 ^ init.length * x.toNat ≤ 128 ^ init.length * 127 :=
        Nat.mul_le_mul_left _ (by omega)
      rw [Nat.pow_succ] at hpow
      omega
    rw [hnine] at hlow hval
    refine ⟨?_, x, ?_, by omega, hx⟩
    · rw [List.append_assoc, List.take_left' hnine]
      exact hinit
    · rw [List.append_assoc, List.getElem?_append_right (by omega), hnine]
      rfl

/-- Before a number of more than 64 bits the reader is not exact: it returns the number modulo
`2 ^ 64`. -/
theorem Spills.not_readsExactly {b : Bytes} (h : Spills b) : ¬ ReadsExactly b := by
  intro hexact
  obtain ⟨bs, rest, rfl, hbs, hlen, hval⟩ := (spills_iff b).mp h
  have hread := readVarint_between hbs hlen [] rest
  rw [hexact.too_large [] bs rest rfl hbs hlen hval] at hread
  contradiction

theorem readsExactly_of_not_spills {b : Bytes} (h : ¬ Spills b) : ReadsExactly b := by
  have hfits : ∀ {bs rest : Bytes}, b = bs ++ rest → Terminated bs → bs.length ≤ 10 →
      Base128.value bs < 2 ^ 64 := by
    intro bs rest hb hbs hlen
    by_contra hge
    exact h ((spills_iff b).mpr ⟨bs, rest, hb, hbs, hlen, by omega⟩)
  refine ⟨?_, ?_, ?_, ?_⟩
  · rintro pre bs rest v rfl
    constructor
    · intro hread
      obtain ⟨bs', rest', hsplit, hr, hv⟩ := readVarint_inv hread
      have hlen := congrArg Reader.pos hr
      simp only [between, List.length_append] at hlen
      obtain ⟨rfl, rfl⟩ := List.append_inj hsplit (by omega)
      refine ⟨hv.terminated, hv.length_le, ?_⟩
      rw [← hv.value, UInt64.toNat_ofNat',
        Nat.mod_eq_of_lt (hfits rfl hv.terminated hv.length_le)]
    · rintro ⟨hbs, hlen, hval⟩
      rw [readVarint_between hbs hlen, hval]
      simp
  · rintro pre bs rest rfl hbs hlen hval
    have := hfits rfl hbs hlen
    omega
  · intro pre hlen hhigh
    have hread := readVarint_overlong hhigh (List.length_take_of_le hlen) pre (b.drop 10)
    rwa [List.take_append_drop] at hread
  · intro pre hlen hhigh
    exact readVarint_cut hhigh hlen pre

/-- **Varints are read exactly but for one kind.**  What `write_varint` wrote is read back, and
nothing else; and `read_varint` returns the exact number, reports every number above 64 bits and
every cut, before every byte string except those that `Spills` describes. -/
theorem reads_varints_exactly (pre rest : Bytes) (v : UInt64) (b : Bytes) :
    readVarint (between pre (Writer.writeVarint v ++ rest)) =
        .ok (v, between (pre ++ Writer.writeVarint v) rest) ∧
      (ReadsExactly b ↔ ¬ Spills b) :=
  ⟨readVarint_writeVarint pre rest v,
    fun hexact hspills => hspills.not_readsExactly hexact, readsExactly_of_not_spills⟩

/-- Nine times `0x80` and `0x02` spell `2 ^ 64`, and are read as 0. -/
theorem not_readsExactly_two_pow_64 :
    ¬ ReadsExactly [0x80, 0x80, 0x80, 0x80, 0x80, 0x80, 0x80, 0x80, 0x80, 0x02] := by
  intro hexact
  have hlarge := hexact.too_large [] _ [] rfl
    (.more (by decide) (.more (by decide) (.more (by decide) (.more (by decide) (.more (by decide)
      (.more (by decide) (.more (by decide) (.more (by decide) (.more (by decide)
        (.last (by decide)))))))))))
    (by decide) (by decide)
  have hread : (readVarint.run' (between []
      [0x80, 0x80, 0x80, 0x80, 0x80, 0x80, 0x80, 0x80, 0x80, 0x02])).toOption = some 0 := by
    decide +kernel
  simp only [StateT.run'] at hread hlarge
  rw [hlarge] at hread
  exact absurd hread (by decide)

end SparkplugB.Reader
