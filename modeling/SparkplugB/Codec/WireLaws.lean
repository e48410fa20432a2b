/-
# What the wire primitives do

`writeVarint` is the shortest base-128 varint (`writeVarint_eq`), and `readVarint`, placed before
any varint of at most ten bytes, returns its value modulo `2 ^ 64` and stops behind it
(`readVarint_between`).  A `Raw` is what the wire type alone says about a value, a `Field` is a
field number with one, and `serialize` writes a list of fields as the encoders do.
-/
import SparkplugB.Codec.Wire
import SparkplugB.Lib.Base128

namespace SparkplugB

/-! ## 1. Strings -/

@[simp] theorem fromUtf8_asBytes (s : String) : fromUtf8 (asBytes s) = some s := by
  have h : (⟨(asBytes s).toArray⟩ : ByteArray) = s.toByteArray := rfl
  rw [fromUtf8, h, String.fromUTF8?, dif_pos s.isValidUTF8]
  rfl

theorem asBytes_of_fromUtf8 {bs : Bytes} {s : String} (h : fromUtf8 bs = some s) :
    asBytes s = bs := by
  unfold fromUtf8 String.fromUTF8? at h
  split at h
  · rw [← Option.some.inj h]
    rfl
  · exact absurd h (by simp)

/-! ## 2. Varints -/

namespace Writer

theorem toNat_low_seven (v : UInt64) : (v &&& 0x7f).toUInt8.toNat = v.toNat % 128 := by
  have h : (0x7f : UInt64).toNat = 2 ^ 7 - 1 := rfl
  rw [UInt64.toNat_toUInt8, UInt64.toNat_and, h, Nat.and_two_pow_sub_one_eq_mod]
  omega

theorem toNat_shiftRight_seven (v : UInt64) : (v >>> 7).toNat = v.toNat / 128 := by
  rw [UInt64.toNat_shiftRight]
  simp [Nat.shiftRight_eq_div_pow]

theorem toNat_or_high_bit (b : UInt8) (h : b.toNat < 128) : (b ||| 0x80).toNat = b.toNat + 128 := by
  have h128 : (0x80 : UInt8).toNat = 2 ^ 7 * 1 := rfl
  rw [UInt8.toNat_or, h128, Nat.or_comm, ← Nat.two_pow_add_eq_or_of_lt h]
  omega

/-- `write_varint` writes the shortest base-128 form. -/
theorem writeVarint_eq (v : UInt64) : writeVarint v = Base128.encode v.toNat := by
  induction v using writeVarint.induct with
  | case1 v rest hne ih =>
    have hge : 128 ≤ v.toNat := by
      have hrest : (v >>> 7).toNat ≠ 0 := fun h => hne (UInt64.toNat_inj.mp h)
      rw [toNat_shiftRight_seven] at hrest
      omega
    rw [writeVarint, if_pos hne, Base128.encode_of_ge hge, ih, toNat_shiftRight_seven]
    congr 1
    apply UInt8.toNat_inj.mp
    rw [toNat_or_high_bit _ (by rw [toNat_low_seven]; omega), toNat_low_seven,
      UInt8.toNat_ofNat']
    omega
  | case2 v rest hrest =>
    have hlt : v.toNat < 128 := by
      have h0 : (v >>> 7).toNat = 0 := by
        have hz : v >>> 7 = 0 := by simpa [rest] using hrest
        rw [hz]
        rfl
      rw [toNat_shiftRight_seven] at h0
      omega
    rw [writeVarint, if_neg hrest, Base128.encode_of_lt hlt]
    congr 1
    apply UInt8.toNat_inj.mp
    rw [toNat_low_seven, UInt8.toNat_ofNat']
    omega

theorem length_writeVarint_le (v : UInt64) : (writeVarint v).length ≤ 10 := by
  rw [writeVarint_eq]
  exact Base128.length_encode_le 9 v.toNat (lt_of_lt_of_le v.toNat_lt (by norm_num))

theorem one_le_length_writeVarint (v : UInt64) : 1 ≤ (writeVarint v).length := by
  rw [writeVarint_eq]
  exact Base128.one_le_length_encode v.toNat

end Writer

namespace Reader

/-- A reader that has consumed `pre` and has `rest` before it. -/
def between (pre rest : Bytes) : Reader := ⟨pre ++ rest, pre.length⟩

theorem new_eq_between (bytes : Bytes) : new bytes = between [] bytes := rfl

@[simp] theorem isEmpty_between (pre rest : Bytes) :
    (between pre rest).isEmpty = decide (rest = []) := by
  simp only [isEmpty, between, List.length_append]
  cases rest with
  | nil => simp
  | cons b t => simp

theorem readByte_between (pre rest : Bytes) (b : UInt8) :
    readByte (between pre (b :: rest)) = .ok (b, between (pre ++ [b]) rest) := by
  simp [readByte, between]

theorem low_seven_toNat (b : UInt8) : (b &&& 0x7f).toUInt64.toNat = b.toNat % 128 := by
  have h : (0x7f : UInt8).toNat = 2 ^ 7 - 1 := rfl
  rw [UInt8.toNat_toUInt64, UInt8.toNat_and, h, Nat.and_two_pow_sub_one_eq_mod]

theorem high_bit_eq_zero_iff (b : UInt8) : b &&& 0x80 = 0 ↔ b.toNat < 128 := by
  have hall : ∀ i : Fin 256, (UInt8.ofNat i.val &&& 0x80 = 0 ↔ i.val < 128) := by decide +kernel
  have h := hall ⟨b.toNat, b.toNat_lt⟩
  simpa using h

/-- One round of `read_varint`: the seven-bit digit `x` lands above the digits read so far. -/
theorem accumulate_toNat {acc : UInt64} {shift x : Nat} (hs : shift < 64)
    (hacc : acc.toNat < 2 ^ shift) (d : UInt64) (hd : d.toNat = x) :
    (acc ||| (d <<< UInt64.ofNat shift)).toNat = (acc.toNat + 2 ^ shift * x) % 2 ^ 64 := by
  have hshift : (UInt64.ofNat shift).toNat = shift := by
    rw [UInt64.toNat_ofNat']
    omega
  have hpow : 2 ^ 64 = 2 ^ shift * 2 ^ (64 - shift) := by
    rw [← Nat.pow_add]
    congr 1
    omega
  have hdigit : (d <<< UInt64.ofNat shift).toNat = 2 ^ shift * (x % 2 ^ (64 - shift)) := by
    rw [UInt64.toNat_shiftLeft, hshift, Nat.mod_eq_of_lt hs, Nat.shiftLeft_eq, hd,
      Nat.mul_comm x, hpow, Nat.mul_mod_mul_left]
  have hsum : (acc.toNat + 2 ^ shift * x) % 2 ^ 64 =
      acc.toNat + 2 ^ shift * (x % 2 ^ (64 - shift)) := by
    rw [hpow, Nat.mod_mul, Nat.add_mul_mod_self_left, Nat.mod_eq_of_lt hacc,
      Nat.add_mul_div_left _ _ (Nat.two_pow_pos shift), Nat.div_eq_of_lt hacc, Nat.zero_add]
  rw [UInt64.toNat_or, hdigit, hsum, Nat.or_comm, ← Nat.two_pow_add_eq_or_of_lt hacc,
    Nat.add_comm]

/-- The loop of `read_varint`, before a complete varint that still fits in ten bytes. -/
theorem readVarintFrom_between {bs : Bytes} (hbs : Base128.Terminated bs) :
    ∀ (pre rest : Bytes) (acc : UInt64) (shift : Nat), acc.toNat < 2 ^ shift →
      shift + 7 * bs.length ≤ 70 →
      readVarintFrom acc shift (between pre (bs ++ rest)) =
        .ok (UInt64.ofNat (acc.toNat + 2 ^ shift * Base128.value bs),
          between (pre ++ bs) rest) := by
  induction hbs with
  | @last b hb =>
    intro pre rest acc shift hacc hlen
    have hs : shift < 64 := by simp at hlen; omega
    have hval := accumulate_toNat hs hacc (b &&& 0x7f).toUInt64 (low_seven_toNat b)
    have hres : acc ||| ((b &&& 0x7f).toUInt64 <<< UInt64.ofNat shift) =
        UInt64.ofNat (acc.toNat + 2 ^ shift * Base128.value [b]) := by
      apply UInt64.toNat_inj.mp
      rw [hval, UInt64.toNat_ofNat', Base128.value_cons, Base128.value_nil, Nat.mul_zero,
        Nat.add_zero]
    rw [readVarintFrom, dif_neg (by omega), List.singleton_append]
    simp only [bind, StateT.bind, readByte_between, Except.bind, (high_bit_eq_zero_iff b).mpr hb,
      if_true, pure, StateT.pure, Except.pure, hres]
  | @more b bs hb _ ih =>
    intro pre rest acc shift hacc hlen
    rw [List.length_cons] at hlen
    have hpos : 1 ≤ bs.length := by
      cases bs with
      | nil => contradiction
      | cons _ _ => simp
    have hs : shift < 64 := by omega
    have hdigit : 2 ^ shift * (b.toNat % 128) + 2 ^ shift ≤ 2 ^ (shift + 7) := by
      rw [Nat.pow_add, ← Nat.mul_succ]
      exact Nat.mul_le_mul_left _ (by omega)
    have hbig : 2 ^ (shift + 7) ≤ 2 ^ 64 := Nat.pow_le_pow_right (by omega) (by omega)
    have hval := accumulate_toNat hs hacc (b &&& 0x7f).toUInt64 (low_seven_toNat b)
    rw [Nat.mod_eq_of_lt (by omega)] at hval
    have hcont : ¬ (b &&& 0x80 = 0) := fun h => by
      have := (high_bit_eq_zero_iff b).mp h
      omega
    have hstep := ih (pre ++ [b]) rest (acc ||| ((b &&& 0x7f).toUInt64 <<< UInt64.ofNat shift))
      (shift + 7) (by rw [hval]; omega) (by omega)
    rw [readVarintFrom, dif_neg (by omega), List.cons_append]
    simp only [bind, StateT.bind, readByte_between, Except.bind, hcont, if_false, hstep, hval,
      List.append_assoc, List.singleton_append, Base128.value_cons]
    congr 3
    rw [Nat.pow_add]
    ring

/-- `read_varint` returns the value of a varint of at most ten bytes, modulo `2 ^ 64`. -/
theorem readVarint_between {bs : Bytes} (hbs : Base128.Terminated bs) (hlen : bs.length ≤ 10)
    (pre rest : Bytes) :
    readVarint (between pre (bs ++ rest)) =
      .ok (UInt64.ofNat (Base128.value bs), between (pre ++ bs) rest) := by
  have h := readVarintFrom_between hbs pre rest 0 0 (by simp) (by omega)
  simpa [readVarint] using h

/-- `read_varint` inverts `write_varint`. -/
theorem readVarint_writeVarint (pre rest : Bytes) (v : UInt64) :
    readVarint (between pre (Writer.writeVarint v ++ rest)) =
      .ok (v, between (pre ++ Writer.writeVarint v) rest) := by
  have hlen := Writer.length_writeVarint_le v
  rw [Writer.writeVarint_eq] at hlen ⊢
  rw [readVarint_between (Base128.terminated_encode v.toNat) hlen, Base128.value_encode]
  simp

/-! ## 3. Tags and values -/

theorem toNat_tag_key {field wire : Nat} (hf : field < 2 ^ 32) (hw : wire < 8) :
    ((UInt64.ofNat field <<< 3) ||| UInt64.ofNat wire).toNat = 8 * field + wire := by
  have hfield : (UInt64.ofNat field).toNat = field := by
    rw [UInt64.toNat_ofNat']
    omega
  have hwire : (UInt64.ofNat wire).toNat = wire := by
    rw [UInt64.toNat_ofNat']
    omega
  have hleft : (UInt64.ofNat field <<< 3).toNat = 2 ^ 3 * field := by
    rw [UInt64.toNat_shiftLeft, hfield]
    simp only [UInt64.reduceToNat, Nat.reduceMod, Nat.shiftLeft_eq]
    omega
  rw [UInt64.toNat_or, hleft, hwire, ← Nat.two_pow_add_eq_or_of_lt (by omega)]

theorem take_between (pre a rest : Bytes) :
    take a.length (between pre (a ++ rest)) = .ok (a, between (pre ++ a) rest) := by
  simp [take, between]

end Reader

/-- The value of a field, as its wire type alone determines it. -/
inductive Raw where
  | varint (v : UInt64)
  | i64 (v : UInt64)
  | len (b : Bytes)
  | i32 (v : UInt32)

namespace Raw

/-- The wire type that announces the value. -/
def wire : Raw → Nat
  | varint _ => WIRE_VARINT
  | i64 _ => WIRE_I64
  | len _ => WIRE_LEN
  | i32 _ => WIRE_I32

/-- The bytes of the value, behind the tag. -/
def payload : Raw → Bytes
  | varint v => Writer.writeVarint v
  | i64 v => Writer.putU64Le v
  | len b => Writer.writeVarint (UInt64.ofNat b.length) ++ b
  | i32 v => Writer.putU32Le v

theorem wire_lt_eight (raw : Raw) : raw.wire < 8 := by
  cases raw <;> simp only [wire] <;> decide

/-- The wire value of a flag. -/
def flag (b : Bool) : Raw := .varint b.toUInt64

/-- The wire value of a `u32`. -/
def uint32 (v : UInt32) : Raw := .varint v.toUInt64

/-- The wire value of a string. -/
def str (s : String) : Raw := .len (asBytes s)

/-- The length of a `len` value fits the varint that announces it. -/
def Fits : Raw → Prop
  | len b => b.length < 2 ^ 64
  | _ => True

instance : DecidablePred Fits
  | varint _ | i64 _ | i32 _ => .isTrue trivial
  | len b => inferInstanceAs (Decidable (b.length < 2 ^ 64))

end Raw

/-- One field of a message: its number and its value. -/
structure Field where
  num : Nat
  raw : Raw

namespace Field

/-- The bytes of one field. -/
def bytes (f : Field) : Bytes := Writer.tag f.num f.raw.wire ++ f.raw.payload

/-- The number and the length fit their varints. -/
def Fits (f : Field) : Prop := f.num < 2 ^ 32 ∧ f.raw.Fits

instance : DecidablePred Fits := fun f => inferInstanceAs (Decidable (f.num < 2 ^ 32 ∧ f.raw.Fits))

theorem one_le_length_bytes (f : Field) : 1 ≤ f.bytes.length := by
  have := Writer.one_le_length_writeVarint
    ((UInt64.ofNat f.num <<< 3) ||| UInt64.ofNat f.raw.wire)
  simp only [bytes, Writer.tag, List.length_append]
  omega

end Field

/-- The bytes of a message, field by field. -/
def serialize (fs : List Field) : Bytes := fs.flatMap Field.bytes

@[simp] theorem serialize_nil : serialize [] = [] := rfl

@[simp] theorem serialize_cons (f : Field) (fs : List Field) :
    serialize (f :: fs) = f.bytes ++ serialize fs := rfl

@[simp] theorem serialize_append (fs gs : List Field) :
    serialize (fs ++ gs) = serialize fs ++ serialize gs := by simp [serialize]

theorem length_le_serialize (fs : List Field) : fs.length ≤ (serialize fs).length := by
  induction fs with
  | nil => simp
  | cons f fs ih =>
    have := f.one_le_length_bytes
    simp only [serialize_cons, List.length_cons, List.length_append]
    omega

end SparkplugB
