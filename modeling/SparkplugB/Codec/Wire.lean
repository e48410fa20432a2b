/-
# The protobuf wire primitives

`src/codec/wire.rs`.  A `Writer` method is modelled by the bytes it appends to the buffer, so a
sequence of calls is a concatenation.  The `Reader` is the source's: a buffer and a position.
Its methods are computations in `ReadM`, which threads the reader and stops at the first error.

`fieldLoop` is the loop every decoder of `decode.rs` is written around: while the reader is not
empty, read a tag and let the decoder's `match (field, wire)` read the value.  The fuel is the
number of bytes of the buffer; `Codec/Grammar.lean` shows that it is never what ends the loop.
-/
import SparkplugB.Error
import SparkplugB.Lib.LittleEndian

namespace SparkplugB

/-- Varint wire type (`uint32`/`uint64`/`bool`/enum). -/
@[match_pattern] abbrev WIRE_VARINT : Nat := 0

/-- 64-bit fixed wire type (`double`). -/
@[match_pattern] abbrev WIRE_I64 : Nat := 1

/-- Length-delimited wire type (`string`/`bytes`/messages). -/
@[match_pattern] abbrev WIRE_LEN : Nat := 2

/-- 32-bit fixed wire type (`float`). -/
@[match_pattern] abbrev WIRE_I32 : Nat := 5

/-- `str::as_bytes`. -/
def asBytes (s : String) : Bytes := s.toByteArray.data.toList

/-- `str::from_utf8`, with `None` for its error. -/
def fromUtf8 (bs : Bytes) : Option String := String.fromUTF8? ⟨bs.toArray⟩

/-! ## 1. The writer -/

namespace Writer

def writeVarint (value : UInt64) : Bytes :=
  let byte := (value &&& 0x7f).toUInt8
  let rest := value >>> 7
  if rest ≠ 0 then (byte ||| 0x80) :: writeVarint rest else [byte]
termination_by value.toNat
decreasing_by
  rename_i hne
  have hne' : (value >>> 7).toNat ≠ 0 := fun h => hne (UInt64.toNat_inj.mp h)
  simp only [UInt64.toNat_shiftRight, UInt64.reduceToNat, Nat.reduceMod,
    Nat.shiftRight_eq_div_pow] at hne' ⊢
  omega

def tag (field wire : Nat) : Bytes := writeVarint ((UInt64.ofNat field <<< 3) ||| UInt64.ofNat wire)

def uint32Field (field : Nat) (value : UInt32) : Bytes :=
  tag field WIRE_VARINT ++ writeVarint value.toUInt64

def uint64Field (field : Nat) (value : UInt64) : Bytes :=
  tag field WIRE_VARINT ++ writeVarint value

def boolField (field : Nat) (value : Bool) : Bytes :=
  tag field WIRE_VARINT ++ writeVarint value.toUInt64

/-- `put_u32_le`, which `put_f32_le` is on the bits. -/
def putU32Le (v : UInt32) : Bytes := LittleEndian.bytes 4 v.toNat

/-- `put_u64_le`, which `put_f64_le` is on the bits. -/
def putU64Le (v : UInt64) : Bytes := LittleEndian.bytes 8 v.toNat

def floatField (field : Nat) (bits : UInt32) : Bytes := tag field WIRE_I32 ++ putU32Le bits

def doubleField (field : Nat) (bits : UInt64) : Bytes := tag field WIRE_I64 ++ putU64Le bits

def bytesField (field : Nat) (value : Bytes) : Bytes :=
  tag field WIRE_LEN ++ writeVarint (UInt64.ofNat value.length) ++ value

def stringField (field : Nat) (value : String) : Bytes := bytesField field (asBytes value)

def messageField (field : Nat) (body : Bytes) : Bytes := bytesField field body

end Writer

/-! ## 2. The reader -/

/-- A protobuf reader over a borrowed buffer. -/
structure Reader where
  buf : Bytes
  pos : Nat

/-- A `Reader` method: it moves the reader forward or fails. -/
abbrev ReadM := StateT Reader (Except SparkplugError)

namespace Reader

def new (buf : Bytes) : Reader := ⟨buf, 0⟩

def isEmpty (r : Reader) : Bool := r.buf.length ≤ r.pos

def readByte : ReadM UInt8 := fun r =>
  match r.buf[r.pos]? with
  | some byte => .ok (byte, { r with pos := r.pos + 1 })
  | none => .error .truncated

/-- The loop of `read_varint`. -/
def readVarintFrom (result : UInt64) (shift : Nat) : ReadM UInt64 :=
  if _h : 64 ≤ shift then throw .varintOverflow
  else do
    let byte ← readByte
    let result := result ||| ((byte &&& 0x7f).toUInt64 <<< UInt64.ofNat shift)
    if byte &&& 0x80 = 0 then pure result else readVarintFrom result (shift + 7)
termination_by 64 - shift

def readVarint : ReadM UInt64 := readVarintFrom 0 0

/-- The field number and wire type of the next field. -/
def readTag : ReadM (Nat × Nat) := do
  let key ← readVarint
  if (key >>> 3).toNat < 2 ^ 32 then pure ((key >>> 3).toNat, (key &&& 0x7).toNat)
  else throw (.invalidWireType 0)

/-- `self.buf.get(self.pos..self.pos + len)`.  `pos.checked_add(len)` fails only past every
buffer, with the same error, so a natural number stands for the `usize`. -/
def take (len : Nat) : ReadM Bytes := fun r =>
  if r.pos + len ≤ r.buf.length then
    .ok ((r.buf.drop r.pos).take len, { r with pos := r.pos + len })
  else .error .truncated

def readFixed32 : ReadM UInt32 := do
  let arr ← take 4
  pure (UInt32.ofNat (LittleEndian.value arr))

def readFixed64 : ReadM UInt64 := do
  let arr ← take 8
  pure (UInt64.ofNat (LittleEndian.value arr))

def readLenSlice : ReadM Bytes := do
  let len ← readVarint
  take len.toNat

def readString : ReadM String := do
  let slice ← readLenSlice
  match fromUtf8 slice with
  | some s => pure s
  | none => throw .invalidUtf8

def readBytes : ReadM Bytes := readLenSlice

/-- Skip over a field whose tag was already read, given its wire type. -/
def skip (wire : Nat) : ReadM Unit :=
  match wire with
  | WIRE_VARINT => do let _ ← readVarint
  | WIRE_I64 => do let _ ← readFixed64
  | WIRE_LEN => do let _ ← readLenSlice
  | WIRE_I32 => do let _ ← readFixed32
  | other => throw (.invalidWireType other)

/-- `while !r.is_empty() { let (field, wire) = r.read_tag()?; match (field, wire) { .. } }`,
with `body` for the `match` and `st` for the decoder's local variables. -/
def fieldLoop {σ : Type} (body : σ → Nat → Nat → ReadM σ) : Nat → σ → ReadM σ
  | 0, st => pure st
  | fuel + 1, st => do
    if (← get).isEmpty then pure st
    else
      let (field, wire) ← readTag
      let st ← body st field wire
      fieldLoop body fuel st

/-- Run a decoder's loop over a whole buffer. -/
def readFields {σ : Type} (body : σ → Nat → Nat → ReadM σ) (init : σ) (bytes : Bytes) : Result σ :=
  (fieldLoop body bytes.length init).run' (Reader.new bytes)

end Reader

end SparkplugB
