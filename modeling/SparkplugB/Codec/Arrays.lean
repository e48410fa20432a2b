/-
# Array packing into one `bytes_value` field

`src/codec/arrays.rs`.  Numeric and temporal arrays are fixed-width little-endian elements, a
BooleanArray is a little-endian element count and bits packed most significant first, and a
StringArray is its UTF-8 strings with a NUL behind each.
-/
import SparkplugB.Model
import SparkplugB.Codec.Wire
import SparkplugB.Lib.BitPacking

namespace SparkplugB.Arrays

open SparkplugB

/-- `for &x in v { buf.put_.._le(x) }`: the `w` little-endian bytes of each element. -/
def putEach {α : Type} (w : Nat) (bits : α → Nat) (v : List α) : Bytes :=
  v.flatMap fun x => LittleEndian.bytes w (bits x)

/-- Pack an array-typed `MetricValue` into its `bytes_value` representation.  Non-array values
yield empty bytes. -/
def pack : MetricValue → Bytes
  | .int8Array v => putEach 1 (fun x => x.toUInt8.toNat) v
  | .uint8Array v => v
  | .int16Array v => putEach 2 (fun x => x.toUInt16.toNat) v
  | .uint16Array v => putEach 2 UInt16.toNat v
  | .int32Array v => putEach 4 (fun x => x.toUInt32.toNat) v
  | .uint32Array v => putEach 4 UInt32.toNat v
  | .int64Array v | .dateTimeArray v => putEach 8 (fun x => x.toUInt64.toNat) v
  | .uint64Array v => putEach 8 UInt64.toNat v
  | .floatArray v => putEach 4 (fun x => x.bits.toNat) v
  | .doubleArray v => putEach 8 (fun x => x.bits.toNat) v
  | .booleanArray v => Writer.putU32Le (UInt32.ofNat v.length) ++ BitPacking.packBits v
  | .stringArray v => v.flatMap fun s => asBytes s ++ [0]
  | _ => []

/-- `data.chunks_exact(w).map(from_le_bytes)`. -/
def getEach {α : Type} (w : Nat) (ofBits : Nat → α) (data : Bytes) : List α :=
  (data.chunksExact w).map fun c => ofBits (LittleEndian.value c)

def unpackNumeric (dt : DataType) (data : Bytes) : Result MetricValue :=
  match dt.arrayElementWidth with
  | none => .error (.valueTypeMismatch s!"{dt.debug} is not a numeric array")
  | some width =>
    if data.length % width ≠ 0 then .error (.arrayLength data.length width)
    else
      match dt with
      | .int8Array => .ok (.int8Array (data.map UInt8.toInt8))
      | .uint8Array => .ok (.uint8Array data)
      | .int16Array => .ok (.int16Array (getEach 2 (fun n => (UInt16.ofNat n).toInt16) data))
      | .uint16Array => .ok (.uint16Array (getEach 2 UInt16.ofNat data))
      | .int32Array => .ok (.int32Array (getEach 4 (fun n => (UInt32.ofNat n).toInt32) data))
      | .uint32Array => .ok (.uint32Array (getEach 4 UInt32.ofNat data))
      | .floatArray => .ok (.floatArray (getEach 4 (fun n => ⟨UInt32.ofNat n⟩) data))
      | .int64Array => .ok (.int64Array (getEach 8 (fun n => (UInt64.ofNat n).toInt64) data))
      | .uint64Array => .ok (.uint64Array (getEach 8 UInt64.ofNat data))
      | .doubleArray => .ok (.doubleArray (getEach 8 (fun n => ⟨UInt64.ofNat n⟩) data))
      | .dateTimeArray =>
        .ok (.dateTimeArray (getEach 8 (fun n => (UInt64.ofNat n).toInt64) data))
      | other => .error (.valueTypeMismatch s!"{other.debug} is not a numeric array")

def unpackBool (data : Bytes) : Result MetricValue :=
  if data.length < 4 then .error .truncated
  else
    let count := LittleEndian.value (data.take 4)
    let bits := data.drop 4
    if bits.length < (count + 7) / 8 then .error .truncated
    else .ok (.booleanArray (BitPacking.unpackBits bits count))

/-- The `for seg in segments` loop: every segment is a string. -/
def stringsOf : List Bytes → Result (List String)
  | [] => .ok []
  | seg :: rest =>
    match fromUtf8 seg with
    | none => .error .invalidUtf8
    | some s =>
      match stringsOf rest with
      | .ok out => .ok (s :: out)
      | .error e => .error e

def unpackStrings (data : Bytes) : Result MetricValue :=
  if data = [] then .ok (.stringArray [])
  else
    let segments := data.splitOn 0
    -- Each element is NUL-terminated, so a trailing NUL yields an empty segment.
    let segments := if data.getLast? = some 0 then segments.dropLast else segments
    match stringsOf segments with
    | .ok out => .ok (.stringArray out)
    | .error e => .error e

/-- Unpack a `bytes_value` slice into an array-typed `MetricValue` of the declared datatype. -/
def unpack (dt : DataType) (data : Bytes) : Result MetricValue :=
  match dt with
  | .booleanArray => unpackBool data
  | .stringArray => unpackStrings data
  | dt => unpackNumeric dt data

end SparkplugB.Arrays
