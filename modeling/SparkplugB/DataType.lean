/-
# Sparkplug B data types

`src/datatype.rs`: the 35 type codes shared by metrics, DataSet columns, template parameters
and property values, and the classifiers over them.
-/
import SparkplugB.Error

namespace SparkplugB

/-- A Sparkplug B data type code.  `1..=14` are the basic scalar types, `15..=19` add
UUID/DataSet/Bytes/File/Template, `20..=21` are property-value-only and `22..=34` are the
array types. -/
inductive DataType where
  | unknown
  | int8
  | int16
  | int32
  | int64
  | uint8
  | uint16
  | uint32
  | uint64
  | float
  | double
  | boolean
  | string
  | dateTime
  | text
  | uuid
  | dataSet
  | bytes
  | file
  | template
  | propertySet
  | propertySetList
  | int8Array
  | int16Array
  | int32Array
  | int64Array
  | uint8Array
  | uint16Array
  | uint32Array
  | uint64Array
  | floatArray
  | doubleArray
  | booleanArray
  | stringArray
  | dateTimeArray
  deriving DecidableEq, Repr

namespace DataType

/-- The integer code as it appears on the wire. -/
def asU32 : DataType → UInt32
  | unknown => 0
  | int8 => 1
  | int16 => 2
  | int32 => 3
  | int64 => 4
  | uint8 => 5
  | uint16 => 6
  | uint32 => 7
  | uint64 => 8
  | float => 9
  | double => 10
  | boolean => 11
  | string => 12
  | dateTime => 13
  | text => 14
  | uuid => 15
  | dataSet => 16
  | bytes => 17
  | file => 18
  | template => 19
  | propertySet => 20
  | propertySetList => 21
  | int8Array => 22
  | int16Array => 23
  | int32Array => 24
  | int64Array => 25
  | uint8Array => 26
  | uint16Array => 27
  | uint32Array => 28
  | uint64Array => 29
  | floatArray => 30
  | doubleArray => 31
  | booleanArray => 32
  | stringArray => 33
  | dateTimeArray => 34

/-- Parse a wire datatype code, rejecting unknown values. -/
def fromU32 (v : UInt32) : Result DataType :=
  match v.toNat with
  | 0 => .ok unknown
  | 1 => .ok int8
  | 2 => .ok int16
  | 3 => .ok int32
  | 4 => .ok int64
  | 5 => .ok uint8
  | 6 => .ok uint16
  | 7 => .ok uint32
  | 8 => .ok uint64
  | 9 => .ok float
  | 10 => .ok double
  | 11 => .ok boolean
  | 12 => .ok string
  | 13 => .ok dateTime
  | 14 => .ok text
  | 15 => .ok uuid
  | 16 => .ok dataSet
  | 17 => .ok bytes
  | 18 => .ok file
  | 19 => .ok template
  | 20 => .ok propertySet
  | 21 => .ok propertySetList
  | 22 => .ok int8Array
  | 23 => .ok int16Array
  | 24 => .ok int32Array
  | 25 => .ok int64Array
  | 26 => .ok uint8Array
  | 27 => .ok uint16Array
  | 28 => .ok uint32Array
  | 29 => .ok uint64Array
  | 30 => .ok floatArray
  | 31 => .ok doubleArray
  | 32 => .ok booleanArray
  | 33 => .ok stringArray
  | 34 => .ok dateTimeArray
  | _ => .error (.unknownDataType v)

/-- `true` for the basic scalar types `1..=14`. -/
def isBasic (dt : DataType) : Bool := 1 ≤ dt.asU32 && dt.asU32 ≤ 14

/-- `true` for the array types `22..=34`. -/
def isArray (dt : DataType) : Bool := 22 ≤ dt.asU32 && dt.asU32 ≤ 34

/-- The fixed little-endian element width of the numeric and temporal array types, in bytes;
`none` for `BooleanArray`, `StringArray` and the non-array types. -/
def arrayElementWidth : DataType → Option Nat
  | int8Array | uint8Array => some 1
  | int16Array | uint16Array => some 2
  | int32Array | uint32Array | floatArray => some 4
  | int64Array | uint64Array | doubleArray | dateTimeArray => some 8
  | _ => none

/-- `{dt:?}`: the variant's name. -/
def debug : DataType → String
  | unknown => "Unknown"
  | int8 => "Int8"
  | int16 => "Int16"
  | int32 => "Int32"
  | int64 => "Int64"
  | uint8 => "UInt8"
  | uint16 => "UInt16"
  | uint32 => "UInt32"
  | uint64 => "UInt64"
  | float => "Float"
  | double => "Double"
  | boolean => "Boolean"
  | string => "String"
  | dateTime => "DateTime"
  | text => "Text"
  | uuid => "Uuid"
  | dataSet => "DataSet"
  | bytes => "Bytes"
  | file => "File"
  | template => "Template"
  | propertySet => "PropertySet"
  | propertySetList => "PropertySetList"
  | int8Array => "Int8Array"
  | int16Array => "Int16Array"
  | int32Array => "Int32Array"
  | int64Array => "Int64Array"
  | uint8Array => "UInt8Array"
  | uint16Array => "UInt16Array"
  | uint32Array => "UInt32Array"
  | uint64Array => "UInt64Array"
  | floatArray => "FloatArray"
  | doubleArray => "DoubleArray"
  | booleanArray => "BooleanArray"
  | stringArray => "StringArray"
  | dateTimeArray => "DateTimeArray"

/-- The wire code of a datatype parses back to it. -/
@[simp] theorem fromU32_asU32 (dt : DataType) : fromU32 dt.asU32 = .ok dt := by
  cases dt <;> rfl

end DataType

end SparkplugB
