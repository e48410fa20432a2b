/-
# The unsigned numbers of a payload and of its bytes

`Payload.unsigned` lists the sequence number and the values of the types UInt8, UInt16 and UInt32
in a payload: those of metrics, of template members and parameters, of properties and of DataSet
cells.  `wireNumbers` lists, in the same order, the varints that stand on the wire for them, each
with the width of the type it is declared with.

A varint on the wire is the natural number that all its seven-bit digits spell (`readNumber`), not
the `u64` that `read_varint` returns for it: ten bytes spell numbers up to `2 ^ 70`.  Which field
counts is told by the fields of the messages alone (`fieldsOf`, `numbers`), where the last one of a
number wins, and by the registry for the metrics that come without a datatype.
-/
import SparkplugB.Codec.Fields

namespace SparkplugB

/-! ## 1. In the object model -/

mutual

/-- The unsigned 8, 16 and 32 bit numbers in a property value. -/
def PropertyValue.unsigned : PropertyValue → List Nat
  | .uint8 v => [v.toNat]
  | .uint16 v => [v.toNat]
  | .uint32 v => [v.toNat]
  | .propertySet ps => PropertySet.unsigned ps
  | .propertySetList list => PropertySetList.unsigned list
  | _ => []

def PropertySet.unsigned : PropertySet → List Nat
  | ⟨entries⟩ => entriesUnsigned entries

def entriesUnsigned : List (String × PropertyValue) → List Nat
  | [] => []
  | (_, value) :: rest => PropertyValue.unsigned value ++ entriesUnsigned rest

def PropertySetList.unsigned : PropertySetList → List Nat
  | ⟨sets⟩ => setsUnsigned sets

def setsUnsigned : List PropertySet → List Nat
  | [] => []
  | set :: rest => PropertySet.unsigned set ++ setsUnsigned rest

end

def DataSetValue.unsigned : DataSetValue → List Nat
  | .uint8 v => [v.toNat]
  | .uint16 v => [v.toNat]
  | .uint32 v => [v.toNat]
  | _ => []

def DataSet.unsigned (ds : DataSet) : List Nat :=
  ds.rows.flatMap fun row => row.flatMap DataSetValue.unsigned

def ParameterValue.unsigned : ParameterValue → List Nat
  | .uint8 v => [v.toNat]
  | .uint16 v => [v.toNat]
  | .uint32 v => [v.toNat]
  | _ => []

def Parameter.unsigned (p : Parameter) : List Nat := p.value.elim [] ParameterValue.unsigned

mutual

/-- The unsigned 8, 16 and 32 bit numbers in a metric: its properties, then its value. -/
def Metric.unsigned : Metric → List Nat
  | ⟨_, _, _, value, _, _, _, properties⟩ =>
    properties.elim [] PropertySet.unsigned ++ MetricValue.unsigned value

def MetricValue.unsigned : MetricValue → List Nat
  | .uint8 v => [v.toNat]
  | .uint16 v => [v.toNat]
  | .uint32 v => [v.toNat]
  | .dataSet ds => ds.unsigned
  | .template t => Template.unsigned t
  | _ => []

def Template.unsigned : Template → List Nat
  | ⟨_, _, _, metrics, parameters⟩ =>
    membersUnsigned metrics ++ parameters.flatMap Parameter.unsigned

def membersUnsigned : List Metric → List Nat
  | [] => []
  | metric :: rest => Metric.unsigned metric ++ membersUnsigned rest

end

/-- The sequence number and the unsigned 8, 16 and 32 bit numbers in the metrics. -/
def Payload.unsigned (p : Payload) : List Nat :=
  p.seq.toList.map UInt8.toNat ++ p.metrics.flatMap Metric.unsigned

theorem entriesUnsigned_eq (entries : List (String × PropertyValue)) :
    entriesUnsigned entries = (entries.map Prod.snd).flatMap PropertyValue.unsigned := by
  induction entries with
  | nil => rw [entriesUnsigned, List.map_nil, List.flatMap_nil]
  | cons e rest ih =>
    obtain ⟨key, value⟩ := e
    rw [entriesUnsigned, ih, List.map_cons, List.flatMap_cons]

theorem setsUnsigned_eq (sets : List PropertySet) :
    setsUnsigned sets = sets.flatMap PropertySet.unsigned := by
  induction sets with
  | nil => rw [setsUnsigned, List.flatMap_nil]
  | cons set rest ih => rw [setsUnsigned, ih, List.flatMap_cons]

theorem membersUnsigned_eq (metrics : List Metric) :
    membersUnsigned metrics = metrics.flatMap Metric.unsigned := by
  induction metrics with
  | nil => rw [membersUnsigned, List.flatMap_nil]
  | cons m rest ih => rw [membersUnsigned, ih, List.flatMap_cons]

theorem Metric.unsigned_eq (m : Metric) :
    Metric.unsigned m = m.properties.elim [] PropertySet.unsigned ++ m.value.unsigned := by
  obtain ⟨name, alias?, timestamp, value, isHistorical, isTransient, metadata, properties⟩ := m
  rw [Metric.unsigned]

/-! ## 2. The fields of a message -/

/-- The complete fields of a message; none where the bytes are not a sequence of fields. -/
def fieldsOf (bytes : Bytes) : List Field :=
  match Reader.readFields (Reader.byValue fun fs n raw => .ok (fs ++ [⟨n, raw⟩])) [] bytes with
  | .ok fs => fs
  | .error _ => []

/-- The varint of a field of number `n`. -/
def Field.varint? (n : Nat) (f : Field) : Option UInt64 :=
  match f.raw with
  | .varint v => if f.num = n then some v else none
  | _ => none

/-- The contents of a length-delimited field of number `n`. -/
def Field.slice? (n : Nat) (f : Field) : Option Bytes :=
  match f.raw with
  | .len b => if f.num = n then some b else none
  | _ => none

/-- The varint that counts among the fields of number `n`. -/
def lastVarint (n : Nat) (fs : List Field) : Option UInt64 := (fs.filterMap (Field.varint? n)).getLast?

/-- The contents of the length-delimited fields of number `n`. -/
def slices (n : Nat) (fs : List Field) : List Bytes := fs.filterMap (Field.slice? n)

def lastSlice (n : Nat) (fs : List Field) : Option Bytes := (slices n fs).getLast?

/-- A flag that is set. -/
def isSet (n : Nat) (fs : List Field) : Bool := (lastVarint n fs).any (· != 0)

/-- The datatype in a type code. -/
def datatypeIn (n : Nat) (fs : List Field) : Option DataType :=
  (lastVarint n fs).bind fun code => (DataType.fromU32 code.toUInt32).toOption

namespace Reader

/-- Move over a varint as `read_varint` does, and return the number that stands there: the sum of
the seven-bit digits of the bytes it has consumed, with nothing cut off at 64 bits. -/
def readNumber : ReadM Nat := fun r =>
  match readVarint r with
  | .ok (_, r') => .ok (Base128.value ((r.buf.drop r.pos).take (r'.pos - r.pos)), r')
  | .error e => .error e

/-- Collect the numbers of the varint fields of number `n`, and skip the other fields. -/
def numberField (n : Nat) (vs : List Nat) (field wire : Nat) : ReadM (List Nat) :=
  match wire with
  | WIRE_VARINT => do
    let v ← readNumber
    pure (if field = n then vs ++ [v] else vs)
  | wire => do
    skip wire
    pure vs

end Reader

/-- The numbers that stand on the wire in the varint fields of number `n` of a message. -/
def numbers (n : Nat) (bytes : Bytes) : List Nat :=
  match Reader.readFields (Reader.numberField n) [] bytes with
  | .ok vs => vs
  | .error _ => []

/-- The number that counts among the varint fields of number `n`. -/
def lastNumber (n : Nat) (bytes : Bytes) : Option Nat := (numbers n bytes).getLast?

/-! ## 3. On the wire -/

/-- The number a varint spells, where a number of `width` bits is declared. -/
structure WireNumber where
  width : Nat
  varint : Nat
  deriving DecidableEq, Repr

namespace WireNumber

/-- The varint is a number of its width. -/
def Fits (n : WireNumber) : Prop := n.varint < 2 ^ n.width

instance (n : WireNumber) : Decidable n.Fits :=
  inferInstanceAs (Decidable (n.varint < 2 ^ n.width))

end WireNumber

/-- The width of an unsigned type below 64 bits. -/
def DataType.width? : DataType → Option Nat
  | .uint8 => some 8
  | .uint16 => some 16
  | .uint32 => some 32
  | _ => none

/-- The number of a scalar value declared with `dt`. -/
def scalarNumber (dt : DataType) (v : Option Nat) : List WireNumber :=
  match dt.width?, v with
  | some width, some v => [⟨width, v⟩]
  | _, _ => []

mutual

/-- The numbers in the bytes of a property set; `fuel` bounds the nesting. -/
def propertysetNumbers : Nat → Bytes → List WireNumber
  | 0, _ => []
  | fuel + 1, bytes => (slices 2 (fieldsOf bytes)).flatMap fun b => propertyvalueNumbers fuel b

def propertyvalueNumbers : Nat → Bytes → List WireNumber
  | 0, _ => []
  | fuel + 1, bytes =>
    let fs := fieldsOf bytes
    if isSet 2 fs then []
    else
      match datatypeIn 1 fs with
      | some .propertySet => (lastSlice 9 fs).elim [] fun b => propertysetNumbers fuel b
      | some .propertySetList => (lastSlice 10 fs).elim [] fun b => propertysetlistNumbers fuel b
      | some dt => scalarNumber dt (lastNumber 3 bytes)
      | none => []

def propertysetlistNumbers : Nat → Bytes → List WireNumber
  | 0, _ => []
  | fuel + 1, bytes => (slices 1 (fieldsOf bytes)).flatMap fun b => propertysetNumbers fuel b

end

/-- The numbers in the bytes of a row, whose cells have the types of their columns. -/
def rowNumbers (types : List DataType) (bytes : Bytes) : List WireNumber :=
  ((slices 1 (fieldsOf bytes)).zip types).flatMap fun c =>
    scalarNumber c.2 (lastNumber 1 c.1)

/-- The column types of a DataSet, from single and from packed type codes. -/
def columnTypes (bytes : Bytes) : List DataType :=
  match Reader.readFields Codec.datasetBody {} bytes with
  | .ok st => st.typeCodes.filterMap fun code => (DataType.fromU32 code).toOption
  | .error _ => []

def datasetNumbers (bytes : Bytes) : List WireNumber :=
  (slices 4 (fieldsOf bytes)).flatMap (rowNumbers (columnTypes bytes))

def parameterNumbers (bytes : Bytes) : List WireNumber :=
  let fs := fieldsOf bytes
  match datatypeIn 2 fs with
  | some dt => scalarNumber dt (lastNumber 3 bytes)
  | none => []

/-- The datatype of a metric: the inline code, or the one the registry knows. -/
def metricTypeIn (types : Option AliasRegistry) (fs : List Field) : Option DataType :=
  match lastVarint 4 fs with
  | some code => (DataType.fromU32 code.toUInt32).toOption
  | none => Codec.recoverDatatype types ((lastSlice 1 fs).bind fromUtf8) (lastVarint 2 fs)

mutual

/-- The numbers in the bytes of a metric: its properties, then its value. -/
def metricNumbers (types : Option AliasRegistry) : Nat → Bytes → List WireNumber
  | 0, _ => []
  | fuel + 1, bytes =>
    let fs := fieldsOf bytes
    (lastSlice 9 fs).elim [] (fun b => propertysetNumbers fuel b) ++
      if isSet 7 fs then []
      else
        match metricTypeIn types fs with
        | some .dataSet => (lastSlice 17 fs).elim [] datasetNumbers
        | some .template => (lastSlice 18 fs).elim [] fun b => templateNumbers types fuel b
        | some dt => scalarNumber dt (lastNumber 10 bytes)
        | none => []

def templateNumbers (types : Option AliasRegistry) : Nat → Bytes → List WireNumber
  | 0, _ => []
  | fuel + 1, bytes =>
    let fs := fieldsOf bytes
    ((slices 2 fs).flatMap fun b => metricNumbers types fuel b) ++
      (slices 3 fs).flatMap parameterNumbers

end

/-- The varints on the wire for the unsigned numbers of a payload.  No message nests deeper than
the limit of the decoders, which the fuel exceeds. -/
def wireNumbers (types : Option AliasRegistry) (bytes : Bytes) : List WireNumber :=
  (lastNumber 3 bytes).toList.map (⟨8, ·⟩) ++
    (slices 2 (fieldsOf bytes)).flatMap (metricNumbers types (Codec.MAX_DEPTH + 2))

end SparkplugB
