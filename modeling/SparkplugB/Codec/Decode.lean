/-
# Sparkplug B protobuf bytes → domain model

`src/codec/decode.rs`.  Every decoder is a `while` loop over the fields of one message followed
by the construction of its value.  The `match (field, wire)` of a loop is a definition of its own
(`metricBody`, `templateBody`, ..) over the record of the decoder's local variables; where it calls
another decoder, that call is a parameter, and the mutually recursive decoders at the end of each
section supply it with the depth one higher.
-/
import SparkplugB.Alias
import SparkplugB.Codec.Arrays

namespace SparkplugB.Codec

open Reader

/-- Maximum nesting depth (templates / property sets) before bailing out. -/
def MAX_DEPTH : Nat := 32

def mismatch (msg : String) : SparkplugError := .valueTypeMismatch msg

/-- `slot.ok_or_else(|| mismatch(msg))?`. -/
def need {α : Type} (slot : Option α) (msg : String) : Result α :=
  match slot with
  | some v => .ok v
  | none => .error (mismatch msg)

/-- Read a datatype / type-code varint.  A value that does not fit in `u32` is rejected. -/
def readTypeCode : ReadM UInt32 := do
  let raw ← readVarint
  if raw.toNat < 2 ^ 32 then pure raw.toUInt32 else throw (.unknownDataType raw.toUInt32)

/-- `r.read_varint()? != 0`. -/
def readFlag : ReadM Bool := do
  let raw ← readVarint
  pure (raw != 0)

/-- `r.read_varint()? as u32`. -/
def readUint32 : ReadM UInt32 := do
  let raw ← readVarint
  pure raw.toUInt32

/-- The scalar value slots the decoders of metrics, properties, cells and parameters collect
before they know the datatype. -/
structure Slots where
  intV : Option UInt32 := none
  longV : Option UInt64 := none
  floatV : Option F32 := none
  doubleV : Option F64 := none
  boolV : Option Bool := none
  stringV : Option String := none
  deriving DecidableEq

/-- `int_v.is_some() || .. || string_v.is_some()`. -/
def Slots.any (s : Slots) : Bool :=
  s.intV.isSome || s.longV.isSome || s.floatV.isSome || s.doubleV.isSome || s.boolV.isSome ||
    s.stringV.isSome

/-! ## 1. Metadata -/

def metadataBody (md : MetaData) : Nat → Nat → ReadM MetaData
  | 1, WIRE_VARINT => do pure { md with isMultiPart := some (← readFlag) }
  | 2, WIRE_LEN => do pure { md with contentType := some (← readString) }
  | 3, WIRE_VARINT => do pure { md with size := some (← readVarint) }
  | 4, WIRE_VARINT => do pure { md with seq := some (← readVarint) }
  | 5, WIRE_LEN => do pure { md with fileName := some (← readString) }
  | 6, WIRE_LEN => do pure { md with fileType := some (← readString) }
  | 7, WIRE_LEN => do pure { md with md5 := some (← readString) }
  | 8, WIRE_LEN => do pure { md with description := some (← readString) }
  | _, wire => do skip wire; pure md

def decodeMetadata (bytes : Bytes) : Result MetaData := readFields metadataBody {} bytes

/-! ## 2. Property sets -/

/-- The `keys` and `values` of `decode_propertyset`. -/
structure RawPropertySet where
  keys : List String := []
  values : List PropertyValue := []

def propertysetBody (decodeValue : Bytes → Result PropertyValue) (st : RawPropertySet) :
    Nat → Nat → ReadM RawPropertySet
  | 1, WIRE_LEN => do pure { st with keys := st.keys ++ [← readString] }
  | 2, WIRE_LEN => do
    let slice ← readLenSlice
    pure { st with values := st.values ++ [← decodeValue slice] }
  | _, wire => do skip wire; pure st

/-- The pairing of keys and values after the loop of `decode_propertyset`. -/
def finishPropertyset (st : RawPropertySet) : Result PropertySet :=
  if st.keys.length ≠ st.values.length then
    .error (mismatch
      s!"PropertySet has {st.keys.length} keys but {st.values.length} values")
  else .ok ⟨st.keys.zip st.values⟩

/-- The local variables of `decode_propertyvalue`. -/
structure RawPropertyValue extends Slots where
  typeCode : Option UInt32 := none
  isNull : Bool := false
  psSlice : Option Bytes := none
  pslSlice : Option Bytes := none

def propertyvalueBody (st : RawPropertyValue) : Nat → Nat → ReadM RawPropertyValue
  | 1, WIRE_VARINT => do pure { st with typeCode := some (← readTypeCode) }
  | 2, WIRE_VARINT => do pure { st with isNull := ← readFlag }
  | 3, WIRE_VARINT => do pure { st with intV := some (← readUint32) }
  | 4, WIRE_VARINT => do pure { st with longV := some (← readVarint) }
  | 5, WIRE_I32 => do pure { st with floatV := some ⟨← readFixed32⟩ }
  | 6, WIRE_I64 => do pure { st with doubleV := some ⟨← readFixed64⟩ }
  | 7, WIRE_VARINT => do pure { st with boolV := some (← readFlag) }
  | 8, WIRE_LEN => do pure { st with stringV := some (← readString) }
  | 9, WIRE_LEN => do pure { st with psSlice := some (← readLenSlice) }
  | 10, WIRE_LEN => do pure { st with pslSlice := some (← readLenSlice) }
  | _, wire => do skip wire; pure st

/-- The `match dt` of `decode_propertyvalue`. -/
def buildPropertyvalue (decodeSet : Bytes → Result PropertySet)
    (decodeList : Bytes → Result PropertySetList) (dt : DataType) (st : RawPropertyValue) :
    Result PropertyValue :=
  match dt with
  | .int8 => do pure (.int8 (← need st.intV "Int8").toUInt8.toInt8)
  | .int16 => do pure (.int16 (← need st.intV "Int16").toUInt16.toInt16)
  | .int32 => do pure (.int32 (← need st.intV "Int32").toInt32)
  | .uint8 => do pure (.uint8 (← need st.intV "UInt8").toUInt8)
  | .uint16 => do pure (.uint16 (← need st.intV "UInt16").toUInt16)
  | .uint32 => do pure (.uint32 (← need st.intV "UInt32"))
  | .int64 => do pure (.int64 (← need st.longV "Int64").toInt64)
  | .uint64 => do pure (.uint64 (← need st.longV "UInt64"))
  | .dateTime => do pure (.dateTime (← need st.longV "DateTime").toInt64)
  | .float => do pure (.float (← need st.floatV "Float"))
  | .double => do pure (.double (← need st.doubleV "Double"))
  | .boolean => do pure (.boolean (← need st.boolV "Boolean"))
  | .string => do pure (.string (← need st.stringV "String"))
  | .text => do pure (.text (← need st.stringV "Text"))
  | .propertySet => do
    let slice ← need st.psSlice "PropertySet value missing"
    pure (.propertySet (← decodeSet slice))
  | .propertySetList => do
    let slice ← need st.pslSlice "PropertySetList value missing"
    pure (.propertySetList (← decodeList slice))
  | other => .error (mismatch s!"{other.debug} is not a valid property value type")

def propertysetlistBody (decodeSet : Bytes → Result PropertySet) (st : List PropertySet) :
    Nat → Nat → ReadM (List PropertySet)
  | 1, WIRE_LEN => do
    let slice ← readLenSlice
    pure (st ++ [← decodeSet slice])
  | _, wire => do skip wire; pure st

mutual

def decodePropertyset (bytes : Bytes) (depth : Nat) : Result PropertySet :=
  if _h : depth > MAX_DEPTH then .error .recursionLimit
  else do
    let st ← readFields
      (propertysetBody fun slice => decodePropertyvalue slice (depth + 1)) {} bytes
    finishPropertyset st
termination_by MAX_DEPTH + 1 - depth

def decodePropertyvalue (bytes : Bytes) (depth : Nat) : Result PropertyValue :=
  if _h : depth > MAX_DEPTH then .error .recursionLimit
  else do
    let st ← readFields propertyvalueBody {} bytes
    let dt ← DataType.fromU32 (← need st.typeCode "PropertyValue missing type")
    if st.isNull then pure (.null dt)
    else
      buildPropertyvalue (fun slice => decodePropertyset slice (depth + 1))
        (fun slice => decodePropertysetlist slice (depth + 1)) dt st
termination_by MAX_DEPTH + 1 - depth

def decodePropertysetlist (bytes : Bytes) (depth : Nat) : Result PropertySetList :=
  if _h : depth > MAX_DEPTH then .error .recursionLimit
  else do
    let sets ← readFields
      (propertysetlistBody fun slice => decodePropertyset slice (depth + 1)) [] bytes
    pure ⟨sets⟩
termination_by MAX_DEPTH + 1 - depth

end

/-! ## 3. DataSets -/

def datasetvalueBody (st : Slots) : Nat → Nat → ReadM Slots
  | 1, WIRE_VARINT => do pure { st with intV := some (← readUint32) }
  | 2, WIRE_VARINT => do pure { st with longV := some (← readVarint) }
  | 3, WIRE_I32 => do pure { st with floatV := some ⟨← readFixed32⟩ }
  | 4, WIRE_I64 => do pure { st with doubleV := some ⟨← readFixed64⟩ }
  | 5, WIRE_VARINT => do pure { st with boolV := some (← readFlag) }
  | 6, WIRE_LEN => do pure { st with stringV := some (← readString) }
  | _, wire => do skip wire; pure st

/-- The `match dt` of `decode_datasetvalue`. -/
def buildDatasetvalue (dt : DataType) (st : Slots) : Result DataSetValue :=
  match dt with
  | .int8 => do pure (.int8 (← need st.intV "Int8 cell").toUInt8.toInt8)
  | .int16 => do pure (.int16 (← need st.intV "Int16 cell").toUInt16.toInt16)
  | .int32 => do pure (.int32 (← need st.intV "Int32 cell").toInt32)
  | .uint8 => do pure (.uint8 (← need st.intV "UInt8 cell").toUInt8)
  | .uint16 => do pure (.uint16 (← need st.intV "UInt16 cell").toUInt16)
  | .uint32 => do pure (.uint32 (← need st.intV "UInt32 cell"))
  | .int64 => do pure (.int64 (← need st.longV "Int64 cell").toInt64)
  | .uint64 => do pure (.uint64 (← need st.longV "UInt64 cell"))
  | .dateTime => do pure (.dateTime (← need st.longV "DateTime cell").toInt64)
  | .float => do pure (.float (← need st.floatV "Float cell"))
  | .double => do pure (.double (← need st.doubleV "Double cell"))
  | .boolean => do pure (.boolean (← need st.boolV "Boolean cell"))
  | .string => do pure (.string (← need st.stringV "String cell"))
  | .text => do pure (.text (← need st.stringV "Text cell"))
  | other => .error (.dataSetShape s!"{other.debug} is not a valid DataSet column type")

def decodeDatasetvalue (bytes : Bytes) (dt : DataType) : Result DataSetValue := do
  let st ← readFields datasetvalueBody {} bytes
  if st.any then buildDatasetvalue dt st else pure .null

/-- The loop body of `decode_row`; the index `idx` of the source is the number of cells. -/
def rowBody (types : List DataType) (cells : List DataSetValue) :
    Nat → Nat → ReadM (List DataSetValue)
  | 1, WIRE_LEN => do
    let slice ← readLenSlice
    match types[cells.length]? with
    | some dt => pure (cells ++ [← decodeDatasetvalue slice dt])
    | none => throw (.dataSetShape "row wider than column types")
  | _, wire => do skip wire; pure cells

def decodeRow (bytes : Bytes) (types : List DataType) : Result (List DataSetValue) :=
  readFields (rowBody types) [] bytes

/-- The local variables of `decode_dataset`. -/
structure RawDataSet where
  columns : List String := []
  typeCodes : List UInt32 := []
  rowSlices : List Bytes := []

/-- `while !sub.is_empty() { type_codes.push(read_type_code(&mut sub)?) }`; each code takes at
least one byte, so the length of the buffer bounds the number of rounds. -/
def typeCodeLoop : Nat → List UInt32 → ReadM (List UInt32)
  | 0, codes => pure codes
  | fuel + 1, codes => do
    if (← get).isEmpty then pure codes
    else
      let code ← readTypeCode
      typeCodeLoop fuel (codes ++ [code])

/-- The packed form of the repeated `types` field. -/
def packedTypeCodes (codes : List UInt32) (bytes : Bytes) : Result (List UInt32) :=
  (typeCodeLoop bytes.length codes).run' (Reader.new bytes)

def datasetBody (st : RawDataSet) : Nat → Nat → ReadM RawDataSet
  | 1, WIRE_VARINT => do
    let _ ← readVarint -- num_of_columns, derived from the columns instead
    pure st
  | 2, WIRE_LEN => do pure { st with columns := st.columns ++ [← readString] }
  | 3, WIRE_VARINT => do pure { st with typeCodes := st.typeCodes ++ [← readTypeCode] }
  | 3, WIRE_LEN => do
    let slice ← readLenSlice
    pure { st with typeCodes := ← packedTypeCodes st.typeCodes slice }
  | 4, WIRE_LEN => do pure { st with rowSlices := st.rowSlices ++ [← readLenSlice] }
  | _, wire => do skip wire; pure st

def decodeDataset (bytes : Bytes) : Result DataSet := do
  let st ← readFields datasetBody {} bytes
  let types ← st.typeCodes.mapM DataType.fromU32
  let rows ← st.rowSlices.mapM fun slice => decodeRow slice types
  DataSet.new st.columns types rows

/-! ## 4. Template parameters -/

/-- The local variables of `decode_parameter`. -/
structure RawParameter extends Slots where
  name : Option String := none
  typeCode : Option UInt32 := none

def parameterBody (st : RawParameter) : Nat → Nat → ReadM RawParameter
  | 1, WIRE_LEN => do pure { st with name := some (← readString) }
  | 2, WIRE_VARINT => do pure { st with typeCode := some (← readTypeCode) }
  | 3, WIRE_VARINT => do pure { st with intV := some (← readUint32) }
  | 4, WIRE_VARINT => do pure { st with longV := some (← readVarint) }
  | 5, WIRE_I32 => do pure { st with floatV := some ⟨← readFixed32⟩ }
  | 6, WIRE_I64 => do pure { st with doubleV := some ⟨← readFixed64⟩ }
  | 7, WIRE_VARINT => do pure { st with boolV := some (← readFlag) }
  | 8, WIRE_LEN => do pure { st with stringV := some (← readString) }
  | _, wire => do skip wire; pure st

def buildParameterValue (dt : DataType) (st : Slots) : Result ParameterValue :=
  match dt with
  | .int8 => do pure (.int8 (← need st.intV "Int8 param").toUInt8.toInt8)
  | .int16 => do pure (.int16 (← need st.intV "Int16 param").toUInt16.toInt16)
  | .int32 => do pure (.int32 (← need st.intV "Int32 param").toInt32)
  | .uint8 => do pure (.uint8 (← need st.intV "UInt8 param").toUInt8)
  | .uint16 => do pure (.uint16 (← need st.intV "UInt16 param").toUInt16)
  | .uint32 => do pure (.uint32 (← need st.intV "UInt32 param"))
  | .int64 => do pure (.int64 (← need st.longV "Int64 param").toInt64)
  | .uint64 => do pure (.uint64 (← need st.longV "UInt64 param"))
  | .dateTime => do pure (.dateTime (← need st.longV "DateTime param").toInt64)
  | .float => do pure (.float (← need st.floatV "Float param"))
  | .double => do pure (.double (← need st.doubleV "Double param"))
  | .boolean => do pure (.boolean (← need st.boolV "Boolean param"))
  | .string => do pure (.string (← need st.stringV "String param"))
  | .text => do pure (.text (← need st.stringV "Text param"))
  | other => .error (mismatch s!"{other.debug} is not a valid parameter type")

def decodeParameter (bytes : Bytes) : Result Parameter := do
  let st ← readFields parameterBody {} bytes
  let name ← need st.name "Parameter missing name"
  let dt ← DataType.fromU32 (← need st.typeCode "Parameter missing type")
  if st.any then pure ⟨name, dt, some (← buildParameterValue dt st.toSlots)⟩
  else pure ⟨name, dt, none⟩

/-! ## 5. Metrics and templates -/

/-- The raw value-oneof slots collected from a metric before we know the datatype. -/
structure RawValue extends Slots where
  bytesV : Option Bytes := none
  datasetV : Option Bytes := none
  templateV : Option Bytes := none

/-- The local variables of `decode_metric`. -/
structure RawMetric where
  name : Option String := none
  «alias» : Option UInt64 := none
  timestamp : Option UInt64 := none
  datatype : Option UInt32 := none
  isHistorical : Option Bool := none
  isTransient : Option Bool := none
  isNull : Bool := false
  metadata : Option MetaData := none
  properties : Option PropertySet := none
  raw : RawValue := {}

def metricBody (decodeProps : Bytes → Result PropertySet) (st : RawMetric) :
    Nat → Nat → ReadM RawMetric
  | 1, WIRE_LEN => do pure { st with name := some (← readString) }
  | 2, WIRE_VARINT => do pure { st with «alias» := some (← readVarint) }
  | 3, WIRE_VARINT => do pure { st with timestamp := some (← readVarint) }
  | 4, WIRE_VARINT => do pure { st with datatype := some (← readTypeCode) }
  | 5, WIRE_VARINT => do pure { st with isHistorical := some (← readFlag) }
  | 6, WIRE_VARINT => do pure { st with isTransient := some (← readFlag) }
  | 7, WIRE_VARINT => do pure { st with isNull := ← readFlag }
  | 8, WIRE_LEN => do
    let slice ← readLenSlice
    pure { st with metadata := some (← decodeMetadata slice) }
  | 9, WIRE_LEN => do
    let slice ← readLenSlice
    pure { st with properties := some (← decodeProps slice) }
  | 10, WIRE_VARINT => do pure { st with raw.intV := some (← readUint32) }
  | 11, WIRE_VARINT => do pure { st with raw.longV := some (← readVarint) }
  | 12, WIRE_I32 => do pure { st with raw.floatV := some ⟨← readFixed32⟩ }
  | 13, WIRE_I64 => do pure { st with raw.doubleV := some ⟨← readFixed64⟩ }
  | 14, WIRE_VARINT => do pure { st with raw.boolV := some (← readFlag) }
  | 15, WIRE_LEN => do pure { st with raw.stringV := some (← readString) }
  | 16, WIRE_LEN => do pure { st with raw.bytesV := some (← readBytes) }
  | 17, WIRE_LEN => do pure { st with raw.datasetV := some (← readLenSlice) }
  | 18, WIRE_LEN => do pure { st with raw.templateV := some (← readLenSlice) }
  | _, wire => do skip wire; pure st

def recoverDatatype (types : Option AliasRegistry) (name : Option String)
    (alias? : Option UInt64) : Option DataType :=
  match types with
  | none => none
  | some reg =>
    match name, alias? with
    | some n, _ => reg.datatypeForName n
    | none, some a => reg.datatypeForAlias a
    | none, none => none

def describe (name : Option String) (alias? : Option UInt64) : String :=
  match name, alias? with
  | some n, _ => s!"name {debugStr n}"
  | none, some a => s!"alias {a}"
  | none, none => "anonymous metric"

/-- The datatype of a metric: the inline code, or the one the registry knows. -/
def metricDatatype (types : Option AliasRegistry) (st : RawMetric) : Result DataType :=
  match st.datatype with
  | some code => DataType.fromU32 code
  | none =>
    match recoverDatatype types st.name st.alias with
    | some dt => .ok dt
    | none => .error (.missingDataType (describe st.name st.alias))

/-- `build_metric_value`, with the decoding of a template slice as a parameter. -/
def buildMetricValue (decodeTemplate : Bytes → Result Template) (dt : DataType) (raw : RawValue) :
    Result MetricValue :=
  let intV := need raw.intV s!"{dt.debug} expected int_value"
  let longV := need raw.longV s!"{dt.debug} expected long_value"
  let stringV := need raw.stringV s!"{dt.debug} expected string_value"
  let bytesV := need raw.bytesV s!"{dt.debug} expected bytes_value"
  match dt with
  | .int8 => do pure (.int8 (← intV).toUInt8.toInt8)
  | .int16 => do pure (.int16 (← intV).toUInt16.toInt16)
  | .int32 => do pure (.int32 (← intV).toInt32)
  | .uint8 => do pure (.uint8 (← intV).toUInt8)
  | .uint16 => do pure (.uint16 (← intV).toUInt16)
  | .uint32 => do pure (.uint32 (← intV))
  | .int64 => do pure (.int64 (← longV).toInt64)
  | .uint64 => do pure (.uint64 (← longV))
  | .dateTime => do pure (.dateTime (← longV).toInt64)
  | .float => do pure (.float (← need raw.floatV "Float expected float_value"))
  | .double => do pure (.double (← need raw.doubleV "Double expected double_value"))
  | .boolean => do pure (.boolean (← need raw.boolV "Boolean expected boolean_value"))
  | .string => do pure (.string (← stringV))
  | .text => do pure (.text (← stringV))
  | .uuid => do pure (.uuid (← stringV))
  | .bytes => do pure (.bytes (← bytesV))
  | .file => do pure (.file (← bytesV))
  | .dataSet => do
    let slice ← need raw.datasetV "DataSet expected dataset_value"
    pure (.dataSet (← decodeDataset slice))
  | .template => do
    let slice ← need raw.templateV "Template expected template_value"
    pure (.template (← decodeTemplate slice))
  | .unknown | .propertySet | .propertySetList =>
    .error (mismatch s!"{dt.debug} is not a valid metric value type")
  -- The remaining datatypes are the array types.
  | dt => do
    let slice ← bytesV
    Arrays.unpack dt slice

def templateBody (decodeMember : Bytes → Result Metric) (t : Template) :
    Nat → Nat → ReadM Template
  | 1, WIRE_LEN => do pure { t with version := some (← readString) }
  | 2, WIRE_LEN => do
    let slice ← readLenSlice
    pure { t with metrics := t.metrics ++ [← decodeMember slice] }
  | 3, WIRE_LEN => do
    let slice ← readLenSlice
    pure { t with parameters := t.parameters ++ [← decodeParameter slice] }
  | 4, WIRE_LEN => do pure { t with templateRef := some (← readString) }
  | 5, WIRE_VARINT => do pure { t with isDefinition := ← readFlag }
  | _, wire => do skip wire; pure t

mutual

def decodeMetric (bytes : Bytes) (types : Option AliasRegistry) (depth : Nat) : Result Metric :=
  if _h : depth > MAX_DEPTH then .error .recursionLimit
  else do
    let st ← readFields (metricBody fun slice => decodePropertyset slice (depth + 1)) {} bytes
    let dt ← metricDatatype types st
    let value ←
      if st.isNull then pure (MetricValue.null dt)
      else buildMetricValue (fun slice => decodeTemplate slice types (depth + 1)) dt st.raw
    pure { name := st.name, «alias» := st.alias, timestamp := st.timestamp, value,
           isHistorical := st.isHistorical, isTransient := st.isTransient,
           metadata := st.metadata, properties := st.properties }
termination_by MAX_DEPTH + 1 - depth

def decodeTemplate (bytes : Bytes) (types : Option AliasRegistry) (depth : Nat) :
    Result Template :=
  if _h : depth > MAX_DEPTH then .error .recursionLimit
  else readFields (templateBody fun slice => decodeMetric slice types (depth + 1)) {} bytes
termination_by MAX_DEPTH + 1 - depth

end

/-! ## 6. Payloads -/

def payloadBody (decodeTop : Bytes → Result Metric) (p : Payload) : Nat → Nat → ReadM Payload
  | 1, WIRE_VARINT => do pure { p with timestamp := some (← readVarint) }
  | 2, WIRE_LEN => do
    let body ← readLenSlice
    pure { p with metrics := p.metrics ++ [← decodeTop body] }
  | 3, WIRE_VARINT => do pure { p with seq := some (← readVarint).toUInt8 }
  | 4, WIRE_LEN => do pure { p with uuid := some (← readString) }
  | 5, WIRE_LEN => do pure { p with body := some (← readBytes) }
  | _, wire => do skip wire; pure p

/-- Decode a Sparkplug B payload. -/
def decodePayload (bytes : Bytes) (types : Option AliasRegistry) : Result Payload :=
  readFields (payloadBody fun body => decodeMetric body types 0) {} bytes

end SparkplugB.Codec

namespace SparkplugB

/-- Decode Sparkplug B protobuf bytes into a `Payload`.  `types` recovers the datatypes of
stripped DATA/CMD metrics. -/
def decode (bytes : Bytes) (types : Option AliasRegistry) : Result Payload :=
  Codec.decodePayload bytes types

end SparkplugB
