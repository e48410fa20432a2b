/-
# Domain model → Sparkplug B protobuf bytes

`src/codec/encode.rs`.  Each function concatenates, in the source's order, the bytes of the
fields it writes; a `for` loop over a vector is a `flatMap`, or a function of its own on the list
where the recursion goes through it.
-/
import SparkplugB.Codec.Arrays

namespace SparkplugB

namespace Codec

open Writer

/-- `if let Some(v) = field { .. }`. -/
def optional {α : Type} (v : Option α) (write : α → Bytes) : Bytes :=
  match v with
  | some v => write v
  | none => []

def encodeMetadata (md : MetaData) : Bytes :=
  optional md.isMultiPart (boolField 1) ++ optional md.contentType (stringField 2) ++
    optional md.size (uint64Field 3) ++ optional md.seq (uint64Field 4) ++
    optional md.fileName (stringField 5) ++ optional md.fileType (stringField 6) ++
    optional md.md5 (stringField 7) ++ optional md.description (stringField 8)

mutual

def encodePropertyset : PropertySet → Bytes
  | ⟨entries⟩ =>
    (entries.flatMap fun entry => stringField 1 entry.1) ++ encodePropertyvalues entries

/-- The second loop of `encode_propertyset`. -/
def encodePropertyvalues : List (String × PropertyValue) → Bytes
  | [] => []
  | (_, value) :: rest => messageField 2 (encodePropertyvalue value) ++ encodePropertyvalues rest

def encodePropertyvalue : PropertyValue → Bytes
  | .null dt => uint32Field 1 dt.asU32 ++ boolField 2 true
  | .int8 v => uint32Field 1 DataType.int8.asU32 ++ uint32Field 3 v.toInt32.toUInt32
  | .int16 v => uint32Field 1 DataType.int16.asU32 ++ uint32Field 3 v.toInt32.toUInt32
  | .int32 v => uint32Field 1 DataType.int32.asU32 ++ uint32Field 3 v.toUInt32
  | .uint8 v => uint32Field 1 DataType.uint8.asU32 ++ uint32Field 3 v.toUInt32
  | .uint16 v => uint32Field 1 DataType.uint16.asU32 ++ uint32Field 3 v.toUInt32
  | .uint32 v => uint32Field 1 DataType.uint32.asU32 ++ uint32Field 3 v
  | .int64 v => uint32Field 1 DataType.int64.asU32 ++ uint64Field 4 v.toUInt64
  | .uint64 v => uint32Field 1 DataType.uint64.asU32 ++ uint64Field 4 v
  | .dateTime v => uint32Field 1 DataType.dateTime.asU32 ++ uint64Field 4 v.toUInt64
  | .float v => uint32Field 1 DataType.float.asU32 ++ floatField 5 v.bits
  | .double v => uint32Field 1 DataType.double.asU32 ++ doubleField 6 v.bits
  | .boolean v => uint32Field 1 DataType.boolean.asU32 ++ boolField 7 v
  | .string s => uint32Field 1 DataType.string.asU32 ++ stringField 8 s
  | .text s => uint32Field 1 DataType.text.asU32 ++ stringField 8 s
  | .propertySet ps =>
    uint32Field 1 DataType.propertySet.asU32 ++ messageField 9 (encodePropertyset ps)
  | .propertySetList list =>
    uint32Field 1 DataType.propertySetList.asU32 ++ messageField 10 (encodePropertysetlist list)

def encodePropertysetlist : PropertySetList → Bytes
  | ⟨sets⟩ => encodePropertysets sets

/-- The loop of `encode_propertysetlist`. -/
def encodePropertysets : List PropertySet → Bytes
  | [] => []
  | set :: rest => messageField 1 (encodePropertyset set) ++ encodePropertysets rest

end

def encodeDatasetvalue : DataSetValue → Bytes
  | .null => []
  | .int8 v => uint32Field 1 v.toInt32.toUInt32
  | .int16 v => uint32Field 1 v.toInt32.toUInt32
  | .int32 v => uint32Field 1 v.toUInt32
  | .uint8 v => uint32Field 1 v.toUInt32
  | .uint16 v => uint32Field 1 v.toUInt32
  | .uint32 v => uint32Field 1 v
  | .int64 v => uint64Field 2 v.toUInt64
  | .uint64 v => uint64Field 2 v
  | .dateTime v => uint64Field 2 v.toUInt64
  | .float v => floatField 3 v.bits
  | .double v => doubleField 4 v.bits
  | .boolean v => boolField 5 v
  | .string s | .text s => stringField 6 s

def encodeRow (row : List DataSetValue) : Bytes :=
  row.flatMap fun cell => messageField 1 (encodeDatasetvalue cell)

def encodeDataset (ds : DataSet) : Bytes :=
  uint64Field 1 ds.numOfColumns ++ (ds.columns.flatMap (stringField 2)) ++
    (ds.types.flatMap fun ty => uint32Field 3 ty.asU32) ++
    ds.rows.flatMap fun row => messageField 4 (encodeRow row)

/-- The `match &p.value` of `encode_parameter`. -/
def encodeParameterValue : ParameterValue → Bytes
  | .int8 v => uint32Field 3 v.toInt32.toUInt32
  | .int16 v => uint32Field 3 v.toInt32.toUInt32
  | .int32 v => uint32Field 3 v.toUInt32
  | .uint8 v => uint32Field 3 v.toUInt32
  | .uint16 v => uint32Field 3 v.toUInt32
  | .uint32 v => uint32Field 3 v
  | .int64 v => uint64Field 4 v.toUInt64
  | .uint64 v => uint64Field 4 v
  | .dateTime v => uint64Field 4 v.toUInt64
  | .float v => floatField 5 v.bits
  | .double v => doubleField 6 v.bits
  | .boolean v => boolField 7 v
  | .string s | .text s => stringField 8 s

def encodeParameter (p : Parameter) : Bytes :=
  stringField 1 p.name ++ uint32Field 2 p.datatype.asU32 ++ optional p.value encodeParameterValue

mutual

def encodeMetric (strip : Bool) : Metric → Bytes
  | ⟨name, alias?, timestamp, value, isHistorical, isTransient, metadata, properties⟩ =>
    optional name (stringField 1) ++ optional alias? (uint64Field 2) ++
      optional timestamp (uint64Field 3) ++
      (if strip then [] else uint32Field 4 value.datatype.asU32) ++
      optional isHistorical (boolField 5) ++ optional isTransient (boolField 6) ++
      (if value.isNull then boolField 7 true else []) ++
      optional metadata (fun md => messageField 8 (encodeMetadata md)) ++
      optional properties (fun props => messageField 9 (encodePropertyset props)) ++
      (if value.isNull then [] else encodeMetricValue strip value)

def encodeMetricValue (strip : Bool) : MetricValue → Bytes
  | .int8 v => uint32Field 10 v.toInt32.toUInt32
  | .int16 v => uint32Field 10 v.toInt32.toUInt32
  | .int32 v => uint32Field 10 v.toUInt32
  | .uint8 v => uint32Field 10 v.toUInt32
  | .uint16 v => uint32Field 10 v.toUInt32
  | .uint32 v => uint32Field 10 v
  | .int64 v => uint64Field 11 v.toUInt64
  | .uint64 v => uint64Field 11 v
  | .dateTime v => uint64Field 11 v.toUInt64
  | .float v => floatField 12 v.bits
  | .double v => doubleField 13 v.bits
  | .boolean v => boolField 14 v
  | .string s | .text s | .uuid s => stringField 15 s
  | .bytes b | .file b => bytesField 16 b
  | .dataSet ds => messageField 17 (encodeDataset ds)
  | .template t => messageField 18 (encodeTemplate strip t)
  -- All array variants pack into the bytes_value (field 16).
  | .int8Array v => bytesField 16 (Arrays.pack (.int8Array v))
  | .int16Array v => bytesField 16 (Arrays.pack (.int16Array v))
  | .int32Array v => bytesField 16 (Arrays.pack (.int32Array v))
  | .int64Array v => bytesField 16 (Arrays.pack (.int64Array v))
  | .uint8Array v => bytesField 16 (Arrays.pack (.uint8Array v))
  | .uint16Array v => bytesField 16 (Arrays.pack (.uint16Array v))
  | .uint32Array v => bytesField 16 (Arrays.pack (.uint32Array v))
  | .uint64Array v => bytesField 16 (Arrays.pack (.uint64Array v))
  | .floatArray v => bytesField 16 (Arrays.pack (.floatArray v))
  | .doubleArray v => bytesField 16 (Arrays.pack (.doubleArray v))
  | .booleanArray v => bytesField 16 (Arrays.pack (.booleanArray v))
  | .stringArray v => bytesField 16 (Arrays.pack (.stringArray v))
  | .dateTimeArray v => bytesField 16 (Arrays.pack (.dateTimeArray v))
  | .null _ => []

def encodeTemplate (strip : Bool) : Template → Bytes
  | ⟨version, templateRef, isDefinition, metrics, parameters⟩ =>
    optional version (stringField 1) ++ encodeMetrics strip metrics ++
      (parameters.flatMap fun param => messageField 3 (encodeParameter param)) ++
      optional templateRef (stringField 4) ++ boolField 5 isDefinition

/-- `for metric in &metrics { message_field(2, encode_metric(metric, strip)) }`. -/
def encodeMetrics (strip : Bool) : List Metric → Bytes
  | [] => []
  | metric :: rest => messageField 2 (encodeMetric strip metric) ++ encodeMetrics strip rest

end

/-- Encode a full payload. -/
def encodePayload (payload : Payload) (strip : Bool) : Bytes :=
  optional payload.timestamp (uint64Field 1) ++ encodeMetrics strip payload.metrics ++
    optional payload.seq (fun seq => uint64Field 3 seq.toUInt64) ++
    optional payload.uuid (stringField 4) ++ optional payload.body (bytesField 5)

end Codec

/-- Options controlling how a payload is encoded. -/
structure EncodeOptions where
  stripDatatypes : Bool

namespace EncodeOptions

/-- Options for a BIRTH/DEATH message: datatypes included. -/
def birth : EncodeOptions := ⟨false⟩

/-- Options for a DATA/CMD message: datatypes stripped. -/
def data : EncodeOptions := ⟨true⟩

end EncodeOptions

/-- Encode a `Payload` to Sparkplug B protobuf bytes. -/
def encode (payload : Payload) (opts : EncodeOptions) : Bytes :=
  Codec.encodePayload payload opts.stripDatatypes

end SparkplugB
