/-
# The decoder with its panics

A second translation of the decode path (`wire.rs` from `Reader` on, `unpack` in `arrays.rs`,
`decode.rs`), with the panics that `Codec/Decode.lean` leaves out: every operation that can panic
is the checking one of `Lib/Panic.lean`.  A `usize` has 64 bits.

Two checks are not in the source.  A loop that runs out of its fuel before its buffer is empty
panics, and so does a recursive decoder that is entered with a depth above `MAX_DEPTH + 1` or, while
a call of the same decoder is running, with a depth that is not larger than that call's.  The
running calls (`Frame`) are there for this check only.  What contains no such operation is taken
over from `Codec/Decode.lean` (`ofResult`).
-/
import SparkplugB.Codec.Decode
import SparkplugB.Lib.Panic

namespace SparkplugB.Checked

open Panic Codec

/-- What a decoder returns: a value, an error or a panic. -/
abbrev Outcome (α : Type) := Run SparkplugError α

/-- A `Reader` method. -/
abbrev ReadM := StateT Reader (Except (Stop SparkplugError))

def fail {α : Type} (e : SparkplugError) : ReadM α := throw (Stop.error e)

/-! ## 1. The reader -/

def readByte : ReadM UInt8 := fun r =>
  match r.buf[r.pos]? with
  | some byte => do
    let pos ← add r.pos 1
    pure (byte, { r with pos })
  | none => .error (.error .truncated)

/-- The loop of `read_varint`.  The shift is a `u32` and at most 70. -/
def readVarintFrom (result : UInt64) (shift : Nat) : ReadM UInt64 :=
  if _h : 64 ≤ shift then fail .varintOverflow
  else do
    let byte ← readByte
    let digit ← (shiftLeft (byte &&& 0x7f).toUInt64 shift : Outcome UInt64)
    let result := result ||| digit
    if byte &&& 0x80 = 0 then pure result else readVarintFrom result (shift + 7)
termination_by 64 - shift

def readVarint : ReadM UInt64 := readVarintFrom 0 0

def readTag : ReadM (Nat × Nat) := do
  let key ← readVarint
  if (key >>> 3).toNat < 2 ^ 32 then pure ((key >>> 3).toNat, (key &&& 0x7).toNat)
  else fail (.invalidWireType 0)

/-- `let end = self.pos.checked_add(len)?; let slice = self.buf.get(self.pos..end)?;
self.pos = end`. -/
def take (len : Nat) : ReadM Bytes := fun r =>
  match checkedAdd r.pos len with
  | none => .error (.error .truncated)
  | some stop =>
    match getRange r.buf r.pos stop with
    | none => .error (.error .truncated)
    | some slice => .ok (slice, { r with pos := stop })

def readFixed32 : ReadM UInt32 := do
  let slice ← take 4
  let arr ← (expectArray 4 slice : Outcome Bytes)
  pure (UInt32.ofNat (LittleEndian.value arr))

def readFixed64 : ReadM UInt64 := do
  let slice ← take 8
  let arr ← (expectArray 8 slice : Outcome Bytes)
  pure (UInt64.ofNat (LittleEndian.value arr))

def readLenSlice : ReadM Bytes := do
  let len ← readVarint
  take len.toNat

def readString : ReadM String := do
  let slice ← readLenSlice
  match fromUtf8 slice with
  | some s => pure s
  | none => fail .invalidUtf8

def skip (wire : Nat) : ReadM Unit :=
  match wire with
  | WIRE_VARINT => do let _ ← readVarint
  | WIRE_I64 => do let _ ← readFixed64
  | WIRE_LEN => do let _ ← readLenSlice
  | WIRE_I32 => do let _ ← readFixed32
  | other => fail (.invalidWireType other)

/-- The loop of every decoder. -/
def fieldLoop {σ : Type} (body : σ → Nat → Nat → ReadM σ) : Nat → σ → ReadM σ
  | 0, st => do
    (assert ((← get).isEmpty = true) : Outcome Unit)
    pure st
  | fuel + 1, st => do
    if (← get).isEmpty then pure st
    else
      let (field, wire) ← readTag
      let st ← body st field wire
      fieldLoop body fuel st

def readFields {σ : Type} (body : σ → Nat → Nat → ReadM σ) (init : σ) (bytes : Bytes) :
    Outcome σ :=
  (fieldLoop body bytes.length init).run' (Reader.new bytes)

def readTypeCode : ReadM UInt32 := do
  let raw ← readVarint
  if raw.toNat < 2 ^ 32 then pure raw.toUInt32 else fail (.unknownDataType raw.toUInt32)

def readFlag : ReadM Bool := do
  let raw ← readVarint
  pure (raw != 0)

def readUint32 : ReadM UInt32 := do
  let raw ← readVarint
  pure raw.toUInt32

/-! ## 2. Arrays -/

/-- `data.chunks_exact(w).map(|c| from_le_bytes([c[0], .., c[w - 1]]))`. -/
def getEach {α : Type} (w : Nat) (ofBits : Nat → α) (data : Bytes) : Outcome (List α) :=
  (data.chunksExact w).mapM fun c => do
    let arr ← (List.range w).mapM (index c)
    pure (ofBits (LittleEndian.value arr))

/-- `data.chunks_exact(8).map(|c| from_le_bytes(c.try_into().expect("8-byte chunk")))`. -/
def getEach64 {α : Type} (ofBits : Nat → α) (data : Bytes) : Outcome (List α) :=
  (data.chunksExact 8).mapM fun c => do
    let arr ← expectArray 8 c
    pure (ofBits (LittleEndian.value arr))

def unpackNumeric (dt : DataType) (data : Bytes) : Outcome MetricValue :=
  match dt.arrayElementWidth with
  | none => .error (.error (.valueTypeMismatch s!"{dt.debug} is not a numeric array"))
  | some width =>
    if data.length % width ≠ 0 then .error (.error (.arrayLength data.length width))
    else
      match dt with
      | .int8Array => .ok (.int8Array (data.map UInt8.toInt8))
      | .uint8Array => .ok (.uint8Array data)
      | .int16Array => do pure (.int16Array (← getEach 2 (fun n => (UInt16.ofNat n).toInt16) data))
      | .uint16Array => do pure (.uint16Array (← getEach 2 UInt16.ofNat data))
      | .int32Array => do pure (.int32Array (← getEach 4 (fun n => (UInt32.ofNat n).toInt32) data))
      | .uint32Array => do pure (.uint32Array (← getEach 4 UInt32.ofNat data))
      | .floatArray => do pure (.floatArray (← getEach 4 (fun n => ⟨UInt32.ofNat n⟩) data))
      | .int64Array => do pure (.int64Array (← getEach64 (fun n => (UInt64.ofNat n).toInt64) data))
      | .uint64Array => do pure (.uint64Array (← getEach64 UInt64.ofNat data))
      | .doubleArray => do pure (.doubleArray (← getEach64 (fun n => ⟨UInt64.ofNat n⟩) data))
      | .dateTimeArray => do
        pure (.dateTimeArray (← getEach64 (fun n => (UInt64.ofNat n).toInt64) data))
      | other => .error (.error (.valueTypeMismatch s!"{other.debug} is not a numeric array"))

def unpackBool (data : Bytes) : Outcome MetricValue :=
  if data.length < 4 then .error (.error .truncated)
  else do
    let arr ← (List.range 4).mapM (index data)
    let count := LittleEndian.value arr
    let bits ← sliceFrom data 4
    if bits.length < (count + 7) / 8 then .error (.error .truncated)
    else
      let out ← (List.range count).mapM fun i => do
        let byte ← index bits (i / 8)
        let mask ← shiftRight 128 (i % 8)
        pure (byte &&& mask != 0)
      pure (.booleanArray out)

def unpack (dt : DataType) (data : Bytes) : Outcome MetricValue :=
  match dt with
  | .booleanArray => unpackBool data
  | .stringArray => ofResult (Arrays.unpackStrings data)
  | dt => unpackNumeric dt data

/-! ## 3. Calls -/

/-- The decoders that call each other. -/
inductive Fn where
  | metric
  | template
  | propertyset
  | propertyvalue
  | propertysetlist
  deriving DecidableEq, Repr

/-- A running call of a recursive decoder. -/
structure Frame where
  fn : Fn
  depth : Nat

/-- The check on entry: the depth is bounded, and larger than in every running call of the same
decoder. -/
def enter (fn : Fn) (depth : Nat) (running : List Frame) : Outcome (List Frame) := do
  assert (depth ≤ MAX_DEPTH + 1 ∧ ∀ f ∈ running, f.fn = fn → f.depth + 1 ≤ depth)
  pure (⟨fn, depth⟩ :: running)

/-! ## 4. Metadata, property sets -/

def metadataBody (md : MetaData) : Nat → Nat → ReadM MetaData
  | 1, WIRE_VARINT => do pure { md with isMultiPart := some (← readFlag) }
  | 2, WIRE_LEN => do pure { md with contentType := some (← readString) }
  | 3, WIRE_VARINT => do pure { md with size := some (← readVarint) }
  | 4, WIRE_VARINT => do pure { md with seq := some (← readVarint) }
  | 5, WIRE_LEN => do pure { md with fileName := some (← readString) }
  | 6, WIRE_LEN => do pure { md with fileType := some (← readString) }
  | 7, WIRE_LEN => do pure { md with md5 := some (← readString) }
  | 8, WIRE_LEN => do pure { md with description := some (← readString) }
  | _, wire => do skip wire; pure md

def decodeMetadata (bytes : Bytes) : Outcome MetaData := readFields metadataBody {} bytes

def propertysetBody (decodeValue : Bytes → Outcome PropertyValue) (st : RawPropertySet) :
    Nat → Nat → ReadM RawPropertySet
  | 1, WIRE_LEN => do pure { st with keys := st.keys ++ [← readString] }
  | 2, WIRE_LEN => do
    let slice ← readLenSlice
    pure { st with values := st.values ++ [← decodeValue slice] }
  | _, wire => do skip wire; pure st

def propertyvalueBody (st : RawPropertyValue) : Nat → Nat → ReadM RawPropertyValue
  | 1, WIRE_VARINT => do pure { st with typeCode := some (← readTypeCode) }
  | 2, WIRE_VARINT => do pure { st with isNull := ← readFlag }
  | 3, WIRE_VARINT => do pure { st with intV := some (← readUint32) }
  | 4, WIRE_VARINT => do pure { st with longV := some (← readVarint) }
  | 5, WIRE_I32 => do pure { st with floatV := some ⟨← readFixed32⟩ }
  | 6, WIRE_I64 => do pure { st with doubleV := some ⟨← readFixed64⟩ }
  | 7, WIRE_VARINT => do pure { st with boolV := some (← readFlag) }
  | 8, WIRE_LEN => do pure { st with stringV := some (← readString) }
  | 9, WIRE_LEN => do pure { st with psSlice := some (← readLenSlice) }
  | 10, WIRE_LEN => do pure { st with pslSlice := some (← readLenSlice) }
  | _, wire => do skip wire; pure st

/-- The `match dt` of `decode_propertyvalue`; its scalar arms cannot panic. -/
def buildPropertyvalue (decodeSet : Bytes → Outcome PropertySet)
    (decodeList : Bytes → Outcome PropertySetList) (dt : DataType) (st : RawPropertyValue) :
    Outcome PropertyValue :=
  match dt with
  | .propertySet => do
    let slice ← ofResult (need st.psSlice "PropertySet value missing")
    pure (.propertySet (← decodeSet slice))
  | .propertySetList => do
    let slice ← ofResult (need st.pslSlice "PropertySetList value missing")
    pure (.propertySetList (← decodeList slice))
  | dt => ofResult (Codec.buildPropertyvalue (fun _ => .error .recursionLimit)
      (fun _ => .error .recursionLimit) dt st)

def propertysetlistBody (decodeSet : Bytes → Outcome PropertySet) (st : List PropertySet) :
    Nat → Nat → ReadM (List PropertySet)
  | 1, WIRE_LEN => do
    let slice ← readLenSlice
    pure (st ++ [← decodeSet slice])
  | _, wire => do skip wire; pure st

mutual

def decodePropertyset (bytes : Bytes) (depth : Nat) (running : List Frame) :
    Outcome PropertySet := do
  let running ← enter .propertyset depth running
  if _h : depth > MAX_DEPTH then .error (.error .recursionLimit)
  else
    let st ← readFields (propertysetBody fun slice => do
      let _ ← add depth 1
      decodePropertyvalue slice (depth + 1) running) {} bytes
    ofResult (finishPropertyset st)
termination_by MAX_DEPTH + 1 - depth

def decodePropertyvalue (bytes : Bytes) (depth : Nat) (running : List Frame) :
    Outcome PropertyValue := do
  let running ← enter .propertyvalue depth running
  if _h : depth > MAX_DEPTH then .error (.error .recursionLimit)
  else
    let st ← readFields propertyvalueBody {} bytes
    let code ← ofResult (need st.typeCode "PropertyValue missing type")
    let dt ← ofResult (DataType.fromU32 code)
    if st.isNull then pure (.null dt)
    else
      buildPropertyvalue
        (fun slice => do
          let _ ← add depth 1
          decodePropertyset slice (depth + 1) running)
        (fun slice => do
          let _ ← add depth 1
          decodePropertysetlist slice (depth + 1) running) dt st
termination_by MAX_DEPTH + 1 - depth

def decodePropertysetlist (bytes : Bytes) (depth : Nat) (running : List Frame) :
    Outcome PropertySetList := do
  let running ← enter .propertysetlist depth running
  if _h : depth > MAX_DEPTH then .error (.error .recursionLimit)
  else
    let sets ← readFields (propertysetlistBody fun slice => do
      let _ ← add depth 1
      decodePropertyset slice (depth + 1) running) [] bytes
    pure ⟨sets⟩
termination_by MAX_DEPTH + 1 - depth

end

/-! ## 5. DataSets, template parameters -/

def datasetvalueBody (st : Slots) : Nat → Nat → ReadM Slots
  | 1, WIRE_VARINT => do pure { st with intV := some (← readUint32) }
  | 2, WIRE_VARINT => do pure { st with longV := some (← readVarint) }
  | 3, WIRE_I32 => do pure { st with floatV := some ⟨← readFixed32⟩ }
  | 4, WIRE_I64 => do pure { st with doubleV := some ⟨← readFixed64⟩ }
  | 5, WIRE_VARINT => do pure { st with boolV := some (← readFlag) }
  | 6, WIRE_LEN => do pure { st with stringV := some (← readString) }
  | _, wire => do skip wire; pure st

def decodeDatasetvalue (bytes : Bytes) (dt : DataType) : Outcome DataSetValue := do
  let st ← readFields datasetvalueBody {} bytes
  if st.any then ofResult (buildDatasetvalue dt st) else pure .null

/-- The loop body of `decode_row`; the index `idx` of the source is the number of cells. -/
def rowBody (types : List DataType) (cells : List DataSetValue) :
    Nat → Nat → ReadM (List DataSetValue)
  | 1, WIRE_LEN => do
    let slice ← readLenSlice
    match types[cells.length]? with
    | some dt => do
      let cell ← decodeDatasetvalue slice dt
      let _ ← (add cells.length 1 : Outcome Nat) -- `idx += 1`
      pure (cells ++ [cell])
    | none => fail (.dataSetShape "row wider than column types")
  | _, wire => do skip wire; pure cells

def decodeRow (bytes : Bytes) (types : List DataType) : Outcome (List DataSetValue) :=
  readFields (rowBody types) [] bytes

def typeCodeLoop : Nat → List UInt32 → ReadM (List UInt32)
  | 0, codes => do
    (assert ((← get).isEmpty = true) : Outcome Unit)
    pure codes
  | fuel + 1, codes => do
    if (← get).isEmpty then pure codes
    else
      let code ← readTypeCode
      typeCodeLoop fuel (codes ++ [code])

def packedTypeCodes (codes : List UInt32) (bytes : Bytes) : Outcome (List UInt32) :=
  (typeCodeLoop bytes.length codes).run' (Reader.new bytes)

def datasetBody (st : RawDataSet) : Nat → Nat → ReadM RawDataSet
  | 1, WIRE_VARINT => do
    let _ ← readVarint
    pure st
  | 2, WIRE_LEN => do pure { st with columns := st.columns ++ [← readString] }
  | 3, WIRE_VARINT => do pure { st with typeCodes := st.typeCodes ++ [← readTypeCode] }
  | 3, WIRE_LEN => do
    let slice ← readLenSlice
    pure { st with typeCodes := ← packedTypeCodes st.typeCodes slice }
  | 4, WIRE_LEN => do pure { st with rowSlices := st.rowSlices ++ [← readLenSlice] }
  | _, wire => do skip wire; pure st

def decodeDataset (bytes : Bytes) : Outcome DataSet := do
  let st ← readFields datasetBody {} bytes
  let types ← ofResult (st.typeCodes.mapM DataType.fromU32)
  let rows ← st.rowSlices.mapM fun slice => decodeRow slice types
  ofResult (DataSet.new st.columns types rows)

def parameterBody (st : RawParameter) : Nat → Nat → ReadM RawParameter
  | 1, WIRE_LEN => do pure { st with name := some (← readString) }
  | 2, WIRE_VARINT => do pure { st with typeCode := some (← readTypeCode) }
  | 3, WIRE_VARINT => do pure { st with intV := some (← readUint32) }
  | 4, WIRE_VARINT => do pure { st with longV := some (← readVarint) }
  | 5, WIRE_I32 => do pure { st with floatV := some ⟨← readFixed32⟩ }
  | 6, WIRE_I64 => do pure { st with doubleV := some ⟨← readFixed64⟩ }
  | 7, WIRE_VARINT => do pure { st with boolV := some (← readFlag) }
  | 8, WIRE_LEN => do pure { st with stringV := some (← readString) }
  | _, wire => do skip wire; pure st

def decodeParameter (bytes : Bytes) : Outcome Parameter := do
  let st ← readFields parameterBody {} bytes
  let name ← ofResult (need st.name "Parameter missing name")
  let code ← ofResult (need st.typeCode "Parameter missing type")
  let dt ← ofResult (DataType.fromU32 code)
  if st.any then
    let value ← ofResult (buildParameterValue dt st.toSlots)
    pure ⟨name, dt, some value⟩
  else pure ⟨name, dt, none⟩

/-! ## 6. Metrics, templates, payloads -/

def metricBody (decodeProps : Bytes → Outcome PropertySet) (st : RawMetric) :
    Nat → Nat → ReadM RawMetric
  | 1, WIRE_LEN => do pure { st with name := some (← readString) }
  | 2, WIRE_VARINT => do pure { st with «alias» := some (← readVarint) }
  | 3, WIRE_VARINT => do pure { st with timestamp := some (← readVarint) }
  | 4, WIRE_VARINT => do pure { st with datatype := some (← readTypeCode) }
  | 5, WIRE_VARINT => do pure { st with isHistorical := some (← readFlag) }
  | 6, WIRE_VARINT => do pure { st with isTransient := some (← readFlag) }
  | 7, WIRE_VARINT => do pure { st with isNull := ← readFlag }
  | 8, WIRE_LEN => do
    let slice ← readLenSlice
    pure { st with metadata := some (← decodeMetadata slice) }
  | 9, WIRE_LEN => do
    let slice ← readLenSlice
    pure { st with properties := some (← decodeProps slice) }
  | 10, WIRE_VARINT => do pure { st with raw.intV := some (← readUint32) }
  | 11, WIRE_VARINT => do pure { st with raw.longV := some (← readVarint) }
  | 12, WIRE_I32 => do pure { st with raw.floatV := some ⟨← readFixed32⟩ }
  | 13, WIRE_I64 => do pure { st with raw.doubleV := some ⟨← readFixed64⟩ }
  | 14, WIRE_VARINT => do pure { st with raw.boolV := some (← readFlag) }
  | 15, WIRE_LEN => do pure { st with raw.stringV := some (← readString) }
  | 16, WIRE_LEN => do pure { st with raw.bytesV := some (← readLenSlice) }
  | 17, WIRE_LEN => do pure { st with raw.datasetV := some (← readLenSlice) }
  | 18, WIRE_LEN => do pure { st with raw.templateV := some (← readLenSlice) }
  | _, wire => do skip wire; pure st

/-- `build_metric_value`; its scalar arms cannot panic. -/
def buildMetricValue (decodeTemplate : Bytes → Outcome Template) (dt : DataType) (raw : RawValue) :
    Outcome MetricValue :=
  match dt with
  | .dataSet => do
    let slice ← ofResult (need raw.datasetV "DataSet expected dataset_value")
    pure (.dataSet (← decodeDataset slice))
  | .template => do
    let slice ← ofResult (need raw.templateV "Template expected template_value")
    pure (.template (← decodeTemplate slice))
  | dt =>
    if dt.isArray then do
      let slice ← ofResult (need raw.bytesV s!"{dt.debug} expected bytes_value")
      unpack dt slice
    else ofResult (Codec.buildMetricValue (fun _ => .error .recursionLimit) dt raw)

def templateBody (decodeMember : Bytes → Outcome Metric) (t : Template) :
    Nat → Nat → ReadM Template
  | 1, WIRE_LEN => do pure { t with version := some (← readString) }
  | 2, WIRE_LEN => do
    let slice ← readLenSlice
    pure { t with metrics := t.metrics ++ [← decodeMember slice] }
  | 3, WIRE_LEN => do
    let slice ← readLenSlice
    pure { t with parameters := t.parameters ++ [← decodeParameter slice] }
  | 4, WIRE_LEN => do pure { t with templateRef := some (← readString) }
  | 5, WIRE_VARINT => do pure { t with isDefinition := ← readFlag }
  | _, wire => do skip wire; pure t

mutual

def decodeMetric (bytes : Bytes) (types : Option AliasRegistry) (depth : Nat)
    (running : List Frame) : Outcome Metric := do
  let running ← enter .metric depth running
  if _h : depth > MAX_DEPTH then .error (.error .recursionLimit)
  else
    let st ← readFields (metricBody fun slice => do
      let _ ← add depth 1
      decodePropertyset slice (depth + 1) running) {} bytes
    let dt ← ofResult (metricDatatype types st)
    let value ←
      if st.isNull then pure (MetricValue.null dt)
      else
        buildMetricValue (fun slice => do
          let _ ← add depth 1
          decodeTemplate slice types (depth + 1) running) dt st.raw
    pure { name := st.name, «alias» := st.alias, timestamp := st.timestamp, value,
           isHistorical := st.isHistorical, isTransient := st.isTransient,
           metadata := st.metadata, properties := st.properties }
termination_by MAX_DEPTH + 1 - depth

def decodeTemplate (bytes : Bytes) (types : Option AliasRegistry) (depth : Nat)
    (running : List Frame) : Outcome Template := do
  let running ← enter .template depth running
  if _h : depth > MAX_DEPTH then .error (.error .recursionLimit)
  else
    readFields (templateBody fun slice => do
      let _ ← add depth 1
      decodeMetric slice types (depth + 1) running) {} bytes
termination_by MAX_DEPTH + 1 - depth

end

def payloadBody (decodeTop : Bytes → Outcome Metric) (p : Payload) : Nat → Nat → ReadM Payload
  | 1, WIRE_VARINT => do pure { p with timestamp := some (← readVarint) }
  | 2, WIRE_LEN => do
    let body ← readLenSlice
    pure { p with metrics := p.metrics ++ [← decodeTop body] }
  | 3, WIRE_VARINT => do pure { p with seq := some (← readVarint).toUInt8 }
  | 4, WIRE_LEN => do pure { p with uuid := some (← readString) }
  | 5, WIRE_LEN => do pure { p with body := some (← readLenSlice) }
  | _, wire => do skip wire; pure p

/-- `decode`, from a call that no decoder is running in. -/
def decode (bytes : Bytes) (types : Option AliasRegistry) : Outcome Payload :=
  readFields (payloadBody fun body => decodeMetric body types 0 []) {} bytes

end SparkplugB.Checked
