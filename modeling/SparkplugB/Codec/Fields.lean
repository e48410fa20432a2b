/-
# Messages as lists of fields

The bridge between the two hand-written halves of the codec.  Every decoder's `match` is a
reaction to a field number and the value its wire type announces (`metadataField`, `metricField`,
..; `metadataBody_eq` and its siblings), and every encoder writes a list of such fields
(`metadataFields`, `metricFields`, ..; `encodeMetadata_eq` and its siblings).  Decoding what was
encoded is then the fold of the reactions over the list, which is what `RoundTrip.lean` computes.
-/
import SparkplugB.Codec.Decode
import SparkplugB.Codec.Encode
import SparkplugB.Codec.Grammar

namespace SparkplugB.Codec

open Reader

/-! ## 1. Taking results apart -/

section Result

variable {α β : Type}

theorem ok_of_need {slot : Option α} {msg : String} {a : α} (h : need slot msg = .ok a) :
    slot = some a := by
  cases slot with
  | some b => rw [← Except.ok.inj h]
  | none => exact absurd h (by simp [need])

/-- The results of a list of successful computations. -/
theorem forall₂_of_mapM {g : α → Result β} :
    ∀ {xs : List α} {ys : List β}, xs.mapM g = .ok ys →
      List.Forall₂ (fun x y => g x = .ok y) xs ys
  | [], ys, h => by
    obtain rfl : [] = ys := Except.ok.inj h
    exact .nil
  | x :: xs, ys, h => by
    rw [List.mapM_cons] at h
    obtain ⟨y, hy, h⟩ := ok_of_bind h
    obtain ⟨rest, hrest, rfl⟩ := ok_of_map h
    exact .cons hy (forall₂_of_mapM hrest)

theorem map_of_mapM {g : α → Result β} {xs : List α} {ys : List β} (h : xs.mapM g = .ok ys) :
    xs.map g = ys.map Except.ok := by
  have hall := forall₂_of_mapM h
  rwa [← List.forall₂_eq_eq_eq, List.forall₂_map_left_iff, List.forall₂_map_right_iff]

end Result

/-! ## 2. A reader method as a wire value and a check -/

/-- The check of `read_string` on the slice it has read. -/
def text (b : Bytes) : Result String :=
  match fromUtf8 b with
  | some s => .ok s
  | none => .error .invalidUtf8

/-- The check of `read_type_code` on the varint it has read. -/
def typeCode (v : UInt64) : Result UInt32 :=
  if v.toNat < 2 ^ 32 then .ok v.toUInt32 else .error (.unknownDataType v.toUInt32)

@[simp] theorem text_asBytes (s : String) : text (asBytes s) = .ok s := by
  simp [text]

@[simp] theorem typeCode_toUInt64 (c : UInt32) : typeCode c.toUInt64 = .ok c := by
  have hlt : c.toUInt64.toNat < 2 ^ 32 := by
    rw [UInt32.toNat_toUInt64]
    exact c.toNat_lt
  rw [typeCode, if_pos hlt]
  simp

theorem readString_eq : readString = (do let b ← readLenSlice; text b) := by
  unfold readString text
  congr 1
  funext b
  cases fromUtf8 b <;> rfl

theorem readTypeCode_eq : readTypeCode = (do let v ← readVarint; typeCode v) := by
  unfold readTypeCode typeCode
  congr 1
  funext v
  split <;> rfl

theorem liftM_ok {α : Type} (a : α) : (liftM (Except.ok a : Result α) : ReadM α) = pure a := rfl

theorem liftM_error {α : Type} (e : SparkplugError) :
    (liftM (Except.error e : Result α) : ReadM α) = throw e := rfl

variable {σ : Type} (handle : σ → Nat → Raw → Result σ)

theorem byValue_varint (st : σ) (n : Nat) :
    byValue handle st n WIRE_VARINT = (do let v ← readVarint; handle st n (.varint v)) := by
  simp [byValue, readValue]

theorem byValue_i64 (st : σ) (n : Nat) :
    byValue handle st n WIRE_I64 = (do let v ← readFixed64; handle st n (.i64 v)) := by
  simp [byValue, readValue]

theorem byValue_len (st : σ) (n : Nat) :
    byValue handle st n WIRE_LEN = (do let b ← readLenSlice; handle st n (.len b)) := by
  simp [byValue, readValue]

theorem byValue_i32 (st : σ) (n : Nat) :
    byValue handle st n WIRE_I32 = (do let v ← readFixed32; handle st n (.i32 v)) := by
  simp [byValue, readValue]

/-- A reaction that ignores every value of a wire type skips the field. -/
theorem byValue_skip (st : σ) (n w : Nat)
    (h : ∀ raw : Raw, raw.wire = w → handle st n raw = .ok st) :
    byValue handle st n w = (do skip w; pure st) := by
  unfold byValue readValue skip
  split <;> simp_all [Raw.wire]
  all_goals rfl

/-! ## 3. What each decoder does with a field -/

def metadataField (md : MetaData) : Nat → Raw → Result MetaData
  | 1, .varint v => .ok { md with isMultiPart := some (v != 0) }
  | 2, .len b => do pure { md with contentType := some (← text b) }
  | 3, .varint v => .ok { md with size := some v }
  | 4, .varint v => .ok { md with seq := some v }
  | 5, .len b => do pure { md with fileName := some (← text b) }
  | 6, .len b => do pure { md with fileType := some (← text b) }
  | 7, .len b => do pure { md with md5 := some (← text b) }
  | 8, .len b => do pure { md with description := some (← text b) }
  | _, _ => .ok md

theorem metadataBody_eq : metadataBody = byValue metadataField := by
  funext st n w
  unfold metadataBody
  split
  case h_9 =>
    refine (byValue_skip metadataField st _ _ fun raw hraw => ?_).symm
    unfold metadataField
    split <;> simp_all [Raw.wire]
  all_goals
    simp only [byValue_varint, byValue_len, metadataField, readFlag, readString_eq, bind_assoc,
      pure_bind, liftM_ok, liftM_bind, liftM_pure]

def propertysetField (decodeValue : Bytes → Result PropertyValue) (st : RawPropertySet) :
    Nat → Raw → Result RawPropertySet
  | 1, .len b => do pure { st with keys := st.keys ++ [← text b] }
  | 2, .len b => do pure { st with values := st.values ++ [← decodeValue b] }
  | _, _ => .ok st

theorem propertysetBody_eq (decodeValue : Bytes → Result PropertyValue) :
    propertysetBody decodeValue = byValue (propertysetField decodeValue) := by
  funext st n w
  unfold propertysetBody
  split
  case h_3 =>
    refine (byValue_skip (propertysetField decodeValue) st _ _ fun raw hraw => ?_).symm
    unfold propertysetField
    split <;> simp_all [Raw.wire]
  all_goals
    simp only [byValue_len, propertysetField, readString_eq, bind_assoc, liftM_bind, liftM_pure]

def propertyvalueField (st : RawPropertyValue) : Nat → Raw → Result RawPropertyValue
  | 1, .varint v => do pure { st with typeCode := some (← typeCode v) }
  | 2, .varint v => .ok { st with isNull := v != 0 }
  | 3, .varint v => .ok { st with intV := some v.toUInt32 }
  | 4, .varint v => .ok { st with longV := some v }
  | 5, .i32 v => .ok { st with floatV := some ⟨v⟩ }
  | 6, .i64 v => .ok { st with doubleV := some ⟨v⟩ }
  | 7, .varint v => .ok { st with boolV := some (v != 0) }
  | 8, .len b => do pure { st with stringV := some (← text b) }
  | 9, .len b => .ok { st with psSlice := some b }
  | 10, .len b => .ok { st with pslSlice := some b }
  | _, _ => .ok st

theorem propertyvalueBody_eq : propertyvalueBody = byValue propertyvalueField := by
  funext st n w
  unfold propertyvalueBody
  split
  case h_11 =>
    refine (byValue_skip propertyvalueField st _ _ fun raw hraw => ?_).symm
    unfold propertyvalueField
    split <;> simp_all [Raw.wire]
  all_goals
    simp only [byValue_varint, byValue_i64, byValue_len, byValue_i32, propertyvalueField, readFlag,
      readUint32, readTypeCode_eq, readString_eq, bind_assoc, pure_bind, liftM_ok, liftM_bind,
      liftM_pure]

def propertysetlistField (decodeSet : Bytes → Result PropertySet) (st : List PropertySet) :
    Nat → Raw → Result (List PropertySet)
  | 1, .len b => do pure (st ++ [← decodeSet b])
  | _, _ => .ok st

theorem propertysetlistBody_eq (decodeSet : Bytes → Result PropertySet) :
    propertysetlistBody decodeSet = byValue (propertysetlistField decodeSet) := by
  funext st n w
  unfold propertysetlistBody
  split
  case h_2 =>
    refine (byValue_skip (propertysetlistField decodeSet) st _ _ fun raw hraw => ?_).symm
    unfold propertysetlistField
    split <;> simp_all [Raw.wire]
  all_goals
    simp only [byValue_len, propertysetlistField, liftM_bind, liftM_pure]

def datasetvalueField (st : Slots) : Nat → Raw → Result Slots
  | 1, .varint v => .ok { st with intV := some v.toUInt32 }
  | 2, .varint v => .ok { st with longV := some v }
  | 3, .i32 v => .ok { st with floatV := some ⟨v⟩ }
  | 4, .i64 v => .ok { st with doubleV := some ⟨v⟩ }
  | 5, .varint v => .ok { st with boolV := some (v != 0) }
  | 6, .len b => do pure { st with stringV := some (← text b) }
  | _, _ => .ok st

theorem datasetvalueBody_eq : datasetvalueBody = byValue datasetvalueField := by
  funext st n w
  unfold datasetvalueBody
  split
  case h_7 =>
    refine (byValue_skip datasetvalueField st _ _ fun raw hraw => ?_).symm
    unfold datasetvalueField
    split <;> simp_all [Raw.wire]
  all_goals
    simp only [byValue_varint, byValue_i64, byValue_len, byValue_i32, datasetvalueField, readFlag,
      readUint32, readString_eq, bind_assoc, pure_bind, liftM_ok, liftM_bind, liftM_pure]

def rowField (types : List DataType) (cells : List DataSetValue) :
    Nat → Raw → Result (List DataSetValue)
  | 1, .len b =>
    match types[cells.length]? with
    | some dt => do pure (cells ++ [← decodeDatasetvalue b dt])
    | none => .error (.dataSetShape "row wider than column types")
  | _, _ => .ok cells

theorem rowBody_eq (types : List DataType) : rowBody types = byValue (rowField types) := by
  funext st n w
  unfold rowBody
  split
  case h_2 =>
    refine (byValue_skip (rowField types) st _ _ fun raw hraw => ?_).symm
    unfold rowField
    split <;> simp_all [Raw.wire]
  case h_1 =>
    simp only [byValue_len, rowField]
    cases types[st.length]? <;> simp only [liftM_bind, liftM_pure, liftM_error]

def datasetField (st : RawDataSet) : Nat → Raw → Result RawDataSet
  | 2, .len b => do pure { st with columns := st.columns ++ [← text b] }
  | 3, .varint v => do pure { st with typeCodes := st.typeCodes ++ [← typeCode v] }
  | 3, .len b => do pure { st with typeCodes := ← packedTypeCodes st.typeCodes b }
  | 4, .len b => .ok { st with rowSlices := st.rowSlices ++ [b] }
  | _, _ => .ok st

theorem datasetBody_eq : datasetBody = byValue datasetField := by
  funext st n w
  unfold datasetBody
  split
  case h_6 =>
    refine (byValue_skip datasetField st _ _ fun raw hraw => ?_).symm
    unfold datasetField
    split <;> simp_all [Raw.wire]
  all_goals
    simp only [byValue_varint, byValue_len, datasetField, readTypeCode_eq, readString_eq,
      bind_assoc, liftM_ok, liftM_bind, liftM_pure]

def parameterField (st : RawParameter) : Nat → Raw → Result RawParameter
  | 1, .len b => do pure { st with name := some (← text b) }
  | 2, .varint v => do pure { st with typeCode := some (← typeCode v) }
  | 3, .varint v => .ok { st with intV := some v.toUInt32 }
  | 4, .varint v => .ok { st with longV := some v }
  | 5, .i32 v => .ok { st with floatV := some ⟨v⟩ }
  | 6, .i64 v => .ok { st with doubleV := some ⟨v⟩ }
  | 7, .varint v => .ok { st with boolV := some (v != 0) }
  | 8, .len b => do pure { st with stringV := some (← text b) }
  | _, _ => .ok st

theorem parameterBody_eq : parameterBody = byValue parameterField := by
  funext st n w
  unfold parameterBody
  split
  case h_9 =>
    refine (byValue_skip parameterField st _ _ fun raw hraw => ?_).symm
    unfold parameterField
    split <;> simp_all [Raw.wire]
  all_goals
    simp only [byValue_varint, byValue_i64, byValue_len, byValue_i32, parameterField, readFlag,
      readUint32, readTypeCode_eq, readString_eq, bind_assoc, pure_bind, liftM_ok, liftM_bind,
      liftM_pure]

def metricField (decodeProps : Bytes → Result PropertySet) (st : RawMetric) :
    Nat → Raw → Result RawMetric
  | 1, .len b => do pure { st with name := some (← text b) }
  | 2, .varint v => .ok { st with «alias» := some v }
  | 3, .varint v => .ok { st with timestamp := some v }
  | 4, .varint v => do pure { st with datatype := some (← typeCode v) }
  | 5, .varint v => .ok { st with isHistorical := some (v != 0) }
  | 6, .varint v => .ok { st with isTransient := some (v != 0) }
  | 7, .varint v => .ok { st with isNull := v != 0 }
  | 8, .len b => do pure { st with metadata := some (← decodeMetadata b) }
  | 9, .len b => do pure { st with properties := some (← decodeProps b) }
  | 10, .varint v => .ok { st with raw.intV := some v.toUInt32 }
  | 11, .varint v => .ok { st with raw.longV := some v }
  | 12, .i32 v => .ok { st with raw.floatV := some ⟨v⟩ }
  | 13, .i64 v => .ok { st with raw.doubleV := some ⟨v⟩ }
  | 14, .varint v => .ok { st with raw.boolV := some (v != 0) }
  | 15, .len b => do pure { st with raw.stringV := some (← text b) }
  | 16, .len b => .ok { st with raw.bytesV := some b }
  | 17, .len b => .ok { st with raw.datasetV := some b }
  | 18, .len b => .ok { st with raw.templateV := some b }
  | _, _ => .ok st

theorem metricBody_eq (decodeProps : Bytes → Result PropertySet) :
    metricBody decodeProps = byValue (metricField decodeProps) := by
  funext st n w
  unfold metricBody
  split
  case h_19 =>
    refine (byValue_skip (metricField decodeProps) st _ _ fun raw hraw => ?_).symm
    unfold metricField
    split <;> simp_all [Raw.wire]
  all_goals
    simp only [byValue_varint, byValue_i64, byValue_len, byValue_i32, metricField, readFlag,
      readUint32, readBytes, readTypeCode_eq, readString_eq, bind_assoc, pure_bind, liftM_ok,
      liftM_bind, liftM_pure]

def templateField (decodeMember : Bytes → Result Metric) (t : Template) :
    Nat → Raw → Result Template
  | 1, .len b => do pure { t with version := some (← text b) }
  | 2, .len b => do pure { t with metrics := t.metrics ++ [← decodeMember b] }
  | 3, .len b => do pure { t with parameters := t.parameters ++ [← decodeParameter b] }
  | 4, .len b => do pure { t with templateRef := some (← text b) }
  | 5, .varint v => .ok { t with isDefinition := v != 0 }
  | _, _ => .ok t

theorem templateBody_eq (decodeMember : Bytes → Result Metric) :
    templateBody decodeMember = byValue (templateField decodeMember) := by
  funext st n w
  unfold templateBody
  split
  case h_6 =>
    refine (byValue_skip (templateField decodeMember) st _ _ fun raw hraw => ?_).symm
    unfold templateField
    split <;> simp_all [Raw.wire]
  all_goals
    simp only [byValue_varint, byValue_len, templateField, readFlag, readString_eq, bind_assoc,
      pure_bind, liftM_ok, liftM_bind, liftM_pure]

def payloadField (decodeTop : Bytes → Result Metric) (p : Payload) : Nat → Raw → Result Payload
  | 1, .varint v => .ok { p with timestamp := some v }
  | 2, .len b => do pure { p with metrics := p.metrics ++ [← decodeTop b] }
  | 3, .varint v => .ok { p with seq := some v.toUInt8 }
  | 4, .len b => do pure { p with uuid := some (← text b) }
  | 5, .len b => .ok { p with body := some b }
  | _, _ => .ok p

theorem payloadBody_eq (decodeTop : Bytes → Result Metric) :
    payloadBody decodeTop = byValue (payloadField decodeTop) := by
  funext st n w
  unfold payloadBody
  split
  case h_6 =>
    refine (byValue_skip (payloadField decodeTop) st _ _ fun raw hraw => ?_).symm
    unfold payloadField
    split <;> simp_all [Raw.wire]
  all_goals
    simp only [byValue_varint, byValue_len, payloadField, readBytes, readString_eq, bind_assoc,
      liftM_ok, liftM_bind, liftM_pure]

/-! ## 4. What each encoder writes

Each writer method appends one field. -/

section Writer

open Writer

theorem uint32Field_eq (n : Nat) (v : UInt32) :
    uint32Field n v = serialize [⟨n, .varint v.toUInt64⟩] := by
  simp [uint32Field, Field.bytes, Raw.wire, Raw.payload]

theorem uint64Field_eq (n : Nat) (v : UInt64) : uint64Field n v = serialize [⟨n, .varint v⟩] := by
  simp [uint64Field, Field.bytes, Raw.wire, Raw.payload]

theorem boolField_eq (n : Nat) (v : Bool) :
    boolField n v = serialize [⟨n, .varint v.toUInt64⟩] := by
  simp [boolField, Field.bytes, Raw.wire, Raw.payload]

theorem floatField_eq (n : Nat) (v : UInt32) : floatField n v = serialize [⟨n, .i32 v⟩] := by
  simp [floatField, Field.bytes, Raw.wire, Raw.payload]

theorem doubleField_eq (n : Nat) (v : UInt64) : doubleField n v = serialize [⟨n, .i64 v⟩] := by
  simp [doubleField, Field.bytes, Raw.wire, Raw.payload]

theorem bytesField_eq (n : Nat) (b : Bytes) : bytesField n b = serialize [⟨n, .len b⟩] := by
  simp [bytesField, Field.bytes, Raw.wire, Raw.payload]

theorem stringField_eq (n : Nat) (s : String) :
    stringField n s = serialize [⟨n, .len (asBytes s)⟩] :=
  bytesField_eq n (asBytes s)

theorem messageField_eq (n : Nat) (b : Bytes) : messageField n b = serialize [⟨n, .len b⟩] :=
  bytesField_eq n b

end Writer

/-- An optional field. -/
def field? {α : Type} (n : Nat) (raw : α → Raw) (v : Option α) : List Field :=
  v.toList.map fun a => ⟨n, raw a⟩

/-- A repeated field. -/
def fieldEach {α : Type} (n : Nat) (raw : α → Raw) (vs : List α) : List Field :=
  vs.map fun a => ⟨n, raw a⟩

theorem optional_eq {α : Type} (n : Nat) (raw : α → Raw) (write : α → Bytes)
    (h : ∀ a, write a = serialize [⟨n, raw a⟩]) (v : Option α) :
    optional v write = serialize (field? n raw v) := by
  cases v <;> simp [optional, field?, h]

theorem flatMap_eq {α : Type} (n : Nat) (raw : α → Raw) (write : α → Bytes)
    (h : ∀ a, write a = serialize [⟨n, raw a⟩]) (vs : List α) :
    vs.flatMap write = serialize (fieldEach n raw vs) := by
  induction vs with
  | nil => rfl
  | cons a vs ih =>
    rw [List.flatMap_cons, ih, h]
    simp [fieldEach]

def metadataFields (md : MetaData) : List Field :=
  field? 1 Raw.flag md.isMultiPart ++ field? 2 Raw.str md.contentType ++
    field? 3 Raw.varint md.size ++ field? 4 Raw.varint md.seq ++ field? 5 Raw.str md.fileName ++
    field? 6 Raw.str md.fileType ++ field? 7 Raw.str md.md5 ++ field? 8 Raw.str md.description

theorem encodeMetadata_eq (md : MetaData) : encodeMetadata md = serialize (metadataFields md) := by
  simp only [encodeMetadata, metadataFields, serialize_append,
    optional_eq _ Raw.flag _ (boolField_eq _), optional_eq _ Raw.str _ (stringField_eq _),
    optional_eq _ Raw.varint _ (uint64Field_eq _)]

def propertysetFields (ps : PropertySet) : List Field :=
  fieldEach 1 (fun e => Raw.str e.1) ps.entries ++
    fieldEach 2 (fun e => Raw.len (encodePropertyvalue e.2)) ps.entries

theorem encodePropertyvalues_eq (entries : List (String × PropertyValue)) :
    encodePropertyvalues entries =
      serialize (fieldEach 2 (fun e => Raw.len (encodePropertyvalue e.2)) entries) := by
  induction entries with
  | nil => simp [encodePropertyvalues, fieldEach]
  | cons e rest ih =>
    rw [encodePropertyvalues, ih, messageField_eq]
    simp [fieldEach]

theorem encodePropertyset_eq (ps : PropertySet) :
    encodePropertyset ps = serialize (propertysetFields ps) := by
  obtain ⟨entries⟩ := ps
  rw [encodePropertyset, encodePropertyvalues_eq, propertysetFields, serialize_append,
    flatMap_eq 1 (fun e => Raw.str e.1) _ fun e => stringField_eq 1 e.1]

/-- The field that carries the value, behind the type code. -/
def propertyvalueFields : PropertyValue → List Field
  | .null _ => [⟨2, .flag true⟩]
  | .int8 v => [⟨3, .uint32 v.toInt32.toUInt32⟩]
  | .int16 v => [⟨3, .uint32 v.toInt32.toUInt32⟩]
  | .int32 v => [⟨3, .uint32 v.toUInt32⟩]
  | .uint8 v => [⟨3, .uint32 v.toUInt32⟩]
  | .uint16 v => [⟨3, .uint32 v.toUInt32⟩]
  | .uint32 v => [⟨3, .uint32 v⟩]
  | .int64 v => [⟨4, .varint v.toUInt64⟩]
  | .uint64 v => [⟨4, .varint v⟩]
  | .dateTime v => [⟨4, .varint v.toUInt64⟩]
  | .float v => [⟨5, .i32 v.bits⟩]
  | .double v => [⟨6, .i64 v.bits⟩]
  | .boolean v => [⟨7, .flag v⟩]
  | .string s => [⟨8, .str s⟩]
  | .text s => [⟨8, .str s⟩]
  | .propertySet ps => [⟨9, .len (encodePropertyset ps)⟩]
  | .propertySetList list => [⟨10, .len (encodePropertysetlist list)⟩]

theorem encodePropertyvalue_eq (v : PropertyValue) :
    encodePropertyvalue v = serialize (⟨1, .uint32 v.datatype.asU32⟩ :: propertyvalueFields v) := by
  cases v <;>
    simp [encodePropertyvalue, propertyvalueFields, PropertyValue.datatype, uint32Field_eq,
      uint64Field_eq, boolField_eq, floatField_eq, doubleField_eq, stringField_eq, messageField_eq,
      Raw.uint32, Raw.flag, Raw.str]

def propertysetlistFields (list : PropertySetList) : List Field :=
  fieldEach 1 (fun set => Raw.len (encodePropertyset set)) list.sets

theorem encodePropertysets_eq (sets : List PropertySet) :
    encodePropertysets sets =
      serialize (fieldEach 1 (fun set => Raw.len (encodePropertyset set)) sets) := by
  induction sets with
  | nil => simp [encodePropertysets, fieldEach]
  | cons set rest ih =>
    rw [encodePropertysets, ih, messageField_eq]
    simp [fieldEach]

theorem encodePropertysetlist_eq (list : PropertySetList) :
    encodePropertysetlist list = serialize (propertysetlistFields list) := by
  obtain ⟨sets⟩ := list
  rw [encodePropertysetlist, encodePropertysets_eq, propertysetlistFields]

def datasetvalueFields : DataSetValue → List Field
  | .null => []
  | .int8 v => [⟨1, .uint32 v.toInt32.toUInt32⟩]
  | .int16 v => [⟨1, .uint32 v.toInt32.toUInt32⟩]
  | .int32 v => [⟨1, .uint32 v.toUInt32⟩]
  | .uint8 v => [⟨1, .uint32 v.toUInt32⟩]
  | .uint16 v => [⟨1, .uint32 v.toUInt32⟩]
  | .uint32 v => [⟨1, .uint32 v⟩]
  | .int64 v => [⟨2, .varint v.toUInt64⟩]
  | .uint64 v => [⟨2, .varint v⟩]
  | .dateTime v => [⟨2, .varint v.toUInt64⟩]
  | .float v => [⟨3, .i32 v.bits⟩]
  | .double v => [⟨4, .i64 v.bits⟩]
  | .boolean v => [⟨5, .flag v⟩]
  | .string s => [⟨6, .str s⟩]
  | .text s => [⟨6, .str s⟩]

theorem encodeDatasetvalue_eq (v : DataSetValue) :
    encodeDatasetvalue v = serialize (datasetvalueFields v) := by
  cases v <;>
    simp [encodeDatasetvalue, datasetvalueFields, uint32Field_eq, uint64Field_eq, boolField_eq,
      floatField_eq, doubleField_eq, stringField_eq, Raw.uint32, Raw.flag, Raw.str]

def rowFields (row : List DataSetValue) : List Field :=
  fieldEach 1 (fun cell => Raw.len (encodeDatasetvalue cell)) row

theorem encodeRow_eq (row : List DataSetValue) : encodeRow row = serialize (rowFields row) :=
  flatMap_eq 1 (fun cell => Raw.len (encodeDatasetvalue cell)) _
    (fun cell => messageField_eq 1 (encodeDatasetvalue cell)) row

def datasetFields (ds : DataSet) : List Field :=
  ⟨1, .varint ds.numOfColumns⟩ :: (fieldEach 2 Raw.str ds.columns ++
    fieldEach 3 (fun ty => Raw.uint32 ty.asU32) ds.types ++
    fieldEach 4 (fun row => Raw.len (encodeRow row)) ds.rows)

theorem encodeDataset_eq (ds : DataSet) : encodeDataset ds = serialize (datasetFields ds) := by
  simp only [encodeDataset, datasetFields, uint64Field_eq, serialize_cons, serialize_nil,
    serialize_append, List.append_nil, List.append_assoc,
    flatMap_eq 2 Raw.str _ (stringField_eq 2),
    flatMap_eq 3 (fun ty : DataType => Raw.uint32 ty.asU32) _ fun ty => uint32Field_eq 3 ty.asU32,
    flatMap_eq 4 (fun row => Raw.len (encodeRow row)) _ fun row => messageField_eq 4 (encodeRow row)]

def parameterValueField : ParameterValue → Field
  | .int8 v => ⟨3, .uint32 v.toInt32.toUInt32⟩
  | .int16 v => ⟨3, .uint32 v.toInt32.toUInt32⟩
  | .int32 v => ⟨3, .uint32 v.toUInt32⟩
  | .uint8 v => ⟨3, .uint32 v.toUInt32⟩
  | .uint16 v => ⟨3, .uint32 v.toUInt32⟩
  | .uint32 v => ⟨3, .uint32 v⟩
  | .int64 v => ⟨4, .varint v.toUInt64⟩
  | .uint64 v => ⟨4, .varint v⟩
  | .dateTime v => ⟨4, .varint v.toUInt64⟩
  | .float v => ⟨5, .i32 v.bits⟩
  | .double v => ⟨6, .i64 v.bits⟩
  | .boolean v => ⟨7, .flag v⟩
  | .string s => ⟨8, .str s⟩
  | .text s => ⟨8, .str s⟩

theorem encodeParameterValue_eq (v : ParameterValue) :
    encodeParameterValue v = serialize [parameterValueField v] := by
  cases v <;>
    simp [encodeParameterValue, parameterValueField, uint32Field_eq, uint64Field_eq, boolField_eq,
      floatField_eq, doubleField_eq, stringField_eq, Raw.uint32, Raw.flag, Raw.str]

def parameterFields (p : Parameter) : List Field :=
  ⟨1, .str p.name⟩ :: ⟨2, .uint32 p.datatype.asU32⟩ :: p.value.toList.map parameterValueField

theorem encodeParameter_eq (p : Parameter) : encodeParameter p = serialize (parameterFields p) := by
  cases hv : p.value <;>
    simp [encodeParameter, parameterFields, hv, optional, encodeParameterValue_eq, stringField_eq,
      uint32Field_eq, Raw.uint32, Raw.str]

/-- The field that carries the value of a metric, if it is not null. -/
def metricValueFields (strip : Bool) : MetricValue → List Field
  | .int8 v => [⟨10, .uint32 v.toInt32.toUInt32⟩]
  | .int16 v => [⟨10, .uint32 v.toInt32.toUInt32⟩]
  | .int32 v => [⟨10, .uint32 v.toUInt32⟩]
  | .uint8 v => [⟨10, .uint32 v.toUInt32⟩]
  | .uint16 v => [⟨10, .uint32 v.toUInt32⟩]
  | .uint32 v => [⟨10, .uint32 v⟩]
  | .int64 v => [⟨11, .varint v.toUInt64⟩]
  | .uint64 v => [⟨11, .varint v⟩]
  | .dateTime v => [⟨11, .varint v.toUInt64⟩]
  | .float v => [⟨12, .i32 v.bits⟩]
  | .double v => [⟨13, .i64 v.bits⟩]
  | .boolean v => [⟨14, .flag v⟩]
  | .string s => [⟨15, .str s⟩]
  | .text s => [⟨15, .str s⟩]
  | .uuid s => [⟨15, .str s⟩]
  | .bytes b => [⟨16, .len b⟩]
  | .file b => [⟨16, .len b⟩]
  | .dataSet ds => [⟨17, .len (encodeDataset ds)⟩]
  | .template t => [⟨18, .len (encodeTemplate strip t)⟩]
  | .null _ => []
  | array => [⟨16, .len (Arrays.pack array)⟩]

theorem encodeMetricValue_eq (strip : Bool) (v : MetricValue) :
    encodeMetricValue strip v = serialize (metricValueFields strip v) := by
  cases v <;>
    simp [encodeMetricValue, metricValueFields, uint32Field_eq, uint64Field_eq, boolField_eq,
      floatField_eq, doubleField_eq, stringField_eq, bytesField_eq, messageField_eq, Raw.uint32,
      Raw.flag, Raw.str]

def metricFields (strip : Bool) (m : Metric) : List Field :=
  field? 1 Raw.str m.name ++ field? 2 Raw.varint m.alias ++ field? 3 Raw.varint m.timestamp ++
    field? 4 (fun dt => Raw.uint32 (DataType.asU32 dt))
      (if strip then none else some m.value.datatype) ++
    field? 5 Raw.flag m.isHistorical ++ field? 6 Raw.flag m.isTransient ++
    field? 7 Raw.flag (if m.value.isNull then some true else none) ++
    field? 8 (fun md => Raw.len (encodeMetadata md)) m.metadata ++
    field? 9 (fun props => Raw.len (encodePropertyset props)) m.properties ++
    metricValueFields strip m.value

theorem encodeMetric_eq (strip : Bool) (m : Metric) :
    encodeMetric strip m = serialize (metricFields strip m) := by
  have hdt : (if strip then [] else Writer.uint32Field 4 m.value.datatype.asU32) =
      serialize (field? 4 (fun dt => Raw.uint32 (DataType.asU32 dt))
        (if strip then none else some m.value.datatype)) := by
    cases strip <;> simp [field?, uint32Field_eq, Raw.uint32]
  have hnull : (if m.value.isNull then Writer.boolField 7 true else []) =
      serialize (field? 7 Raw.flag (if m.value.isNull then some true else none)) := by
    cases m.value.isNull <;> simp [field?, boolField_eq, Raw.flag]
  have hvalue : (if m.value.isNull then [] else encodeMetricValue strip m.value) =
      serialize (metricValueFields strip m.value) := by
    rw [encodeMetricValue_eq]
    cases m.value <;> rfl
  obtain ⟨name, alias?, timestamp, value, isHistorical, isTransient, metadata, properties⟩ := m
  simp only [encodeMetric, metricFields, serialize_append,
    optional_eq _ Raw.flag _ (boolField_eq _), optional_eq _ Raw.str _ (stringField_eq _),
    optional_eq _ Raw.varint _ (uint64Field_eq _),
    optional_eq 8 (fun md => Raw.len (encodeMetadata md)) _
      fun md => messageField_eq 8 (encodeMetadata md),
    optional_eq 9 (fun props => Raw.len (encodePropertyset props)) _
      fun props => messageField_eq 9 (encodePropertyset props)]
  rw [← hdt, ← hnull, ← hvalue]

theorem encodeMetrics_eq (strip : Bool) (metrics : List Metric) :
    encodeMetrics strip metrics =
      serialize (fieldEach 2 (fun m => Raw.len (encodeMetric strip m)) metrics) := by
  induction metrics with
  | nil => simp [encodeMetrics, fieldEach]
  | cons m rest ih =>
    rw [encodeMetrics, ih, messageField_eq]
    simp [fieldEach]

def templateFields (strip : Bool) (t : Template) : List Field :=
  field? 1 Raw.str t.version ++ fieldEach 2 (fun m => Raw.len (encodeMetric strip m)) t.metrics ++
    fieldEach 3 (fun p => Raw.len (encodeParameter p)) t.parameters ++
    field? 4 Raw.str t.templateRef ++ [⟨5, .flag t.isDefinition⟩]

theorem encodeTemplate_eq (strip : Bool) (t : Template) :
    encodeTemplate strip t = serialize (templateFields strip t) := by
  obtain ⟨version, templateRef, isDefinition, metrics, parameters⟩ := t
  simp only [encodeTemplate, templateFields, encodeMetrics_eq, serialize_append, boolField_eq,
    Raw.flag, optional_eq _ Raw.str _ (stringField_eq _),
    flatMap_eq 3 (fun p => Raw.len (encodeParameter p)) _
      fun p => messageField_eq 3 (encodeParameter p)]

def payloadFields (strip : Bool) (p : Payload) : List Field :=
  field? 1 Raw.varint p.timestamp ++
    fieldEach 2 (fun m => Raw.len (encodeMetric strip m)) p.metrics ++
    field? 3 (fun seq => Raw.varint (UInt8.toUInt64 seq)) p.seq ++ field? 4 Raw.str p.uuid ++
    field? 5 Raw.len p.body

theorem encodePayload_eq (strip : Bool) (p : Payload) :
    encodePayload p strip = serialize (payloadFields strip p) := by
  simp only [encodePayload, payloadFields, encodeMetrics_eq, serialize_append,
    optional_eq _ Raw.str _ (stringField_eq _), optional_eq _ Raw.varint _ (uint64Field_eq _),
    optional_eq _ Raw.len _ (bytesField_eq _),
    optional_eq 3 (fun seq => Raw.varint (UInt8.toUInt64 seq)) _
      fun seq => uint64Field_eq 3 (UInt8.toUInt64 seq)]

end SparkplugB.Codec
