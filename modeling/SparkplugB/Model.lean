/-
# The Sparkplug B payload object model

`src/model.rs` and `src/value.rs`.  A `MetricValue` fuses the datatype with its payload, and a
`Template` holds metrics again, so the two files are one recursive definition.  The structures
that take part in the recursion (`Metric`, `Template`, `PropertySet`, `PropertySetList`) are
written over the type of what they contain and closed afterwards by an abbreviation; this keeps
them structures, with the fields of the source.

An `f32` or `f64` is its bit pattern: the codec only moves the bits.  A `DataSet` carries the
checks of `DataSet::new` as a field, because its columns, types and rows are private in the
source and `DataSet::new` is the one way to build it.
-/
import SparkplugB.DataType

namespace SparkplugB

/-- `f32`, as `f32::to_bits` sees it. -/
structure F32 where
  bits : UInt32
  deriving DecidableEq, Repr

/-- `f64`, as `f64::to_bits` sees it. -/
structure F64 where
  bits : UInt64
  deriving DecidableEq, Repr

/-! ## 1. DataSets -/

/-- A single cell value inside a `DataSet` row; `null` encodes as an unset value oneof. -/
inductive DataSetValue where
  | int8 (v : Int8)
  | int16 (v : Int16)
  | int32 (v : Int32)
  | int64 (v : Int64)
  | uint8 (v : UInt8)
  | uint16 (v : UInt16)
  | uint32 (v : UInt32)
  | uint64 (v : UInt64)
  | float (v : F32)
  | double (v : F64)
  | boolean (v : Bool)
  | string (s : String)
  | text (s : String)
  | dateTime (v : Int64)
  | null
  deriving DecidableEq

/-- The datatype this cell declares, or `none` for `null`. -/
def DataSetValue.datatype : DataSetValue → Option DataType
  | int8 _ => some .int8
  | int16 _ => some .int16
  | int32 _ => some .int32
  | int64 _ => some .int64
  | uint8 _ => some .uint8
  | uint16 _ => some .uint16
  | uint32 _ => some .uint32
  | uint64 _ => some .uint64
  | float _ => some .float
  | double _ => some .double
  | boolean _ => some .boolean
  | string _ => some .string
  | text _ => some .text
  | dateTime _ => some .dateTime
  | null => none

namespace DataSet

/-- What `DataSet::new` checks: as many types as columns, basic column types, and in every row
one cell for each column, of the column's type unless it is null. -/
def Shape (columns : List String) (types : List DataType) (rows : List (List DataSetValue)) :
    Prop :=
  columns.length = types.length ∧ (∀ ty ∈ types, ty.isBasic = true) ∧
    ∀ row ∈ rows, row.length = columns.length ∧
      ∀ p ∈ row.zip types, ∀ cellTy, p.1.datatype = some cellTy → cellTy = p.2

end DataSet

/-- A column-oriented table value. -/
structure DataSet where
  columns : List String
  types : List DataType
  rows : List (List DataSetValue)
  shape : DataSet.Shape columns types rows
  deriving DecidableEq

namespace DataSet

/-- `num_of_columns` on the wire. -/
def numOfColumns (ds : DataSet) : UInt64 := UInt64.ofNat ds.columns.length

/-- The first loop of `DataSet::new`: every column type is a basic scalar. -/
def checkTypes : List DataType → Result Unit
  | [] => .ok ()
  | ty :: rest =>
    if ty.isBasic then checkTypes rest
    else .error (.dataSetShape s!"column type {ty.debug} is not a basic scalar type")

/-- The inner loop of `DataSet::new`: each non-null cell's type matches its column type. -/
def checkCells (i : Nat) : Nat → List (DataSetValue × DataType) → Result Unit
  | _, [] => .ok ()
  | col, (cell, colTy) :: rest =>
    match cell.datatype with
    | some cellTy =>
      if cellTy = colTy then checkCells i (col + 1) rest
      else .error (.dataSetShape
        s!"row {i} column {col}: cell type {cellTy.debug} does not match column type {colTy.debug}")
    | none => checkCells i (col + 1) rest

/-- The second loop of `DataSet::new`: the rows' widths and cells. -/
def checkRows (columns : List String) (types : List DataType) :
    Nat → List (List DataSetValue) → Result Unit
  | _, [] => .ok ()
  | i, row :: rest =>
    if row.length = columns.length then
      match checkCells i 0 (row.zip types) with
      | .ok () => checkRows columns types (i + 1) rest
      | .error e => .error e
    else .error (.dataSetShape
      s!"row {i} has {row.length} cells but there are {columns.length} columns")

/-- The checks of `DataSet::new`, in the source's order. -/
def check (columns : List String) (types : List DataType) (rows : List (List DataSetValue)) :
    Result Unit :=
  if columns.length ≠ types.length then
    .error (.dataSetShape s!"{columns.length} columns but {types.length} types")
  else
    match checkTypes types with
    | .ok () => checkRows columns types 0 rows
    | .error e => .error e

theorem checkTypes_ok_iff (types : List DataType) :
    checkTypes types = .ok () ↔ ∀ ty ∈ types, ty.isBasic = true := by
  induction types with
  | nil => simp [checkTypes]
  | cons ty rest ih =>
    simp only [checkTypes, List.forall_mem_cons]
    split
    · rename_i h; simp [ih, h]
    · rename_i h; simp [h]

theorem checkCells_ok_iff (i : Nat) (cells : List (DataSetValue × DataType)) (col : Nat) :
    checkCells i col cells = .ok () ↔
      ∀ p ∈ cells, ∀ cellTy, p.1.datatype = some cellTy → cellTy = p.2 := by
  induction cells generalizing col with
  | nil => simp [checkCells]
  | cons p rest ih =>
    obtain ⟨cell, colTy⟩ := p
    simp only [checkCells, List.forall_mem_cons]
    cases hd : cell.datatype with
    | none => simp [ih]
    | some cellTy =>
      by_cases h : cellTy = colTy
      · simp [h, ih]
      · simp [h]

theorem checkRows_ok_iff (columns : List String) (types : List DataType)
    (rows : List (List DataSetValue)) (i : Nat) :
    checkRows columns types i rows = .ok () ↔
      ∀ row ∈ rows, row.length = columns.length ∧
        ∀ p ∈ row.zip types, ∀ cellTy, p.1.datatype = some cellTy → cellTy = p.2 := by
  induction rows generalizing i with
  | nil => simp [checkRows]
  | cons row rest ih =>
    simp only [checkRows, List.forall_mem_cons]
    by_cases hlen : row.length = columns.length
    · have hcells := checkCells_ok_iff i (row.zip types) 0
      rw [if_pos hlen]
      cases hc : checkCells i 0 (row.zip types) with
      | ok u =>
        simp only [ih]
        exact ⟨fun h => ⟨⟨hlen, hcells.mp hc⟩, h⟩, fun h => h.2⟩
      | error e =>
        have hbad := mt hcells.mpr (by rw [hc]; simp)
        simp only [reduceCtorEq, false_iff, not_and]
        exact fun h _ => hbad h.2
    · simp [hlen]

/-- The checks pass exactly on the shapes `Shape` describes. -/
theorem check_ok_iff (columns : List String) (types : List DataType)
    (rows : List (List DataSetValue)) :
    check columns types rows = .ok () ↔ Shape columns types rows := by
  unfold check Shape
  by_cases hlen : columns.length = types.length
  · have htypes := checkTypes_ok_iff types
    simp only [hlen, ne_eq, not_true_eq_false, if_false, true_and]
    cases ht : checkTypes types with
    | ok u =>
      simp only [checkRows_ok_iff, hlen]
      exact ⟨fun h => ⟨htypes.mp ht, h⟩, fun h => h.2⟩
    | error e =>
      have hbad := mt htypes.mpr (by rw [ht]; simp)
      simp [hbad]
  · simp [hlen]

/-- Build and validate a DataSet. -/
def new (columns : List String) (types : List DataType) (rows : List (List DataSetValue)) :
    Result DataSet :=
  match h : check columns types rows with
  | .ok () => .ok ⟨columns, types, rows, (check_ok_iff columns types rows).mp h⟩
  | .error e => .error e

/-- `DataSet::new` accepts the parts of every DataSet, and rebuilds it. -/
theorem new_self (ds : DataSet) : new ds.columns ds.types ds.rows = .ok ds := by
  have h := (check_ok_iff ds.columns ds.types ds.rows).mpr ds.shape
  unfold new
  split
  · rfl
  · rename_i e he; rw [he] at h; exact absurd h (by simp)

end DataSet

/-! ## 2. Properties -/

/-- A set of named properties, in wire order, over the type of its values. -/
structure PropertySetOf (V : Type) where
  entries : List (String × V)

/-- A list of property sets, over the type of their values. -/
structure PropertySetListOf (V : Type) where
  sets : List (PropertySetOf V)

/-- A value inside a `PropertySet`: basic scalars plus recursive property sets. -/
inductive PropertyValue where
  | int8 (v : Int8)
  | int16 (v : Int16)
  | int32 (v : Int32)
  | int64 (v : Int64)
  | uint8 (v : UInt8)
  | uint16 (v : UInt16)
  | uint32 (v : UInt32)
  | uint64 (v : UInt64)
  | float (v : F32)
  | double (v : F64)
  | boolean (v : Bool)
  | string (s : String)
  | text (s : String)
  | dateTime (v : Int64)
  | propertySet (ps : PropertySetOf PropertyValue)
  | propertySetList (list : PropertySetListOf PropertyValue)
  | null (dt : DataType)

abbrev PropertySet := PropertySetOf PropertyValue

abbrev PropertySetList := PropertySetListOf PropertyValue

/-- The datatype this property value declares on the wire. -/
def PropertyValue.datatype : PropertyValue → DataType
  | int8 _ => .int8
  | int16 _ => .int16
  | int32 _ => .int32
  | int64 _ => .int64
  | uint8 _ => .uint8
  | uint16 _ => .uint16
  | uint32 _ => .uint32
  | uint64 _ => .uint64
  | float _ => .float
  | double _ => .double
  | boolean _ => .boolean
  | string _ => .string
  | text _ => .text
  | dateTime _ => .dateTime
  | propertySet _ => .propertySet
  | propertySetList _ => .propertySetList
  | null dt => dt

/-! ## 3. Template parameters -/

/-- A template parameter value: basic scalar types only. -/
inductive ParameterValue where
  | int8 (v : Int8)
  | int16 (v : Int16)
  | int32 (v : Int32)
  | int64 (v : Int64)
  | uint8 (v : UInt8)
  | uint16 (v : UInt16)
  | uint32 (v : UInt32)
  | uint64 (v : UInt64)
  | float (v : F32)
  | double (v : F64)
  | boolean (v : Bool)
  | string (s : String)
  | text (s : String)
  | dateTime (v : Int64)
  deriving DecidableEq

/-- The datatype this parameter value declares on the wire. -/
def ParameterValue.datatype : ParameterValue → DataType
  | int8 _ => .int8
  | int16 _ => .int16
  | int32 _ => .int32
  | int64 _ => .int64
  | uint8 _ => .uint8
  | uint16 _ => .uint16
  | uint32 _ => .uint32
  | uint64 _ => .uint64
  | float _ => .float
  | double _ => .double
  | boolean _ => .boolean
  | string _ => .string
  | text _ => .text
  | dateTime _ => .dateTime

/-- A named, typed template parameter; a definition may omit the value. -/
structure Parameter where
  name : String
  datatype : DataType
  value : Option ParameterValue
  deriving DecidableEq

/-! ## 4. Metrics, templates and payloads -/

/-- Optional per-metric metadata. -/
structure MetaData where
  isMultiPart : Option Bool := none
  contentType : Option String := none
  size : Option UInt64 := none
  seq : Option UInt64 := none
  fileName : Option String := none
  fileType : Option String := none
  md5 : Option String := none
  description : Option String := none
  deriving DecidableEq

/-- A single named or aliased typed value, over the type of the value. -/
structure MetricOf (V : Type) where
  name : Option String
  «alias» : Option UInt64
  timestamp : Option UInt64
  value : V
  isHistorical : Option Bool
  isTransient : Option Bool
  metadata : Option MetaData
  properties : Option PropertySet

/-- A user-defined type definition or instance, over the type of its member metrics. -/
structure TemplateOf (M : Type) where
  version : Option String := none
  templateRef : Option String := none
  isDefinition : Bool := false
  metrics : List M := []
  parameters : List Parameter := []

/-- The value carried by a `Metric`.  The active variant determines the datatype on the wire,
except for `null`, which carries its declared datatype. -/
inductive MetricValue where
  | int8 (v : Int8)
  | int16 (v : Int16)
  | int32 (v : Int32)
  | int64 (v : Int64)
  | uint8 (v : UInt8)
  | uint16 (v : UInt16)
  | uint32 (v : UInt32)
  | uint64 (v : UInt64)
  | float (v : F32)
  | double (v : F64)
  | boolean (v : Bool)
  | string (s : String)
  | text (s : String)
  | uuid (s : String)
  | dateTime (v : Int64)
  | bytes (b : Bytes)
  | file (b : Bytes)
  | dataSet (ds : DataSet)
  | template (t : TemplateOf (MetricOf MetricValue))
  | int8Array (v : List Int8)
  | int16Array (v : List Int16)
  | int32Array (v : List Int32)
  | int64Array (v : List Int64)
  | uint8Array (v : List UInt8)
  | uint16Array (v : List UInt16)
  | uint32Array (v : List UInt32)
  | uint64Array (v : List UInt64)
  | floatArray (v : List F32)
  | doubleArray (v : List F64)
  | booleanArray (v : List Bool)
  | stringArray (v : List String)
  | dateTimeArray (v : List Int64)
  | null (dt : DataType)

abbrev Metric := MetricOf MetricValue

abbrev Template := TemplateOf Metric

namespace MetricValue

/-- The datatype this value declares on the wire. -/
def datatype : MetricValue → DataType
  | int8 _ => .int8
  | int16 _ => .int16
  | int32 _ => .int32
  | int64 _ => .int64
  | uint8 _ => .uint8
  | uint16 _ => .uint16
  | uint32 _ => .uint32
  | uint64 _ => .uint64
  | float _ => .float
  | double _ => .double
  | boolean _ => .boolean
  | string _ => .string
  | text _ => .text
  | uuid _ => .uuid
  | dateTime _ => .dateTime
  | bytes _ => .bytes
  | file _ => .file
  | dataSet _ => .dataSet
  | template _ => .template
  | int8Array _ => .int8Array
  | int16Array _ => .int16Array
  | int32Array _ => .int32Array
  | int64Array _ => .int64Array
  | uint8Array _ => .uint8Array
  | uint16Array _ => .uint16Array
  | uint32Array _ => .uint32Array
  | uint64Array _ => .uint64Array
  | floatArray _ => .floatArray
  | doubleArray _ => .doubleArray
  | booleanArray _ => .booleanArray
  | stringArray _ => .stringArray
  | dateTimeArray _ => .dateTimeArray
  | null dt => dt

/-- Whether this is a null value (`is_null = true` on the wire). -/
def isNull : MetricValue → Bool
  | null _ => true
  | _ => false

end MetricValue

/-- `Metric::new`: a named metric with the given value and no other fields set. -/
def Metric.new (name : String) (value : MetricValue) : Metric :=
  { name := some name, «alias» := none, timestamp := none, value, isHistorical := none,
    isTransient := none, metadata := none, properties := none }

/-- A complete Sparkplug B payload. -/
structure Payload where
  timestamp : Option UInt64 := none
  metrics : List Metric := []
  seq : Option UInt8 := none
  uuid : Option String := none
  body : Option Bytes := none

end SparkplugB
