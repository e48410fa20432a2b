/-
# Decoding what was encoded

Every decoder, run on the bytes of the encoder for the same kind of object, returns the object, or
`RecursionLimit` when the object goes too deep from there.  Metrics and templates are treated
with the strip flag and the registry as parameters, so that the birth round trip and the stripped
round trip are two readings of one theorem, `decodePayload_encodePayload`.
-/
import SparkplugB.Codec.Leaves

namespace SparkplugB.Codec

open Reader

/-! ## 1. Property sets -/

/-- The slots a written property value fills, the type code apart. -/
def propertySlots : PropertyValue → RawPropertyValue
  | .null _ => { isNull := true }
  | .int8 v => { intV := some v.toInt32.toUInt32 }
  | .int16 v => { intV := some v.toInt32.toUInt32 }
  | .int32 v => { intV := some v.toUInt32 }
  | .uint8 v => { intV := some v.toUInt32 }
  | .uint16 v => { intV := some v.toUInt32 }
  | .uint32 v => { intV := some v }
  | .int64 v => { longV := some v.toUInt64 }
  | .uint64 v => { longV := some v }
  | .dateTime v => { longV := some v.toUInt64 }
  | .float v => { floatV := some v }
  | .double v => { doubleV := some v }
  | .boolean v => { boolV := some v }
  | .string s => { stringV := some s }
  | .text s => { stringV := some s }
  | .propertySet ps => { psSlice := some (encodePropertyset ps) }
  | .propertySetList list => { pslSlice := some (encodePropertysetlist list) }

theorem foldFields_propertyvalue (v : PropertyValue) :
    foldFields propertyvalueField {} (⟨1, .uint32 v.datatype.asU32⟩ :: propertyvalueFields v) =
      .ok { propertySlots v with typeCode := some v.datatype.asU32 } := by
  cases v <;>
    simp [propertyvalueFields, foldFields_cons, propertyvalueField, propertySlots, Except.bind,
      Raw.uint32, Raw.flag, Raw.str]

theorem numbered_propertyvalueFields (v : PropertyValue) :
    Numbered (⟨1, .uint32 v.datatype.asU32⟩ :: propertyvalueFields v) := by
  cases v <;> simp [propertyvalueFields]

/-- What `decode_propertyvalue` does with a written value. -/
theorem decodePropertyvalue_written (v : PropertyValue) (d : Nat) (hd : d ≤ MAX_DEPTH)
    (hlen : (encodePropertyvalue v).length < 2 ^ 63) :
    decodePropertyvalue (encodePropertyvalue v) d =
      if (propertySlots v).isNull then .ok (.null v.datatype)
      else
        buildPropertyvalue (fun slice => decodePropertyset slice (d + 1))
          (fun slice => decodePropertysetlist slice (d + 1)) v.datatype
          { propertySlots v with typeCode := some v.datatype.asU32 } := by
  rw [encodePropertyvalue_eq] at hlen ⊢
  rw [decodePropertyvalue, dif_neg (by omega), propertyvalueBody_eq,
    readFields_written _ _ (numbered_propertyvalueFields v) hlen, foldFields_propertyvalue]
  simp only [bind, Except.bind, need, DataType.fromU32_asU32]
  rfl

theorem foldFields_propertyset {decodeValue : Bytes → Result PropertyValue} {d : Nat}
    (entries : List (String × PropertyValue))
    (h : ∀ e ∈ entries, decodeValue (encodePropertyvalue e.2) =
      within (d + e.2.height ≤ MAX_DEPTH) e.2) :
    foldFields (propertysetField decodeValue) {} (propertysetFields ⟨entries⟩) =
      within (∀ e ∈ entries, d + e.2.height ≤ MAX_DEPTH)
        { keys := entries.map Prod.fst, values := entries.map Prod.snd } := by
  rw [propertysetFields, ← List.append_nil (fieldEach 2 _ _)]
  refine foldFields_repeated_ok (fun l => ({ keys := l } : RawPropertySet)) Prod.fst entries []
    (fun done e _ => by simp [propertysetField, Raw.str]) ?_
  rw [List.nil_append]
  rw [foldFields_repeated []
    (fun l => ({ keys := entries.map Prod.fst, values := l } : RawPropertySet))
    (fun e => decodeValue (encodePropertyvalue e.2)) entries [] fun done e _ => rfl,
    mapM_within Prod.snd (fun e => d + e.2.height ≤ MAX_DEPTH) entries h]
  exact within_map _ _

theorem finishPropertyset_entries (entries : List (String × PropertyValue)) :
    finishPropertyset { keys := entries.map Prod.fst, values := entries.map Prod.snd } =
      .ok ⟨entries⟩ := by
  simp [finishPropertyset, ← List.zip_of_prod rfl rfl]

theorem foldFields_propertysetlist {decodeSet : Bytes → Result PropertySet} {d : Nat}
    (sets : List PropertySet)
    (h : ∀ set ∈ sets, decodeSet (encodePropertyset set) =
      within (d + PropertySet.height set ≤ MAX_DEPTH) set) :
    foldFields (propertysetlistField decodeSet) [] (propertysetlistFields ⟨sets⟩) =
      within (∀ set ∈ sets, d + PropertySet.height set ≤ MAX_DEPTH) sets := by
  rw [propertysetlistFields, ← List.append_nil (fieldEach 1 _ _)]
  rw [foldFields_repeated [] (fun l => l) (fun set => decodeSet (encodePropertyset set)) sets []
    fun done set _ => rfl,
    mapM_within id (fun set => d + PropertySet.height set ≤ MAX_DEPTH) sets h, List.map_id]
  exact within_map sets id

theorem numbered_propertysetFields (ps : PropertySet) : Numbered (propertysetFields ps) := by
  simp only [propertysetFields, numbered_append]
  exact ⟨numbered_fieldEach (by norm_num) _ _, numbered_fieldEach (by norm_num) _ _⟩

mutual

/-- A property value reads back from depth `d`, if it does not go too deep from there. -/
theorem decodePropertyvalue_encodePropertyvalue : (v : PropertyValue) → (d : Nat) →
    (encodePropertyvalue v).length < 2 ^ 63 →
    decodePropertyvalue (encodePropertyvalue v) d = within (d + v.height ≤ MAX_DEPTH) v
  | v, d, hlen => by
    by_cases hd : d ≤ MAX_DEPTH
    · rw [decodePropertyvalue_written v d hd hlen]
      rw [encodePropertyvalue_eq] at hlen
      cases v with
      | propertySet ps =>
        have hsize := size_of_mem hlen (n := 9) (b := encodePropertyset ps)
          (by simp [propertyvalueFields])
        have ih := decodePropertyset_encodePropertyset ps (d + 1) hsize
        refine (congrArg (fun r : Result PropertySet =>
          r.bind fun ps => .ok (PropertyValue.propertySet ps)) ih).trans ?_
        refine (within_map ps PropertyValue.propertySet).trans (within_congr ?_ _)
        rw [PropertyValue.height]
        omega
      | propertySetList list =>
        have hsize := size_of_mem hlen (n := 10) (b := encodePropertysetlist list)
          (by simp [propertyvalueFields])
        have ih := decodePropertysetlist_encodePropertysetlist list (d + 1) hsize
        refine (congrArg (fun r : Result PropertySetList =>
          r.bind fun l => .ok (PropertyValue.propertySetList l)) ih).trans ?_
        refine (within_map list PropertyValue.propertySetList).trans (within_congr ?_ _)
        rw [PropertyValue.height]
        omega
      | _ =>
        rw [within_of (by simpa [PropertyValue.height] using hd)]
        simp [propertySlots, PropertyValue.datatype, buildPropertyvalue, need, bind, Except.bind,
          pure, Except.pure]
    · rw [decodePropertyvalue, dif_pos (by omega), within_of_not (by omega)]

theorem decodePropertyset_encodePropertyset : (ps : PropertySet) → (d : Nat) →
    (encodePropertyset ps).length < 2 ^ 63 →
    decodePropertyset (encodePropertyset ps) d =
      within (d + PropertySet.height ps ≤ MAX_DEPTH) ps
  | ⟨entries⟩, d, hlen => by
    by_cases hd : d ≤ MAX_DEPTH
    · rw [encodePropertyset_eq] at hlen ⊢
      have hsize : ∀ e ∈ entries, (encodePropertyvalue e.2).length < 2 ^ 63 := fun e he =>
        size_of_mem hlen (n := 2) (List.mem_append_right _ (mem_fieldEach he))
      have ih := decodeEntries_encodeEntries entries (d + 1) hsize
      rw [decodePropertyset, dif_neg (by omega), propertysetBody_eq,
        readFields_written _ _ (numbered_propertysetFields _) hlen,
        foldFields_propertyset entries ih]
      simp only [bind]
      rw [within_bind _ ((finishPropertyset_entries entries).trans (within_of trivial _).symm)]
      refine within_congr ?_ _
      rw [PropertySet.height, add_entriesHeight_le d MAX_DEPTH entries hd]
      simp
    · rw [decodePropertyset, dif_pos (by omega), within_of_not (by omega)]

theorem decodeEntries_encodeEntries : (entries : List (String × PropertyValue)) → (d : Nat) →
    (∀ e ∈ entries, (encodePropertyvalue e.2).length < 2 ^ 63) →
    ∀ e ∈ entries, decodePropertyvalue (encodePropertyvalue e.2) d =
      within (d + e.2.height ≤ MAX_DEPTH) e.2
  | [], _, _ => by simp
  | (key, v) :: rest, d, hsize => by
    have hv := decodePropertyvalue_encodePropertyvalue v d (hsize (key, v) List.mem_cons_self)
    have hrest := decodeEntries_encodeEntries rest d
      fun e he => hsize e (List.mem_cons_of_mem _ he)
    exact List.forall_mem_cons.mpr ⟨hv, hrest⟩

theorem decodePropertysetlist_encodePropertysetlist : (list : PropertySetList) → (d : Nat) →
    (encodePropertysetlist list).length < 2 ^ 63 →
    decodePropertysetlist (encodePropertysetlist list) d =
      within (d + PropertySetList.height list ≤ MAX_DEPTH) list
  | ⟨sets⟩, d, hlen => by
    by_cases hd : d ≤ MAX_DEPTH
    · rw [encodePropertysetlist_eq] at hlen ⊢
      have hsize : ∀ set ∈ sets, (encodePropertyset set).length < 2 ^ 63 := fun set hset =>
        size_of_mem hlen (n := 1) (mem_fieldEach hset)
      have ih := decodeSets_encodeSets sets (d + 1) hsize
      have hnum : Numbered (propertysetlistFields ⟨sets⟩) := numbered_fieldEach (by norm_num) _ _
      rw [decodePropertysetlist, dif_neg (by omega), propertysetlistBody_eq,
        readFields_written _ _ hnum hlen,
        foldFields_propertysetlist sets ih]
      simp only [bind]
      refine (within_map sets PropertySetListOf.mk).trans (within_congr ?_ _)
      rw [PropertySetList.height, add_setsHeight_le d MAX_DEPTH sets hd]
    · rw [decodePropertysetlist, dif_pos (by omega), within_of_not (by omega)]

theorem decodeSets_encodeSets : (sets : List PropertySet) → (d : Nat) →
    (∀ set ∈ sets, (encodePropertyset set).length < 2 ^ 63) →
    ∀ set ∈ sets, decodePropertyset (encodePropertyset set) d =
      within (d + PropertySet.height set ≤ MAX_DEPTH) set
  | [], _, _ => by simp
  | set :: rest, d, hsize => by
    have hset := decodePropertyset_encodePropertyset set d (hsize set List.mem_cons_self)
    have hrest := decodeSets_encodeSets rest d fun s hs => hsize s (List.mem_cons_of_mem _ hs)
    exact List.forall_mem_cons.mpr ⟨hset, hrest⟩

end

/-! ## 2. Metrics and templates -/

/-- The slots the value of a written metric fills. -/
def valueSlots (strip : Bool) : MetricValue → RawValue
  | .int8 v => { intV := some v.toInt32.toUInt32 }
  | .int16 v => { intV := some v.toInt32.toUInt32 }
  | .int32 v => { intV := some v.toUInt32 }
  | .uint8 v => { intV := some v.toUInt32 }
  | .uint16 v => { intV := some v.toUInt32 }
  | .uint32 v => { intV := some v }
  | .int64 v => { longV := some v.toUInt64 }
  | .uint64 v => { longV := some v }
  | .dateTime v => { longV := some v.toUInt64 }
  | .float v => { floatV := some v }
  | .double v => { doubleV := some v }
  | .boolean v => { boolV := some v }
  | .string s => { stringV := some s }
  | .text s => { stringV := some s }
  | .uuid s => { stringV := some s }
  | .bytes b => { bytesV := some b }
  | .file b => { bytesV := some b }
  | .dataSet ds => { datasetV := some (encodeDataset ds) }
  | .template t => { templateV := some (encodeTemplate strip t) }
  | .null _ => {}
  | array => { bytesV := some (Arrays.pack array) }

/-- The local variables of `decode_metric` behind a written metric. -/
def rawMetric (strip : Bool) (m : Metric) : RawMetric :=
  { name := m.name, «alias» := m.alias, timestamp := m.timestamp,
    datatype := if strip then none else some m.value.datatype.asU32,
    isHistorical := m.isHistorical, isTransient := m.isTransient, isNull := m.value.isNull,
    metadata := m.metadata, properties := m.properties, raw := valueSlots strip m.value }

theorem foldFields_metricValue (decodeProps : Bytes → Result PropertySet) (strip : Bool)
    (v : MetricValue) (st : RawMetric) (hst : st.raw = {}) :
    foldFields (metricField decodeProps) st (metricValueFields strip v) =
      .ok { st with raw := valueSlots strip v } := by
  cases v <;>
    simp [metricValueFields, foldFields_cons, metricField, valueSlots, Except.bind, Raw.uint32,
      Raw.flag, Raw.str, hst]
  obtain ⟨⟩ := st
  exact congrArg _ hst

theorem numbered_metricFields (strip : Bool) (m : Metric) : Numbered (metricFields strip m) := by
  have hvalue : Numbered (metricValueFields strip m.value) := by
    cases m.value <;> simp [metricValueFields]
  simp only [metricFields, numbered_append]
  refine ⟨⟨⟨⟨⟨⟨⟨⟨⟨?_, ?_⟩, ?_⟩, ?_⟩, ?_⟩, ?_⟩, ?_⟩, ?_⟩, ?_⟩, hvalue⟩ <;>
    exact numbered_field? (by norm_num) _ _

theorem foldFields_metric {decodeProps : Bytes → Result PropertySet} {p : Prop} [Decidable p]
    (strip : Bool) (m : Metric) (hfree : m.properties = none → p)
    (hprops : ∀ props, m.properties = some props →
      decodeProps (encodePropertyset props) = within p props)
    (hmd : ∀ md, m.metadata = some md → (encodeMetadata md).length < 2 ^ 63) :
    foldFields (metricField decodeProps) {} (metricFields strip m) =
      within p (rawMetric strip m) := by
  rw [metricFields]
  simp only [List.append_assoc]
  refine foldFields_optional (fun st v => { st with name := v }) rfl
    (fun a _ => by simp [metricField, Raw.str]) ?_
  refine foldFields_optional (fun st v => { st with «alias» := v }) rfl (fun a _ => rfl) ?_
  refine foldFields_optional (fun st v => { st with timestamp := v }) rfl (fun a _ => rfl) ?_
  refine foldFields_optional (fun st v => { st with datatype := v.map DataType.asU32 }) rfl
    (fun a _ => by simp [metricField, Raw.uint32]) ?_
  refine foldFields_optional (fun st v => { st with isHistorical := v }) rfl
    (fun a _ => by simp [metricField, Raw.flag]) ?_
  refine foldFields_optional (fun st v => { st with isTransient := v }) rfl
    (fun a _ => by simp [metricField, Raw.flag]) ?_
  refine foldFields_optional (fun st v => { st with isNull := v.getD false }) rfl
    (fun a _ => by simp [metricField, Raw.flag]) ?_
  refine foldFields_optional (fun st v => { st with metadata := v }) rfl
    (fun md hm => by simp [metricField, decodeMetadata_encodeMetadata md (hmd md hm)]) ?_
  refine foldFields_optional_within (fun st v => { st with properties := v }) rfl hfree
    (fun props hp => ?_) ?_
  · simp only [metricField, hprops props hp]
    exact within_map props _
  · have hdt : (if strip then none else some m.value.datatype).map DataType.asU32 =
        if strip then none else some m.value.datatype.asU32 := by
      cases strip <;> rfl
    have hnull : (if m.value.isNull then some true else none).getD false = m.value.isNull := by
      cases m.value.isNull <;> rfl
    refine (foldFields_metricValue _ strip m.value _ ?_).trans ?_
    · rfl
    · simp only [hdt, hnull, rawMetric]

/-- An array travels packed. -/
theorem buildMetricValue_array (decodeTemplate : Bytes → Result Template) (strip : Bool)
    {v : MetricValue} (harray : v.datatype.isArray = true) (hnull : v.isNull = false) :
    buildMetricValue decodeTemplate v.datatype (valueSlots strip v) =
      Arrays.unpack v.datatype (Arrays.pack v) := by
  cases v with
  | null dt => exact absurd hnull (by simp [MetricValue.isNull])
  | int8Array | int16Array | int32Array | int64Array | uint8Array | uint16Array | uint32Array
  | uint64Array | floatArray | doubleArray | booleanArray | stringArray | dateTimeArray =>
    simp only [MetricValue.datatype, valueSlots, buildMetricValue, need, bind, Except.bind]
  | _ => exact absurd harray (by simp [MetricValue.datatype, DataType.isArray, DataType.asU32])

/-- A written value reads back under its own datatype, if it does not go too deep. -/
theorem buildMetricValue_valueSlots {decodeTemplate : Bytes → Result Template} {d : Nat}
    (strip : Bool) (v : MetricValue) (hd : d ≤ MAX_DEPTH) (hsound : v.Sound)
    (hnull : v.isNull = false)
    (hds : ∀ ds, v = .dataSet ds → (encodeDataset ds).length < 2 ^ 63)
    (htemplate : ∀ t, v = .template t → decodeTemplate (encodeTemplate strip t) =
      within (d + 1 + Template.height t ≤ MAX_DEPTH) t) :
    buildMetricValue decodeTemplate v.datatype (valueSlots strip v) =
      within (d + v.height ≤ MAX_DEPTH) v := by
  by_cases harray : v.datatype.isArray = true
  · have hflat : ∀ t, v ≠ .template t := MetricValue.flat_of_datatype fun h => by
      rw [h] at harray
      exact absurd harray (by decide)
    have hheight := MetricValue.height_of_flat hflat
    have hpackable : Arrays.Packable v := by
      cases v with
      | template t => exact trivial
      | _ => exact hsound
    rw [buildMetricValue_array _ _ harray hnull, Arrays.unpack_pack v harray hnull hpackable,
      within_of (by omega)]
  cases v with
  | template t =>
    have ht := htemplate t rfl
    refine (congrArg (fun r : Result Template =>
      r.bind fun t => .ok (MetricValue.template t)) ht).trans ?_
    refine (within_map t MetricValue.template).trans (within_congr ?_ _)
    rw [MetricValue.height]
    omega
  | dataSet ds =>
    rw [within_of (by simpa [MetricValue.height] using hd)]
    simp [buildMetricValue, MetricValue.datatype, valueSlots, need, bind, Except.bind, pure,
      Except.pure, decodeDataset_encodeDataset ds (hds ds rfl)]
  | null dt => exact absurd hnull (by simp [MetricValue.isNull])
  | int8Array | int16Array | int32Array | int64Array | uint8Array | uint16Array | uint32Array
  | uint64Array | floatArray | doubleArray | booleanArray | stringArray | dateTimeArray =>
    exact absurd (by simp [MetricValue.datatype, DataType.isArray, DataType.asU32]) harray
  | _ =>
    rw [within_of (by simpa [MetricValue.height] using hd)]
    simp [buildMetricValue, MetricValue.datatype, valueSlots, need, bind, Except.bind, pure,
      Except.pure]

/-- What a metric needs to read back: a value the codec writes without loss and, if datatypes are
stripped, a registry that knows its datatype by its name or its alias. -/
def Codable (strip : Bool) (types : Option AliasRegistry) (m : Metric) : Prop :=
  m.value.Sound ∧ (strip = true → recoverDatatype types m.name m.alias = some m.value.datatype)

theorem metricDatatype_rawMetric {strip : Bool} {types : Option AliasRegistry} {m : Metric}
    (h : Codable strip types m) :
    metricDatatype types (rawMetric strip m) = .ok m.value.datatype := by
  cases strip with
  | false => simp [metricDatatype, rawMetric]
  | true => simp [metricDatatype, rawMetric, h.2 rfl]

/-- The value of `decode_metric` behind its loop. -/
def finishValue (decodeTemplate : Bytes → Result Template) (dt : DataType) (st : RawMetric) :
    Result MetricValue :=
  if st.isNull then .ok (.null dt) else buildMetricValue decodeTemplate dt st.raw

/-- The construction behind the loop of `decode_metric`. -/
def finishMetric (decodeTemplate : Bytes → Result Template) (types : Option AliasRegistry)
    (st : RawMetric) : Result Metric := do
  let dt ← metricDatatype types st
  let value ← finishValue decodeTemplate dt st
  pure { name := st.name, «alias» := st.alias, timestamp := st.timestamp, value,
         isHistorical := st.isHistorical, isTransient := st.isTransient,
         metadata := st.metadata, properties := st.properties }

theorem decodeMetric_eq (bytes : Bytes) (types : Option AliasRegistry) (d : Nat)
    (hd : d ≤ MAX_DEPTH) :
    decodeMetric bytes types d =
      (readFields (byValue (metricField fun slice => decodePropertyset slice (d + 1))) {}
        bytes).bind (finishMetric (fun slice => decodeTemplate slice types (d + 1)) types) := by
  rw [decodeMetric, dif_neg (by omega), metricBody_eq]
  simp only [bind]
  congr 1
  funext st
  rw [finishMetric]
  simp only [bind]
  congr 1
  funext dt
  rw [finishValue]
  cases st.isNull <;> rfl

theorem decodeTemplate_eq (bytes : Bytes) (types : Option AliasRegistry) (d : Nat)
    (hd : d ≤ MAX_DEPTH) :
    decodeTemplate bytes types d =
      readFields (byValue (templateField fun slice => decodeMetric slice types (d + 1))) {}
        bytes := by
  rw [decodeTemplate, dif_neg (by omega), templateBody_eq]

theorem finishMetric_rawMetric {decodeTemplate : Bytes → Result Template}
    {types : Option AliasRegistry} {d : Nat} {strip : Bool} (m : Metric) (hd : d ≤ MAX_DEPTH)
    (hm : Codable strip types m)
    (hds : ∀ ds, m.value = .dataSet ds → (encodeDataset ds).length < 2 ^ 63)
    (htemplate : ∀ t, m.value = .template t → decodeTemplate (encodeTemplate strip t) =
      within (d + 1 + Template.height t ≤ MAX_DEPTH) t) :
    finishMetric decodeTemplate types (rawMetric strip m) =
      within (d + m.value.height ≤ MAX_DEPTH) m := by
  rw [finishMetric, metricDatatype_rawMetric hm]
  obtain ⟨name, alias?, timestamp, value, isHistorical, isTransient, metadata, properties⟩ := m
  cases hnull : value.isNull with
  | true =>
    cases value with
    | null dt =>
      rw [within_of (by simpa [MetricValue.height] using hd)]
      rfl
    | _ => exact absurd hnull (by simp [MetricValue.isNull])
  | false =>
    have hbuild := buildMetricValue_valueSlots strip value hd hm.1 hnull hds htemplate
    simp only [finishValue, rawMetric, hnull, bind, Except.bind, Bool.false_eq_true, if_false,
      hbuild]
    exact within_map value fun value => (⟨name, alias?, timestamp, value, isHistorical,
      isTransient, metadata, properties⟩ : Metric)

theorem numbered_templateFields (strip : Bool) (t : Template) :
    Numbered (templateFields strip t) := by
  simp only [templateFields, numbered_append, numbered_cons, numbered_nil]
  exact ⟨⟨⟨⟨numbered_field? (by norm_num) _ _, numbered_fieldEach (by norm_num) _ _⟩,
    numbered_fieldEach (by norm_num) _ _⟩, numbered_field? (by norm_num) _ _⟩, by norm_num,
    trivial⟩

theorem foldFields_template (decodeMember : Bytes → Result Metric) (strip : Bool) (t : Template)
    (hparams : ∀ p ∈ t.parameters, decodeParameter (encodeParameter p) = .ok p) :
    foldFields (templateField decodeMember) {} (templateFields strip t) =
      (t.metrics.mapM fun m => decodeMember (encodeMetric strip m)).bind
        fun ms => .ok { t with metrics := ms } := by
  obtain ⟨version, templateRef, isDefinition, metrics, parameters⟩ := t
  rw [templateFields]
  simp only [List.append_assoc]
  refine foldFields_optional (fun st v => { st with version := v }) rfl
    (fun a _ => by simp [templateField, Raw.str]) ?_
  rw [foldFields_repeated _ (fun l => ({ version := version, metrics := l } : Template))
    (fun m => decodeMember (encodeMetric strip m)) metrics [] fun done m _ => rfl]
  congr 1
  funext ms
  rw [List.nil_append]
  refine foldFields_repeated_ok
    (fun l => ({ version := version, metrics := ms, parameters := l } : Template)) id
    parameters [] (fun done p hp => by simp [templateField, hparams p hp]) ?_
  rw [List.nil_append, List.map_id]
  refine foldFields_optional (fun st v => { st with templateRef := v }) rfl
    (fun a _ => by simp [templateField, Raw.str]) ?_
  rw [foldFields_cons]
  simp [templateField, Raw.flag, Except.bind]

/-- Decoding a written metric: the fold over its fields, then the construction. -/
theorem decodeMetric_written (strip : Bool) (types : Option AliasRegistry) (m : Metric) (d : Nat)
    (hd : d ≤ MAX_DEPTH) (hlen : (encodeMetric strip m).length < 2 ^ 63) :
    decodeMetric (encodeMetric strip m) types d =
      (within (d + propertiesHeight m.properties ≤ MAX_DEPTH) (rawMetric strip m)).bind
        (finishMetric (fun slice => decodeTemplate slice types (d + 1)) types) := by
  rw [encodeMetric_eq] at hlen ⊢
  have hprops : ∀ props, m.properties = some props →
      decodePropertyset (encodePropertyset props) (d + 1) =
        within (d + propertiesHeight m.properties ≤ MAX_DEPTH) props := by
    intro props hp
    have hsize := size_of_mem hlen (n := 9) (b := encodePropertyset props)
      (List.mem_append_left _ (List.mem_append_right _ (mem_field? hp)))
    rw [decodePropertyset_encodePropertyset props (d + 1) hsize]
    exact within_congr (by rw [hp, propertiesHeight]; omega) props
  have hmd : ∀ md, m.metadata = some md → (encodeMetadata md).length < 2 ^ 63 := fun md hm =>
    size_of_mem hlen (n := 8) (List.mem_append_left _ (List.mem_append_left _
      (List.mem_append_right _ (mem_field? hm))))
  have hfree : m.properties = none → d + propertiesHeight m.properties ≤ MAX_DEPTH := by
    intro hp
    rw [hp]
    exact hd
  rw [decodeMetric_eq _ _ _ hd, readFields_written _ _ (numbered_metricFields _ _) hlen,
    foldFields_metric strip m hfree hprops hmd]

/-- The parts of a written metric are no longer than it. -/
theorem size_of_metricValue {strip : Bool} {m : Metric}
    (hlen : (encodeMetric strip m).length < 2 ^ 63) {n : Nat} {b : Bytes}
    (h : ⟨n, .len b⟩ ∈ metricValueFields strip m.value) : b.length < 2 ^ 63 := by
  rw [encodeMetric_eq] at hlen
  exact size_of_mem hlen (List.mem_append_right _ h)

/-- Decoding a written template: its members, one by one. -/
theorem decodeTemplate_written (strip : Bool) (types : Option AliasRegistry) (t : Template)
    (d : Nat) (hd : d ≤ MAX_DEPTH) (hagrees : ∀ p ∈ t.parameters, p.Agrees)
    (hlen : (encodeTemplate strip t).length < 2 ^ 63) :
    decodeTemplate (encodeTemplate strip t) types d =
      (t.metrics.mapM fun m => decodeMetric (encodeMetric strip m) types (d + 1)).bind
        fun ms => .ok { t with metrics := ms } := by
  rw [encodeTemplate_eq] at hlen ⊢
  have hparams : ∀ p ∈ t.parameters, decodeParameter (encodeParameter p) = .ok p := fun p hp =>
    decodeParameter_encodeParameter p (hagrees p hp) (size_of_mem hlen (n := 3)
      (List.mem_append_left _ (List.mem_append_left _
        (List.mem_append_right _ (mem_fieldEach hp)))))
  rw [decodeTemplate_eq _ _ _ hd, readFields_written _ _ (numbered_templateFields _ _) hlen,
    foldFields_template _ _ _ hparams]

theorem size_of_member {strip : Bool} {t : Template}
    (hlen : (encodeTemplate strip t).length < 2 ^ 63) {m : Metric} (hm : m ∈ t.metrics) :
    (encodeMetric strip m).length < 2 ^ 63 := by
  rw [encodeTemplate_eq] at hlen
  exact size_of_mem hlen (n := 2) (List.mem_append_left _ (List.mem_append_left _
    (List.mem_append_left _ (List.mem_append_right _ (mem_fieldEach hm)))))

mutual

/-- **A metric reads back** from depth `d`, if it does not go too deep from there: `decode_metric`
undoes `encode_metric`, for a metric that is `Codable` at every level. -/
theorem decodeMetric_encodeMetric (strip : Bool) (types : Option AliasRegistry) :
    (m : Metric) → (d : Nat) → m.All (Codable strip types) →
      (encodeMetric strip m).length < 2 ^ 63 →
      decodeMetric (encodeMetric strip m) types d = within (d + m.height ≤ MAX_DEPTH) m
  | ⟨name, alias?, timestamp, value, isHistorical, isTransient, metadata, properties⟩, d, hall,
      hlen => by
    by_cases hd : d ≤ MAX_DEPTH
    · rw [Metric.all_iff] at hall
      have hds : ∀ ds, value = .dataSet ds → (encodeDataset ds).length < 2 ^ 63 := fun ds hv =>
        size_of_metricValue hlen (n := 17) (by simp [metricValueFields, hv])
      have htemplate := decodeTemplate_encodeValue strip types value (d + 1) hall.1.1 hall.2
        fun t ht => size_of_metricValue hlen (n := 18) (by simp [metricValueFields, ht])
      rw [decodeMetric_written strip types _ d hd hlen,
        within_bind _ (finishMetric_rawMetric _ hd hall.1 hds htemplate)]
      refine within_congr ?_ _
      rw [Metric.height]
      dsimp only
      omega
    · rw [decodeMetric, dif_pos (by omega), within_of_not (by omega)]

theorem decodeTemplate_encodeValue (strip : Bool) (types : Option AliasRegistry) :
    (v : MetricValue) → (d : Nat) → v.Sound → v.All (Codable strip types) →
      (∀ t, v = .template t → (encodeTemplate strip t).length < 2 ^ 63) →
      ∀ t, v = .template t → decodeTemplate (encodeTemplate strip t) types d =
        within (d + Template.height t ≤ MAX_DEPTH) t
  | v, d, hsound, hall, hlen, t, ht => by
    by_cases hd : d ≤ MAX_DEPTH
    · cases v with
      | template t' =>
        obtain rfl : t' = t := MetricValue.template.inj ht
        obtain ⟨version, templateRef, isDefinition, metrics, parameters⟩ := t'
        have hsize := hlen _ rfl
        have hmembers := decodeMembers_encodeMembers strip types metrics (d + 1) hall
          fun m hm => size_of_member hsize hm
        rw [decodeTemplate_written strip types _ d hd hsound hsize,
          mapM_within id (fun m => d + 1 + Metric.height m ≤ MAX_DEPTH) metrics hmembers,
          within_map, List.map_id]
        exact within_congr (add_membersHeight_le d MAX_DEPTH metrics hd).symm _
      | _ => exact absurd ht (by simp)
    · rw [decodeTemplate, dif_pos (by omega), within_of_not (by omega)]

theorem decodeMembers_encodeMembers (strip : Bool) (types : Option AliasRegistry) :
    (metrics : List Metric) → (d : Nat) → membersAll (Codable strip types) metrics →
      (∀ m ∈ metrics, (encodeMetric strip m).length < 2 ^ 63) →
      ∀ m ∈ metrics, decodeMetric (encodeMetric strip m) types d =
        within (d + Metric.height m ≤ MAX_DEPTH) m
  | [], _, _, _ => by simp
  | m :: rest, d, hall, hlen => by
    have hm := decodeMetric_encodeMetric strip types m d hall.1 (hlen m List.mem_cons_self)
    have hrest := decodeMembers_encodeMembers strip types rest d hall.2
      fun m' hm' => hlen m' (List.mem_cons_of_mem _ hm')
    exact List.forall_mem_cons.mpr ⟨hm, hrest⟩

end

/-! ## 3. Payloads -/

theorem numbered_payloadFields (strip : Bool) (p : Payload) : Numbered (payloadFields strip p) := by
  simp only [payloadFields, numbered_append]
  exact ⟨⟨⟨⟨numbered_field? (by norm_num) _ _, numbered_fieldEach (by norm_num) _ _⟩,
    numbered_field? (by norm_num) _ _⟩, numbered_field? (by norm_num) _ _⟩,
    numbered_field? (by norm_num) _ _⟩

theorem size_of_mem_metrics {strip : Bool} {p : Payload} {m : Metric}
    (hlen : (encodePayload p strip).length < 2 ^ 63) (hm : m ∈ p.metrics) :
    (encodeMetric strip m).length < 2 ^ 63 := by
  rw [encodePayload_eq] at hlen
  exact size_of_mem hlen (n := 2) (List.mem_append_left _ (List.mem_append_left _
    (List.mem_append_left _ (List.mem_append_right _ (mem_fieldEach hm)))))

/-- Decoding a written payload: its metrics, one by one. -/
theorem decodePayload_written (strip : Bool) (types : Option AliasRegistry) (p : Payload)
    (hlen : (encodePayload p strip).length < 2 ^ 63) :
    decodePayload (encodePayload p strip) types =
      (p.metrics.mapM fun m => decodeMetric (encodeMetric strip m) types 0).bind
        fun ms => .ok { p with metrics := ms } := by
  rw [encodePayload_eq] at hlen ⊢
  rw [decodePayload, payloadBody_eq, readFields_written _ _ (numbered_payloadFields _ _) hlen]
  obtain ⟨timestamp, metrics, seq, uuid, body⟩ := p
  rw [payloadFields, ← List.append_nil (field? 5 _ _)]
  simp only [List.append_assoc]
  refine foldFields_optional (fun st v => { st with timestamp := v }) rfl (fun a _ => rfl) ?_
  rw [foldFields_repeated _ (fun l => ({ timestamp := timestamp, metrics := l } : Payload))
    (fun m => decodeMetric (encodeMetric strip m) types 0) metrics [] fun done m _ => rfl]
  congr 1
  funext ms
  rw [List.nil_append]
  refine foldFields_optional (fun st v => { st with seq := v }) rfl
    (fun a _ => by simp [payloadField]) ?_
  refine foldFields_optional (fun st v => { st with uuid := v }) rfl
    (fun a _ => by simp [payloadField, Raw.str]) ?_
  refine foldFields_optional (fun st v => { st with body := v }) rfl (fun a _ => rfl) ?_
  rfl

/-- **A payload reads back.**  If every metric has a value the codec writes without loss and a
datatype that is written or known to the registry, decoding the encoded payload returns it, or
the nesting limit if it is too deep. -/
theorem decodePayload_encodePayload (strip : Bool) (types : Option AliasRegistry) (p : Payload)
    (hall : ∀ m ∈ p.metrics, Metric.All (Codable strip types) m)
    (hlen : (encodePayload p strip).length < 2 ^ 63) :
    decodePayload (encodePayload p strip) types = within (p.depth ≤ MAX_DEPTH) p := by
  have hmetrics : ∀ m ∈ p.metrics, decodeMetric (encodeMetric strip m) types 0 =
      within (m.height ≤ MAX_DEPTH) m := fun m hm => by
    rw [decodeMetric_encodeMetric strip types m 0 (hall m hm) (size_of_mem_metrics hlen hm)]
    exact within_congr (by omega) m
  rw [decodePayload_written strip types p hlen,
    mapM_within id (fun m => Metric.height m ≤ MAX_DEPTH) p.metrics hmetrics, within_map,
    List.map_id]
  exact within_congr (p.depth_le_iff MAX_DEPTH).symm p

end SparkplugB.Codec

namespace SparkplugB

/-! ## 4. The two round trips of the codec

`hsize` says that the encoded payload is a buffer at all: no Rust vector exceeds `isize::MAX`
bytes. -/

open Codec

/-- **Birth round trip.**  What `encode` writes with `EncodeOptions::birth`, `decode` reads back
without a registry: a well-formed payload survives (`hwf`), unless it nests deeper than the decoder
goes, which is then the error.  `hsize` says no more than that the bytes are a Rust `Vec`. -/
theorem decode_encode_birth (p : Payload) (hwf : p.WellFormed)
    (hsize : (encode p EncodeOptions.birth).length < 2 ^ 63) :
    decode (encode p EncodeOptions.birth) none =
      if p.depth ≤ 32 then .ok p else .error .recursionLimit := by
  have hall : ∀ m ∈ p.metrics, Metric.All (Codable false none) m := fun m hm =>
    Metric.All.imp (fun m hsound => ⟨hsound, fun h => absurd h (by simp)⟩) m (hwf m hm)
  exact decodePayload_encodePayload false none p hall hsize

/-- A template instance with members and parameters. -/
def pump : Payload :=
  { seq := some 1
    metrics := [Metric.new "pump" (.template
      { templateRef := some "Pump"
        metrics := [Metric.new "tags" (.stringArray ["a", ""]), Metric.new "rpm" (.int16 (-5))]
        parameters := [⟨"max", .int32, some (.int32 9)⟩, ⟨"min", .int32, none⟩] })] }

theorem decode_encode_birth_pump :
    decode (encode pump EncodeOptions.birth) none =
      if pump.depth ≤ 32 then .ok pump else .error .recursionLimit :=
  decode_encode_birth pump (by decide) (by decide +kernel)

/-- The registry recovers the datatype of the metric. -/
def Recovers (reg : AliasRegistry) (m : Metric) : Prop :=
  recoverDatatype (some reg) m.name m.alias = some m.value.datatype

instance (reg : AliasRegistry) : DecidablePred (Recovers reg) := fun m =>
  inferInstanceAs (Decidable (recoverDatatype (some reg) m.name m.alias = some m.value.datatype))

/-- **Stripped round trip.**  What `encode` writes with `EncodeOptions::data`, `decode` reads back
under every registry that recovers the datatype of each of its metrics, those inside templates
included (`hreg`).  The payload is well formed and within the nesting limit. -/
theorem decode_encode_data (p : Payload) (reg : AliasRegistry) (hwf : p.WellFormed)
    (hdepth : p.depth ≤ 32) (hreg : ∀ m ∈ p.metrics, Metric.All (Recovers reg) m)
    (hsize : (encode p EncodeOptions.data).length < 2 ^ 63) :
    decode (encode p EncodeOptions.data) (some reg) = .ok p := by
  have hall : ∀ m ∈ p.metrics, Metric.All (Codable true (some reg)) m := fun m hm =>
    Metric.All.combine (fun m hsound hrec => ⟨hsound, fun _ => hrec⟩) m (hwf m hm) (hreg m hm)
  have h := decodePayload_encodePayload true (some reg) p hall hsize
  rwa [within_of (show p.depth ≤ MAX_DEPTH from hdepth)] at h

/-- What a birth declares for the metrics of `pump`. -/
def pumpTypes : AliasRegistry :=
  ((AliasRegistry.new.bind "pump" none .template).bind "tags" none .stringArray).bind
    "rpm" none .int16

theorem decode_encode_data_pump :
    decode (encode pump EncodeOptions.data) (some pumpTypes) = .ok pump :=
  decode_encode_data pump pumpTypes (by decide) (by decide) (by decide +kernel) (by decide +kernel)

end SparkplugB
