/-
# Decoding reaches a canonical form

Whatever the bytes, a payload that `decode` returns is well formed and within the nesting limit
(`wellFormed_of_decode`): the loops of the decoders keep an invariant (`readFields_invariant`), and
each construction behind a loop checks what the encoder relies on.  With the birth round trip
it follows that everything the decoder accepts survives re-encoding unchanged.
-/
import SparkplugB.Codec.RoundTrip

namespace SparkplugB.Codec

open Reader

/-! ## 1. Property sets -/

/-- Every value of the set under construction keeps within the limit. -/
def ValuesWithin (d : Nat) (st : RawPropertySet) : Prop :=
  ∀ v ∈ st.values, d + PropertyValue.height v ≤ MAX_DEPTH

theorem valuesWithin_step {decodeValue : Bytes → Result PropertyValue} {d : Nat}
    (hvalue : ∀ bytes v, decodeValue bytes = .ok v → d + v.height ≤ MAX_DEPTH)
    (st : RawPropertySet) (num : Nat) (raw : Raw) (st' : RawPropertySet) (hst : ValuesWithin d st)
    (h : propertysetField decodeValue st num raw = .ok st') : ValuesWithin d st' := by
  unfold propertysetField at h
  split at h
  · obtain ⟨_, _, rfl⟩ := ok_of_map h
    exact hst
  · obtain ⟨v, hv, rfl⟩ := ok_of_map h
    intro w hw
    rcases List.mem_append.mp hw with hw | hw
    · exact hst w hw
    · rw [List.mem_singleton.mp hw]
      exact hvalue _ v hv
  · rw [← Except.ok.inj h]
    exact hst

theorem setsWithin_step {decodeSet : Bytes → Result PropertySet} {d : Nat}
    (hset : ∀ bytes set, decodeSet bytes = .ok set → d + PropertySet.height set ≤ MAX_DEPTH)
    (st : List PropertySet) (num : Nat) (raw : Raw) (st' : List PropertySet)
    (hst : ∀ set ∈ st, d + PropertySet.height set ≤ MAX_DEPTH)
    (h : propertysetlistField decodeSet st num raw = .ok st') :
    ∀ set ∈ st', d + PropertySet.height set ≤ MAX_DEPTH := by
  unfold propertysetlistField at h
  split at h
  · obtain ⟨set, hs, rfl⟩ := ok_of_map h
    intro w hw
    rcases List.mem_append.mp hw with hw | hw
    · exact hst w hw
    · rw [List.mem_singleton.mp hw]
      exact hset _ set hs
  · rw [← Except.ok.inj h]
    exact hst

/-- A value built at depth `d` keeps within the limit if the sets it may hold do. -/
theorem height_of_buildPropertyvalue {decodeSet : Bytes → Result PropertySet}
    {decodeList : Bytes → Result PropertySetList} {d : Nat} (hd : d ≤ MAX_DEPTH)
    (hset : ∀ bytes ps, decodeSet bytes = .ok ps → d + 1 + PropertySet.height ps ≤ MAX_DEPTH)
    (hlist : ∀ bytes list, decodeList bytes = .ok list →
      d + 1 + PropertySetList.height list ≤ MAX_DEPTH)
    {dt : DataType} {st : RawPropertyValue} {v : PropertyValue}
    (h : buildPropertyvalue decodeSet decodeList dt st = .ok v) : d + v.height ≤ MAX_DEPTH := by
  unfold buildPropertyvalue at h
  split at h
  case h_15 =>
    obtain ⟨slice, _, h⟩ := ok_of_bind h
    obtain ⟨ps, hps, rfl⟩ := ok_of_map h
    have := hset slice ps hps
    rw [PropertyValue.height]
    omega
  case h_16 =>
    obtain ⟨slice, _, h⟩ := ok_of_bind h
    obtain ⟨list, hl, rfl⟩ := ok_of_map h
    have := hlist slice list hl
    rw [PropertyValue.height]
    omega
  case h_17 => exact absurd h (by simp)
  all_goals
    obtain ⟨_, _, rfl⟩ := ok_of_map h
    exact hd

theorem height_of_finishPropertyset {d : Nat} (hd : d ≤ MAX_DEPTH) {st : RawPropertySet}
    (hst : ValuesWithin (d + 1) st) {ps : PropertySet} (h : finishPropertyset st = .ok ps) :
    d + PropertySet.height ps ≤ MAX_DEPTH := by
  unfold finishPropertyset at h
  split at h
  · exact absurd h (by simp)
  · rw [← Except.ok.inj h, PropertySet.height, add_entriesHeight_le d MAX_DEPTH _ hd]
    intro e he
    exact hst e.2 (List.of_mem_zip he).2

mutual

theorem height_of_decodePropertyset {bytes : Bytes} {d : Nat} {ps : PropertySet}
    (h : decodePropertyset bytes d = .ok ps) : d + PropertySet.height ps ≤ MAX_DEPTH := by
  rw [decodePropertyset] at h
  split at h
  · exact absurd h (by simp)
  · rename_i hd
    obtain ⟨st, hst, h⟩ := ok_of_bind h
    rw [propertysetBody_eq] at hst
    refine height_of_finishPropertyset (by omega) ?_ h
    refine readFields_invariant (P := ValuesWithin (d + 1)) hst (by simp [ValuesWithin])
      (valuesWithin_step fun bytes v hv => ?_)
    exact height_of_decodePropertyvalue hv
termination_by MAX_DEPTH + 1 - d

theorem height_of_decodePropertyvalue {bytes : Bytes} {d : Nat} {v : PropertyValue}
    (h : decodePropertyvalue bytes d = .ok v) : d + v.height ≤ MAX_DEPTH := by
  rw [decodePropertyvalue] at h
  split at h
  · exact absurd h (by simp)
  · rename_i hd
    obtain ⟨st, _, h⟩ := ok_of_bind h
    obtain ⟨code, _, h⟩ := ok_of_bind h
    obtain ⟨dt, _, h⟩ := ok_of_bind h
    split at h
    · rw [← Except.ok.inj h]
      exact Nat.le_of_not_gt hd
    · exact height_of_buildPropertyvalue (by omega)
        (fun _ _ hps => height_of_decodePropertyset hps)
        (fun _ _ hl => height_of_decodePropertysetlist hl) h
termination_by MAX_DEPTH + 1 - d

theorem height_of_decodePropertysetlist {bytes : Bytes} {d : Nat} {list : PropertySetList}
    (h : decodePropertysetlist bytes d = .ok list) :
    d + PropertySetList.height list ≤ MAX_DEPTH := by
  rw [decodePropertysetlist] at h
  split at h
  · exact absurd h (by simp)
  · rename_i hd
    obtain ⟨sets, hsets, rfl⟩ := ok_of_map h
    rw [propertysetlistBody_eq] at hsets
    rw [PropertySetList.height, add_setsHeight_le d MAX_DEPTH _ (by omega)]
    exact readFields_invariant (P := fun sets : List PropertySet =>
      ∀ set ∈ sets, d + 1 + PropertySet.height set ≤ MAX_DEPTH) hsets (by simp)
      (setsWithin_step fun _ _ hps => height_of_decodePropertyset hps)
termination_by MAX_DEPTH + 1 - d

end

/-! ## 2. Parameters and metrics -/

theorem datatype_of_buildParameterValue {dt : DataType} {st : Slots} {v : ParameterValue}
    (h : buildParameterValue dt st = .ok v) : v.datatype = dt := by
  unfold buildParameterValue at h
  split at h
  case h_15 => exact absurd h (by simp)
  all_goals
    obtain ⟨_, _, rfl⟩ := ok_of_map h
    rfl

/-- A decoded parameter's value has the declared datatype. -/
theorem agrees_of_decodeParameter {bytes : Bytes} {p : Parameter}
    (h : decodeParameter bytes = .ok p) : p.Agrees := by
  rw [decodeParameter] at h
  obtain ⟨st, _, h⟩ := ok_of_bind h
  obtain ⟨name, _, h⟩ := ok_of_bind h
  obtain ⟨code, _, h⟩ := ok_of_bind h
  obtain ⟨dt, _, h⟩ := ok_of_bind h
  split at h
  · obtain ⟨v, hv, rfl⟩ := ok_of_map h
    intro w hw
    rw [← Option.some.inj hw]
    exact datatype_of_buildParameterValue hv
  · rw [← Except.ok.inj h]
    intro w hw
    exact absurd hw (by simp)

/-- What holds of a decoded template at depth `d`. -/
def TemplateWithin (d : Nat) (t : Template) : Prop :=
  (∀ p ∈ t.parameters, p.Agrees) ∧
    ∀ m ∈ t.metrics, Metric.WellFormed m ∧ d + 1 + Metric.height m ≤ MAX_DEPTH

/-- What holds of a decoded value at depth `d`. -/
def ValueWithin (d : Nat) (v : MetricValue) : Prop :=
  v.Sound ∧ v.All (fun m => m.value.Sound) ∧ d + v.height ≤ MAX_DEPTH

theorem valueWithin_template {d : Nat} {t : Template} (hd : d + 1 ≤ MAX_DEPTH)
    (ht : TemplateWithin (d + 1) t) : ValueWithin d (.template t) := by
  obtain ⟨version, templateRef, isDefinition, metrics, parameters⟩ := t
  refine ⟨ht.1, ?_, ?_⟩
  · rw [MetricValue.All, Template.all_iff]
    exact fun m hm => (ht.2 m hm).1
  · have hmembers := (add_membersHeight_le (d + 1) MAX_DEPTH metrics hd).mpr
      fun m hm => (ht.2 m hm).2
    rw [MetricValue.height, Template.height]
    omega

theorem valueWithin_of_flat {d : Nat} (hd : d ≤ MAX_DEPTH) {v : MetricValue}
    (hv : v.datatype ≠ .template) (hsound : v.Sound) : ValueWithin d v := by
  have hflat := MetricValue.flat_of_datatype hv
  refine ⟨hsound, MetricValue.all_of_flat _ hflat, ?_⟩
  rw [MetricValue.height_of_flat hflat]
  exact hd

/-- A value built at depth `d` is sound and within the limit if the template it may hold is. -/
theorem valueWithin_of_buildMetricValue {decodeTemplate : Bytes → Result Template} {d : Nat}
    (hd : d ≤ MAX_DEPTH)
    (htemplate : ∀ bytes t, decodeTemplate bytes = .ok t →
      d + 1 ≤ MAX_DEPTH ∧ TemplateWithin (d + 1) t)
    {dt : DataType} {raw : RawValue} {v : MetricValue}
    (h : buildMetricValue decodeTemplate dt raw = .ok v) : ValueWithin d v := by
  unfold buildMetricValue at h
  dsimp only at h
  split at h
  case h_18 =>
    obtain ⟨slice, _, h⟩ := ok_of_bind h
    obtain ⟨ds, _, rfl⟩ := ok_of_map h
    exact valueWithin_of_flat hd (by simp [MetricValue.datatype]) trivial
  case h_19 =>
    obtain ⟨slice, _, h⟩ := ok_of_bind h
    obtain ⟨t, ht, rfl⟩ := ok_of_map h
    exact valueWithin_template (htemplate slice t ht).1 (htemplate slice t ht).2
  case h_20 => exact absurd h (by simp)
  case h_21 => exact absurd h (by simp)
  case h_22 => exact absurd h (by simp)
  case h_23 =>
    obtain ⟨slice, _, h⟩ := ok_of_bind h
    obtain ⟨hdt, -, hpack⟩ := Arrays.unpack_ok h
    -- The template case of the match is above this one.
    have hv : v.datatype ≠ .template := by
      rw [hdt]
      assumption
    exact valueWithin_of_flat hd hv (MetricValue.sound_of_packable hv hpack)
  all_goals
    obtain ⟨_, _, rfl⟩ := ok_of_map h
    exact valueWithin_of_flat hd (by simp [MetricValue.datatype]) trivial

/-- What a loop of `decode_metric` at depth `d` keeps: the properties are within the limit. -/
def PropertiesWithin (d : Nat) (st : RawMetric) : Prop :=
  d + propertiesHeight st.properties ≤ MAX_DEPTH

theorem propertiesWithin_step {decodeProps : Bytes → Result PropertySet} {d : Nat}
    (hprops : ∀ bytes ps, decodeProps bytes = .ok ps →
      d + 1 + PropertySet.height ps ≤ MAX_DEPTH)
    (st : RawMetric) (num : Nat) (raw : Raw) (st' : RawMetric) (hst : PropertiesWithin d st)
    (h : metricField decodeProps st num raw = .ok st') : PropertiesWithin d st' := by
  unfold metricField at h
  split at h
  case h_9 =>
    obtain ⟨ps, hps, rfl⟩ := ok_of_map h
    have := hprops _ ps hps
    simp only [PropertiesWithin, propertiesHeight]
    omega
  all_goals first
    | (rw [← Except.ok.inj h]; exact hst)
    | (obtain ⟨_, _, rfl⟩ := ok_of_map h; exact hst)

/-- What a loop of `decode_template` at depth `d` keeps. -/
theorem templateWithin_step {decodeMember : Bytes → Result Metric} {d : Nat}
    (hmember : ∀ bytes m, decodeMember bytes = .ok m →
      Metric.WellFormed m ∧ d + 1 + Metric.height m ≤ MAX_DEPTH)
    (t : Template) (num : Nat) (raw : Raw) (t' : Template) (ht : TemplateWithin d t)
    (h : templateField decodeMember t num raw = .ok t') : TemplateWithin d t' := by
  unfold templateField at h
  split at h
  case h_2 =>
    obtain ⟨m, hm, rfl⟩ := ok_of_map h
    refine ⟨ht.1, fun m' hm' => ?_⟩
    rcases List.mem_append.mp hm' with hm' | hm'
    · exact ht.2 m' hm'
    · rw [List.mem_singleton.mp hm']
      exact hmember _ m hm
  case h_3 =>
    obtain ⟨p, hp, rfl⟩ := ok_of_map h
    refine ⟨fun p' hp' => ?_, ht.2⟩
    rcases List.mem_append.mp hp' with hp' | hp'
    · exact ht.1 p' hp'
    · rw [List.mem_singleton.mp hp']
      exact agrees_of_decodeParameter hp
  all_goals first
    | (rw [← Except.ok.inj h]; exact ht)
    | (obtain ⟨_, _, rfl⟩ := ok_of_map h; exact ht)

theorem within_of_finishMetric {decodeTemplate : Bytes → Result Template}
    {types : Option AliasRegistry} {d : Nat} (hd : d ≤ MAX_DEPTH)
    (htemplate : ∀ bytes t, decodeTemplate bytes = .ok t →
      d + 1 ≤ MAX_DEPTH ∧ TemplateWithin (d + 1) t)
    {st : RawMetric} (hst : PropertiesWithin d st) {m : Metric}
    (h : finishMetric decodeTemplate types st = .ok m) :
    Metric.WellFormed m ∧ d + Metric.height m ≤ MAX_DEPTH := by
  rw [finishMetric] at h
  obtain ⟨dt, _, h⟩ := ok_of_bind h
  obtain ⟨value, hvalue, rfl⟩ := ok_of_map h
  have hwithin : ValueWithin d value := by
    rw [finishValue] at hvalue
    split at hvalue
    · rw [← Except.ok.inj hvalue]
      exact ⟨trivial, trivial, hd⟩
    · exact valueWithin_of_buildMetricValue hd htemplate hvalue
  rw [Metric.WellFormed, Metric.all_iff, Metric.height_eq]
  refine ⟨⟨hwithin.1, hwithin.2.1⟩, ?_⟩
  have := hwithin.2.2
  rw [PropertiesWithin] at hst
  dsimp only
  omega

mutual

/-- **Every decoded metric is well formed and within the limit**, whatever bytes and registry it was
read from. -/
theorem within_of_decodeMetric {bytes : Bytes} {types : Option AliasRegistry} {d : Nat}
    {m : Metric} (h : decodeMetric bytes types d = .ok m) :
    Metric.WellFormed m ∧ d + Metric.height m ≤ MAX_DEPTH := by
  by_cases hd : d ≤ MAX_DEPTH
  · rw [decodeMetric_eq _ _ _ hd] at h
    obtain ⟨st, hst, h⟩ := ok_of_bind h
    have hprops := readFields_invariant (P := PropertiesWithin d) hst
      (by simpa [PropertiesWithin, propertiesHeight] using hd)
      (propertiesWithin_step fun _ _ hps => height_of_decodePropertyset hps)
    exact within_of_finishMetric hd (fun _ _ ht => within_of_decodeTemplate ht) hprops h
  · rw [decodeMetric, dif_pos (by omega)] at h
    exact absurd h (by simp)
termination_by MAX_DEPTH + 1 - d

theorem within_of_decodeTemplate {bytes : Bytes} {types : Option AliasRegistry} {d : Nat}
    {t : Template} (h : decodeTemplate bytes types d = .ok t) :
    d ≤ MAX_DEPTH ∧ TemplateWithin d t := by
  by_cases hd : d ≤ MAX_DEPTH
  · rw [decodeTemplate_eq _ _ _ hd] at h
    refine ⟨hd, readFields_invariant (P := TemplateWithin d) h (by simp [TemplateWithin])
      (templateWithin_step fun _ _ hm => ?_)⟩
    exact within_of_decodeMetric hm
  · rw [decodeTemplate, dif_pos (by omega)] at h
    exact absurd h (by simp)
termination_by MAX_DEPTH + 1 - d

end

/-! ## 3. Payloads -/

theorem metricsWithin_step {decodeTop : Bytes → Result Metric}
    (htop : ∀ bytes m, decodeTop bytes = .ok m →
      Metric.WellFormed m ∧ Metric.height m ≤ MAX_DEPTH)
    (p : Payload) (num : Nat) (raw : Raw) (p' : Payload)
    (hp : ∀ m ∈ p.metrics, Metric.WellFormed m ∧ Metric.height m ≤ MAX_DEPTH)
    (h : payloadField decodeTop p num raw = .ok p') :
    ∀ m ∈ p'.metrics, Metric.WellFormed m ∧ Metric.height m ≤ MAX_DEPTH := by
  unfold payloadField at h
  split at h
  case h_2 =>
    obtain ⟨m, hm, rfl⟩ := ok_of_map h
    intro m' hm'
    rcases List.mem_append.mp hm' with hm' | hm'
    · exact hp m' hm'
    · rw [List.mem_singleton.mp hm']
      exact htop _ m hm
  all_goals first
    | (rw [← Except.ok.inj h]; exact hp)
    | (obtain ⟨_, _, rfl⟩ := ok_of_map h; exact hp)

end SparkplugB.Codec

namespace SparkplugB

open Codec

/-- **Every decoded payload** is well formed and within the nesting limit, so what holds of such
payloads holds of everything a peer can send. -/
theorem wellFormed_of_decode {bytes : Bytes} {types : Option AliasRegistry} {p : Payload}
    (h : decode bytes types = .ok p) : p.WellFormed ∧ p.depth ≤ MAX_DEPTH := by
  rw [decode, decodePayload, payloadBody_eq] at h
  have hmetrics := Reader.readFields_invariant
    (P := fun p : Payload => ∀ m ∈ p.metrics, Metric.WellFormed m ∧ Metric.height m ≤ MAX_DEPTH)
    h (by simp) (metricsWithin_step fun bytes m hm => by
      have := within_of_decodeMetric hm
      exact ⟨this.1, by omega⟩)
  exact ⟨fun m hm => (hmetrics m hm).1, p.depth_le_iff MAX_DEPTH |>.mpr fun m hm =>
    (hmetrics m hm).2⟩

/-- **Decoding reaches a canonical form.**  Whatever bytes and registry a payload was decoded from,
encoding it with datatypes and decoding it without a registry returns it unchanged.  The bytes need
not be what `encode` writes. -/
theorem decode_encode_of_decode (bytes : Bytes) (types : Option AliasRegistry) (p : Payload)
    (h : decode bytes types = .ok p)
    (hsize : (encode p EncodeOptions.birth).length < 2 ^ 63) :
    decode (encode p EncodeOptions.birth) none = .ok p := by
  obtain ⟨hwf, hdepth⟩ := wellFormed_of_decode h
  have hall : ∀ m ∈ p.metrics, Metric.All (Codable false none) m := fun m hm =>
    Metric.All.imp (fun m hsound => ⟨hsound, fun h => absurd h (by simp)⟩) m (hwf m hm)
  exact (decodePayload_encodePayload false none p hall hsize).trans (within_of hdepth p)

/-- A metric that is named twice and puts its value before a non-minimal type code, behind it a
non-minimal sequence number and an unknown field. -/
def untidy : Bytes :=
  [0x12, 11, 0x0a, 1, 0x62, 0x0a, 1, 0x61, 0x50, 7, 0x20, 0x83, 0, 0x18, 0x85, 0, 0x38, 1]

def untidyPayload : Payload :=
  match decode untidy none with
  | .ok p => p
  | .error _ => {}

theorem decode_untidy : decode untidy none = .ok untidyPayload := by
  have hok : (decode untidy none).isOk = true := by decide +kernel
  obtain ⟨p, hp⟩ := exists_of_isOk hok
  simp only [untidyPayload, hp]

theorem decode_encode_untidy :
    decode (encode untidyPayload EncodeOptions.birth) none = .ok untidyPayload :=
  decode_encode_of_decode untidy none untidyPayload decode_untidy (by decide +kernel)

end SparkplugB
