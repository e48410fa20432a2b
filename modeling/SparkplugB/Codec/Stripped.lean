/-
# When stripped data is read under a foreign datatype

A stripped metric is read under the datatype the registry has for its name (or alias), whatever
datatype it was written with.  The members of a template are looked up in the same flat registry
as the top-level metrics, so a member that shares its name with a metric of the birth is read
under that metric's datatype.  If the two datatypes travel in the same wire field the decoder
returns another payload without an error.

`Read` says that a metric is read at all, `Recovers` (in `RoundTrip.lean`) that it is read under
its own datatype; `decode_stripped_iff` says that these two decide between the three outcomes.
-/
import SparkplugB.Codec.Canonical

namespace SparkplugB

/-! ## 1. Wire fields of values -/

/-- The value fields of a metric message. -/
inductive WireSlot where
  | int
  | long
  | float
  | double
  | boolean
  | string
  | bytes
  | dataset
  | template
  deriving DecidableEq

/-- The field a value of the datatype travels in, if it is a datatype of metrics. -/
def DataType.slot : DataType → Option WireSlot
  | .int8 | .int16 | .int32 | .uint8 | .uint16 | .uint32 => some .int
  | .int64 | .uint64 | .dateTime => some .long
  | .float => some .float
  | .double => some .double
  | .boolean => some .boolean
  | .string | .text | .uuid => some .string
  | .dataSet => some .dataset
  | .template => some .template
  | .unknown | .propertySet | .propertySetList => none
  | _ => some .bytes

/-- The bytes of a value that travels in the bytes field. -/
def MetricValue.wireBytes : MetricValue → Bytes
  | .bytes b => b
  | .file b => b
  | v => Arrays.pack v

/-- The value is read under the datatype: it is null, or travels in the datatype's field and, for
an array type, unpacks.  (The members of a template apart.) -/
def MetricValue.ReadsAs (v : MetricValue) (dt : DataType) : Prop :=
  v.isNull = true ∨
    dt.slot = v.datatype.slot ∧
      (dt.isArray = true → (Arrays.unpack dt v.wireBytes).isOk = true)

instance (v : MetricValue) (dt : DataType) : Decidable (v.ReadsAs dt) :=
  inferInstanceAs (Decidable (_ ∨ _))

namespace Codec

/-- The slot is filled. -/
def filled (raw : RawValue) : WireSlot → Bool
  | .int => raw.intV.isSome
  | .long => raw.longV.isSome
  | .float => raw.floatV.isSome
  | .double => raw.doubleV.isSome
  | .boolean => raw.boolV.isSome
  | .string => raw.stringV.isSome
  | .bytes => raw.bytesV.isSome
  | .dataset => raw.datasetV.isSome
  | .template => raw.templateV.isSome

/-- A written value fills the slot of its datatype and no other. -/
theorem filled_valueSlots (strip : Bool) {v : MetricValue} (hnull : v.isNull = false)
    (s : WireSlot) : filled (valueSlots strip v) s = true ↔ v.datatype.slot = some s := by
  cases v with
  | null dt => exact absurd hnull (by simp [MetricValue.isNull])
  | _ => cases s <;> simp [filled, valueSlots, MetricValue.datatype, DataType.slot]

theorem ok_iff_isOk {α : Type} {x : Result α} : (∃ a, x = .ok a) ↔ x.isOk = true := by
  cases x <;> simp [Except.isOk, Except.toBool]

theorem exists_ok_of_map {α β : Type} {x : Result α} (f : α → β) :
    (∃ b, (do pure (f (← x)) : Result β) = .ok b) ↔ ∃ a, x = .ok a := by
  cases x <;> simp [bind, Except.bind, pure, Except.pure]

theorem exists_ok_need {α : Type} {slot : Option α} {msg : String} :
    (∃ a, need slot msg = .ok a) ↔ slot.isSome = true := by
  cases slot <;> simp [need]

/-- What is built under a datatype other than Template: the datatype's slot is what decides, and
for arrays whether the bytes unpack. -/
theorem exists_buildMetricValue {decodeTemplate : Bytes → Result Template} {dt : DataType}
    {raw : RawValue} (hdt : dt ≠ .template)
    (hds : ∀ slice, raw.datasetV = some slice → ∃ ds, decodeDataset slice = .ok ds) :
    (∃ v, buildMetricValue decodeTemplate dt raw = .ok v) ↔
      ∃ s, dt.slot = some s ∧ filled raw s = true ∧
        (dt.isArray = true → ∀ b, raw.bytesV = some b → (Arrays.unpack dt b).isOk = true) := by
  cases dt with
  | template => exact absurd rfl hdt
  | unknown | propertySet | propertySetList => simp [buildMetricValue, DataType.slot]
  | dataSet =>
    cases hs : raw.datasetV with
    | none => simp [buildMetricValue, hs, need, DataType.slot, filled, bind, Except.bind]
    | some slice =>
      obtain ⟨ds, h⟩ := hds slice hs
      simp [buildMetricValue, hs, need, h, DataType.slot, filled, bind, Except.bind, pure,
        Except.pure, DataType.isArray, DataType.asU32]
  | int8Array | int16Array | int32Array | int64Array | uint8Array | uint16Array | uint32Array
  | uint64Array | floatArray | doubleArray | booleanArray | stringArray | dateTimeArray =>
    cases hb : raw.bytesV with
    | none => simp [buildMetricValue, hb, need, DataType.slot, filled, bind, Except.bind]
    | some b =>
      simp [buildMetricValue, hb, need, DataType.slot, filled, bind, Except.bind,
        DataType.isArray, DataType.asU32, ok_iff_isOk]
  | _ =>
    simp only [buildMetricValue, exists_ok_of_map, exists_ok_need]
    simp [DataType.slot, filled, DataType.isArray, DataType.asU32]

theorem datatype_of_buildMetricValue {decodeTemplate : Bytes → Result Template} {dt : DataType}
    {raw : RawValue} {v : MetricValue} (h : buildMetricValue decodeTemplate dt raw = .ok v) :
    v.datatype = dt := by
  unfold buildMetricValue at h
  dsimp only at h
  split at h
  case h_18 | h_19 =>
    obtain ⟨_, _, h⟩ := ok_of_bind h
    obtain ⟨_, _, rfl⟩ := ok_of_map h
    rfl
  case h_20 | h_21 | h_22 => exact absurd h (by simp)
  case h_23 =>
    obtain ⟨_, _, h⟩ := ok_of_bind h
    exact (Arrays.unpack_ok h).1
  all_goals
    obtain ⟨_, _, rfl⟩ := ok_of_map h
    rfl

/-! ## 2. Rereading one value -/

/-- `x` succeeds exactly when `p`, and returns `a` itself only if `q`. -/
structure Rereads {α : Type} (x : Result α) (a : α) (p q : Prop) : Prop where
  succeeds : (∃ b, x = .ok b) ↔ p
  same : x = .ok a → q

theorem bytesV_valueSlots {strip : Bool} {v : MetricValue} {b : Bytes}
    (h : (valueSlots strip v).bytesV = some b) : b = v.wireBytes := by
  cases v <;> simp_all [valueSlots, MetricValue.wireBytes]

theorem slot_eq_template {dt : DataType} (h : dt.slot = some .template) : dt = .template := by
  cases dt <;> simp_all [DataType.slot]

/-- A value that holds no template is read as `ReadsAs` says. -/
theorem exists_buildMetricValue_flat {decodeTemplate : Bytes → Result Template} {dt : DataType}
    {v : MetricValue} (hnull : v.isNull = false) (hv : v.datatype ≠ .template)
    (hds : ∀ ds, v = .dataSet ds → (encodeDataset ds).length < 2 ^ 63) :
    (∃ w, buildMetricValue decodeTemplate dt (valueSlots true v) = .ok w) ↔ v.ReadsAs dt := by
  have hslot : dt.slot = v.datatype.slot → dt ≠ .template := by
    rintro hs rfl
    exact hv (slot_eq_template hs.symm)
  have hdataset : ∀ slice, (valueSlots true v).datasetV = some slice →
      ∃ ds, decodeDataset slice = .ok ds := by
    intro slice hs
    cases v with
    | dataSet ds =>
      obtain rfl : encodeDataset ds = slice := by simpa [valueSlots] using hs
      exact ⟨ds, decodeDataset_encodeDataset ds (hds ds rfl)⟩
    | _ => exact absurd hs (by simp [valueSlots])
  rw [MetricValue.ReadsAs, hnull]
  simp only [Bool.false_eq_true, false_or]
  by_cases hdt : dt = .template
  · constructor
    · rintro ⟨w, hw⟩
      rw [hdt] at hw
      obtain ⟨slice, hneed, -⟩ := ok_of_bind hw
      have hfilled : filled (valueSlots true v) .template = true := by
        rw [filled, ok_of_need hneed]
        rfl
      exact absurd (slot_eq_template ((filled_valueSlots true hnull _).mp hfilled)) hv
    · exact fun h => absurd hdt (hslot h.1)
  · rw [exists_buildMetricValue hdt hdataset]
    constructor
    · rintro ⟨s, hs, hfilled, harray⟩
      have hvs := (filled_valueSlots true hnull s).mp hfilled
      refine ⟨hs.trans hvs.symm, fun ha => ?_⟩
      have hbytes : s = .bytes := by
        cases dt <;> simp_all [DataType.slot, DataType.isArray, DataType.asU32]
      rw [hbytes, filled, Option.isSome_iff_exists] at hfilled
      obtain ⟨b, hb⟩ := hfilled
      rw [← bytesV_valueSlots hb]
      exact harray ha b hb
    · rintro ⟨hs, harray⟩
      obtain ⟨s, hvs⟩ : ∃ s, v.datatype.slot = some s := by
        cases v with
        | null dt => exact absurd hnull (by simp [MetricValue.isNull])
        | _ => exact ⟨_, rfl⟩
      refine ⟨s, hs.trans hvs, (filled_valueSlots true hnull s).mpr hvs, fun ha b hb => ?_⟩
      rw [bytesV_valueSlots hb]
      exact harray ha

/-- What `decode_metric` makes of a stripped value under the datatype `dt`. -/
theorem rereads_value (decodeTemplate : Bytes → Result Template) {p q : Prop} (m : Metric)
    (dt : DataType)
    (hds : ∀ ds, m.value = .dataSet ds → (encodeDataset ds).length < 2 ^ 63)
    (hflat : (∀ t, m.value ≠ .template t) → p ∧ q)
    (htemplate : ∀ t, m.value = .template t →
      Rereads (decodeTemplate (encodeTemplate true t)) t p q) :
    Rereads (finishValue decodeTemplate dt (rawMetric true m)) m.value
      (m.value.ReadsAs dt ∧ p) (m.value.datatype = dt ∧ q) := by
  have hraw : (rawMetric true m).raw = valueSlots true m.value := rfl
  have hnull : (rawMetric true m).isNull = m.value.isNull := rfl
  rw [finishValue, hraw, hnull]
  generalize m.value = v at *
  cases v with
  | null dt0 =>
    have hpq := hflat (by simp)
    refine ⟨⟨fun _ => ⟨Or.inl rfl, hpq.1⟩, fun _ => ⟨_, rfl⟩⟩, fun h => ?_⟩
    exact ⟨(MetricValue.null.inj (Except.ok.inj h)).symm, hpq.2⟩
  | template t =>
    have ht := htemplate t rfl
    simp only [MetricValue.isNull, Bool.false_eq_true, if_false]
    by_cases hdt : dt = .template
    · subst hdt
      have hbuild : buildMetricValue decodeTemplate .template (valueSlots true (.template t)) =
          (decodeTemplate (encodeTemplate true t)).bind fun t => .ok (.template t) := rfl
      rw [hbuild]
      refine ⟨(exists_ok_of_map MetricValue.template).trans (ht.succeeds.trans ?_), fun h => ?_⟩
      · simp [MetricValue.ReadsAs, MetricValue.datatype, DataType.isArray, DataType.asU32]
      · obtain ⟨t', ht', heq⟩ := ok_of_map h
        obtain rfl : t' = t := MetricValue.template.inj heq
        exact ⟨rfl, ht.same ht'⟩
    · have hreads : ¬ MetricValue.ReadsAs (.template t) dt := by
        rintro (h | h)
        · exact absurd h (by simp [MetricValue.isNull])
        · exact hdt (slot_eq_template h.1)
      have hfail : ¬ ∃ w, buildMetricValue decodeTemplate dt (valueSlots true (.template t)) =
          .ok w := by
        rw [exists_buildMetricValue hdt (by simp [valueSlots])]
        rintro ⟨s, hs, hfilled, -⟩
        have hvs := (filled_valueSlots true rfl s).mp hfilled
        exact hdt (slot_eq_template (hs.trans hvs.symm))
      exact ⟨⟨fun h => absurd h hfail, fun h => absurd h.1 hreads⟩,
        fun h => absurd ⟨_, h⟩ hfail⟩
  | _ =>
    have hpq := hflat (by simp)
    simp only [MetricValue.isNull, Bool.false_eq_true, if_false]
    refine ⟨?_, fun h => ⟨datatype_of_buildMetricValue h, hpq.2⟩⟩
    rw [exists_buildMetricValue_flat rfl (by simp [MetricValue.datatype]) hds]
    exact ⟨fun h => ⟨h, hpq.1⟩, fun h => h.1⟩

/-! ## 3. Rereading metrics, templates and payloads -/

/-- The metric is read, under whatever datatype the registry has for it. -/
def Read (reg : AliasRegistry) (m : Metric) : Prop :=
  ∃ dt, recoverDatatype (some reg) m.name m.alias = some dt ∧ m.value.ReadsAs dt

instance (reg : AliasRegistry) : DecidablePred (Read reg) := fun m =>
  match h : recoverDatatype (some reg) m.name m.alias with
  | some dt => decidable_of_iff (m.value.ReadsAs dt) (by simp [Read, h])
  | none => isFalse (by simp [Read, h])

theorem finishMetric_ok_iff {decodeTemplate : Bytes → Result Template} {reg : AliasRegistry}
    {m m' : Metric} :
    finishMetric decodeTemplate (some reg) (rawMetric true m) = .ok m' ↔
      ∃ dt v, recoverDatatype (some reg) m.name m.alias = some dt ∧
        finishValue decodeTemplate dt (rawMetric true m) = .ok v ∧ m' = { m with value := v } := by
  rw [finishMetric]
  cases hrec : recoverDatatype (some reg) m.name m.alias with
  | none => simp [metricDatatype, rawMetric, hrec, bind, Except.bind]
  | some dt =>
    have hdt : metricDatatype (some reg) (rawMetric true m) = .ok dt := by
      simp [metricDatatype, rawMetric, hrec]
    rw [hdt]
    cases hv : finishValue decodeTemplate dt (rawMetric true m) with
    | error e => simp [hv, bind, Except.bind]
    | ok v =>
      simp only [hv, bind, Except.bind, pure, Except.pure, Except.ok.injEq]
      constructor
      · rintro rfl
        exact ⟨dt, v, rfl, hv, rfl⟩
      · rintro ⟨dt', v', hdt', hv', rfl⟩
        obtain rfl : dt = dt' := Option.some.inj hdt'
        obtain rfl : v = v' := Except.ok.inj (hv.symm.trans hv')
        rfl

theorem rereads_metric {decodeTemplate : Bytes → Result Template} {reg : AliasRegistry}
    {p q : Prop} (m : Metric)
    (h : ∀ dt, Rereads (finishValue decodeTemplate dt (rawMetric true m)) m.value
      (m.value.ReadsAs dt ∧ p) (m.value.datatype = dt ∧ q)) :
    Rereads (finishMetric decodeTemplate (some reg) (rawMetric true m)) m
      (Read reg m ∧ p) (Recovers reg m ∧ q) where
  succeeds := by
    simp only [finishMetric_ok_iff]
    constructor
    · rintro ⟨m', dt, v, hrec, hv, rfl⟩
      have hreads := (h dt).succeeds.mp ⟨v, hv⟩
      exact ⟨⟨dt, hrec, hreads.1⟩, hreads.2⟩
    · rintro ⟨⟨dt, hrec, hreads⟩, hp⟩
      obtain ⟨v, hv⟩ := (h dt).succeeds.mpr ⟨hreads, hp⟩
      exact ⟨_, dt, v, hrec, hv, rfl⟩
  same := by
    intro hm
    obtain ⟨dt, v, hrec, hv, heq⟩ := finishMetric_ok_iff.mp hm
    have hvalue : m.value = v := congrArg MetricOf.value heq
    rw [← hvalue] at hv
    obtain ⟨hdt, hq⟩ := (h dt).same hv
    exact ⟨by rw [Recovers, hrec, hdt], hq⟩

theorem rereads_mapM {α : Type} {g : α → Result α} {p q : α → Prop} :
    ∀ as : List α, (∀ a ∈ as, Rereads (g a) a (p a) (q a)) →
      Rereads (as.mapM g) as (∀ a ∈ as, p a) (∀ a ∈ as, q a)
  | [], _ => ⟨by simp [pure, Except.pure], by simp⟩
  | a :: as, h => by
    have ha := h a List.mem_cons_self
    have has := rereads_mapM as fun b hb => h b (List.mem_cons_of_mem a hb)
    rw [List.mapM_cons]
    refine ⟨?_, fun hok => ?_⟩
    · rw [List.forall_mem_cons, ← ha.succeeds, ← has.succeeds]
      constructor
      · rintro ⟨l, hl⟩
        obtain ⟨b, hb, hl⟩ := ok_of_bind hl
        obtain ⟨bs, hbs, -⟩ := ok_of_bind hl
        exact ⟨⟨b, hb⟩, ⟨bs, hbs⟩⟩
      · rintro ⟨⟨b, hb⟩, ⟨bs, hbs⟩⟩
        exact ⟨b :: bs, by simp [hb, hbs, bind, Except.bind, pure, Except.pure]⟩
    · obtain ⟨b, hb, hl⟩ := ok_of_bind hok
      obtain ⟨bs, hbs, heq⟩ := ok_of_map hl
      obtain ⟨rfl, rfl⟩ := List.cons.inj heq
      exact List.forall_mem_cons.mpr ⟨ha.same hb, has.same hbs⟩

/-- Rereading the parts of an object and putting it together again. -/
theorem Rereads.map {α β : Type} {x : Result α} {a : α} {p q : Prop} (h : Rereads x a p q)
    (f : α → β) (hf : Function.Injective f) : Rereads (x.bind fun a => .ok (f a)) (f a) p q where
  succeeds := (exists_ok_of_map f).trans h.succeeds
  same := by
    intro hok
    obtain ⟨b, hb, heq⟩ := ok_of_map hok
    rw [hf heq] at hb
    exact h.same hb

theorem Rereads.congr {α : Type} {x : Result α} {a : α} {p p' q q' : Prop}
    (h : Rereads x a p q) (hp : p ↔ p') (hq : q → q') : Rereads x a p' q' :=
  ⟨h.succeeds.trans hp, fun hok => hq (h.same hok)⟩

theorem Rereads.of_error {α : Type} {e : SparkplugError} {a : α} {p q : Prop} (hp : ¬ p) :
    Rereads (.error e) a p q :=
  ⟨⟨by rintro ⟨b, hb⟩; exact absurd hb (by simp), fun h => absurd h hp⟩,
    fun h => absurd h (by simp)⟩

mutual

/-- **Rereading a stripped metric.**  It is read exactly if every metric in it is read under the
datatype the registry has for it, within the limit; it comes back as it was only if each
of these datatypes is its own. -/
theorem rereads_decodeMetric (reg : AliasRegistry) :
    (m : Metric) → (d : Nat) → Metric.WellFormed m → (encodeMetric true m).length < 2 ^ 63 →
      Rereads (decodeMetric (encodeMetric true m) (some reg) d) m
        (m.All (Read reg) ∧ d + m.height ≤ MAX_DEPTH) (m.All (Recovers reg))
  | ⟨name, alias?, timestamp, value, isHistorical, isTransient, metadata, properties⟩, d, hwf,
      hlen => by
    by_cases hd : d ≤ MAX_DEPTH
    · rw [Metric.WellFormed, Metric.all_iff] at hwf
      have hds : ∀ ds, value = .dataSet ds → (encodeDataset ds).length < 2 ^ 63 := fun ds hv =>
        size_of_metricValue hlen (n := 17) (by simp [metricValueFields, hv])
      have htemplate := rereads_decodeTemplate reg value (d + 1) hwf.1 hwf.2
        fun t ht => size_of_metricValue hlen (n := 18) (by simp [metricValueFields, ht])
      have htemplate' : ∀ t, value = .template t →
          Rereads (decodeTemplate (encodeTemplate true t) (some reg) (d + 1)) t
            (value.All (Read reg) ∧ d + value.height ≤ MAX_DEPTH) (value.All (Recovers reg)) := by
        intro t ht
        refine (htemplate t ht).congr (and_congr_right fun _ => ?_) id
        rw [ht, MetricValue.height]
        omega
      have hflat : (∀ t, value ≠ .template t) →
          (value.All (Read reg) ∧ d + value.height ≤ MAX_DEPTH) ∧ value.All (Recovers reg) := by
        intro h
        rw [MetricValue.height_of_flat h]
        exact ⟨⟨MetricValue.all_of_flat _ h, hd⟩, MetricValue.all_of_flat _ h⟩
      have hvalue := fun dt => rereads_value
        (fun slice => decodeTemplate slice (some reg) (d + 1))
        ⟨name, alias?, timestamp, value, isHistorical, isTransient, metadata, properties⟩ dt hds
        hflat htemplate'
      rw [decodeMetric_written true (some reg) _ d hd hlen, Metric.all_iff, Metric.all_iff,
        Metric.height]
      by_cases hprops : d + propertiesHeight properties ≤ MAX_DEPTH
      · rw [within_of hprops, ok_bind]
        refine (rereads_metric _ hvalue).congr ?_ id
        dsimp only
        constructor
        · rintro ⟨h1, h2, h3⟩
          exact ⟨⟨h1, h2⟩, by omega⟩
        · rintro ⟨⟨h1, h2⟩, h3⟩
          exact ⟨h1, h2, by omega⟩
      · rw [within_of_not hprops]
        exact Rereads.of_error (by omega)
    · rw [decodeMetric, dif_pos (by omega)]
      exact Rereads.of_error (by omega)

theorem rereads_decodeTemplate (reg : AliasRegistry) :
    (v : MetricValue) → (d : Nat) → v.Sound → v.All (fun m => m.value.Sound) →
      (∀ t, v = .template t → (encodeTemplate true t).length < 2 ^ 63) →
      ∀ t, v = .template t → Rereads (decodeTemplate (encodeTemplate true t) (some reg) d) t
        (v.All (Read reg) ∧ d + Template.height t ≤ MAX_DEPTH) (v.All (Recovers reg))
  | v, d, hsound, hwf, hlen, t, ht => by
    by_cases hd : d ≤ MAX_DEPTH
    · cases v with
      | template t' =>
        obtain rfl : t' = t := MetricValue.template.inj ht
        obtain ⟨version, templateRef, isDefinition, metrics, parameters⟩ := t'
        have hsize := hlen _ rfl
        have hmembers := rereads_mapM metrics
          (rereads_decodeMembers reg metrics (d + 1) hwf fun m hm => size_of_member hsize hm)
        rw [decodeTemplate_written true (some reg) _ d hd hsound hsize]
        refine (hmembers.map (fun ms => (⟨version, templateRef, isDefinition, ms,
          parameters⟩ : Template)) fun ms ms' h => congrArg TemplateOf.metrics h).congr ?_ ?_
        · rw [MetricValue.All, Template.all_iff, Template.height,
            add_membersHeight_le d MAX_DEPTH metrics hd]
          exact ⟨fun h => ⟨fun m hm => (h m hm).1, fun m hm => (h m hm).2⟩,
            fun h m hm => ⟨h.1 m hm, h.2 m hm⟩⟩
        · rw [MetricValue.All, Template.all_iff]
          exact id
      | _ => exact absurd ht (by simp)
    · rw [decodeTemplate, dif_pos (by omega)]
      exact Rereads.of_error (by omega)

theorem rereads_decodeMembers (reg : AliasRegistry) :
    (metrics : List Metric) → (d : Nat) → membersAll (fun m => m.value.Sound) metrics →
      (∀ m ∈ metrics, (encodeMetric true m).length < 2 ^ 63) →
      ∀ m ∈ metrics, Rereads (decodeMetric (encodeMetric true m) (some reg) d) m
        (m.All (Read reg) ∧ d + m.height ≤ MAX_DEPTH) (m.All (Recovers reg))
  | [], _, _, _ => by simp
  | m :: rest, d, hwf, hlen => by
    have hm := rereads_decodeMetric reg m d hwf.1 (hlen m List.mem_cons_self)
    have hrest := rereads_decodeMembers reg rest d hwf.2
      fun m' hm' => hlen m' (List.mem_cons_of_mem _ hm')
    exact List.forall_mem_cons.mpr ⟨hm, hrest⟩

end

end Codec

open Codec

/-- **Rereading a stripped payload**, whatever datatypes the registry has for its metrics. -/
theorem rereads_decode (reg : AliasRegistry) (p : Payload) (hwf : p.WellFormed)
    (hsize : (encode p EncodeOptions.data).length < 2 ^ 63) :
    Rereads (decode (encode p EncodeOptions.data) (some reg)) p
      ((∀ m ∈ p.metrics, Metric.All (Read reg) m) ∧ p.depth ≤ MAX_DEPTH)
      (∀ m ∈ p.metrics, Metric.All (Recovers reg) m) := by
  have hmetrics := rereads_mapM p.metrics fun m hm =>
    rereads_decodeMetric reg m 0 (hwf m hm) (size_of_mem_metrics hsize hm)
  have hdecode : decode (encode p EncodeOptions.data) (some reg) =
      (p.metrics.mapM fun m => decodeMetric (encodeMetric true m) (some reg) 0).bind
        fun ms => .ok { p with metrics := ms } := decodePayload_written true (some reg) p hsize
  rw [hdecode]
  refine (hmetrics.map (fun ms => ({ p with metrics := ms } : Payload))
    fun ms ms' h => congrArg Payload.metrics h).congr ?_ id
  rw [p.depth_le_iff]
  constructor
  · exact fun h => ⟨fun m hm => (h m hm).1, fun m hm => by have := (h m hm).2; omega⟩
  · exact fun h m hm => ⟨h.1 m hm, by have := h.2 m hm; omega⟩

/-- The kind of payload that is misread: within the nesting limit, every metric in it, template
members included, is read under the datatype the registry has for it, and for one of them that
is not its own. -/
def Misread (reg : AliasRegistry) (p : Payload) : Prop :=
  p.depth ≤ MAX_DEPTH ∧ (∀ m ∈ p.metrics, Metric.All (Read reg) m) ∧
    ∃ m ∈ p.metrics, ¬ Metric.All (Recovers reg) m

/-- **Exactly when stripped data is decoded to itself or rejected.**  For every registry and every
well-formed payload, decoding the stripped payload returns it or fails, unless it is misread.
Nothing is asked of the registry: it may be that of another birth, and it is flat, so the member of
a template can find a scalar of its name there. -/
theorem decode_stripped_iff (reg : AliasRegistry) (p : Payload) (hwf : p.WellFormed)
    (hsize : (encode p EncodeOptions.data).length < 2 ^ 63) :
    (decode (encode p EncodeOptions.data) (some reg) = .ok p ∨
      ∃ e, decode (encode p EncodeOptions.data) (some reg) = .error e) ↔ ¬ Misread reg p := by
  have h := rereads_decode reg p hwf hsize
  constructor
  · rintro (hok | ⟨e, he⟩) ⟨hdepth, hread, m, hm, hnot⟩
    · exact hnot (h.same hok m hm)
    · obtain ⟨p', hp'⟩ := h.succeeds.mpr ⟨hread, hdepth⟩
      exact absurd (he.symm.trans hp') (by simp)
  · intro hnot
    cases hdec : decode (encode p EncodeOptions.data) (some reg) with
    | error e => exact Or.inr ⟨e, rfl⟩
    | ok p' =>
      obtain ⟨hread, hdepth⟩ := h.succeeds.mp ⟨p', hdec⟩
      have hrec : ∀ m ∈ p.metrics, Metric.All (Recovers reg) m := fun m hm =>
        Decidable.byContradiction fun hn => hnot ⟨hdepth, hread, m, hm, hn⟩
      exact Or.inl (hdec.symm.trans (decode_encode_data p reg hwf hdepth hrec hsize))

/-! ## 4. A birth and data that is misread under it -/

/-- A birth with a scalar `x` and a template instance. -/
def shadowBirth : Payload :=
  { seq := some 0
    metrics := [Metric.new "x" (.int32 1), Metric.new "inst" (.template {})] }

/-- Data for the instance: it has a member of its own called `x`, an unsigned one. -/
def shadowData : Payload :=
  { seq := some 1
    metrics := [Metric.new "inst" (.template { metrics := [Metric.new "x" (.uint32 7)] })] }

/-- What the birth binds. -/
def shadowTypes : AliasRegistry := (AliasRegistry.new.bindAll shadowBirth.metrics).1

/-- The datatypes of the members of a payload's top-level templates. -/
def memberDatatypes (p : Payload) : List DataType :=
  p.metrics.flatMap fun m =>
    match m.value with
    | .template t => t.metrics.map fun m => m.value.datatype
    | _ => []

theorem decode_stripped_shadowData :
    (decode (encode shadowData EncodeOptions.data) (some shadowTypes) = .ok shadowData ∨
      ∃ e, decode (encode shadowData EncodeOptions.data) (some shadowTypes) = .error e) ↔
      ¬ Misread shadowTypes shadowData :=
  decode_stripped_iff shadowTypes shadowData (by decide) (by decide +kernel)

/-- Every bind of the birth succeeds, its names are distinct, and each top-level metric of the
data names one of its metrics with the same datatype; still the member comes back signed. -/
theorem shadowData_misread :
    AliasRegistry.new.bindAll shadowBirth.metrics = (shadowTypes, false) ∧
      (∀ b ∈ shadowBirth.metrics, b.name.isSome = true) ∧
      (AliasRegistry.namesOf shadowBirth.metrics).Nodup ∧ shadowData.WellFormed ∧
      (∀ m ∈ shadowData.metrics, ∃ b ∈ shadowBirth.metrics,
        b.name = m.name ∧ b.value.datatype = m.value.datatype) ∧
      ∃ p, decode (encode shadowData EncodeOptions.data) (some shadowTypes) = .ok p ∧
        p ≠ shadowData := by
  have hbind : (AliasRegistry.new.bindAll shadowBirth.metrics).2 = false := by decide +kernel
  have htypes : (decode (encode shadowData EncodeOptions.data) (some shadowTypes)).toOption.map
      memberDatatypes = some [.int32] := by decide +kernel
  refine ⟨Prod.ext rfl hbind, by decide, by decide, by decide, by decide, ?_⟩
  cases hdec : decode (encode shadowData EncodeOptions.data) (some shadowTypes) with
  | error e =>
    rw [hdec] at htypes
    exact absurd htypes (by simp [Except.toOption])
  | ok p =>
    refine ⟨p, rfl, ?_⟩
    rintro rfl
    rw [hdec] at htypes
    exact absurd htypes (by decide)

end SparkplugB
