/-
# What survives a decoding that succeeds

A payload need not be well formed to be encoded: a source may supply values that come back changed
or not at all.  When the bytes are decoded all the same, the numbers of the payload, the names
and aliases of its metrics, their datatypes (where these are written) and their 64-bit integers are
the ones that were encoded.
-/
import SparkplugB.Codec.Stripped

namespace SparkplugB

namespace Codec

/-- What a metric that was written with its datatype still has in common with the one that is
read. -/
structure Resembles (m m' : Metric) : Prop where
  name : m'.name = m.name
  aliases : m'.alias = m.alias
  datatype : m'.value.datatype = m.value.datatype
  integer : m.value.datatype = .int64 ∨ m.value.datatype = .uint64 → m'.value = m.value

/-- A 64-bit integer is read as it was written. -/
theorem finishValue_integer {decodeTemplate : Bytes → Result Template} {m : Metric}
    {value : MetricValue}
    (hint : m.value.datatype = .int64 ∨ m.value.datatype = .uint64)
    (h : finishValue decodeTemplate m.value.datatype (rawMetric false m) = .ok value) :
    value = m.value := by
  have hcases : (∃ v, m.value = .int64 v) ∨ (∃ v, m.value = .uint64 v) ∨
      ∃ dt, m.value = .null dt := by
    cases hv : m.value <;> simp_all [MetricValue.datatype]
  rcases hcases with ⟨v, hv⟩ | ⟨v, hv⟩ | ⟨dt, hv⟩
  · rw [finishValue, rawMetric, hv] at h
    obtain ⟨long, hlong, rfl⟩ := ok_of_map h
    obtain rfl : v.toUInt64 = long := Option.some.inj (ok_of_need hlong)
    rw [hv, Int64.toInt64_toUInt64]
  · rw [finishValue, rawMetric, hv] at h
    obtain ⟨long, hlong, rfl⟩ := ok_of_map h
    obtain rfl : v = long := Option.some.inj (ok_of_need hlong)
    rw [hv]
  · rw [finishValue, rawMetric, hv] at h
    rw [hv, ← Except.ok.inj h]
    rfl

theorem resembles_of_decodeMetric {types : Option AliasRegistry} {d : Nat} {m m' : Metric}
    (hlen : (encodeMetric false m).length < 2 ^ 63)
    (h : decodeMetric (encodeMetric false m) types d = .ok m') : Resembles m m' := by
  by_cases hd : d ≤ MAX_DEPTH
  · rw [decodeMetric_written false types m d hd hlen] at h
    obtain ⟨st, hst, h⟩ := ok_of_bind h
    obtain ⟨-, rfl⟩ := within_ok hst
    obtain ⟨dt, hdt, h⟩ := ok_of_bind h
    obtain ⟨value, hvalue, hm'⟩ := ok_of_bind h
    obtain rfl := Except.ok.inj hm'
    obtain rfl : m.value.datatype = dt := by
      simpa [metricDatatype, rawMetric] using hdt
    refine ⟨rfl, rfl, ?_, fun hint => finishValue_integer hint hvalue⟩
    rw [finishValue] at hvalue
    by_cases hnull : (rawMetric false m).isNull = true
    · rw [if_pos hnull] at hvalue
      rw [← Except.ok.inj hvalue]
      rfl
    · rw [if_neg hnull] at hvalue
      exact datatype_of_buildMetricValue hvalue
  · rw [decodeMetric, dif_pos (by omega)] at h
    exact absurd h (by simp)

end Codec

open Codec

/-- **The numbers of a payload survive**, whatever its metrics are: if it is decoded at all, it has
its timestamp and its sequence number. -/
theorem header_of_decode {p q : Payload} {o : EncodeOptions} {types : Option AliasRegistry}
    (hlen : (encode p o).length < 2 ^ 63) (h : decode (encode p o) types = .ok q) :
    q.timestamp = p.timestamp ∧ q.seq = p.seq := by
  have hwritten := decodePayload_written o.stripDatatypes types p hlen
  rw [show decode (encode p o) types = _ from hwritten] at h
  obtain ⟨ms, -, hq⟩ := ok_of_bind h
  obtain rfl := Except.ok.inj hq
  exact ⟨rfl, rfl⟩

/-- The metrics of a birth, one by one. -/
theorem resembles_of_decode {p q : Payload} {types : Option AliasRegistry}
    (hlen : (encode p EncodeOptions.birth).length < 2 ^ 63)
    (h : decode (encode p EncodeOptions.birth) types = .ok q) :
    List.Forall₂ Resembles p.metrics q.metrics := by
  have hwritten := decodePayload_written false types p hlen
  rw [show decode (encode p EncodeOptions.birth) types = _ from hwritten] at h
  obtain ⟨ms, hms, hq⟩ := ok_of_bind h
  obtain rfl := Except.ok.inj hq
  have hall := forall₂_of_mapM hms
  refine List.forall₂_iff_get.mpr ⟨hall.length_eq, fun i hi hi' => ?_⟩
  exact resembles_of_decodeMetric (size_of_mem_metrics hlen (List.get_mem _ _))
    ((List.forall₂_iff_get.mp hall).2 i hi hi')

/-- A well-formed payload within the nesting limit that is written with its datatypes reads back
under every registry. -/
theorem decode_birth {p : Payload} (hwf : p.WellFormed) (hdepth : p.depth ≤ MAX_DEPTH)
    (hlen : (encode p EncodeOptions.birth).length < 2 ^ 63) (types : Option AliasRegistry) :
    decode (encode p EncodeOptions.birth) types = .ok p := by
  have hall : ∀ m ∈ p.metrics, Metric.All (Codable false types) m := fun m hm =>
    Metric.All.imp (fun m hsound => ⟨hsound, fun h => absurd h (by simp)⟩) m (hwf m hm)
  exact (decodePayload_encodePayload false types p hall hlen).trans (within_of hdepth p)

/-- **Exactly when stripped data comes back as it was**: when it is well formed and within the
limit, and the registry recovers the datatype of each metric. -/
theorem decode_data_iff {reg : AliasRegistry} {p : Payload}
    (hlen : (encode p EncodeOptions.data).length < 2 ^ 63) :
    decode (encode p EncodeOptions.data) (some reg) = .ok p ↔
      p.WellFormed ∧ p.depth ≤ MAX_DEPTH ∧ ∀ m ∈ p.metrics, Metric.All (Recovers reg) m := by
  constructor
  · intro h
    obtain ⟨hwf, hdepth⟩ := wellFormed_of_decode h
    exact ⟨hwf, hdepth, (rereads_decode reg p hwf hlen).same h⟩
  · rintro ⟨hwf, hdepth, hreg⟩
    have hall : ∀ m ∈ p.metrics, Metric.All (Codable true (some reg)) m := fun m hm =>
      Metric.All.combine (fun m hsound hrec => ⟨hsound, fun _ => hrec⟩) m (hwf m hm) (hreg m hm)
    exact (decodePayload_encodePayload true (some reg) p hall hlen).trans (within_of hdepth p)

/-- A payload without template values. -/
def Payload.Flat (p : Payload) : Prop := ∀ m ∈ p.metrics, ∀ t, m.value ≠ .template t

theorem decode_flat_iff {reg : AliasRegistry} {p : Payload} (hflat : p.Flat)
    (hlen : (encode p EncodeOptions.data).length < 2 ^ 63) :
    decode (encode p EncodeOptions.data) (some reg) = .ok p ↔
      p.WellFormed ∧ p.depth ≤ MAX_DEPTH ∧ ∀ m ∈ p.metrics, Recovers reg m := by
  rw [decode_data_iff hlen]
  refine and_congr_right fun _ => and_congr_right fun _ => forall₂_congr fun m hm => ?_
  rw [Metric.all_iff]
  exact and_iff_left (MetricValue.all_of_flat _ (hflat m hm))

/-- The bytes of a message carry the sequence number `seq`: they were written with it, and it is
what every decoder reads. -/
structure Carries (bytes : Bytes) (seq : Option UInt8) : Prop where
  written : ∃ p o, encode p o = bytes ∧ p.seq = seq
  read : bytes.length < 2 ^ 63 → ∀ types p, decode bytes types = .ok p → p.seq = seq

theorem carries_encode (p : Payload) (o : EncodeOptions) : Carries (encode p o) p.seq where
  written := ⟨p, o, rfl, rfl⟩
  read hlen _ _ h := (header_of_decode hlen h).2

/-- A payload without metrics reads back under every registry. -/
theorem decode_encode_bare (seq : UInt8) (types : Option AliasRegistry) :
    decode (encode { seq := some seq } .data) types = .ok { seq := some seq } := by
  have hsize : ∀ n < 256,
      (encodePayload { seq := some (UInt8.ofNat n) } true).length < 2 ^ 63 := by
    decide +kernel
  have hlen : (encodePayload { seq := some seq } true).length < 2 ^ 63 := by
    have h := hsize seq.toNat seq.toNat_lt
    rwa [UInt8.ofNat_toNat] at h
  exact (decodePayload_encodePayload true types { seq := some seq }
    (fun m hm => absurd hm (by simp)) hlen).trans (within_of (Nat.zero_le _) _)

end SparkplugB
