/-
# Where an encoded payload may be cut

The first `k` bytes of an encoded payload decode exactly when the cut falls between two top-level
fields, and then to the payload without the fields behind the cut.

The argument has two halves.

* **A cut between fields** leaves the encoding of a payload with fewer fields
  (`payloadFields_firstFields`), which reads back as every encoded payload does.
* **Every other cut** would have to leave a list of complete fields all the same, because only such
  bytes are read (`exists_spells`).  But complete fields are prefix-free
  (`Field.Spells.prefix_unique`): a varint ends at its first byte without the high bit, and the tag
  and the length decide the rest.  So the fields that were read are the fields that were written,
  one by one (`spells_prefix`), and the cut stood behind the last of them.
-/
import SparkplugB.Codec.RoundTrip

namespace SparkplugB

/-! ## 1. Complete fields are prefix-free -/

/-- The wire type says how far a value goes. -/
theorem Raw.Spells.prefix_unique {raw raw' : Raw} {a b r s : Bytes} (h : raw.Spells a)
    (h' : raw'.Spells b) (hwire : raw.wire = raw'.wire) (heq : a ++ r = b ++ s) :
    a = b ∧ r = s := by
  cases h with
  | varint hv =>
    cases h' with
    | varint hv' => exact hv.terminated.prefix_unique hv'.terminated heq
    | _ => exact absurd hwire (by simp [Raw.wire])
  | i64 hlen =>
    cases h' with
    | i64 hlen' => exact List.append_inj heq (hlen.trans hlen'.symm)
    | _ => exact absurd hwire (by simp [Raw.wire])
  | len hv hn =>
    cases h' with
    | len hv' hn' =>
      rw [List.append_assoc, List.append_assoc] at heq
      obtain ⟨rfl, hrest⟩ := hv.terminated.prefix_unique hv'.terminated heq
      obtain rfl := hv.unique hv'
      obtain ⟨rfl, rfl⟩ := List.append_inj hrest (hn.symm.trans hn')
      exact ⟨rfl, rfl⟩
    | _ => exact absurd hwire (by simp [Raw.wire])
  | i32 hlen =>
    cases h' with
    | i32 hlen' => exact List.append_inj heq (hlen.trans hlen'.symm)
    | _ => exact absurd hwire (by simp [Raw.wire])

/-- **Complete fields are prefix-free**: where two stand at the front of the same bytes, they are
the same bytes. -/
theorem Field.Spells.prefix_unique {f g : Field} {a b r s : Bytes} (h : f.Spells a)
    (h' : g.Spells b) (heq : a ++ r = b ++ s) : a = b ∧ r = s := by
  cases h with
  | @mk num raw tag value hnum htag hval =>
    cases h' with
    | @mk num' raw' tag' value' hnum' htag' hval' =>
      rw [List.append_assoc, List.append_assoc] at heq
      obtain ⟨rfl, hrest⟩ := htag.terminated.prefix_unique htag'.terminated heq
      have hwire : raw.wire = raw'.wire := by
        have hkey := congrArg UInt64.toNat (htag.unique htag')
        rw [UInt64.toNat_ofNat', UInt64.toNat_ofNat'] at hkey
        have := raw.wire_lt_eight
        have := raw'.wire_lt_eight
        omega
      obtain ⟨rfl, rfl⟩ := hval.prefix_unique hval' hwire hrest
      exact ⟨rfl, rfl⟩

/-- Complete fields at the front of a written message are the first ones that were written. -/
theorem spells_prefix {gs : List Field} {a : Bytes} (h : Spells gs a) :
    ∀ {fs : List Field} {s : Bytes}, (∀ f ∈ fs, f.Fits) → a ++ s = serialize fs →
      ∃ j ≤ fs.length, a = serialize (fs.take j) := by
  induction h with
  | nil =>
    intro fs s _ _
    exact ⟨0, Nat.zero_le _, rfl⟩
  | @cons g gs a bytes hg _ ih =>
    intro fs s hfits heq
    cases fs with
    | nil =>
      have hlen := congrArg List.length heq
      have := hg.length_pos
      simp only [List.length_append, serialize_nil, List.length_nil] at hlen
      omega
    | cons f fs =>
      rw [List.append_assoc, serialize_cons] at heq
      obtain ⟨rfl, hrest⟩ := hg.prefix_unique (f.spells_bytes (hfits f List.mem_cons_self)) heq
      obtain ⟨j, hj, rfl⟩ := ih (fun g hg => hfits g (List.mem_cons_of_mem _ hg)) hrest
      exact ⟨j + 1, Nat.succ_le_succ hj, rfl⟩

/-! ## 2. The top-level fields of a payload -/

namespace Payload

open Codec Writer

/-- The bytes of each top-level field that a birth payload is written as. -/
def topFields (p : Payload) : List Bytes :=
  p.timestamp.toList.map (uint64Field 1) ++
    p.metrics.map (fun m => messageField 2 (encodeMetric false m)) ++
    p.seq.toList.map (fun seq => uint64Field 3 seq.toUInt64) ++
    p.uuid.toList.map (stringField 4) ++ p.body.toList.map (bytesField 5)

/-- The position behind the first `j` top-level fields. -/
def fieldEnd (p : Payload) (j : Nat) : Nat := (p.topFields.take j).flatten.length

/-- The payload with the first `j` of its top-level fields: the timestamp is the first of them,
the metrics follow, then the sequence number, the UUID and the body. -/
def firstFields (p : Payload) (j : Nat) : Payload :=
  let metricsAt := p.timestamp.toList.length
  let seqAt := metricsAt + p.metrics.length
  let uuidAt := seqAt + p.seq.toList.length
  let bodyAt := uuidAt + p.uuid.toList.length
  { timestamp := if 0 < j then p.timestamp else none
    metrics := p.metrics.take (j - metricsAt)
    seq := if seqAt < j then p.seq else none
    uuid := if uuidAt < j then p.uuid else none
    body := if bodyAt < j then p.body else none }

theorem map_bytes_eq {α : Type} {n : Nat} {raw : α → Raw} {write : α → Bytes}
    (h : ∀ a, write a = serialize [⟨n, raw a⟩]) (vs : List α) :
    (vs.map fun a => (⟨n, raw a⟩ : Field)).map Field.bytes = vs.map write := by
  rw [List.map_map]
  refine List.map_congr_left fun a _ => ?_
  simp [h a]

theorem topFields_eq (p : Payload) :
    p.topFields = (payloadFields false p).map Field.bytes := by
  simp only [topFields, payloadFields, field?, fieldEach, List.map_append]
  rw [map_bytes_eq (uint64Field_eq 1),
    map_bytes_eq (show ∀ s, stringField 4 s = serialize [⟨4, Raw.str s⟩] from stringField_eq 4),
    map_bytes_eq (bytesField_eq 5),
    map_bytes_eq fun m => messageField_eq 2 (encodeMetric false m),
    map_bytes_eq fun seq : UInt8 => uint64Field_eq 3 seq.toUInt64]

theorem flatten_topFields (p : Payload) (j : Nat) :
    (p.topFields.take j).flatten = serialize ((payloadFields false p).take j) := by
  rw [topFields_eq, ← List.map_take, serialize, List.flatMap_def]

/-- The fields are the encoding. -/
theorem flatten_topFields_all (p : Payload) :
    p.topFields.flatten = encode p EncodeOptions.birth := by
  have h := p.flatten_topFields p.topFields.length
  rw [List.take_length, topFields_eq, List.length_map, List.take_length, ← encodePayload_eq] at h
  rw [topFields_eq]
  exact h

theorem take_field? {α : Type} (n : Nat) (raw : α → Raw) (v : Option α) (i : Nat) :
    (field? n raw v).take i = field? n raw (if 0 < i then v else none) := by
  rcases Nat.eq_zero_or_pos i with rfl | hi
  · simp [field?]
  · rw [if_pos hi]
    cases v with
    | none => simp [field?]
    | some a => rw [field?, List.take_of_length_le (by simp; omega)]

/-- Cutting behind a field drops the rest of the fields. -/
theorem payloadFields_firstFields (p : Payload) (j : Nat) :
    payloadFields false (p.firstFields j) = (payloadFields false p).take j := by
  have hopt : ∀ {α : Type} (n : Nat) (raw : α → Raw) (v : Option α),
      (field? n raw v).length = v.toList.length := fun n raw v => by simp [field?]
  have heach : (fieldEach 2 (fun m => Raw.len (encodeMetric false m)) p.metrics).length =
      p.metrics.length := by simp [fieldEach]
  simp only [payloadFields, firstFields, List.take_append, List.length_append, hopt, heach,
    take_field?, Nat.sub_pos_iff_lt]
  rw [fieldEach, fieldEach, List.map_take]

theorem encode_firstFields (p : Payload) (j : Nat) :
    encode (p.firstFields j) EncodeOptions.birth =
      (encode p EncodeOptions.birth).take (p.fieldEnd j) := by
  have hsplit : encode p EncodeOptions.birth =
      (p.topFields.take j).flatten ++ (p.topFields.drop j).flatten := by
    rw [← List.flatten_append, List.take_append_drop, flatten_topFields_all]
  rw [fieldEnd, hsplit, List.take_left' rfl, flatten_topFields, ← payloadFields_firstFields]
  exact encodePayload_eq false _

theorem wellFormed_firstFields {p : Payload} (h : p.WellFormed) (j : Nat) :
    (p.firstFields j).WellFormed := fun m hm => h m (List.mem_of_mem_take hm)

theorem depth_firstFields {p : Payload} {k : Nat} (h : p.depth ≤ k) (j : Nat) :
    (p.firstFields j).depth ≤ k :=
  ((p.firstFields j).depth_le_iff k).mpr fun m hm =>
    (p.depth_le_iff k).mp h m (List.mem_of_mem_take hm)

end Payload

/-! ## 3. Every cut -/

open Codec

/-- A cut between two fields. -/
theorem decode_take_fieldEnd {p : Payload} (hwf : p.WellFormed) (hdepth : p.depth ≤ 32)
    (hsize : (encode p EncodeOptions.birth).length < 2 ^ 63) (types : Option AliasRegistry)
    (j : Nat) :
    decode ((encode p EncodeOptions.birth).take (p.fieldEnd j)) types = .ok (p.firstFields j) := by
  have hall : ∀ m ∈ (p.firstFields j).metrics, Metric.All (Codable false types) m := fun m hm =>
    Metric.All.imp (fun m hsound => ⟨hsound, fun h => absurd h (by simp)⟩) m
      (p.wellFormed_firstFields hwf j m hm)
  have hshort : (encodePayload (p.firstFields j) false).length < 2 ^ 63 := by
    have hcut := congrArg List.length (p.encode_firstFields j)
    rw [List.length_take] at hcut
    exact lt_of_le_of_lt (hcut.trans_le (Nat.min_le_right _ _)) hsize
  have hread := decodePayload_encodePayload false types (p.firstFields j) hall hshort
  rw [within_of (show (p.firstFields j).depth ≤ MAX_DEPTH from Payload.depth_firstFields hdepth j)]
    at hread
  rw [← p.encode_firstFields j]
  exact hread

/-- A cut that is read stands between two fields. -/
theorem fieldEnd_of_decode_take {p q : Payload}
    (hsize : (encode p EncodeOptions.birth).length < 2 ^ 63) {types : Option AliasRegistry}
    {k : Nat} (hk : k ≤ (encode p EncodeOptions.birth).length)
    (h : decode ((encode p EncodeOptions.birth).take k) types = .ok q) :
    ∃ j ≤ p.topFields.length, k = p.fieldEnd j := by
  have hbytes : encode p EncodeOptions.birth = serialize (payloadFields false p) :=
    encodePayload_eq false p
  rw [decode, decodePayload, payloadBody_eq] at h
  obtain ⟨gs, hgs, -⟩ := Reader.exists_spells h
  rw [hbytes] at hgs hk hsize
  obtain ⟨j, hj, htake⟩ := spells_prefix hgs (fits_of_numbered (numbered_payloadFields false p) hsize)
    (List.take_append_drop k _)
  refine ⟨j, ?_, ?_⟩
  · rwa [Payload.topFields_eq, List.length_map]
  · have hlen := congrArg List.length htake
    rwa [List.length_take_of_le hk, ← Payload.flatten_topFields] at hlen

/-- **Truncation is always noticed.**  The first `k` bytes of an encoded payload decode exactly when
they are nothing or whole top-level fields, and then to the payload with these fields.  The payload
is one that survives the round trip (`hwf`, `hdepth`); the registry does not matter, for birth
payloads have their datatypes. -/
theorem decode_truncated (p : Payload) (hwf : p.WellFormed) (hdepth : p.depth ≤ 32)
    (hsize : (encode p EncodeOptions.birth).length < 2 ^ 63) (types : Option AliasRegistry)
    (k : Nat) (hk : k ≤ (encode p EncodeOptions.birth).length) :
    ((∃ q, decode ((encode p EncodeOptions.birth).take k) types = .ok q) ↔
      ∃ j ≤ p.topFields.length, k = p.fieldEnd j) ∧
    ∀ j, k = p.fieldEnd j →
      decode ((encode p EncodeOptions.birth).take k) types = .ok (p.firstFields j) := by
  have hcut : ∀ j, k = p.fieldEnd j →
      decode ((encode p EncodeOptions.birth).take k) types = .ok (p.firstFields j) := by
    rintro j rfl
    exact decode_take_fieldEnd hwf hdepth hsize types j
  refine ⟨⟨?_, ?_⟩, hcut⟩
  · rintro ⟨q, hq⟩
    exact fieldEnd_of_decode_take hsize hk hq
  · rintro ⟨j, -, hj⟩
    exact ⟨p.firstFields j, hcut j hj⟩

/-- The template payload, cut behind its one metric. -/
theorem decode_truncated_pump :
    decode ((encode pump EncodeOptions.birth).take (pump.fieldEnd 1)) none =
      .ok (pump.firstFields 1) :=
  (decode_truncated pump (by decide) (by decide) (by decide +kernel) none (pump.fieldEnd 1)
    (by decide +kernel)).2 1 rfl

end SparkplugB
