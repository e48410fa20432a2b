/-
# Packed arrays read back

`unpack_pack`: an array value that `Packable` allows survives packing.  `unpack_ok`: whatever the
bytes, an array that `unpack` returns is of the datatype it was asked for and packable again.
-/
import SparkplugB.Codec.Arrays
import SparkplugB.Codec.WireLaws

namespace SparkplugB

/-! ## 1. NUL bytes and NUL characters -/

theorem zero_mem_utf8EncodeChar (c : Char) : 0 ∈ String.utf8EncodeChar c ↔ c = '\x00' := by
  have hval : c = '\x00' ↔ c.val.toNat = 0 := by
    rw [← Char.toNat_inj]
    rfl
  have hof : ∀ n : Nat, n < 256 → ((0 : UInt8) = UInt8.ofNat n ↔ n = 0) := by
    intro n hn
    rw [← UInt8.toNat_inj, UInt8.toNat_ofNat', Nat.mod_eq_of_lt hn]
    exact eq_comm
  rw [hval]
  unfold String.utf8EncodeChar
  dsimp only
  split
  · rw [List.mem_singleton, hof _ (by omega)]
  · split
    · simp only [List.mem_cons, List.not_mem_nil, or_false]
      rw [hof _ (by omega), hof _ (by omega)]
      omega
    · split
      · simp only [List.mem_cons, List.not_mem_nil, or_false]
        rw [hof _ (by omega), hof _ (by omega), hof _ (by omega)]
        omega
      · simp only [List.mem_cons, List.not_mem_nil, or_false]
        rw [hof _ (by omega), hof _ (by omega), hof _ (by omega), hof _ (by omega)]
        omega

theorem asBytes_eq_flatMap (s : String) : asBytes s = s.toList.flatMap String.utf8EncodeChar := by
  rw [asBytes, ← String.utf8Encode_toList]
  simp [List.utf8Encode]

/-- The zero byte stands for the NUL character only. -/
theorem zero_mem_asBytes (s : String) : 0 ∈ asBytes s ↔ '\x00' ∈ s.toList := by
  rw [asBytes_eq_flatMap, List.mem_flatMap]
  constructor
  · rintro ⟨c, hc, h0⟩
    rwa [(zero_mem_utf8EncodeChar c).mp h0] at hc
  · intro h
    exact ⟨'\x00', h, (zero_mem_utf8EncodeChar '\x00').mpr rfl⟩

namespace Arrays

/-- What an array must satisfy to be packed without loss: the element count of a BooleanArray
fits its `u32`, and no string holds the terminator of a StringArray. -/
def Packable : MetricValue → Prop
  | .booleanArray v => v.length < 2 ^ 32
  | .stringArray v => ∀ s ∈ v, '\x00' ∉ s.toList
  | _ => True

instance : DecidablePred Packable := fun v => by
  cases v with
  | booleanArray v => exact inferInstanceAs (Decidable (v.length < 2 ^ 32))
  | stringArray v => exact inferInstanceAs (Decidable (∀ s ∈ v, '\x00' ∉ s.toList))
  | _ => exact inferInstanceAs (Decidable True)

/-! ## 2. Numeric arrays -/

section Numeric

variable {α : Type}

theorem getEach_putEach {w : Nat} (hw : 0 < w) {bits : α → Nat} {ofBits : Nat → α}
    (h : ∀ x, bits x < 256 ^ w ∧ ofBits (bits x) = x) (v : List α) :
    getEach w ofBits (putEach w bits v) = v := by
  rw [getEach, putEach, List.chunksExact_flatMap hw _ (fun x => LittleEndian.length_bytes w _),
    List.map_map]
  conv_rhs => rw [← List.map_id v]
  refine List.map_congr_left fun x _ => ?_
  simp only [Function.comp_apply, LittleEndian.value_bytes_of_lt (h x).1, (h x).2, id_eq]

theorem length_putEach (w : Nat) (bits : α → Nat) (v : List α) :
    (putEach w bits v).length = v.length * w := by
  induction v with
  | nil => simp [putEach]
  | cons x v ih =>
    rw [putEach, List.flatMap_cons, List.length_append, LittleEndian.length_bytes, ← putEach, ih,
      List.length_cons]
    ring

theorem putEach_one_toInt8 (v : List Int8) :
    (putEach 1 (fun x => x.toUInt8.toNat) v).map UInt8.toInt8 = v := by
  induction v with
  | nil => rfl
  | cons x v ih =>
    rw [putEach, List.flatMap_cons, ← putEach, List.map_append, ih]
    simp [LittleEndian.bytes]

end Numeric

/-! ## 3. String arrays -/

theorem stringsOf_map_asBytes (v : List String) : stringsOf (v.map asBytes) = .ok v := by
  induction v with
  | nil => rfl
  | cons s v ih => simp [stringsOf, ih]

theorem stringsOf_ok : ∀ {segs : List Bytes} {v : List String}, stringsOf segs = .ok v →
    segs = v.map asBytes
  | [], v, h => by
    rw [← Except.ok.inj h]
    rfl
  | seg :: rest, v, h => by
    rw [stringsOf] at h
    cases hs : fromUtf8 seg with
    | none => simp [hs] at h
    | some s =>
      cases hr : stringsOf rest with
      | error e => simp [hs, hr] at h
      | ok out =>
        simp only [hs, hr, Except.ok.injEq] at h
        rw [← h, List.map_cons, asBytes_of_fromUtf8 hs, ← stringsOf_ok hr]

/-- Terminated strings come apart at their terminators. -/
theorem splitOn_terminated : ∀ v : List String, (∀ s ∈ v, '\x00' ∉ s.toList) →
    (v.flatMap fun s => asBytes s ++ [0]).splitOn 0 = v.map asBytes ++ [[]]
  | [], _ => rfl
  | s :: v, h => by
    have hs : (0 : UInt8) ∉ asBytes s := fun h0 =>
      h s List.mem_cons_self ((zero_mem_asBytes s).mp h0)
    rw [List.flatMap_cons, List.append_assoc, List.singleton_append,
      List.splitOn_append_cons_self_of_not_mem hs,
      splitOn_terminated v fun t ht => h t (List.mem_cons_of_mem _ ht)]
    rfl

theorem getLast?_terminated {v : List String} (hv : v ≠ []) :
    (v.flatMap fun s => asBytes s ++ [0]).getLast? = some 0 := by
  obtain ⟨init, s, rfl⟩ := List.eq_nil_or_concat v |>.resolve_left hv
  simp

theorem unpackStrings_pack (v : List String) (h : ∀ s ∈ v, '\x00' ∉ s.toList) :
    unpackStrings (pack (.stringArray v)) = .ok (.stringArray v) := by
  rcases eq_or_ne v [] with rfl | hv
  · rfl
  · have hlast := getLast?_terminated hv
    have hne : (v.flatMap fun s => asBytes s ++ [0]) ≠ [] := by
      intro hnil
      rw [hnil] at hlast
      exact absurd hlast (by simp)
    simp only [unpackStrings, pack, if_neg hne, hlast, if_true, splitOn_terminated v h]
    simp [stringsOf_map_asBytes]

/-- No piece between separators holds the separator. -/
theorem zero_not_mem_of_mem_splitOn {data seg : Bytes} (h : seg ∈ data.splitOn 0) : 0 ∉ seg := by
  induction data generalizing seg with
  | nil =>
    obtain rfl : seg = [] := by simpa using h
    simp
  | cons b rest ih =>
    rw [List.splitOn_cons_eq_if_modifyHead] at h
    split at h
    · rcases List.mem_cons.mp h with rfl | h
      · simp
      · exact ih h
    · rename_i hb
      cases hr : rest.splitOn 0 with
      | nil => exact absurd hr (List.splitOn_ne_nil 0 rest)
      | cons first more =>
        rw [hr, List.modifyHead_cons, List.mem_cons] at h
        rcases h with rfl | h
        · intro h0
          rcases List.mem_cons.mp h0 with rfl | h0
          · exact hb (by simp)
          · have hfirst : first ∈ rest.splitOn 0 := by
              rw [hr]
              exact List.mem_cons_self
            exact ih hfirst h0
        · exact ih (by rw [hr]; exact List.mem_cons_of_mem _ h)

/-! ## 4. The round trip -/

/-- Packed elements pass the length check of `unpack_numeric`. -/
theorem length_putEach_mod {α : Type} (w : Nat) (bits : α → Nat) (v : List α) :
    ¬ (putEach w bits v).length % w ≠ 0 := by
  rw [length_putEach]
  simp

/-- **Packed arrays read back.** -/
theorem unpack_pack (v : MetricValue) (harray : v.datatype.isArray = true)
    (hnull : v.isNull = false) (h : Packable v) : unpack v.datatype (pack v) = .ok v := by
  cases v with
  | int8Array v =>
    simp only [unpack, unpackNumeric, pack, MetricValue.datatype, DataType.arrayElementWidth,
      if_neg (length_putEach_mod 1 _ _), putEach_one_toInt8]
  | uint8Array v =>
    simp [unpack, unpackNumeric, pack, MetricValue.datatype, DataType.arrayElementWidth,
      Nat.mod_one]
  | int16Array v =>
    rw [pack]
    simp only [unpack, unpackNumeric, MetricValue.datatype, DataType.arrayElementWidth]
    rw [if_neg (length_putEach_mod _ _ _)]
    refine congrArg (fun l => Except.ok (MetricValue.int16Array l)) ?_
    exact getEach_putEach (by omega) (fun x => ⟨x.toUInt16.toNat_lt, by simp⟩) v
  | uint16Array v =>
    rw [pack]
    simp only [unpack, unpackNumeric, MetricValue.datatype, DataType.arrayElementWidth]
    rw [if_neg (length_putEach_mod _ _ _)]
    refine congrArg (fun l => Except.ok (MetricValue.uint16Array l)) ?_
    exact getEach_putEach (by omega) (fun x => ⟨x.toNat_lt, by simp⟩) v
  | int32Array v =>
    rw [pack]
    simp only [unpack, unpackNumeric, MetricValue.datatype, DataType.arrayElementWidth]
    rw [if_neg (length_putEach_mod _ _ _)]
    refine congrArg (fun l => Except.ok (MetricValue.int32Array l)) ?_
    exact getEach_putEach (by omega) (fun x => ⟨x.toUInt32.toNat_lt, by simp⟩) v
  | uint32Array v =>
    rw [pack]
    simp only [unpack, unpackNumeric, MetricValue.datatype, DataType.arrayElementWidth]
    rw [if_neg (length_putEach_mod _ _ _)]
    refine congrArg (fun l => Except.ok (MetricValue.uint32Array l)) ?_
    exact getEach_putEach (by omega) (fun x => ⟨x.toNat_lt, by simp⟩) v
  | int64Array v =>
    rw [pack]
    simp only [unpack, unpackNumeric, MetricValue.datatype, DataType.arrayElementWidth]
    rw [if_neg (length_putEach_mod _ _ _)]
    refine congrArg (fun l => Except.ok (MetricValue.int64Array l)) ?_
    exact getEach_putEach (by omega) (fun x => ⟨x.toUInt64.toNat_lt, by simp⟩) v
  | uint64Array v =>
    rw [pack]
    simp only [unpack, unpackNumeric, MetricValue.datatype, DataType.arrayElementWidth]
    rw [if_neg (length_putEach_mod _ _ _)]
    refine congrArg (fun l => Except.ok (MetricValue.uint64Array l)) ?_
    exact getEach_putEach (by omega) (fun x => ⟨x.toNat_lt, by simp⟩) v
  | floatArray v =>
    rw [pack]
    simp only [unpack, unpackNumeric, MetricValue.datatype, DataType.arrayElementWidth]
    rw [if_neg (length_putEach_mod _ _ _)]
    refine congrArg (fun l => Except.ok (MetricValue.floatArray l)) ?_
    exact getEach_putEach (by omega) (fun x => ⟨x.bits.toNat_lt, by simp⟩) v
  | doubleArray v =>
    rw [pack]
    simp only [unpack, unpackNumeric, MetricValue.datatype, DataType.arrayElementWidth]
    rw [if_neg (length_putEach_mod _ _ _)]
    refine congrArg (fun l => Except.ok (MetricValue.doubleArray l)) ?_
    exact getEach_putEach (by omega) (fun x => ⟨x.bits.toNat_lt, by simp⟩) v
  | dateTimeArray v =>
    rw [pack]
    simp only [unpack, unpackNumeric, MetricValue.datatype, DataType.arrayElementWidth]
    rw [if_neg (length_putEach_mod _ _ _)]
    refine congrArg (fun l => Except.ok (MetricValue.dateTimeArray l)) ?_
    exact getEach_putEach (by omega) (fun x => ⟨x.toUInt64.toNat_lt, by simp⟩) v
  | booleanArray v =>
    have hcount : (UInt32.ofNat v.length).toNat = v.length := by
      rw [UInt32.toNat_ofNat', Nat.mod_eq_of_lt h]
    have hlen : (Writer.putU32Le (UInt32.ofNat v.length)).length = 4 := by simp [Writer.putU32Le]
    have hval : LittleEndian.value (Writer.putU32Le (UInt32.ofNat v.length)) = v.length := by
      rw [Writer.putU32Le, hcount]
      exact LittleEndian.value_bytes_of_lt (lt_of_lt_of_le h (by norm_num))
    simp only [unpack, unpackBool, pack, MetricValue.datatype, List.length_append, hlen,
      List.take_left' hlen, List.drop_left' hlen, hval, BitPacking.length_packBits,
      BitPacking.unpackBits_packBits]
    rw [if_neg (by omega), if_neg (by omega)]
  | stringArray v => exact unpackStrings_pack v h
  | null dt => exact absurd hnull (by simp [MetricValue.isNull])
  | _ => exact absurd harray (by simp [MetricValue.datatype, DataType.isArray, DataType.asU32])

/-! ## 5. What unpacking can return -/

theorem unpackBool_ok {data : Bytes} {v : MetricValue} (h : unpackBool data = .ok v) :
    v.datatype = .booleanArray ∧ v.isNull = false ∧ Packable v := by
  unfold unpackBool at h
  split at h
  · exact absurd h (by simp)
  · rename_i hlen
    dsimp only at h
    split at h
    · exact absurd h (by simp)
    · rw [← Except.ok.inj h]
      refine ⟨rfl, rfl, ?_⟩
      have hval := LittleEndian.value_lt (data.take 4)
      rw [List.length_take, Nat.min_eq_left (by omega)] at hval
      simpa [Packable] using hval

theorem unpackStrings_ok {data : Bytes} {v : MetricValue} (h : unpackStrings data = .ok v) :
    v.datatype = .stringArray ∧ v.isNull = false ∧ Packable v := by
  unfold unpackStrings at h
  split at h
  · rw [← Except.ok.inj h]
    exact ⟨rfl, rfl, by simp [Packable]⟩
  · dsimp only at h
    split at h
    · rename_i out hout
      rw [← Except.ok.inj h]
      refine ⟨rfl, rfl, fun s hs => ?_⟩
      rw [← zero_mem_asBytes]
      have hmem : asBytes s ∈ out.map asBytes := List.mem_map_of_mem hs
      rw [← stringsOf_ok hout] at hmem
      have hseg : asBytes s ∈ data.splitOn 0 := by
        split at hmem
        · exact List.mem_of_mem_dropLast hmem
        · exact hmem
      exact zero_not_mem_of_mem_splitOn hseg
    · exact absurd h (by simp)

theorem unpackNumeric_ok {dt : DataType} {data : Bytes} {v : MetricValue}
    (h : unpackNumeric dt data = .ok v) :
    v.datatype = dt ∧ v.isNull = false ∧ Packable v := by
  unfold unpackNumeric at h
  split at h
  · exact absurd h (by simp)
  · split at h
    · exact absurd h (by simp)
    · split at h
      all_goals first
        | (rw [← Except.ok.inj h]; exact ⟨rfl, rfl, trivial⟩)
        | exact absurd h (by simp)

/-- **What unpacking returns** is of the datatype asked for, and packs again. -/
theorem unpack_ok {dt : DataType} {data : Bytes} {v : MetricValue} (h : unpack dt data = .ok v) :
    v.datatype = dt ∧ v.isNull = false ∧ Packable v := by
  unfold unpack at h
  split at h
  · exact unpackBool_ok h
  · exact unpackStrings_ok h
  · exact unpackNumeric_ok h

end Arrays

end SparkplugB
