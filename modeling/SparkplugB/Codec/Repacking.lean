/-
# What an unpacked array packs to

`src/codec/arrays.rs`, in the direction from bytes to values and back.  `Codec/ArrayLaws.lean` has
the other one: a packed value unpacks to itself.

Bytes that `unpack` takes determine the value, and the value determines the bytes up to a slack of
its framing.

* **Numeric and temporal arrays** (`unpack_numeric`): taken exactly when the length is a multiple of
  the element width, and packed to the same bytes.
* **String arrays** (`pack_unpackStrings`): packed to the same bytes, with the last terminator put
  in where it is missing.
* **Boolean arrays** (`pack_unpackBool`): packed to the count and the bits it counts; bytes behind
  them are left out and the unused bits of the last byte cleared.
-/
import SparkplugB.Codec.ArrayLaws

namespace SparkplugB.Arrays

/-! ## 1. Numeric and temporal arrays -/

section Numeric

variable {α : Type}

/-- Elements read from whole chunks are written back as these chunks. -/
theorem putEach_getEach {w : Nat} {bits : α → Nat} {ofBits : Nat → α}
    (h : ∀ n < 256 ^ w, bits (ofBits n) = n) {data : Bytes} (hlen : w ∣ data.length) :
    putEach w bits (getEach w ofBits data) = data := by
  have hchunk : ∀ c ∈ data.chunksExact w,
      LittleEndian.bytes w (bits (ofBits (LittleEndian.value c))) = c := by
    intro c hc
    have hw := List.length_of_mem_chunksExact hc
    have hlt := LittleEndian.value_lt c
    rw [hw] at hlt
    rw [h _ hlt, ← hw, LittleEndian.bytes_value]
  calc putEach w bits (getEach w ofBits data)
      = (data.chunksExact w).flatMap
          fun c => LittleEndian.bytes w (bits (ofBits (LittleEndian.value c))) := by
        rw [putEach, getEach, List.flatMap_map]
    _ = (data.chunksExact w).flatMap id := List.flatMap_congr hchunk
    _ = data := by rw [List.flatMap_id, List.flatten_chunksExact hlen]

theorem putEach_toInt8 (data : Bytes) :
    putEach 1 (fun x => x.toUInt8.toNat) (data.map UInt8.toInt8) = data := by
  induction data with
  | nil => rfl
  | cons b data ih =>
    rw [List.map_cons, putEach, List.flatMap_cons, ← putEach, ih]
    simp [LittleEndian.bytes]

end Numeric

theorem unpack_of_width {dt : DataType} {w : Nat} (hw : dt.arrayElementWidth = some w)
    (data : Bytes) : unpack dt data = unpackNumeric dt data := by
  cases dt <;> first | rfl | exact absurd hw (by simp [DataType.arrayElementWidth])

/-- A length that leaves a rest is refused. -/
theorem unpack_of_not_dvd {dt : DataType} {w : Nat} (hw : dt.arrayElementWidth = some w)
    {data : Bytes} (h : ¬ w ∣ data.length) :
    unpack dt data = .error (.arrayLength data.length w) := by
  have hmod : data.length % w ≠ 0 := fun h0 => h (Nat.dvd_of_mod_eq_zero h0)
  rw [unpack_of_width hw]
  unfold unpackNumeric
  split
  · rename_i hnone
    exact absurd (hw.symm.trans hnone) (by simp)
  · rename_i w' hw'
    obtain rfl : w = w' := Option.some.inj (hw.symm.trans hw')
    exact if_pos hmod

/-- Whole elements are taken, and packed to the same bytes. -/
theorem unpack_of_dvd {dt : DataType} {w : Nat} (hw : dt.arrayElementWidth = some w)
    {data : Bytes} (h : w ∣ data.length) : ∃ v, unpack dt data = .ok v ∧ pack v = data := by
  have hmod : ¬ data.length % w ≠ 0 := fun hne => hne (Nat.mod_eq_zero_of_dvd h)
  rw [unpack_of_width hw]
  cases dt with
  | int8Array =>
    obtain rfl := Option.some.inj hw
    refine ⟨_, if_neg hmod, ?_⟩
    exact putEach_toInt8 data
  | uint8Array =>
    obtain rfl := Option.some.inj hw
    refine ⟨_, if_neg hmod, ?_⟩
    rfl
  | int16Array =>
    obtain rfl := Option.some.inj hw
    refine ⟨_, if_neg hmod, ?_⟩
    exact putEach_getEach (fun n hn => by simpa using Nat.mod_eq_of_lt hn) h
  | uint16Array =>
    obtain rfl := Option.some.inj hw
    refine ⟨_, if_neg hmod, ?_⟩
    exact putEach_getEach (fun n hn => by simpa using Nat.mod_eq_of_lt hn) h
  | int32Array =>
    obtain rfl := Option.some.inj hw
    refine ⟨_, if_neg hmod, ?_⟩
    exact putEach_getEach (fun n hn => by simpa using Nat.mod_eq_of_lt hn) h
  | uint32Array =>
    obtain rfl := Option.some.inj hw
    refine ⟨_, if_neg hmod, ?_⟩
    exact putEach_getEach (fun n hn => by simpa using Nat.mod_eq_of_lt hn) h
  | floatArray =>
    obtain rfl := Option.some.inj hw
    refine ⟨_, if_neg hmod, ?_⟩
    exact putEach_getEach (fun n hn => by simpa using Nat.mod_eq_of_lt hn) h
  | int64Array =>
    obtain rfl := Option.some.inj hw
    refine ⟨_, if_neg hmod, ?_⟩
    exact putEach_getEach (fun n hn => by simpa using Nat.mod_eq_of_lt hn) h
  | uint64Array =>
    obtain rfl := Option.some.inj hw
    refine ⟨_, if_neg hmod, ?_⟩
    exact putEach_getEach (fun n hn => by simpa using Nat.mod_eq_of_lt hn) h
  | doubleArray =>
    obtain rfl := Option.some.inj hw
    refine ⟨_, if_neg hmod, ?_⟩
    exact putEach_getEach (fun n hn => by simpa using Nat.mod_eq_of_lt hn) h
  | dateTimeArray =>
    obtain rfl := Option.some.inj hw
    refine ⟨_, if_neg hmod, ?_⟩
    exact putEach_getEach (fun n hn => by simpa using Nat.mod_eq_of_lt hn) h
  | _ => exact absurd hw (by simp [DataType.arrayElementWidth])

/-- **Numeric and temporal arrays** are taken exactly when the length is a multiple of the element
width, and lose nothing. -/
theorem unpack_numeric {dt : DataType} {w : Nat} (hw : dt.arrayElementWidth = some w)
    (data : Bytes) :
    ((∃ v, unpack dt data = .ok v) ↔ w ∣ data.length) ∧
    ∀ v, unpack dt data = .ok v → pack v = data := by
  by_cases h : w ∣ data.length
  · obtain ⟨v, hv, hpack⟩ := unpack_of_dvd hw h
    refine ⟨⟨fun _ => h, fun _ => ⟨v, hv⟩⟩, fun v' hv' => ?_⟩
    rw [hv] at hv'
    rwa [← Except.ok.inj hv']
  · have herr := unpack_of_not_dvd hw h
    refine ⟨⟨fun ⟨v, hv⟩ => ?_, fun hdvd => absurd hdvd h⟩, fun v hv => ?_⟩
    · rw [herr] at hv
      exact absurd hv (by simp)
    · rw [herr] at hv
      exact absurd hv (by simp)

/-! ## 2. String arrays -/

/-- The pieces between separators, each with a separator behind it, are the bytes with one more
separator at the end. -/
theorem flatMap_terminated_splitOn (data : Bytes) :
    ((data.splitOn 0).flatMap fun seg => seg ++ [0]) = data ++ [0] := by
  induction data with
  | nil => rfl
  | cons b data ih =>
    rw [List.splitOn_cons_eq_if_modifyHead]
    split
    · rename_i hb
      rw [List.flatMap_cons, ih, eq_of_beq hb]
      rfl
    · cases hsplit : data.splitOn 0 with
      | nil => exact absurd hsplit (List.splitOn_ne_nil 0 data)
      | cons first more =>
        rw [hsplit, List.flatMap_cons] at ih
        rw [List.modifyHead_cons, List.flatMap_cons, List.cons_append, List.cons_append, ih]
        rfl

/-- Where the bytes end in a separator, the piece behind it is empty and may go. -/
theorem flatMap_terminated_dropLast {data : Bytes} (h : data.getLast? = some 0) :
    ((data.splitOn 0).dropLast.flatMap fun seg => seg ++ [0]) = data := by
  obtain ⟨init, last, hsegs⟩ := List.eq_nil_or_concat (data.splitOn 0) |>.resolve_left
    (List.splitOn_ne_nil 0 data)
  have hall := flatMap_terminated_splitOn data
  rw [List.concat_eq_append] at hsegs
  rw [hsegs, List.flatMap_append, List.flatMap_singleton, ← List.append_assoc] at hall
  have hdata := List.append_cancel_right hall
  rw [hsegs, List.dropLast_concat]
  have hnil : last = [] := by
    rcases List.eq_nil_or_concat last with hnil | ⟨front, b, hconcat⟩
    · exact hnil
    · -- a last piece with a last byte `b` would make `b` the last byte of all
      rw [List.concat_eq_append] at hconcat
      subst hconcat
      rw [← hdata, ← List.append_assoc, List.getLast?_concat] at h
      have hmem : front ++ [b] ∈ data.splitOn 0 := by
        rw [hsegs]
        simp
      have hzero := zero_not_mem_of_mem_splitOn hmem
      rw [Option.some.inj h] at hzero
      exact absurd (by simp) hzero
  rwa [hnil, List.append_nil] at hdata

/-- **String arrays** pack to the bytes they were read from, with a last terminator if it was
missing. -/
theorem pack_unpackStrings {data : Bytes} {v : MetricValue} (h : unpackStrings data = .ok v) :
    pack v = if data = [] ∨ data.getLast? = some 0 then data else data ++ [0] := by
  unfold unpackStrings at h
  split at h
  · rename_i hnil
    rw [← Except.ok.inj h, if_pos (Or.inl hnil), hnil]
    rfl
  · rename_i hne
    dsimp only at h
    split at h
    · rename_i out hout
      have hpack : pack (.stringArray out) = (out.map asBytes).flatMap fun seg => seg ++ [0] := by
        rw [pack, List.flatMap_map]
      rw [← Except.ok.inj h, hpack, ← stringsOf_ok hout]
      by_cases hlast : data.getLast? = some 0
      · rw [if_pos hlast, if_pos (Or.inr hlast), flatMap_terminated_dropLast hlast]
      · rw [if_neg hlast, if_neg (by simp [hne, hlast]), flatMap_terminated_splitOn]
    · exact absurd h (by simp)

/-! ## 3. Boolean arrays -/

/-- **Boolean arrays** pack to the count they were read with and the bits it counts. -/
theorem pack_unpackBool {data : Bytes} {v : MetricValue} (h : unpackBool data = .ok v) :
    pack v = data.take 4 ++
      BitPacking.masked (data.drop 4) (LittleEndian.value (data.take 4)) := by
  unfold unpackBool at h
  split at h
  · exact absurd h (by simp)
  · rename_i hlen
    dsimp only at h
    split at h
    · exact absurd h (by simp)
    · rename_i hbits
      have hfour : (data.take 4).length = 4 := List.length_take_of_le (by omega)
      have hlt : LittleEndian.value (data.take 4) < 2 ^ 32 := by
        have hval := LittleEndian.value_lt (data.take 4)
        rw [hfour] at hval
        omega
      have hcount : Writer.putU32Le (UInt32.ofNat (LittleEndian.value (data.take 4))) =
          data.take 4 := by
        rw [Writer.putU32Le, UInt32.toNat_ofNat', Nat.mod_eq_of_lt hlt]
        have hval := LittleEndian.bytes_value (data.take 4)
        rwa [hfour] at hval
      rw [← Except.ok.inj h, pack, BitPacking.length_unpackBits, hcount,
        BitPacking.packBits_unpackBits (by omega)]

/-! ## 4. The whole table -/

/-- **Packing is a bijection up to the slack of its framings**: every array that can be packed
without loss reads back, and what was read packs again to the same bytes, a missing last
terminator of a StringArray and the unread bits of a BooleanArray apart. -/
theorem packs_bijectively :
    (∀ v : MetricValue, v.datatype.isArray = true → v.isNull = false → Packable v →
      unpack v.datatype (pack v) = .ok v) ∧
    (∀ dt : DataType, dt.isArray = true → dt ≠ .booleanArray → dt ≠ .stringArray →
      ∃ w, dt.arrayElementWidth = some w ∧ ∀ b : Bytes,
        ((∃ v, unpack dt b = .ok v) ↔ w ∣ b.length) ∧ ∀ v, unpack dt b = .ok v → pack v = b) ∧
    (∀ (b : Bytes) (v : MetricValue), unpack .stringArray b = .ok v →
      pack v = if b = [] ∨ b.getLast? = some 0 then b else b ++ [0]) ∧
    (∀ (b : Bytes) (v : MetricValue), unpack .booleanArray b = .ok v →
      pack v = b.take 4 ++ BitPacking.masked (b.drop 4) (LittleEndian.value (b.take 4))) := by
  refine ⟨unpack_pack, fun dt harray hbool hstring => ?_, fun b v h => pack_unpackStrings h,
    fun b v h => pack_unpackBool h⟩
  obtain ⟨w, hw⟩ : ∃ w, dt.arrayElementWidth = some w := by
    cases dt <;> first
      | exact ⟨_, rfl⟩
      | exact absurd rfl hbool
      | exact absurd rfl hstring
      | exact absurd harray (by decide)
  exact ⟨w, hw, unpack_numeric hw⟩

/-- Nine flags read back, and so do bytes with a tenth flag and a tenth byte behind them. -/
theorem packs_bijectively_flags :
    unpack .booleanArray (pack (.booleanArray (List.replicate 9 true))) =
      .ok (.booleanArray (List.replicate 9 true)) ∧
    pack (.booleanArray (List.replicate 9 true)) =
      [9, 0, 0, 0] ++ BitPacking.masked [0xff, 0xc0, 0x01] 9 :=
  ⟨packs_bijectively.1 (.booleanArray (List.replicate 9 true)) (by decide) rfl (by decide),
    packs_bijectively.2.2.2 [9, 0, 0, 0, 0xff, 0xc0, 0x01] (.booleanArray (List.replicate 9 true))
      rfl⟩

example : unpack .stringArray [0x61, 0, 0, 0x62] = .ok (.stringArray ["a", "", "b"]) := rfl

end SparkplugB.Arrays
