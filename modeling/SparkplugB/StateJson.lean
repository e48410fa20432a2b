/-
# STATE texts as JSON

What a STATE text says as JSON (`IsStateJson`), and where the hand parser reads it so.

* **Simple objects** (`parse_simple`): where every comma stands between two members and every name
  is written without a colon and without an escape, the pieces that `parse` cuts the text into are
  the members, and `parse` reads from them what the object holds: one flag `online`, one integer
  `timestamp`, and members of other names with any value.
* **Any text** (`says_of_parse`): what `parse` returns stands in the text, in braces, as a piece
  named `online` and a piece named `timestamp`.
* **Other objects** (`not_reads_json`): a comma inside a value, or an escape inside one of the two
  names, is read as something else.
-/
import SparkplugB.StateFields
import SparkplugB.Lib.Json

namespace SparkplugB.StatePayload

open Json

/-! ## 1. The state that an object holds -/

/-- The values of an object under a name. -/
def valuesOf (name : String) (ms : List (List Nat × Value)) : List Value :=
  (ms.filter fun m => m.1 = unitsOf name).map Prod.snd

/-- The object has one member `online` and one member `timestamp`, with the flag and the integer
of `p`. -/
def Holds (ms : List (List Nat × Value)) (p : StatePayload) : Prop :=
  valuesOf "online" ms = [.bool p.online] ∧ valuesOf "timestamp" ms = [.int p.timestamp.toInt]

/-- **What a STATE text says as JSON**: up to white space around it, it is an object that holds
`p`. -/
def IsStateJson (s : String) (p : StatePayload) : Prop :=
  ∃ lead t trail ms, s.toList = lead ++ (t ++ trail) ∧ Blank lead ∧ Blank trail ∧
    Value.Spells (.object ms) t ∧ Holds ms p

/-! ## 2. Members -/

/-- A JSON member whose separators stand where `parse` looks for them: there is no comma inside it,
and neither a colon nor an escape in its name. -/
structure SimpleMember (f : SpacedField) (m : List Nat × Value) : Prop where
  beforeKey : Space f.beforeKey
  name : StringSpells m.1 f.key
  afterKey : Space f.afterKey
  beforeValue : Space f.beforeValue
  value : m.2.Spells f.value
  afterValue : Space f.afterValue
  escape : '\\' ∉ f.key
  colon : ':' ∉ f.key
  comma : ',' ∉ f.key
  valueComma : ',' ∉ f.value

theorem blank_of_space {s : List Char} (h : Space s) : Blank s := by
  intro c hc
  rcases h c hc with rfl | rfl | rfl | rfl <;> decide

namespace SimpleMember

variable {f : SpacedField} {m : List Nat × Value}

theorem spells (h : SimpleMember f m) : Member.Spells m f.text :=
  .mk h.beforeKey h.name h.afterKey h.beforeValue h.value h.afterValue

theorem wellFormed (h : SimpleMember f m) : f.WellFormed where
  beforeKey := blank_of_space h.beforeKey
  afterKey := blank_of_space h.afterKey
  beforeValue := blank_of_space h.beforeValue
  afterValue := blank_of_space h.afterValue
  quote := (h.name.eq_map h.escape).2
  colon := h.colon
  comma := h.comma
  valueComma := h.valueComma

/-- The name in the text is the name of the member. -/
theorem key_eq_iff (h : SimpleMember f m) (name : String) :
    f.key = name.toList ↔ m.1 = unitsOf name := by
  rw [(h.name.eq_map h.escape).1, unitsOf]
  exact (List.map_injective_iff.mpr fun _ _ hc => Char.toNat_inj.mp hc).eq_iff.symm

end SimpleMember

theorem toNat_range_of_isAlphanum {c : Char} (h : c.isAlphanum = true) :
    48 ≤ c.toNat ∧ c.toNat ≤ 122 := by
  simp only [Char.isAlphanum, Char.isAlpha, Char.isUpper, Char.isLower, Char.isDigit,
    Bool.or_eq_true, Bool.and_eq_true, decide_eq_true_eq, ge_iff_le,
    UInt32.le_iff_toNat_le] at h
  have hval : c.val.toNat = c.toNat := rfl
  have h0 : '0'.val.toNat = 48 := rfl
  have h9 : '9'.val.toNat = 57 := rfl
  have hA : 'A'.val.toNat = 65 := rfl
  have hZ : 'Z'.val.toNat = 90 := rfl
  have ha : 'a'.val.toNat = 97 := rfl
  have hz : 'z'.val.toNat = 122 := rfl
  omega

theorem not_isWhitespace_of_isAlphanum {c : Char} (h : c.isAlphanum = true) :
    isWhitespace c = false := by
  have hrange := toNat_range_of_isAlphanum h
  unfold isWhitespace
  simp only [Bool.or_eq_false_iff, Bool.and_eq_false_iff, decide_eq_false_iff_not]
  omega

/-- The text of a value needs no trimming. -/
theorem trim_of_spells {v : Value} {t : List Char} (h : v.Spells t) : trim t = t := by
  rcases h.shape with hplain | ⟨a, m, b, rfl, hab⟩
  · refine trimMatches_of_all fun c hc => ?_
    rcases hplain c hc with halnum | rfl | rfl | rfl
    · exact not_isWhitespace_of_isAlphanum halnum
    · decide
    · decide
    · decide
  · rcases hab with ⟨rfl, rfl⟩ | ⟨rfl, rfl⟩ | ⟨rfl, rfl⟩ <;>
      exact trimMatches_of_ends (by decide) (by decide)

/-- **An integer is read** exactly where the value is one that fits. -/
theorem parseInt64_iff {v : Value} {t : List Char} (h : v.Spells t) (n : Int64) :
    parseInt64 t = .ok n ↔ v = .int n.toInt := by
  constructor
  · intro hparse
    obtain ⟨ds, hne, hdigits, ⟨ht, hn⟩ | ⟨ht, hn⟩⟩ := parseInt64_ok hparse
    · rcases ht with ht | ht
      · rw [(h.eq_int ⟨hne, hdigits⟩).1 ht, hn]
      · exact absurd ht (h.eq_int ⟨hne, hdigits⟩).2.2
    · rw [(h.eq_int ⟨hne, hdigits⟩).2.1 ht, hn]
  · rintro rfl
    have hlt := toInt_lt n
    have hge := le_toInt n
    cases h with
    | int h =>
      obtain ⟨ds, hds, ⟨rfl, hn⟩ | ⟨rfl, hn⟩⟩ := h.exists_digits
      · rw [parseInt64_of_digits hds.1 hds.2 (by omega), ← hn, Int64.ofInt_toInt]
      · rw [parseInt64_of_minus hds.1 hds.2 (by omega), ← hn, Int64.ofInt_toInt]

/-- A flag is read exactly where the value is one. -/
theorem setKey_online_ok {v : Value} {t : List Char} (h : v.Spells t)
    (acc acc' : Option Bool × Option Int64) :
    setKey acc "online" t = .ok acc' ↔ ∃ b, v = .bool b ∧ acc' = (some b, acc.2) := by
  constructor
  · intro hset
    rw [setKey, if_pos rfl] at hset
    split at hset
    · rename_i ht
      obtain rfl : t = (toString true).toList := by rw [← String.toList_ofList (l := t), ht]; rfl
      exact ⟨true, h.eq_bool, (Except.ok.inj hset).symm⟩
    · split at hset
      · rename_i ht
        obtain rfl : t = (toString false).toList := by
          rw [← String.toList_ofList (l := t), ht]; rfl
        exact ⟨false, h.eq_bool, (Except.ok.inj hset).symm⟩
      · contradiction
  · rintro ⟨b, rfl, rfl⟩
    cases h with
    | bool b => exact setKey_online acc b

theorem setKey_timestamp_ok {v : Value} {t : List Char} (h : v.Spells t)
    (acc acc' : Option Bool × Option Int64) :
    setKey acc "timestamp" t = .ok acc' ↔
      ∃ n : Int64, v = .int n.toInt ∧ acc' = (acc.1, some n) := by
  rw [setKey, if_neg (by decide), if_pos rfl]
  constructor
  · intro hset
    split at hset
    · rename_i n hn
      exact ⟨n, (parseInt64_iff h n).mp hn, (Except.ok.inj hset).symm⟩
    · contradiction
  · rintro ⟨n, hv, rfl⟩
    rw [(parseInt64_iff h n).mpr hv]

/-- What a member of an object sets. -/
theorem setField_simple {f : SpacedField} {m : List Nat × Value} (h : SimpleMember f m)
    (acc : Option Bool × Option Int64) :
    (m.1 = unitsOf "online" → setField acc f = setKey acc "online" f.value) ∧
    (m.1 = unitsOf "timestamp" → setField acc f = setKey acc "timestamp" f.value) ∧
    (m.1 ≠ unitsOf "online" → m.1 ≠ unitsOf "timestamp" → setField acc f = .ok acc) := by
  rw [setField, trim_of_spells h.value]
  refine ⟨fun hname => ?_, fun hname => ?_, fun honline htimestamp => ?_⟩
  · rw [(h.key_eq_iff "online").mpr hname, String.ofList_toList]
  · rw [(h.key_eq_iff "timestamp").mpr hname, String.ofList_toList]
  · exact setKey_other ⟨fun hkey => honline ((h.key_eq_iff _).mp hkey),
      fun hkey => htimestamp ((h.key_eq_iff _).mp hkey)⟩ acc f.value

/-! ## 3. Simple objects -/

/-- What the values under a name leave of a slot: nothing new without a value, and the reading of
the only value otherwise. -/
def Fills {α : Type} (reads : α → Value) (old new : Option α) (vs : List Value) : Prop :=
  (vs = [] ∧ new = old) ∨ ∃ a, vs = [reads a] ∧ new = some a

theorem valuesOf_cons (name : String) (m : List Nat × Value) (ms : List (List Nat × Value)) :
    valuesOf name (m :: ms) =
      if m.1 = unitsOf name then m.2 :: valuesOf name ms else valuesOf name ms := by
  by_cases h : m.1 = unitsOf name <;> simp [valuesOf, h]

@[simp] theorem fills_nil {α : Type} (reads : α → Value) (old new : Option α) :
    Fills reads old new [] ↔ new = old := by simp [Fills]

@[simp] theorem fills_singleton {α : Type} (reads : α → Value) (old new : Option α) (v : Value) :
    Fills reads old new [v] ↔ ∃ a, v = reads a ∧ new = some a := by simp [Fills]

/-- The fold over the members of a simple object in which neither name comes twice. -/
theorem foldlM_simple {fields : List SpacedField} {ms : List (List Nat × Value)}
    (h : List.Forall₂ SimpleMember fields ms) :
    ∀ acc acc' : Option Bool × Option Int64, (valuesOf "online" ms).length ≤ 1 →
      (valuesOf "timestamp" ms).length ≤ 1 →
      (fields.foldlM setField acc = .ok acc' ↔
        Fills Value.bool acc.1 acc'.1 (valuesOf "online" ms) ∧
        Fills (fun n : Int64 => Value.int n.toInt) acc.2 acc'.2 (valuesOf "timestamp" ms)) := by
  induction h with
  | nil =>
    intro acc acc' _ _
    have hnil : ∀ name, valuesOf name [] = [] := fun _ => rfl
    rw [hnil, hnil, fills_nil, fills_nil, List.foldlM_nil]
    constructor
    · intro heq
      obtain rfl : acc = acc' := Except.ok.inj heq
      exact ⟨rfl, rfl⟩
    · rintro ⟨h1, h2⟩
      exact congrArg Except.ok (Prod.ext h1.symm h2.symm)
  | @cons f m fields ms hm _ ih =>
    intro acc acc' honline htimestamp
    obtain ⟨hset1, hset2, hset3⟩ := setField_simple hm acc
    have hbind : (f :: fields).foldlM setField acc = .ok acc' ↔
        ∃ acc1, setField acc f = .ok acc1 ∧ fields.foldlM setField acc1 = .ok acc' := by
      rw [List.foldlM_cons]
      exact ⟨ok_of_bind, fun ⟨acc1, h1, h2⟩ => bind_of_ok h1 h2⟩
    have hdistinct : unitsOf "online" ≠ unitsOf "timestamp" := by decide
    rw [hbind]
    rw [valuesOf_cons] at honline htimestamp ⊢
    rw [valuesOf_cons "timestamp"]
    by_cases h1 : m.1 = unitsOf "online"
    · have h2 : m.1 ≠ unitsOf "timestamp" := fun h2 => hdistinct (h1.symm.trans h2)
      rw [if_pos h1] at honline ⊢
      rw [if_neg h2] at htimestamp ⊢
      have hnone : valuesOf "online" ms = [] :=
        List.length_eq_zero_iff.mp (by rw [List.length_cons] at honline; omega)
      have hrest := fun acc1 => ih acc1 acc' (by simp [hnone]) htimestamp
      simp only [hset1 h1, setKey_online_ok hm.value, hrest, hnone, fills_nil, fills_singleton]
      constructor
      · rintro ⟨acc1, ⟨b, hb, rfl⟩, hslot, hts⟩
        exact ⟨⟨b, hb, hslot⟩, hts⟩
      · rintro ⟨⟨b, hb, hslot⟩, hts⟩
        exact ⟨_, ⟨b, hb, rfl⟩, hslot, hts⟩
    · rw [if_neg h1] at honline ⊢
      by_cases h2 : m.1 = unitsOf "timestamp"
      · rw [if_pos h2] at htimestamp ⊢
        have hnone : valuesOf "timestamp" ms = [] :=
          List.length_eq_zero_iff.mp (by rw [List.length_cons] at htimestamp; omega)
        have hrest := fun acc1 => ih acc1 acc' honline (by simp [hnone])
        simp only [hset2 h2, setKey_timestamp_ok hm.value, hrest, hnone, fills_nil,
          fills_singleton]
        constructor
        · rintro ⟨acc1, ⟨n, hn, rfl⟩, hon, hslot⟩
          exact ⟨hon, n, hn, hslot⟩
        · rintro ⟨hon, n, hn, hslot⟩
          exact ⟨_, ⟨n, hn, rfl⟩, hon, hslot⟩
      · rw [if_neg h2] at htimestamp ⊢
        rw [hset3 h1 h2, ← ih acc acc' honline htimestamp]
        constructor
        · rintro ⟨acc1, h, hfold⟩
          rwa [← Except.ok.inj h] at hfold
        · intro hfold
          exact ⟨acc, rfl, hfold⟩

/-- The text of a simple object, and its members. -/
def IsSimpleJson (s : String) (ms : List (List Nat × Value)) : Prop :=
  ∃ lead fields trail, s = String.ofList (object lead fields trail) ∧ Blank lead ∧ Blank trail ∧
    List.Forall₂ SimpleMember fields ms

/-- A simple object is a JSON object. -/
theorem IsSimpleJson.isStateJson {s : String} {ms : List (List Nat × Value)} {p : StatePayload}
    (h : IsSimpleJson s ms) (hp : Holds ms p) : IsStateJson s p := by
  obtain ⟨lead, fields, trail, rfl, hlead, htrail, hfields⟩ := h
  refine ⟨lead, _, trail, ms, String.toList_ofList, hlead, htrail, ?_, hp⟩
  have hne : ms ≠ [] := by
    rintro rfl
    exact absurd hp.1 (by simp [valuesOf])
  refine .object hne ?_
  rw [List.forall₂_map_right_iff]
  exact hfields.flip.imp fun _ _ hm => hm.spells

theorem eq_of_finish {acc : Option Bool × Option Int64} {p : StatePayload}
    (h : finish acc = .ok p) : acc = (some p.online, some p.timestamp) := by
  unfold finish at h
  split at h
  · rw [← Except.ok.inj h]
  · contradiction

/-- **Simple objects are read as JSON.** -/
theorem parse_simple {s : String} {ms : List (List Nat × Value)} (h : IsSimpleJson s ms)
    (honline : (valuesOf "online" ms).length ≤ 1)
    (htimestamp : (valuesOf "timestamp" ms).length ≤ 1) (p : StatePayload) :
    parse s = .ok p ↔ Holds ms p := by
  obtain ⟨lead, fields, trail, rfl, hlead, htrail, hfields⟩ := h
  have hwf : ∀ f ∈ fields, f.WellFormed :=
    (List.forall₂_and_left _ _ |>.mp (hfields.imp fun _ _ hm => ⟨hm.wellFormed, hm⟩)).1
  rw [parse_object hlead htrail hwf]
  have hfold := fun acc' => foldlM_simple hfields (none, none) acc' honline htimestamp
  constructor
  · intro hparse
    obtain ⟨acc', hacc, hfinish⟩ := ok_of_bind hparse
    obtain rfl := eq_of_finish hfinish
    obtain ⟨hon, hts⟩ := (hfold _).mp hacc
    refine ⟨?_, ?_⟩
    · rcases hon with ⟨-, hnone⟩ | ⟨b, hvalues, hb⟩
      · exact absurd hnone (by simp)
      · rw [hvalues, Option.some.inj hb]
    · rcases hts with ⟨-, hnone⟩ | ⟨n, hvalues, hn⟩
      · exact absurd hnone (by simp)
      · rw [hvalues, Option.some.inj hn]
  · intro hp
    exact bind_of_ok ((hfold (some p.online, some p.timestamp)).mpr
      ⟨.inr ⟨p.online, hp.1, rfl⟩, .inr ⟨p.timestamp, hp.2, rfl⟩⟩) rfl

/-! ## 4. Any text -/

/-- A piece of the text that has, up to white space and quotes, the name `name`, and a value of which
`value` holds. -/
def Says (name : String) (value : List Char → Prop) (piece : List Char) : Prop :=
  ∃ k v, splitOnce ':' piece = some (k, v) ∧
    String.ofList (trimMatches (· = '"') (trim k)) = name ∧ value (trim v)

/-- What one piece changes, it says. -/
theorem says_of_parseField {acc acc' : Option Bool × Option Int64} {piece : List Char}
    (h : parseField acc piece = .ok acc') :
    (acc'.1 = acc.1 ∨ ∃ b, acc'.1 = some b ∧ Says "online" (· = (toString b).toList) piece) ∧
    (acc'.2 = acc.2 ∨ ∃ n, acc'.2 = some n ∧
      Says "timestamp" (fun v => parseInt64 v = .ok n) piece) := by
  unfold parseField at h
  split at h
  · obtain rfl := Except.ok.inj h
    exact ⟨.inl rfl, .inl rfl⟩
  · split at h
    · contradiction
    · rename_i key value hpiece
      dsimp only at h
      split at h
      · rename_i hkey
        have hflag : ∀ b : Bool, String.ofList (trim value) = toString b →
            Says "online" (· = (toString b).toList) piece := fun b hb =>
          ⟨key, value, hpiece, hkey, by rw [← hb, String.toList_ofList]⟩
        split at h
        · rename_i hvalue
          obtain rfl := Except.ok.inj h
          exact ⟨.inr ⟨true, rfl, hflag true hvalue⟩, .inl rfl⟩
        · split at h
          · rename_i hvalue
            obtain rfl := Except.ok.inj h
            exact ⟨.inr ⟨false, rfl, hflag false hvalue⟩, .inl rfl⟩
          · contradiction
      · split at h
        · rename_i hkey
          split at h
          · rename_i n hn
            obtain rfl := Except.ok.inj h
            exact ⟨.inl rfl, .inr ⟨n, rfl, key, value, hpiece, hkey, hn⟩⟩
          · contradiction
        · obtain rfl := Except.ok.inj h
          exact ⟨.inl rfl, .inl rfl⟩

theorem says_of_foldlM : ∀ {pieces : List (List Char)} {acc acc' : Option Bool × Option Int64},
    pieces.foldlM parseField acc = .ok acc' →
    (acc'.1 = acc.1 ∨ ∃ b, acc'.1 = some b ∧
      ∃ piece ∈ pieces, Says "online" (· = (toString b).toList) piece) ∧
    (acc'.2 = acc.2 ∨ ∃ n, acc'.2 = some n ∧
      ∃ piece ∈ pieces, Says "timestamp" (fun v => parseInt64 v = .ok n) piece)
  | [], acc, acc', h => by
    obtain rfl : acc = acc' := Except.ok.inj h
    exact ⟨.inl rfl, .inl rfl⟩
  | piece :: pieces, acc, acc', h => by
    rw [List.foldlM_cons] at h
    obtain ⟨acc1, hfirst, hrest⟩ := ok_of_bind h
    obtain ⟨hon, hts⟩ := says_of_parseField hfirst
    obtain ⟨hon', hts'⟩ := says_of_foldlM hrest
    refine ⟨?_, ?_⟩
    · rcases hon' with heq | ⟨b, hb, q, hq, hsays⟩
      · rw [heq]
        exact hon.imp id fun ⟨b, hb, hsays⟩ => ⟨b, hb, piece, List.mem_cons_self, hsays⟩
      · exact .inr ⟨b, hb, q, List.mem_cons_of_mem _ hq, hsays⟩
    · rcases hts' with heq | ⟨n, hn, q, hq, hsays⟩
      · rw [heq]
        exact hts.imp id fun ⟨n, hn, hsays⟩ => ⟨n, hn, piece, List.mem_cons_self, hsays⟩
      · exact .inr ⟨n, hn, q, List.mem_cons_of_mem _ hq, hsays⟩

theorem eq_of_stripBraces {s inner : List Char} (h : stripBraces s = some inner) :
    s = '\x7b' :: (inner ++ ['\x7d']) := by
  unfold stripBraces at h
  split at h
  · rename_i rest
    split at h
    · rename_i hlast
      obtain rfl := Option.some.inj h
      rw [List.dropLast_append_getLast? _ hlast]
    · contradiction
  · contradiction

/-- **What is read stands in the text**, in braces: the flag as a piece named `online` and the
timestamp as a piece named `timestamp`. -/
theorem says_of_parse {s : String} {p : StatePayload} (h : parse s = .ok p) :
    ∃ inner, trim s.toList = '\x7b' :: (inner ++ ['\x7d']) ∧
      (∃ piece ∈ inner.splitOn ',', Says "online" (· = (toString p.online).toList) piece) ∧
      ∃ piece ∈ inner.splitOn ',',
        Says "timestamp" (fun v => parseInt64 v = .ok p.timestamp) piece := by
  rw [parse_eq] at h
  split at h
  · rename_i inner hbraces
    obtain ⟨acc, hfold, hfinish⟩ := ok_of_bind h
    obtain rfl : acc = (some p.online, some p.timestamp) := eq_of_finish hfinish
    obtain ⟨hon, hts⟩ := says_of_foldlM hfold
    refine ⟨inner, eq_of_stripBraces hbraces, ?_, ?_⟩
    · rcases hon with hnone | ⟨b, hb, hsays⟩
      · exact absurd hnone (by simp)
      · rwa [Option.some.inj hb]
    · rcases hts with hnone | ⟨n, hn, hsays⟩
      · exact absurd hnone (by simp)
      · rwa [Option.some.inj hn]
  · contradiction

/-! ## 5. The amended claim, and where JSON is read otherwise -/

/-- **STATE parsing agrees with JSON on simple objects.**  A simple object in which neither name
comes twice is read exactly where it holds a state, and then as this state; and whatever text is
read, it is in braces and has a piece named `online` with the flag and one named `timestamp` with
the integer. -/
theorem parses_simple_objects :
    (∀ (s : String) (ms : List (List Nat × Value)), IsSimpleJson s ms →
      (valuesOf "online" ms).length ≤ 1 → (valuesOf "timestamp" ms).length ≤ 1 →
      ∀ p : StatePayload, parse s = .ok p ↔ Holds ms p) ∧
    ∀ (s : String) (p : StatePayload), parse s = .ok p →
      ∃ inner, trim s.toList = '\x7b' :: (inner ++ ['\x7d']) ∧
        (∃ piece ∈ inner.splitOn ',', Says "online" (· = (toString p.online).toList) piece) ∧
        ∃ piece ∈ inner.splitOn ',',
          Says "timestamp" (fun v => parseInt64 v = .ok p.timestamp) piece :=
  ⟨fun _ _ h honline htimestamp p => parse_simple h honline htimestamp p,
    fun _ _ h => says_of_parse h⟩

/-- A member without white space around its tokens. -/
def tightField (key value : String) : SpacedField := { key := key.toList, value := value.toList }

theorem space_nil : Space [] := fun _ hc => absurd hc List.not_mem_nil

/-- A name of letters and digits. -/
theorem stringSpells_of_isAlphanum {key : String} (h : key.toList.all Char.isAlphanum = true) :
    StringSpells (unitsOf key) key.toList := by
  refine .of_plain fun c hc => ?_
  have halnum := List.all_eq_true.mp h c hc
  have hblank := not_isWhitespace_of_isAlphanum halnum
  refine ⟨?_, ?_, ?_⟩
  · rintro rfl
    exact absurd halnum (by decide)
  · rintro rfl
    exact absurd halnum (by decide)
  · have := toNat_range_of_isAlphanum halnum
    omega

theorem spells_tight (key value : String) {v : Value} (hv : v.Spells value.toList)
    (hkey : key.toList.all Char.isAlphanum = true) :
    Member.Spells (unitsOf key, v) (tightField key value).text :=
  .mk space_nil (stringSpells_of_isAlphanum hkey) space_nil space_nil hv space_nil

theorem simpleMember_tight (key value : String) {v : Value} (hv : v.Spells value.toList)
    (hkey : key.toList.all Char.isAlphanum = true) (hvalue : ',' ∉ value.toList) :
    SimpleMember (tightField key value) (unitsOf key, v) := by
  have hnot : ∀ c : Char, c.isAlphanum = false → c ∉ key.toList := fun c hc hmem => by
    rw [List.all_eq_true.mp hkey c hmem] at hc
    contradiction
  exact ⟨space_nil, stringSpells_of_isAlphanum hkey, space_nil, space_nil, hv, space_nil,
    hnot _ (by decide), hnot _ (by decide), hnot _ (by decide), hvalue⟩

theorem spells_digit (c : Char) (n : Nat) (hn : n = Nat.ofDigitChars 10 [c] 0) (hne : c ≠ '0')
    (hdigit : c.isDigit = true) : Value.Spells (.int n) [c] := by
  rw [hn]
  exact .int (.nonneg (.digits hne ⟨by simp, by simpa using hdigit⟩))

/-- A flag and a timestamp, and nothing else: what `parse` returns is what the text says as JSON. -/
theorem parses_simple_objects_online :
    parse (String.ofList (object [] [tightField "online" "true", tightField "timestamp" "1"] [])) =
        .ok ⟨true, 1⟩ ∧
      IsStateJson
        (String.ofList (object [] [tightField "online" "true", tightField "timestamp" "1"] []))
        ⟨true, 1⟩ := by
  have hsimple : IsSimpleJson
      (String.ofList (object [] [tightField "online" "true", tightField "timestamp" "1"] []))
      [(unitsOf "online", .bool true), (unitsOf "timestamp", .int 1)] :=
    ⟨[], _, [], rfl, by decide, by decide,
      .cons (simpleMember_tight "online" "true" (.bool true) (by decide) (by decide))
        (.cons (simpleMember_tight "timestamp" "1"
          (spells_digit '1' 1 rfl (by decide) (by decide)) (by decide) (by decide)) .nil)⟩
  exact ⟨(parses_simple_objects.1 _ _ hsimple (by decide) (by decide) ⟨true, 1⟩).mpr ⟨rfl, rfl⟩,
    hsimple.isStateJson ⟨rfl, rfl⟩⟩

theorem mem_intercalate_cons {c : Char} {t : List Char} (h : c ∈ t) (ts : List (List Char)) :
    c ∈ [','].intercalate (t :: ts) := by
  cases ts with
  | nil => simpa using h
  | cons u ts =>
    rw [List.intercalate_cons_cons]
    simp [h]

/-- An array with two elements as the value of a further member is read as an error; names
without quotes are read as if they had them. -/
theorem not_reads_json :
    ¬ (parse "\x7b\"online\":true,\"timestamp\":1,\"tags\":[1,2]\x7d" = .ok ⟨true, 1⟩ ↔
      IsStateJson "\x7b\"online\":true,\"timestamp\":1,\"tags\":[1,2]\x7d" ⟨true, 1⟩) ∧
    ¬ (parse "\x7bonline:true,timestamp:1\x7d" = .ok ⟨true, 1⟩ ↔
      IsStateJson "\x7bonline:true,timestamp:1\x7d" ⟨true, 1⟩) := by
  constructor
  · intro hagree
    have hobject : IsStateJson "\x7b\"online\":true,\"timestamp\":1,\"tags\":[1,2]\x7d"
        ⟨true, 1⟩ := by
      have hone : Value.Spells (.int 1) "1".toList :=
        spells_digit '1' 1 rfl (by decide) (by decide)
      have htwo : Value.Spells (.int 2) "2".toList :=
        spells_digit '2' 2 rfl (by decide) (by decide)
      have htags : Value.Spells (.array [.int 1, .int 2]) "[1,2]".toList :=
        .array (by simp) (.cons (.mk space_nil hone space_nil)
          (.cons (.mk space_nil htwo space_nil) .nil))
      refine ⟨[], _, [], [(unitsOf "online", .bool true), (unitsOf "timestamp", .int 1),
        (unitsOf "tags", .array [.int 1, .int 2])], ?_, by decide, by decide,
        .object (by simp) (.cons (spells_tight "online" "true" (.bool true) (by decide))
          (.cons (spells_tight "timestamp" "1" hone (by decide))
            (.cons (spells_tight "tags" "[1,2]" htags (by decide)) .nil))), rfl, rfl⟩
      decide
    exact absurd (hagree.mpr hobject) (by decide +kernel)
  · intro hagree
    obtain ⟨lead, t, trail, ms, htext, -, -, hspells, hholds⟩ := hagree.mp (by decide +kernel)
    cases hspells with
    | emptyObject _ => exact absurd hholds.1 (by simp [valuesOf])
    | @object _ ts hne hmembers =>
      -- every member has a quote, and the text has none
      cases hmembers with
      | nil => exact hne rfl
      | cons hm _ =>
        cases hm with
        | mk _ _ _ _ _ _ =>
          have hquote : '"' ∈ "\x7bonline:true,timestamp:1\x7d".toList := by
            rw [htext]
            refine List.mem_append_right _ (List.mem_append_left _ (List.mem_cons_of_mem _
              (List.mem_append_left _ (mem_intercalate_cons ?_ _))))
            simp
          exact absurd hquote (by decide)

end SparkplugB.StatePayload
