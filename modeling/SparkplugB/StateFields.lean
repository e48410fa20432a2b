/-
# STATE texts with white space and further fields

`parse` splits a STATE text at its commas and each piece at its first colon.  Where the commas
stand between the fields only, each piece is one field, and the white space around its tokens is
trimmed away (`parseField_text`); a field of another name changes nothing (`parseField_other`).

So what `toJson` writes is still read back with its two fields in either order, white space around
every token and further fields anywhere between them (`parses_back`).
-/
import SparkplugB.StateText

namespace SparkplugB

/-! ## 1. Trimming -/

/-- What is stripped anyway may be put around a text. -/
theorem trimMatches_append {p : Char → Bool} {a b : List Char} (ha : ∀ c ∈ a, p c = true)
    (hb : ∀ c ∈ b, p c = true) (m : List Char) :
    trimMatches p (a ++ (m ++ b)) = trimMatches p m := by
  unfold trimMatches
  rw [List.dropWhile_append_of_pos ha, List.dropWhile_append]
  split
  · rename_i hm
    have hnil : m.dropWhile p = [] := by simpa using hm
    have hall : b.dropWhile p = [] := List.dropWhile_eq_nil_iff.mpr hb
    rw [hnil, hall]
  · have hrev : ∀ c ∈ b.reverse, p c = true := fun c hc => hb c (List.mem_reverse.mp hc)
    rw [List.rdropWhile, List.reverse_append, List.dropWhile_append_of_pos hrev, List.rdropWhile]

/-- Where nothing is left, there was nothing else. -/
theorem all_of_trimMatches_eq_nil {p : Char → Bool} {s : List Char} (h : trimMatches p s = []) :
    ∀ c ∈ s, p c = true := by
  have hall := List.rdropWhile_eq_nil_iff.mp h
  rw [← List.dropWhile_eq_nil_iff]
  by_contra hne
  have hhead := List.head_dropWhile_not p hne
  rw [hall _ (List.head_mem hne)] at hhead
  contradiction

theorem trimMatches_quotes {t : List Char} (h : '"' ∉ t) :
    trimMatches (· = '"') ('"' :: (t ++ ['"'])) = t := by
  have hq : ∀ c ∈ ['"'], decide (c = '"') = true := by simp
  have hpad : trimMatches (· = '"') (['"'] ++ (t ++ ['"'])) = trimMatches (· = '"') t :=
    trimMatches_append hq hq t
  rw [List.singleton_append] at hpad
  rw [hpad]
  refine trimMatches_of_all fun c hc => ?_
  simp only [decide_eq_false_iff_not]
  rintro rfl
  exact h hc

/-- White space, as `str::trim` understands it: it comprises the ASCII white space. -/
def Blank (s : List Char) : Prop := ∀ c ∈ s, isWhitespace c = true

instance : DecidablePred Blank := fun s =>
  decidable_of_iff (s.all isWhitespace = true) List.all_eq_true

theorem Blank.notMem {s : List Char} (h : Blank s) {c : Char} (hc : isWhitespace c = false) :
    c ∉ s := fun hmem => by
  rw [h c hmem] at hc
  contradiction

theorem trim_append {a b : List Char} (ha : Blank a) (hb : Blank b) (m : List Char) :
    trim (a ++ (m ++ b)) = trim m :=
  trimMatches_append ha hb m

namespace StatePayload

/-! ## 2. One field -/

/-- What the field `key` with the value `value` sets: the `match key` of `parse`. -/
def setKey (acc : Option Bool × Option Int64) (key : String) (value : List Char) :
    Result (Option Bool × Option Int64) :=
  if key = "online" then
    if String.ofList value = "true" then .ok (some true, acc.2)
    else if String.ofList value = "false" then .ok (some false, acc.2)
    else
      .error (.invalidState s!"online must be true/false, got {debugStr (String.ofList value)}")
  else if key = "timestamp" then
    match parseInt64 value with
    | .ok t => .ok (acc.1, some t)
    | .error e => .error (.invalidState s!"timestamp not an integer: {e}")
  else .ok acc

/-- A field: the name and the value as they stand in the text, and the white space around each. -/
structure SpacedField where
  beforeKey : List Char := []
  key : List Char
  afterKey : List Char := []
  beforeValue : List Char := []
  value : List Char
  afterValue : List Char := []

namespace SpacedField

/-- The quoted name, the colon and the value. -/
def text (f : SpacedField) : List Char :=
  f.beforeKey ++ ('"' :: (f.key ++ ['"']) ++ f.afterKey) ++
    ':' :: (f.beforeValue ++ (f.value ++ f.afterValue))

/-- White space stands around the tokens; the name is free of quotes and separators, and the
value of commas. -/
structure WellFormed (f : SpacedField) : Prop where
  beforeKey : Blank f.beforeKey
  afterKey : Blank f.afterKey
  beforeValue : Blank f.beforeValue
  afterValue : Blank f.afterValue
  quote : '"' ∉ f.key
  colon : ':' ∉ f.key
  comma : ',' ∉ f.key
  valueComma : ',' ∉ f.value

instance (f : SpacedField) : Decidable f.WellFormed :=
  decidable_of_iff (((Blank f.beforeKey ∧ Blank f.afterKey) ∧ Blank f.beforeValue ∧
      Blank f.afterValue) ∧ ('"' ∉ f.key ∧ ':' ∉ f.key) ∧ ',' ∉ f.key ∧ ',' ∉ f.value)
    ⟨fun ⟨⟨⟨h1, h2⟩, h3, h4⟩, ⟨h5, h6⟩, h7, h8⟩ => ⟨h1, h2, h3, h4, h5, h6, h7, h8⟩,
      fun ⟨h1, h2, h3, h4, h5, h6, h7, h8⟩ => ⟨⟨⟨h1, h2⟩, h3, h4⟩, ⟨h5, h6⟩, h7, h8⟩⟩

theorem comma_notMem_text {f : SpacedField} (h : f.WellFormed) : ',' ∉ f.text := by
  have hblank : isWhitespace ',' = false := by decide
  simp only [text, List.mem_append, List.mem_cons, List.not_mem_nil, or_false, not_or]
  refine ⟨⟨h.beforeKey.notMem hblank, ⟨by decide, h.comma, by decide⟩, h.afterKey.notMem hblank⟩,
    by decide, h.beforeValue.notMem hblank, h.valueComma, h.afterValue.notMem hblank⟩

end SpacedField

/-- What a field sets. -/
def setField (acc : Option Bool × Option Int64) (f : SpacedField) :
    Result (Option Bool × Option Int64) :=
  setKey acc (String.ofList f.key) (trim f.value)

/-- **One field of the text**, whatever white space stands around its tokens. -/
theorem parseField_text {f : SpacedField} (h : f.WellFormed)
    (acc : Option Bool × Option Int64) : parseField acc f.text = setField acc f := by
  have hname : ':' ∉ f.beforeKey ++ ('"' :: (f.key ++ ['"']) ++ f.afterKey) := by
    have hblank : isWhitespace ':' = false := by decide
    simp only [List.mem_append, List.mem_cons, List.not_mem_nil, or_false, not_or]
    exact ⟨h.beforeKey.notMem hblank, ⟨by decide, h.colon, by decide⟩, h.afterKey.notMem hblank⟩
  have hquoted : trim ('"' :: (f.key ++ ['"'])) = '"' :: (f.key ++ ['"']) :=
    trimMatches_of_ends (by decide) (by decide)
  have hkey : trimMatches (· = '"')
      (trim (f.beforeKey ++ ('"' :: (f.key ++ ['"']) ++ f.afterKey))) = f.key := by
    rw [trim_append h.beforeKey h.afterKey, hquoted, trimMatches_quotes h.quote]
  have hfull : trim f.text ≠ [] := fun hnil =>
    absurd (all_of_trimMatches_eq_nil hnil ':' (by simp [SpacedField.text])) (by decide)
  unfold parseField
  rw [if_neg hfull, SpacedField.text, splitOnce_append hname]
  dsimp only
  rw [hkey, trim_append h.beforeValue h.afterValue]
  rfl

/-- A field of another name changes nothing. -/
theorem setKey_other {key : List Char} (h : key ≠ "online".toList ∧ key ≠ "timestamp".toList)
    (acc : Option Bool × Option Int64) (value : List Char) :
    setKey acc (String.ofList key) value = .ok acc := by
  have hne : ∀ t : String, key ≠ t.toList → String.ofList key ≠ t := by
    rintro _ hkey rfl
    exact hkey (by simp)
  rw [setKey, if_neg (hne _ h.1), if_neg (hne _ h.2)]

theorem setKey_online (acc : Option Bool × Option Int64) (online : Bool) :
    setKey acc "online" (toString online).toList = .ok (some online, acc.2) := by
  cases online with
  | true => rw [setKey, if_pos rfl, if_pos (by decide)]
  | false => rw [setKey, if_pos rfl, if_neg (by decide), if_pos (by decide)]

theorem setKey_timestamp (acc : Option Bool × Option Int64) (timestamp : Int64) :
    setKey acc "timestamp" (toString timestamp.toInt).toList = .ok (acc.1, some timestamp) := by
  rw [setKey, if_neg (by decide), if_pos rfl, parseInt64_toString]

/-! ## 3. The whole text -/

/-- A STATE text: the fields, separated by commas, in braces. -/
def object (lead : List Char) (fields : List SpacedField) (trail : List Char) : List Char :=
  lead ++ ('\x7b' :: ([','].intercalate (fields.map SpacedField.text) ++ ['\x7d']) ++ trail)

theorem foldlM_text : ∀ (fields : List SpacedField) (acc : Option Bool × Option Int64),
    (∀ f ∈ fields, f.WellFormed) →
      (fields.map SpacedField.text).foldlM parseField acc = fields.foldlM setField acc
  | [], _, _ => rfl
  | f :: fields, acc, h => by
    rw [List.map_cons, List.foldlM_cons, List.foldlM_cons,
      parseField_text (h f List.mem_cons_self)]
    congr 1
    funext acc'
    exact foldlM_text fields acc' fun g hg => h g (List.mem_cons_of_mem _ hg)

/-- What `parse` makes of the flag and the timestamp it found. -/
def finish : Option Bool × Option Int64 → Result StatePayload
  | (some online, some timestamp) => .ok ⟨online, timestamp⟩
  | _ => .error (.invalidState "missing 'online' or 'timestamp'")

/-- `parse` folds over the pieces between the braces. -/
theorem parse_eq (s : String) :
    parse s = match stripBraces (trim s.toList) with
      | some inner => ((inner.splitOn ',').foldlM parseField (none, none)).bind finish
      | none => .error (.invalidState "expected a JSON object") := by
  unfold parse
  cases stripBraces (trim s.toList) with
  | none => rfl
  | some inner =>
    simp only [bind, Except.bind]
    cases (inner.splitOn ',').foldlM parseField (none, none) with
    | error e => rfl
    | ok acc =>
      obtain ⟨online, timestamp⟩ := acc
      cases online <;> cases timestamp <;> rfl

/-- `parse` on such a text folds over its fields. -/
theorem parse_object {lead trail : List Char} {fields : List SpacedField} (hlead : Blank lead)
    (htrail : Blank trail) (hfields : ∀ f ∈ fields, f.WellFormed) :
    parse (String.ofList (object lead fields trail)) =
      (fields.foldlM setField (none, none)).bind finish := by
  have hcut : trim (object lead fields trail) =
      '\x7b' :: ([','].intercalate (fields.map SpacedField.text) ++ ['\x7d']) := by
    rw [object, trim_append hlead htrail]
    exact trimMatches_of_ends (by decide) (by decide)
  have hinner : stripBraces
      ('\x7b' :: ([','].intercalate (fields.map SpacedField.text) ++ ['\x7d'])) =
      some ([','].intercalate (fields.map SpacedField.text)) := by
    rw [stripBraces, List.getLast?_concat, if_pos rfl, List.dropLast_concat]
  have hfold : (([','].intercalate (fields.map SpacedField.text)).splitOn ',').foldlM parseField
      (none, none) = fields.foldlM setField (none, none) := by
    rcases eq_or_ne fields [] with rfl | hne
    · -- between the braces stands nothing, which is one blank piece
      rfl
    · rw [List.splitOn_intercalate ',' ?_ (by simpa using hne), foldlM_text fields _ hfields]
      intro t ht
      obtain ⟨f, hf, rfl⟩ := List.mem_map.mp ht
      exact SpacedField.comma_notMem_text (hfields f hf)
  rw [parse_eq, String.toList_ofList, hcut, hinner, ← hfold]

/-! ## 4. Two fields among others -/

/-- The field `online` as it is written, up to white space. -/
def SpacedField.IsOnline (f : SpacedField) (online : Bool) : Prop :=
  f.key = "online".toList ∧ f.value = (toString online).toList

def SpacedField.IsTimestamp (f : SpacedField) (timestamp : Int64) : Prop :=
  f.key = "timestamp".toList ∧ f.value = (toString timestamp.toInt).toList

def SpacedField.IsOther (f : SpacedField) : Prop :=
  f.key ≠ "online".toList ∧ f.key ≠ "timestamp".toList

instance (f : SpacedField) : Decidable f.IsOther :=
  inferInstanceAs (Decidable (f.key ≠ "online".toList ∧ f.key ≠ "timestamp".toList))

/-- The two fields of `s`, in either order, among fields of other names. -/
def Carries (s : StatePayload) (fields : List SpacedField) : Prop :=
  ∃ before x between y after, fields = before ++ x :: (between ++ y :: after) ∧
    (∀ f ∈ before ++ between ++ after, f.IsOther) ∧
    (x.IsOnline s.online ∧ y.IsTimestamp s.timestamp ∨
      x.IsTimestamp s.timestamp ∧ y.IsOnline s.online)

theorem setField_online {f : SpacedField} {online : Bool} (h : f.IsOnline online)
    (acc : Option Bool × Option Int64) : setField acc f = .ok (some online, acc.2) := by
  have htrim : trim (toString online).toList = (toString online).toList := by
    cases online <;> decide
  rw [setField, h.1, h.2, htrim, String.ofList_toList, setKey_online]

theorem setField_timestamp {f : SpacedField} {timestamp : Int64} (h : f.IsTimestamp timestamp)
    (acc : Option Bool × Option Int64) : setField acc f = .ok (acc.1, some timestamp) := by
  have htrim : trim (toString timestamp.toInt).toList = (toString timestamp.toInt).toList :=
    trimMatches_of_all fun c hc => (plain_of_mem hc).1
  rw [setField, h.1, h.2, htrim, String.ofList_toList, setKey_timestamp]

/-- Fields of other names change nothing. -/
theorem foldlM_others {fields : List SpacedField} (h : ∀ f ∈ fields, f.IsOther)
    (acc : Option Bool × Option Int64) : fields.foldlM setField acc = .ok acc := by
  induction fields with
  | nil => rfl
  | cons f fields ih =>
    rw [List.foldlM_cons, setField, setKey_other (h f List.mem_cons_self)]
    exact ih fun g hg => h g (List.mem_cons_of_mem _ hg)

theorem foldlM_carries {s : StatePayload} {fields : List SpacedField} (h : Carries s fields) :
    fields.foldlM setField (none, none) = .ok (some s.online, some s.timestamp) := by
  obtain ⟨before, x, between, y, after, rfl, hothers, hxy⟩ := h
  have hbefore : ∀ f ∈ before, f.IsOther := fun f hf => hothers f (by simp [hf])
  have hbetween : ∀ f ∈ between, f.IsOther := fun f hf => hothers f (by simp [hf])
  have hafter : ∀ f ∈ after, f.IsOther := fun f hf => hothers f (by simp [hf])
  rw [List.foldlM_append, foldlM_others hbefore]
  show List.foldlM setField (none, none) (x :: (between ++ y :: after)) = _
  rcases hxy with ⟨hx, hy⟩ | ⟨hx, hy⟩
  · rw [List.foldlM_cons, setField_online hx]
    show List.foldlM setField (some s.online, none) (between ++ y :: after) = _
    rw [List.foldlM_append, foldlM_others hbetween]
    show List.foldlM setField (some s.online, none) (y :: after) = _
    rw [List.foldlM_cons, setField_timestamp hy]
    exact foldlM_others hafter _
  · rw [List.foldlM_cons, setField_timestamp hx]
    show List.foldlM setField (none, some s.timestamp) (between ++ y :: after) = _
    rw [List.foldlM_append, foldlM_others hbetween]
    show List.foldlM setField (none, some s.timestamp) (y :: after) = _
    rw [List.foldlM_cons, setField_online hy]
    exact foldlM_others hafter _

/-- **STATE is read back**: as `toJson` writes it, and with the fields in either order, white space
around every token, and further fields at any position. -/
theorem parses_back (s : StatePayload) :
    parse s.toJson = .ok s ∧
    ∀ (lead trail : List Char) (fields : List SpacedField), Blank lead → Blank trail →
      (∀ f ∈ fields, f.WellFormed) → Carries s fields →
        parse (String.ofList (object lead fields trail)) = .ok s := by
  refine ⟨parse_toJson s, fun lead trail fields hlead htrail hfields hcarries => ?_⟩
  rw [parse_object hlead htrail hfields, foldlM_carries hcarries]
  rfl

/-- `{ "mode" : 3,"timestamp":-5 ,"online": true}`, and a line end behind it. -/
theorem parses_back_spaced :
    parse (String.ofList (object []
      [{ beforeKey := [' '], key := "mode".toList, afterKey := [' '], beforeValue := [' ']
         value := ['3'] },
        { key := "timestamp".toList, value := (toString (-5 : Int64).toInt).toList
          afterValue := [' '] },
        { key := "online".toList, beforeValue := [' '], value := (toString true).toList }]
      ['\n'])) = .ok ⟨true, -5⟩ :=
  (parses_back ⟨true, -5⟩).2 [] ['\n'] _ (by decide) (by decide) (by decide +kernel)
    ⟨[_], _, [], _, [], rfl, by decide, .inr ⟨⟨rfl, rfl⟩, ⟨rfl, rfl⟩⟩⟩

end StatePayload

end SparkplugB
