/-
# Which strings are topics

`parse` accepts the strings of three shapes and no others, and prints back what it read.

* **What is accepted fits** (`parse_ok`): a topic that `parse` returns has a message type that
  fits its token count, and the tokens of the string are the tokens it is printed from.
* **Tokens determine the string** (`tokens_injective`): joined by the separator they are the string
  again.  So printing the parsed topic gives the string back, whatever the tokens look like.
-/
import SparkplugB.Topic

namespace SparkplugB.SparkplugTopic

/-! ## 1. What `parse` accepts -/

theorem tokens_injective {s t : String} (h : tokens s = tokens t) : s = t := by
  have hpieces : s.toList.splitOn '/' = t.toList.splitOn '/' := by
    refine List.map_injective_iff.mpr ?_ h
    intro a b hab
    simpa using congrArg String.toList hab
  have hs : ['/'].intercalate (s.toList.splitOn '/') = s.toList := List.intercalate_splitOn '/'
  rw [hpieces, List.intercalate_splitOn] at hs
  exact (String.toList_inj.mp hs).symm

theorem asStr_of_fromStr {s : String} {ty : MessageType} (h : MessageType.fromStr s = .ok ty) :
    ty.asStr = s := by
  unfold MessageType.fromStr at h
  repeat' split at h
  all_goals first
    | (obtain rfl := Except.ok.inj h; exact Eq.symm ‹_›)
    | contradiction

/-- **What `parse` returns** has the tokens of the string. -/
theorem parse_ok {s : String} {t : SparkplugTopic} (h : parse s = .ok t) :
    t.Fits ∧ t.parts = tokens s := by
  unfold parse at h
  dsimp only at h
  split at h
  · contradiction
  · rename_i hns
    split at h
    · rename_i ns token host htokens
      rw [htokens] at hns ⊢
      obtain rfl : ns = NAMESPACE := by simpa using hns
      split at h
      · rename_i htoken
        obtain ⟨⟨⟩, hid, h⟩ := ok_of_bind h
        obtain rfl := Except.ok.inj h
        exact ⟨hid, by rw [parts, htoken]⟩
      · contradiction
    · rename_i ns group tyToken edge htokens
      rw [htokens] at hns ⊢
      obtain rfl : ns = NAMESPACE := by simpa using hns
      obtain ⟨ty, hty, h⟩ := ok_of_bind h
      split at h
      · contradiction
      · rename_i hnode
        obtain ⟨g, hg, h⟩ := ok_of_bind h
        obtain ⟨e, he, h⟩ := ok_of_bind h
        rw [mkNode, if_neg hnode] at h
        obtain rfl := Except.ok.inj h
        refine ⟨by simpa [Fits] using hnode, ?_⟩
        rw [parts, Ident.new_ok hg, Ident.new_ok he, asStr_of_fromStr hty]
    · rename_i ns group tyToken edge dev htokens
      rw [htokens] at hns ⊢
      obtain rfl : ns = NAMESPACE := by simpa using hns
      obtain ⟨ty, hty, h⟩ := ok_of_bind h
      split at h
      · contradiction
      · rename_i hdevice
        obtain ⟨g, hg, h⟩ := ok_of_bind h
        obtain ⟨e, he, h⟩ := ok_of_bind h
        obtain ⟨d, hd, h⟩ := ok_of_bind h
        rw [mkDevice, if_neg hdevice] at h
        obtain rfl := Except.ok.inj h
        refine ⟨by simpa [Fits] using hdevice, ?_⟩
        rw [parts, Ident.new_ok hg, Ident.new_ok he, Ident.new_ok hd, asStr_of_fromStr hty]
    · contradiction

/-- The parsed topic prints as the string. -/
theorem toString_of_parse {s : String} {t : SparkplugTopic} (h : parse s = .ok t) :
    t.toString = s := by
  obtain ⟨hfits, hparts⟩ := parse_ok h
  exact tokens_injective ((tokens_toString hfits).trans hparts)

/-! ## 2. The three shapes -/

/-- A token that may stand for an identifier. -/
def IsToken (s : String) : Prop :=
  s ≠ "" ∧ '+' ∉ s.toList ∧ '/' ∉ s.toList ∧ '#' ∉ s.toList

instance : DecidablePred IsToken := fun s =>
  inferInstanceAs (Decidable (s ≠ "" ∧ '+' ∉ s.toList ∧ '/' ∉ s.toList ∧ '#' ∉ s.toList))

/-- The strings of the three shapes. -/
inductive IsTopic : String → Prop
  | state {h : String} : IsToken h → IsTopic ("spBv1.0/STATE/" ++ h)
  | node {g ty e : String} : IsToken g → IsToken e → ty ∈ ["NBIRTH", "NDEATH", "NDATA", "NCMD"] →
      IsTopic ("spBv1.0/" ++ g ++ "/" ++ ty ++ "/" ++ e)
  | device {g ty e d : String} : IsToken g → IsToken e → IsToken d →
      ty ∈ ["DBIRTH", "DDEATH", "DDATA", "DCMD"] →
      IsTopic ("spBv1.0/" ++ g ++ "/" ++ ty ++ "/" ++ e ++ "/" ++ d)

theorem isToken_iff (s : String) : IsToken s ↔ validateId s = .ok () := by
  rw [validateId_ok_iff, IsToken, Ne, Ne, String.toList_eq_nil_iff]

theorem IsToken.exists_ident {kind : IdKind} {s : String} (h : IsToken s) :
    ∃ id : Ident kind, id.str = s :=
  ⟨⟨s, (isToken_iff s).mp h⟩, rfl⟩

theorem isToken_str {kind : IdKind} (id : Ident kind) : IsToken id.str :=
  (isToken_iff id.str).mpr id.valid

/-- The shapes are what the topics that fit print as. -/
theorem isTopic_iff (s : String) : IsTopic s ↔ ∃ t : SparkplugTopic, t.Fits ∧ t.toString = s := by
  constructor
  · intro hs
    cases hs with
    | state hh => exact ⟨.hostState _, (isToken_iff _).mp hh, rfl⟩
    | @node g ty e hg he hty =>
      obtain ⟨g, rfl⟩ : ∃ id : GroupId, id.str = g := hg.exists_ident
      obtain ⟨e, rfl⟩ : ∃ id : EdgeNodeId, id.str = e := he.exists_ident
      obtain ⟨mt, hfits, rfl⟩ : ∃ mt : MessageType,
          (mt.hasDevice = false ∧ mt ≠ .state) ∧ mt.asStr = ty := by
        simp only [List.mem_cons, List.not_mem_nil, or_false] at hty
        rcases hty with rfl | rfl | rfl | rfl
        · exact ⟨.nBirth, by decide, rfl⟩
        · exact ⟨.nDeath, by decide, rfl⟩
        · exact ⟨.nData, by decide, rfl⟩
        · exact ⟨.nCmd, by decide, rfl⟩
      exact ⟨.node g e mt, hfits, rfl⟩
    | @device g ty e d hg he hd hty =>
      obtain ⟨g, rfl⟩ : ∃ id : GroupId, id.str = g := hg.exists_ident
      obtain ⟨e, rfl⟩ : ∃ id : EdgeNodeId, id.str = e := he.exists_ident
      obtain ⟨d, rfl⟩ : ∃ id : DeviceId, id.str = d := hd.exists_ident
      obtain ⟨mt, hfits, rfl⟩ : ∃ mt : MessageType, mt.hasDevice = true ∧ mt.asStr = ty := by
        simp only [List.mem_cons, List.not_mem_nil, or_false] at hty
        rcases hty with rfl | rfl | rfl | rfl
        · exact ⟨.dBirth, rfl, rfl⟩
        · exact ⟨.dDeath, rfl, rfl⟩
        · exact ⟨.dData, rfl, rfl⟩
        · exact ⟨.dCmd, rfl, rfl⟩
      exact ⟨.device g e d mt, hfits, rfl⟩
  · rintro ⟨t, hfits, rfl⟩
    cases t with
    | node g e ty =>
      have hty : ty.asStr ∈ ["NBIRTH", "NDEATH", "NDATA", "NCMD"] := by
        obtain ⟨h1, h2⟩ := hfits
        revert h1 h2
        cases ty <;> simp [MessageType.asStr, MessageType.hasDevice]
      exact .node (isToken_str g) (isToken_str e) hty
    | device g e d ty =>
      have hty : ty.asStr ∈ ["DBIRTH", "DDEATH", "DDATA", "DCMD"] := by
        have h1 : ty.hasDevice = true := hfits
        revert h1
        cases ty <;> simp [MessageType.asStr, MessageType.hasDevice]
      exact .device (isToken_str g) (isToken_str e) (isToken_str d) hty
    | hostState h => exact .state ((isToken_iff h).mpr hfits)

/-! ## 3. Parsing is exact -/

theorem fits_of_mkNode {g : GroupId} {e : EdgeNodeId} {ty : MessageType} {t : SparkplugTopic}
    (h : mkNode g e ty = .ok t) : t.Fits := by
  unfold mkNode at h
  split at h
  · contradiction
  · rename_i hty
    obtain rfl := Except.ok.inj h
    simpa [Fits] using hty

theorem fits_of_mkDevice {g : GroupId} {e : EdgeNodeId} {d : DeviceId} {ty : MessageType}
    {t : SparkplugTopic} (h : mkDevice g e d ty = .ok t) : t.Fits := by
  unfold mkDevice at h
  split at h
  · contradiction
  · rename_i hty
    obtain rfl := Except.ok.inj h
    simpa [Fits] using hty

/-- **Topics are parsed exactly**: a string is accepted when it has one of the three shapes, what
was read prints as the string, and every topic that `node` or `device` returns, and the STATE
topic of every valid host id, is read back. -/
theorem parses_exactly :
    (∀ s : String, ((∃ t, parse s = .ok t) ↔ IsTopic s) ∧
      ∀ t, parse s = .ok t → t.toString = s) ∧
    (∀ (g : GroupId) (e : EdgeNodeId) (ty : MessageType) (t : SparkplugTopic),
      mkNode g e ty = .ok t → parse t.toString = .ok t) ∧
    (∀ (g : GroupId) (e : EdgeNodeId) (d : DeviceId) (ty : MessageType) (t : SparkplugTopic),
      mkDevice g e d ty = .ok t → parse t.toString = .ok t) ∧
    ∀ h : String, IsToken h → parse (hostState h).toString = .ok (hostState h) := by
  refine ⟨fun s => ⟨?_, fun t ht => toString_of_parse ht⟩, ?_, ?_, ?_⟩
  · rw [isTopic_iff]
    constructor
    · rintro ⟨t, ht⟩
      exact ⟨t, (parse_ok ht).1, toString_of_parse ht⟩
    · rintro ⟨t, hfits, rfl⟩
      exact ⟨t, parse_toString hfits⟩
  · intro g e ty t h
    exact parse_toString (fits_of_mkNode h)
  · intro g e d ty t h
    exact parse_toString (fits_of_mkDevice h)
  · intro h hh
    exact parse_toString ((isToken_iff h).mp hh)

/-- A host called `STATE`. -/
theorem parses_exactly_state :
    parse (hostState "STATE").toString = .ok (hostState "STATE") :=
  parses_exactly.2.2.2 "STATE" (by decide)

end SparkplugB.SparkplugTopic
