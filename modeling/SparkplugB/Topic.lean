/-
# Topics, message types and identifiers

`src/topic.rs`.  A topic is split at `'/'` on its characters.  The three identifier newtypes of
the source come from one macro; here they are one structure over the kind of identifier, and the
check the constructor makes is a field.
-/
import SparkplugB.Error

namespace SparkplugB

/-- The Sparkplug B namespace token. -/
def NAMESPACE : String := "spBv1.0"

/-- The STATE topic token. -/
def STATE_TOKEN : String := "STATE"

/-- The reserved `Node Control/Rebirth` metric name. -/
def NODE_CONTROL_REBIRTH : String := "Node Control/Rebirth"

/-- The `bdSeq` metric name carried in NBIRTH/NDEATH. -/
def BDSEQ_METRIC_NAME : String := "bdSeq"

/-! ## 1. Message types -/

/-- A Sparkplug message type (the topic's `message_type` token). -/
inductive MessageType where
  | nBirth
  | nDeath
  | nData
  | nCmd
  | dBirth
  | dDeath
  | dData
  | dCmd
  | state
  deriving DecidableEq, Repr

namespace MessageType

/-- The wire token. -/
def asStr : MessageType → String
  | nBirth => "NBIRTH"
  | nDeath => "NDEATH"
  | nData => "NDATA"
  | nCmd => "NCMD"
  | dBirth => "DBIRTH"
  | dDeath => "DDEATH"
  | dData => "DDATA"
  | dCmd => "DCMD"
  | state => "STATE"

/-- Whether this message type addresses a Device. -/
def hasDevice : MessageType → Bool
  | dBirth | dDeath | dData | dCmd => true
  | _ => false

/-- Whether a payload of this type carries a sequence number. -/
def carriesSeq : MessageType → Bool
  | nBirth | nData | dBirth | dData | dDeath => true
  | _ => false

/-- `MessageType::from_str`. -/
def fromStr (s : String) : Result MessageType :=
  if s = "NBIRTH" then .ok nBirth
  else if s = "NDEATH" then .ok nDeath
  else if s = "NDATA" then .ok nData
  else if s = "NCMD" then .ok nCmd
  else if s = "DBIRTH" then .ok dBirth
  else if s = "DDEATH" then .ok dDeath
  else if s = "DDATA" then .ok dData
  else if s = "DCMD" then .ok dCmd
  else if s = "STATE" then .ok state
  else .error (.invalidTopic s!"unknown message type {debugStr s}")

@[simp] theorem fromStr_asStr (ty : MessageType) : fromStr ty.asStr = .ok ty := by
  cases ty <;> rfl

/-- No wire token holds a topic separator. -/
theorem slash_notMem_asStr (ty : MessageType) : '/' ∉ ty.asStr.toList := by
  cases ty <;> decide

end MessageType

/-! ## 2. Identifiers -/

/-- Validate a Sparkplug identifier token: non-empty and free of `+`, `/`, `#`. -/
def validateId (s : String) : Result Unit :=
  if s.toList = [] then .error (.invalidId "identifier is empty")
  else if s.toList.any (fun c => c = '+' || c = '/' || c = '#') then
    .error (.invalidId s!"{debugStr s} contains a reserved character (+, /, or #)")
  else .ok ()

/-- Which of the three newtypes an identifier belongs to. -/
inductive IdKind where
  | group
  | edgeNode
  | device
  deriving DecidableEq

/-- A validated identifier. -/
structure Ident (kind : IdKind) where
  str : String
  valid : validateId str = .ok ()
  deriving DecidableEq

abbrev GroupId := Ident .group

abbrev EdgeNodeId := Ident .edgeNode

abbrev DeviceId := Ident .device

namespace Ident

variable {kind : IdKind}

/-- Create the identifier, validating reserved characters. -/
def new (s : String) : Result (Ident kind) :=
  match h : validateId s with
  | .ok () => .ok ⟨s, h⟩
  | .error e => .error e

@[simp] theorem new_str (id : Ident kind) : new id.str = .ok id := by
  obtain ⟨s, h⟩ := id
  unfold new
  split
  · rfl
  · rename_i e he
    exact absurd (he.symm.trans h) (by simp)

theorem str_inj {id id' : Ident kind} (h : id.str = id'.str) : id = id' := by
  obtain ⟨_, _⟩ := id
  obtain ⟨_, _⟩ := id'
  cases h
  rfl

theorem new_ok {s : String} {id : Ident kind} (h : new s = .ok id) : id.str = s := by
  unfold new at h
  split at h
  · exact (congrArg str (Except.ok.inj h)).symm
  · simp at h

end Ident

theorem validateId_ok_iff (s : String) :
    validateId s = .ok () ↔
      s.toList ≠ [] ∧ '+' ∉ s.toList ∧ '/' ∉ s.toList ∧ '#' ∉ s.toList := by
  unfold validateId
  by_cases hempty : s.toList = []
  · simp [hempty]
  · rw [if_neg hempty]
    by_cases hany : s.toList.any (fun c => c = '+' || c = '/' || c = '#') = true
    · rw [if_pos hany]
      obtain ⟨c, hc, hres⟩ := List.any_eq_true.mp hany
      simp only [Bool.or_eq_true, decide_eq_true_eq] at hres
      refine iff_of_false (by simp) ?_
      rintro ⟨-, h1, h2, h3⟩
      rcases hres with (rfl | rfl) | rfl
      · exact h1 hc
      · exact h2 hc
      · exact h3 hc
    · rw [if_neg hany]
      simp only [List.any_eq_true, Bool.or_eq_true, decide_eq_true_eq, not_exists, not_and,
        not_or] at hany
      refine iff_of_true rfl ⟨hempty, ?_, ?_, ?_⟩
      · exact fun h => (hany _ h).1.1 rfl
      · exact fun h => (hany _ h).1.2 rfl
      · exact fun h => (hany _ h).2 rfl

/-- An identifier cannot reach over a topic separator. -/
theorem Ident.slash_notMem {kind : IdKind} (id : Ident kind) : '/' ∉ id.str.toList :=
  ((validateId_ok_iff id.str).mp id.valid).2.2.1

/-! ## 3. Topics -/

/-- A parsed Sparkplug B topic. -/
inductive SparkplugTopic where
  | node (group : GroupId) (edge : EdgeNodeId) (ty : MessageType)
  | device (group : GroupId) (edge : EdgeNodeId) (device : DeviceId) (ty : MessageType)
  | hostState (hostId : String)
  deriving DecidableEq

namespace SparkplugTopic

/-- `SparkplugTopic::node`: the message type must be a non-device `N*` type. -/
def mkNode (group : GroupId) (edge : EdgeNodeId) (ty : MessageType) : Result SparkplugTopic :=
  if ty.hasDevice || ty = .state then
    .error (.invalidTopic s!"{ty.asStr} is not an Edge-Node message type")
  else .ok (.node group edge ty)

/-- `SparkplugTopic::device`: the message type must be a `D*` type. -/
def mkDevice (group : GroupId) (edge : EdgeNodeId) (dev : DeviceId) (ty : MessageType) :
    Result SparkplugTopic :=
  if !ty.hasDevice then .error (.invalidTopic s!"{ty.asStr} is not a Device message type")
  else .ok (.device group edge dev ty)

/-- The tokens of a topic string: `topic.split('/')`. -/
def tokens (topic : String) : List String := (topic.toList.splitOn '/').map String.ofList

/-- Parse a topic string into a validated topic. -/
def parse (topic : String) : Result SparkplugTopic :=
  let parts := tokens topic
  if parts.head? ≠ some NAMESPACE then
    .error (.invalidTopic s!"topic must start with {debugStr NAMESPACE}: {debugStr topic}")
  else
    match parts with
    | [_, token, host] =>
      if token = STATE_TOKEN then do
        validateId host
        return .hostState host
      else .error (.invalidTopic s!"unexpected token count in topic {debugStr topic}")
    | [_, group, tyToken, edge] => do
      let ty ← MessageType.fromStr tyToken
      if ty.hasDevice || ty = .state then
        .error (.invalidTopic s!"{ty.asStr} requires a different token count")
      else mkNode (← Ident.new group) (← Ident.new edge) ty
    | [_, group, tyToken, edge, dev] => do
      let ty ← MessageType.fromStr tyToken
      if !ty.hasDevice then
        .error (.invalidTopic s!"{ty.asStr} must not include a device_id")
      else mkDevice (← Ident.new group) (← Ident.new edge) (← Ident.new dev) ty
    | _ => .error (.invalidTopic s!"unexpected token count in topic {debugStr topic}")

/-- `Display`: the tokens joined by `'/'`. -/
def toString : SparkplugTopic → String
  | node group edge ty => s!"{NAMESPACE}/{group.str}/{ty.asStr}/{edge.str}"
  | device group edge dev ty =>
    s!"{NAMESPACE}/{group.str}/{ty.asStr}/{edge.str}/{dev.str}"
  | hostState hostId => s!"{NAMESPACE}/{STATE_TOKEN}/{hostId}"

/-! ## 4. A topic built from validated parts is read back -/

/-- The message type fits the token count, as `mkNode` and `mkDevice` demand, and a host id is a
valid token. -/
def Fits : SparkplugTopic → Prop
  | node _ _ ty => ty.hasDevice = false ∧ ty ≠ .state
  | device _ _ _ ty => ty.hasDevice = true
  | hostState hostId => validateId hostId = .ok ()

instance : DecidablePred Fits := fun t => by
  cases t <;> unfold Fits <;> infer_instance

/-- The tokens a topic is printed from. -/
def parts : SparkplugTopic → List String
  | node group edge ty => [NAMESPACE, group.str, ty.asStr, edge.str]
  | device group edge dev ty => [NAMESPACE, group.str, ty.asStr, edge.str, dev.str]
  | hostState hostId => [NAMESPACE, STATE_TOKEN, hostId]

theorem tokens_cons {s : String} (rest : String) (h : '/' ∉ s.toList) :
    tokens (s ++ "/" ++ rest) = s :: tokens rest := by
  have hlist : (s ++ "/" ++ rest).toList = s.toList ++ '/' :: rest.toList := by simp
  rw [tokens, hlist, List.splitOn_append_cons_self_of_not_mem h, List.map_cons,
    String.ofList_toList, tokens]

theorem tokens_last {s : String} (h : '/' ∉ s.toList) : tokens s = [s] := by
  rw [tokens, List.splitOn_eq_singleton h, List.map_singleton, String.ofList_toList]

theorem tokens_toString {t : SparkplugTopic} (h : t.Fits) : tokens t.toString = t.parts := by
  have hns : '/' ∉ NAMESPACE.toList := by decide
  cases t with
  | node group edge ty =>
    have e : (node group edge ty).toString =
        NAMESPACE ++ "/" ++ (group.str ++ "/" ++ (ty.asStr ++ "/" ++ edge.str)) := by
      simp only [toString, String.append_assoc]
      rfl
    rw [e, tokens_cons _ hns, tokens_cons _ group.slash_notMem,
      tokens_cons _ ty.slash_notMem_asStr, tokens_last edge.slash_notMem, parts]
  | device group edge dev ty =>
    have e : (device group edge dev ty).toString = NAMESPACE ++ "/" ++
        (group.str ++ "/" ++ (ty.asStr ++ "/" ++ (edge.str ++ "/" ++ dev.str))) := by
      simp only [toString, String.append_assoc]
      rfl
    rw [e, tokens_cons _ hns, tokens_cons _ group.slash_notMem,
      tokens_cons _ ty.slash_notMem_asStr, tokens_cons _ edge.slash_notMem,
      tokens_last dev.slash_notMem, parts]
  | hostState hostId =>
    have e : (hostState hostId).toString =
        NAMESPACE ++ "/" ++ (STATE_TOKEN ++ "/" ++ hostId) := by
      simp only [toString, String.append_assoc]
      rfl
    rw [e, tokens_cons _ hns, tokens_cons _ (by decide),
      tokens_last ((validateId_ok_iff hostId).mp h).2.2.1, parts]

/-- **`parse` reads back** every topic whose message type fits its token count. -/
theorem parse_toString {t : SparkplugTopic} (h : t.Fits) : parse t.toString = .ok t := by
  unfold parse
  rw [tokens_toString h]
  cases t with
  | node group edge ty => simp [parts, mkNode, h.1, h.2, bind, Except.bind]
  | device group edge dev ty =>
    have hty : ty.hasDevice = true := h
    simp [parts, mkDevice, hty, bind, Except.bind]
  | hostState hostId =>
    have hid : validateId hostId = .ok () := h
    simp [parts, hid, bind, Except.bind, pure, Except.pure]

/-- Printing is injective on such topics. -/
theorem toString_injective {t u : SparkplugTopic} (ht : t.Fits) (hu : u.Fits)
    (h : t.toString = u.toString) : t = u := by
  have := parse_toString ht
  rw [h, parse_toString hu] at this
  exact (Except.ok.inj this).symm

end SparkplugTopic

end SparkplugB
