/-
# What a sequence of bindings leaves behind

A run of `try_bind` calls on an empty registry.  The last binding of a name or of an alias is the
one that is found, and an alias that was bound belongs to its name for good.  So every call can be
looked up exactly when the calls for a name agree with each other.
-/
import SparkplugB.Alias

namespace SparkplugB

namespace AliasRegistry

/-- The arguments of one `try_bind` call. -/
structure Call where
  name : String
  «alias» : Option UInt64
  datatype : DataType

/-- Run the calls in order, up to the first one that is refused. -/
def tryBindAll (reg : AliasRegistry) : List Call → Result AliasRegistry
  | [] => .ok reg
  | c :: calls => do
    let reg ← reg.tryBind c.name c.alias c.datatype
    tryBindAll reg calls

/-- Every call's binding can be looked up. -/
def Finds (reg : AliasRegistry) (calls : List Call) : Prop :=
  ∀ c ∈ calls, reg.datatypeForName c.name = some c.datatype ∧
    ∀ x, c.alias = some x → reg.nameForAlias x = some c.name ∧
      reg.aliasForName c.name = some x ∧ reg.datatypeForAlias x = some c.datatype

/-- Calls for the same name bind it to one datatype and to one alias at most. -/
def Agree (calls : List Call) : Prop :=
  ∀ c ∈ calls, ∀ c' ∈ calls, c.name = c'.name →
    c.datatype = c'.datatype ∧ ∀ x x', c.alias = some x → c'.alias = some x' → x = x'

/-- Names and aliases are bound to each other both ways, with one datatype. -/
structure Inverse (reg : AliasRegistry) : Prop where
  names : ∀ n x, reg.aliasForName n = some x ↔ reg.nameForAlias x = some n
  datatypes : ∀ n x, reg.aliasForName n = some x → reg.datatypeForAlias x = reg.datatypeForName n

/-- The answer the last call gives that has one. -/
def lastOf {α : Type} (f : Call → Option α) (calls : List Call) : Option α :=
  calls.reverse.findSome? f

/-- Every lookup finds the last binding. -/
structure LastBound (reg : AliasRegistry) (calls : List Call) : Prop where
  datatypeForName : ∀ n, reg.datatypeForName n =
    lastOf (fun c => if c.name = n then some c.datatype else none) calls
  aliasForName : ∀ n, reg.aliasForName n =
    lastOf (fun c => if c.name = n then c.alias else none) calls
  nameForAlias : ∀ x, reg.nameForAlias x =
    lastOf (fun c => if c.alias = some x then some c.name else none) calls
  datatypeForAlias : ∀ x, reg.datatypeForAlias x =
    lastOf (fun c => if c.alias = some x then some c.datatype else none) calls

/-! ## 1. The last binding -/

theorem mem_of_lastOf {α : Type} {f : Call → Option α} {calls : List Call} {a : α}
    (h : lastOf f calls = some a) : ∃ c ∈ calls, f c = some a := by
  obtain ⟨c, hc, hf⟩ := List.exists_of_findSome?_eq_some h
  exact ⟨c, List.mem_reverse.mp hc, hf⟩

/-- Where all answers are the same, the last one is that answer. -/
theorem lastOf_eq_some {α : Type} {f : Call → Option α} {calls : List Call} {a : α} {c : Call}
    (hc : c ∈ calls) (hf : f c = some a) (hall : ∀ c' ∈ calls, ∀ b, f c' = some b → b = a) :
    lastOf f calls = some a := by
  rcases hlast : lastOf f calls with - | b
  · have hnone := List.findSome?_eq_none_iff.mp hlast c (List.mem_reverse.mpr hc)
    exact absurd (hf.symm.trans hnone) (by simp)
  · obtain ⟨c', hc', hf'⟩ := mem_of_lastOf hlast
    rw [hall c' hc' b hf']

theorem tryBindAll_cons {reg reg' : AliasRegistry} {c : Call} {calls : List Call}
    (h : reg.tryBindAll (c :: calls) = .ok reg') :
    (∀ x, c.alias = some x → ∀ n, reg.nameForAlias x = some n → n = c.name) ∧
      (reg.bind c.name c.alias c.datatype).tryBindAll calls = .ok reg' := by
  rw [tryBindAll] at h
  cases htry : reg.tryBind c.name c.alias c.datatype with
  | error e =>
    rw [htry] at h
    exact absurd (show Except.error e = Except.ok reg' from h) (by simp)
  | ok reg1 =>
    rw [htry] at h
    obtain ⟨rfl, hfree⟩ := tryBind_ok htry
    exact ⟨hfree, h⟩

/-- A lookup that a binding answers or leaves as it was. -/
theorem lookup_tryBindAll {α : Type} (look : AliasRegistry → Option α) (f : Call → Option α)
    (hbind : ∀ (reg : AliasRegistry) (c : Call),
      look (reg.bind c.name c.alias c.datatype) = (f c).or (look reg)) :
    ∀ {calls : List Call} {reg reg' : AliasRegistry}, reg.tryBindAll calls = .ok reg' →
      look reg' = (lastOf f calls).or (look reg) := by
  intro calls
  induction calls with
  | nil =>
    intro reg reg' h
    obtain rfl := Except.ok.inj h
    rfl
  | cons c calls ih =>
    intro reg reg' h
    have hhead : [c].findSome? f = f c := by
      rw [List.findSome?_cons]
      cases f c <;> rfl
    rw [ih (tryBindAll_cons h).2, hbind, lastOf, lastOf, List.reverse_cons,
      List.findSome?_append, hhead, Option.or_assoc]

theorem lookup_new {α : Type} (look : AliasRegistry → Option α) (f : Call → Option α)
    (hnew : look new = none)
    (hbind : ∀ (reg : AliasRegistry) (c : Call),
      look (reg.bind c.name c.alias c.datatype) = (f c).or (look reg))
    {calls : List Call} {reg : AliasRegistry} (h : new.tryBindAll calls = .ok reg) :
    look reg = lastOf f calls := by
  rw [lookup_tryBindAll look f hbind h, hnew, Option.or_none]

theorem lastBound_tryBindAll {calls : List Call} {reg : AliasRegistry}
    (h : new.tryBindAll calls = .ok reg) : reg.LastBound calls where
  datatypeForName n := by
    refine lookup_new (fun reg => reg.datatypeForName n) _ (datatypeForName_new n) ?_ h
    intro reg c
    rw [datatypeForName_bind]
    split <;> rfl
  aliasForName n := by
    refine lookup_new (fun reg => reg.aliasForName n) _ (aliasForName_new n) ?_ h
    intro reg c
    rw [aliasForName_bind]
    split <;> rfl
  nameForAlias x := by
    refine lookup_new (fun reg => reg.nameForAlias x) _ (nameForAlias_new x) ?_ h
    intro reg c
    rw [nameForAlias_bind]
    split <;> rfl
  datatypeForAlias x := by
    refine lookup_new (fun reg => reg.datatypeForAlias x) _ (datatypeForAlias_new x) ?_ h
    intro reg c
    rw [datatypeForAlias_bind]
    split <;> rfl

/-- No alias stands for two names. -/
theorem name_unique {calls : List Call} {reg reg' : AliasRegistry}
    (h : reg.tryBindAll calls = .ok reg') :
    (∀ x n, reg.nameForAlias x = some n → reg'.nameForAlias x = some n) ∧
      ∀ c ∈ calls, ∀ x, c.alias = some x → reg'.nameForAlias x = some c.name := by
  induction calls generalizing reg with
  | nil =>
    obtain rfl := Except.ok.inj h
    exact ⟨fun _ _ hx => hx, fun c hc => absurd hc (by simp)⟩
  | cons c calls ih =>
    obtain ⟨hfree, hrest⟩ := tryBindAll_cons h
    obtain ⟨hkeep, hlater⟩ := ih hrest
    have hkept : ∀ x n, reg.nameForAlias x = some n → reg'.nameForAlias x = some n := by
      intro x n hx
      refine hkeep x n ?_
      rw [nameForAlias_bind]
      split
      · rename_i hcx
        rw [hfree x hcx n hx]
      · exact hx
    refine ⟨hkept, ?_⟩
    intro c' hc' x hx
    rcases List.mem_cons.mp hc' with rfl | hc'
    · exact hkeep x c'.name (by rw [nameForAlias_bind, if_pos hx])
    · exact hlater c' hc' x hx

/-! ## 2. Calls that agree -/

/-- The alias of a call is found again under its name. -/
theorem name_of_alias {calls : List Call} {reg : AliasRegistry}
    (h : new.tryBindAll calls = .ok reg) {c c' : Call} (hc : c ∈ calls) (hc' : c' ∈ calls)
    {x : UInt64} (hx : c.alias = some x) (hx' : c'.alias = some x) : c.name = c'.name := by
  have hfirst := (name_unique h).2 c hc x hx
  have hsecond := (name_unique h).2 c' hc' x hx'
  exact Option.some.inj (hfirst.symm.trans hsecond)

theorem finds_of_agree {calls : List Call} {reg : AliasRegistry}
    (h : new.tryBindAll calls = .ok reg) (hagree : Agree calls) : reg.Finds calls := by
  have hlast := lastBound_tryBindAll h
  intro c hc
  refine ⟨?_, ?_⟩
  · rw [hlast.datatypeForName]
    refine lastOf_eq_some hc (if_pos rfl) ?_
    intro c' hc' dt hdt
    obtain ⟨hname, hdt⟩ := Option.ite_none_right_eq_some.mp hdt
    exact (Option.some.inj hdt).symm.trans (hagree c' hc' c hc hname).1
  · intro x hx
    refine ⟨(name_unique h).2 c hc x hx, ?_, ?_⟩
    · rw [hlast.aliasForName]
      refine lastOf_eq_some hc ((if_pos rfl).trans hx) ?_
      intro c' hc' x' hx'
      obtain ⟨hname, hx'⟩ := Option.ite_none_right_eq_some.mp hx'
      exact (hagree c' hc' c hc hname).2 x' x hx' hx
    · rw [hlast.datatypeForAlias]
      refine lastOf_eq_some hc (if_pos hx) ?_
      intro c' hc' dt hdt
      obtain ⟨hx', hdt⟩ := Option.ite_none_right_eq_some.mp hdt
      have hname := name_of_alias h hc' hc hx' hx
      exact (Option.some.inj hdt).symm.trans (hagree c' hc' c hc hname).1

theorem agree_of_finds {calls : List Call} {reg : AliasRegistry} (hfinds : reg.Finds calls) :
    Agree calls := by
  intro c hc c' hc' hname
  obtain ⟨hdt, halias⟩ := hfinds c hc
  obtain ⟨hdt', halias'⟩ := hfinds c' hc'
  rw [hname] at hdt
  refine ⟨Option.some.inj (hdt.symm.trans hdt'), ?_⟩
  intro x x' hx hx'
  have hfound := (halias x hx).2.1
  rw [hname] at hfound
  exact Option.some.inj (hfound.symm.trans (halias' x' hx').2.1)

/-- Whatever is bound was bound by a call. -/
theorem inverse_of_finds {calls : List Call} {reg : AliasRegistry}
    (h : new.tryBindAll calls = .ok reg) (hfinds : reg.Finds calls) : reg.Inverse := by
  have hlast := lastBound_tryBindAll h
  have hcall : ∀ n x, reg.aliasForName n = some x → ∃ c ∈ calls, c.name = n ∧ c.alias = some x := by
    intro n x hx
    rw [hlast.aliasForName] at hx
    obtain ⟨c, hc, hfound⟩ := mem_of_lastOf hx
    exact ⟨c, hc, Option.ite_none_right_eq_some.mp hfound⟩
  refine ⟨?_, ?_⟩
  · intro n x
    constructor
    · intro hx
      obtain ⟨c, hc, rfl, hcx⟩ := hcall n x hx
      exact ((hfinds c hc).2 x hcx).1
    · intro hn
      rw [hlast.nameForAlias] at hn
      obtain ⟨c, hc, hfound⟩ := mem_of_lastOf hn
      obtain ⟨hcx, hname⟩ := Option.ite_none_right_eq_some.mp hfound
      rw [← Option.some.inj hname]
      exact ((hfinds c hc).2 x hcx).2.1
  · intro n x hx
    obtain ⟨c, hc, rfl, hcx⟩ := hcall n x hx
    rw [((hfinds c hc).2 x hcx).2.2, (hfinds c hc).1]

/-- **An accepted sequence of bindings can be looked up** call by call exactly when the calls for a
name agree, and then names and aliases are inverse to each other. -/
theorem finds_iff_agree {calls : List Call} {reg : AliasRegistry}
    (accepted : new.tryBindAll calls = .ok reg) :
    (∀ c ∈ calls, ∀ x, c.alias = some x → reg.nameForAlias x = some c.name) ∧
      (reg.Finds calls ↔ Agree calls) ∧ (Agree calls → reg.Inverse) := by
  refine ⟨(name_unique accepted).2, ⟨agree_of_finds, finds_of_agree accepted⟩, ?_⟩
  intro hagree
  exact inverse_of_finds accepted (finds_of_agree accepted hagree)

/-- A name that is bound twice alike, and another one. -/
def meterCalls : List Call :=
  [⟨"inlet", some 1, .int32⟩, ⟨"outlet", some 2, .double⟩, ⟨"inlet", none, .int32⟩]

theorem finds_iff_agree_meter : ∃ reg, new.tryBindAll meterCalls = .ok reg ∧
    (∀ c ∈ meterCalls, ∀ x, c.alias = some x → reg.nameForAlias x = some c.name) ∧
      (reg.Finds meterCalls ↔ Agree meterCalls) ∧ (Agree meterCalls → reg.Inverse) := by
  obtain ⟨reg, hreg, -⟩ := exists_ok (new.tryBindAll meterCalls) (fun _ => true) (by decide +kernel)
  exact ⟨reg, hreg, finds_iff_agree hreg⟩

/-- **A name bound twice**: both calls are accepted, and the first one cannot be looked up. -/
theorem first_binding_lost :
    ¬ ∀ (calls : List Call) (reg : AliasRegistry),
      new.tryBindAll calls = .ok reg → reg.Finds calls := by
  intro claim
  obtain ⟨reg, hreg, htest⟩ := exists_ok
    (new.tryBindAll [⟨"inlet", some 1, .int32⟩, ⟨"inlet", some 2, .int64⟩])
    (fun reg => decide (reg.datatypeForName "inlet" = some .int64)) (by decide +kernel)
  have hfirst := (claim _ reg hreg ⟨"inlet", some 1, .int32⟩ List.mem_cons_self).1
  exact absurd (hfirst.symm.trans (of_decide_eq_true htest)) (by decide)

end AliasRegistry

end SparkplugB
