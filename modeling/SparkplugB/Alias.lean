/-
# The alias registry

`src/alias.rs`: the name ↔ alias ↔ datatype bindings established by a BIRTH.  Each `HashMap` is
a `Std.ExtTreeMap`, because no function observes the iteration order of one.
-/
import SparkplugB.Model

namespace SparkplugB

/-- Bidirectional name ↔ alias bindings plus a datatype index. -/
structure AliasRegistry where
  nameToAlias : Std.ExtTreeMap String UInt64
  aliasToName : Std.ExtTreeMap UInt64 String
  dtByName : Std.ExtTreeMap String DataType
  dtByAlias : Std.ExtTreeMap UInt64 DataType

namespace AliasRegistry

/-- An empty registry. -/
def new : AliasRegistry := ⟨∅, ∅, ∅, ∅⟩

/-- Bind a metric's name (and optional alias) to its datatype, overwriting any existing binding
for the same name or alias. -/
def bind (reg : AliasRegistry) (name : String) (alias? : Option UInt64) (datatype : DataType) :
    AliasRegistry :=
  match alias? with
  | some a =>
    { nameToAlias := reg.nameToAlias.insert name a
      aliasToName := reg.aliasToName.insert a name
      dtByName := reg.dtByName.insert name datatype
      dtByAlias := reg.dtByAlias.insert a datatype }
  | none => { reg with dtByName := reg.dtByName.insert name datatype }

/-- Like `bind`, but rejects an alias already bound to a different name. -/
def tryBind (reg : AliasRegistry) (name : String) (alias? : Option UInt64)
    (datatype : DataType) : Result AliasRegistry :=
  match alias?.bind (fun a => (reg.aliasToName[a]?).map (fun existing => (a, existing))) with
  | some (a, existing) =>
    if existing ≠ name then
      .error (.invalidId
        s!"alias {a} already bound to {debugStr existing}, cannot rebind to {debugStr name}")
    else .ok (reg.bind name alias? datatype)
  | none => .ok (reg.bind name alias? datatype)

/-- The datatype declared for `name`, if any. -/
def datatypeForName (reg : AliasRegistry) (name : String) : Option DataType :=
  reg.dtByName[name]?

/-- The datatype declared for `alias`, if any. -/
def datatypeForAlias (reg : AliasRegistry) (a : UInt64) : Option DataType :=
  reg.dtByAlias[a]?

/-- The name bound to `alias`, if any. -/
def nameForAlias (reg : AliasRegistry) (a : UInt64) : Option String :=
  reg.aliasToName[a]?

/-- The alias bound to `name`, if any. -/
def aliasForName (reg : AliasRegistry) (name : String) : Option UInt64 :=
  reg.nameToAlias[name]?

/-- Clear every binding. -/
def clear (_reg : AliasRegistry) : AliasRegistry := new

/-! ## What `bind` and `tryBind` do to each index -/

@[simp] theorem datatypeForName_new (n : String) : new.datatypeForName n = none := by
  simp [new, datatypeForName]

@[simp] theorem datatypeForAlias_new (a : UInt64) : new.datatypeForAlias a = none := by
  simp [new, datatypeForAlias]

@[simp] theorem nameForAlias_new (a : UInt64) : new.nameForAlias a = none := by
  simp [new, nameForAlias]

@[simp] theorem aliasForName_new (n : String) : new.aliasForName n = none := by
  simp [new, aliasForName]

@[simp] theorem clear_eq_new (reg : AliasRegistry) : reg.clear = new := rfl

theorem datatypeForName_bind (reg : AliasRegistry) (name n : String) (alias? : Option UInt64)
    (dt : DataType) :
    (reg.bind name alias? dt).datatypeForName n =
      if name = n then some dt else reg.datatypeForName n := by
  cases alias? <;> simp [bind, datatypeForName, Std.ExtTreeMap.getElem?_insert]

theorem datatypeForAlias_bind (reg : AliasRegistry) (name : String) (alias? : Option UInt64)
    (dt : DataType) (a : UInt64) :
    (reg.bind name alias? dt).datatypeForAlias a =
      if alias? = some a then some dt else reg.datatypeForAlias a := by
  cases alias? <;> simp [bind, datatypeForAlias, Std.ExtTreeMap.getElem?_insert]

theorem nameForAlias_bind (reg : AliasRegistry) (name : String) (alias? : Option UInt64)
    (dt : DataType) (a : UInt64) :
    (reg.bind name alias? dt).nameForAlias a =
      if alias? = some a then some name else reg.nameForAlias a := by
  cases alias? <;> simp [bind, nameForAlias, Std.ExtTreeMap.getElem?_insert]

theorem aliasForName_bind (reg : AliasRegistry) (name n : String) (alias? : Option UInt64)
    (dt : DataType) :
    (reg.bind name alias? dt).aliasForName n =
      if name = n then (alias?.or (reg.aliasForName n)) else reg.aliasForName n := by
  cases alias? <;> simp [bind, aliasForName, Std.ExtTreeMap.getElem?_insert]

/-- `tryBind` is `bind`, guarded by "the alias is free or already belongs to this name". -/
theorem tryBind_eq (reg : AliasRegistry) (name : String) (alias? : Option UInt64)
    (dt : DataType) (h : ∀ a, alias? = some a → ∀ n, reg.nameForAlias a = some n → n = name) :
    reg.tryBind name alias? dt = .ok (reg.bind name alias? dt) := by
  unfold tryBind
  cases alias? with
  | none => rfl
  | some a =>
    cases hn : reg.aliasToName[a]? with
    | none => simp [hn]
    | some existing => simp [hn, h a rfl existing hn]

/-- A successful `tryBind` found no other name behind the alias. -/
theorem tryBind_ok {reg reg' : AliasRegistry} {name : String} {alias? : Option UInt64}
    {dt : DataType} (h : reg.tryBind name alias? dt = .ok reg') :
    reg' = reg.bind name alias? dt ∧
      ∀ a, alias? = some a → ∀ n, reg.nameForAlias a = some n → n = name := by
  unfold tryBind at h
  cases alias? with
  | none => exact ⟨(Except.ok.inj h).symm, fun a ha => by simp at ha⟩
  | some a =>
    cases hn : reg.aliasToName[a]? with
    | none =>
      simp only [Option.bind_some, hn, Option.map_none, Except.ok.injEq] at h
      refine ⟨h.symm, ?_⟩
      rintro b rfl' n hb
      obtain rfl : a = b := by simpa using rfl'
      rw [nameForAlias, hn] at hb
      exact absurd hb (by simp)
    | some existing =>
      by_cases he : existing = name
      · simp only [Option.bind_some, hn, Option.map_some, he, ne_eq, not_true_eq_false, if_false,
          Except.ok.injEq] at h
        refine ⟨h.symm, ?_⟩
        rintro b rfl' n hb
        obtain rfl : a = b := by simpa using rfl'
        rw [nameForAlias, hn, he] at hb
        exact (Option.some.inj hb).symm
      · simp [hn, he] at h

/-! ## The metrics of a birth -/

/-- The loop over the metrics of a BIRTH: `try_bind` every named one.  The flag says whether a
bind was refused; a refused one leaves the registry as it is and the loop goes on. -/
def bindAll (reg : AliasRegistry) : List Metric → AliasRegistry × Bool
  | [] => (reg, false)
  | m :: rest =>
    match m.name with
    | none => bindAll reg rest
    | some name =>
      match reg.tryBind name m.alias m.value.datatype with
      | .ok reg' => bindAll reg' rest
      | .error _ => ((bindAll reg rest).1, true)

/-- The names a birth declares. -/
def namesOf (metrics : List Metric) : List String := metrics.filterMap MetricOf.name

theorem bindAll_cons_named {reg reg' : AliasRegistry} {m : Metric} {rest : List Metric}
    {name : String} (hname : m.name = some name) (h : reg.bindAll (m :: rest) = (reg', false)) :
    (∀ a, m.alias = some a → ∀ n, reg.nameForAlias a = some n → n = name) ∧
      (reg.bind name m.alias m.value.datatype).bindAll rest = (reg', false) := by
  rw [bindAll, hname] at h
  dsimp only at h
  cases ht : reg.tryBind name m.alias m.value.datatype with
  | error e =>
    rw [ht] at h
    exact absurd (congrArg Prod.snd h) (by simp)
  | ok reg1 =>
    rw [ht] at h
    obtain ⟨rfl, hfree⟩ := tryBind_ok ht
    exact ⟨hfree, h⟩

theorem bindAll_cons_unnamed {reg : AliasRegistry} {m : Metric} {rest : List Metric}
    (hname : m.name = none) : reg.bindAll (m :: rest) = reg.bindAll rest := by
  rw [bindAll, hname]

/-- A lookup that no bind of these metrics touches. -/
theorem lookup_bindAll {α : Type} (look : AliasRegistry → α) :
    ∀ {metrics : List Metric} {reg reg' : AliasRegistry},
      (∀ m ∈ metrics, ∀ name, m.name = some name → ∀ reg : AliasRegistry,
        look (reg.bind name m.alias m.value.datatype) = look reg) →
      reg.bindAll metrics = (reg', false) → look reg' = look reg := by
  intro metrics
  induction metrics with
  | nil =>
    intro reg reg' _ h
    obtain rfl : reg = reg' := congrArg Prod.fst h
    rfl
  | cons m rest ih =>
    intro reg reg' hlook h
    have hrest := fun m' hm' => hlook m' (List.mem_cons_of_mem m hm')
    cases hname : m.name with
    | none =>
      rw [bindAll_cons_unnamed hname] at h
      exact ih hrest h
    | some name =>
      obtain ⟨-, h⟩ := bindAll_cons_named hname h
      rw [ih hrest h, hlook m List.mem_cons_self name hname]

/-- A name that does not occur among the metrics keeps its datatype. -/
theorem datatypeForName_bindAll {metrics : List Metric} {reg reg' : AliasRegistry} {n : String}
    (hn : n ∉ namesOf metrics) (h : reg.bindAll metrics = (reg', false)) :
    reg'.datatypeForName n = reg.datatypeForName n := by
  refine lookup_bindAll (fun reg => reg.datatypeForName n) ?_ h
  intro m hm name hname reg
  have hne : name ≠ n := fun heq => hn (List.mem_filterMap.mpr ⟨m, hm, heq ▸ hname⟩)
  rw [datatypeForName_bind, if_neg hne]

/-- An alias of a name that does not occur among the metrics stays with it. -/
theorem alias_bindAll {n : String} {a : UInt64} :
    ∀ {metrics : List Metric} {reg reg' : AliasRegistry}, n ∉ namesOf metrics →
      reg.nameForAlias a = some n → reg.bindAll metrics = (reg', false) →
      reg'.nameForAlias a = some n ∧ reg'.datatypeForAlias a = reg.datatypeForAlias a
  | [], reg, reg', _, ha, h => by
    obtain rfl : reg = reg' := congrArg Prod.fst h
    exact ⟨ha, rfl⟩
  | m :: rest, reg, reg', hn, ha, h => by
    cases hname : m.name with
    | none =>
      rw [bindAll_cons_unnamed hname] at h
      exact alias_bindAll (by simpa [namesOf, hname] using hn) ha h
    | some name =>
      obtain ⟨hfree, h⟩ := bindAll_cons_named hname h
      simp only [namesOf, List.filterMap_cons, hname, List.mem_cons, not_or] at hn
      have hne : m.alias ≠ some a := fun hm => hn.1 (hfree a hm n ha)
      have ha' : (reg.bind name m.alias m.value.datatype).nameForAlias a = some n := by
        rw [nameForAlias_bind, if_neg hne, ha]
      obtain ⟨h1, h2⟩ := alias_bindAll hn.2 ha' h
      exact ⟨h1, by rw [h2, datatypeForAlias_bind, if_neg hne]⟩

/-- **After a birth** whose names are distinct and none of whose binds was refused, the registry
knows every metric of it by name, and by alias where it has one. -/
theorem knows_of_bindAll :
    ∀ {metrics : List Metric} {reg reg' : AliasRegistry}, (namesOf metrics).Nodup →
      reg.bindAll metrics = (reg', false) → ∀ m ∈ metrics, ∀ n, m.name = some n →
        reg'.datatypeForName n = some m.value.datatype ∧
        ∀ a, m.alias = some a →
          reg'.nameForAlias a = some n ∧ reg'.datatypeForAlias a = some m.value.datatype
  | [], _, _, _, _, _, hm, _, _ => absurd hm (by simp)
  | b :: rest, reg, reg', hnodup, h, m, hm, n, hn => by
    cases hname : b.name with
    | none =>
      rw [bindAll_cons_unnamed hname] at h
      have hrest : (namesOf rest).Nodup := by simpa [namesOf, hname] using hnodup
      rcases List.mem_cons.mp hm with rfl | hm
      · exact absurd (hname.symm.trans hn) (by simp)
      · exact knows_of_bindAll hrest h m hm n hn
    | some name =>
      obtain ⟨-, h⟩ := bindAll_cons_named hname h
      simp only [namesOf, List.filterMap_cons, hname, List.nodup_cons] at hnodup
      rcases List.mem_cons.mp hm with rfl | hm
      · obtain rfl : name = n := Option.some.inj (hname.symm.trans hn)
        refine ⟨?_, fun a ha => ?_⟩
        · rw [datatypeForName_bindAll hnodup.1 h, datatypeForName_bind, if_pos rfl]
        · have ha' : (reg.bind name m.alias m.value.datatype).nameForAlias a = some name := by
            rw [nameForAlias_bind, if_pos ha]
          obtain ⟨h1, h2⟩ := alias_bindAll hnodup.1 ha' h
          exact ⟨h1, by rw [h2, datatypeForAlias_bind, if_pos ha]⟩
      · exact knows_of_bindAll hnodup.2 h m hm n hn

/-! ## Clashing aliases -/

/-- One alias stands for two names. -/
def Clashes (metrics : List Metric) : Prop :=
  ∃ m ∈ metrics, ∃ m' ∈ metrics, ∃ a n n',
    m.alias = some a ∧ m'.alias = some a ∧ m.name = some n ∧ m'.name = some n' ∧ n ≠ n'

/-- The registry has another name behind one of the aliases. -/
def Contradicts (reg : AliasRegistry) (metrics : List Metric) : Prop :=
  ∃ m ∈ metrics, ∃ a n n',
    m.alias = some a ∧ m.name = some n ∧ reg.nameForAlias a = some n' ∧ n' ≠ n

theorem not_contradicts_new (metrics : List Metric) : ¬ new.Contradicts metrics := by
  rintro ⟨m, -, a, n, n', -, -, hnew, -⟩
  rw [nameForAlias_new] at hnew
  exact absurd hnew (by simp)

/-- A refused `tryBind` found another name behind the alias. -/
theorem tryBind_error {reg : AliasRegistry} {name : String} {alias? : Option UInt64}
    {dt : DataType} {e : SparkplugError} (h : reg.tryBind name alias? dt = .error e) :
    ∃ a n, alias? = some a ∧ reg.nameForAlias a = some n ∧ n ≠ name := by
  by_contra hfree
  have hok := tryBind_eq reg name alias? dt fun a ha n hn => by
    by_contra hne
    exact hfree ⟨a, n, ha, hn, hne⟩
  rw [hok] at h
  exact absurd h (by simp)

theorem contradicts_cons {reg : AliasRegistry} {m : Metric} {rest : List Metric} {name : String}
    (hname : m.name = some name) :
    reg.Contradicts (m :: rest) ↔
      (∃ a n, m.alias = some a ∧ reg.nameForAlias a = some n ∧ n ≠ name) ∨
        reg.Contradicts rest := by
  constructor
  · rintro ⟨m', hm', a, n, n', ha, hn, hreg, hne⟩
    rcases List.mem_cons.mp hm' with rfl | hm'
    · obtain rfl : name = n := Option.some.inj (hname.symm.trans hn)
      exact .inl ⟨a, n', ha, hreg, hne⟩
    · exact .inr ⟨m', hm', a, n, n', ha, hn, hreg, hne⟩
  · rintro (⟨a, n', ha, hreg, hne⟩ | ⟨m', hm', hrest⟩)
    · exact ⟨m, by simp, a, name, n', ha, hname, hreg, hne⟩
    · exact ⟨m', List.mem_cons_of_mem _ hm', hrest⟩

/-- What `bind` adds to the registry is what the bound metric adds to the list. -/
theorem contradicts_bind {reg : AliasRegistry} {m : Metric} {rest : List Metric} {name : String}
    (hname : m.name = some name)
    (hfree : ∀ a, m.alias = some a → ∀ n, reg.nameForAlias a = some n → n = name) :
    (reg.bind name m.alias m.value.datatype).Contradicts rest ∨ Clashes rest ↔
      reg.Contradicts rest ∨ Clashes (m :: rest) := by
  constructor
  · rintro (⟨m', hm', a, n, n', ha, hn, hreg, hne⟩ | ⟨m', hm', m'', hm'', hclash⟩)
    · rw [nameForAlias_bind] at hreg
      by_cases hma : m.alias = some a
      · rw [if_pos hma] at hreg
        obtain rfl := Option.some.inj hreg
        exact .inr ⟨m, by simp, m', List.mem_cons_of_mem _ hm', a, name, n, hma, ha, hname, hn, hne⟩
      · rw [if_neg hma] at hreg
        exact .inl ⟨m', hm', a, n, n', ha, hn, hreg, hne⟩
    · exact .inr ⟨m', List.mem_cons_of_mem _ hm', m'', List.mem_cons_of_mem _ hm'', hclash⟩
  · -- the bound metric and a later one: the later one contradicts the new binding
    have later : ∀ m' ∈ rest, ∀ a n, m.alias = some a → m'.alias = some a → m'.name = some n →
        name ≠ n → (reg.bind name m.alias m.value.datatype).Contradicts rest := by
      intro m' hm' a n hma ha hn hne
      exact ⟨m', hm', a, n, name, ha, hn, by rw [nameForAlias_bind, if_pos hma], hne⟩
    rintro (⟨m', hm', a, n, n', ha, hn, hreg, hne⟩ | ⟨m', hm', m'', hm'', a, n, n', ha, ha', hn, hn', hne⟩)
    · by_cases hma : m.alias = some a
      · obtain rfl := hfree a hma n' hreg
        exact .inl (later m' hm' a n hma ha hn hne)
      · exact .inl ⟨m', hm', a, n, n', ha, hn, by rw [nameForAlias_bind, if_neg hma, hreg], hne⟩
    · rcases List.mem_cons.mp hm' with rfl | hr' <;> rcases List.mem_cons.mp hm'' with rfl | hr''
      · exact absurd (Option.some.inj (hn.symm.trans hn')) hne
      · obtain rfl : name = n := Option.some.inj (hname.symm.trans hn)
        exact .inl (later m'' hr'' a n' ha ha' hn' hne)
      · obtain rfl : name = n' := Option.some.inj (hname.symm.trans hn')
        exact .inl (later m' hr' a n ha' ha hn hne.symm)
      · exact .inr ⟨m', hr', m'', hr'', a, n, n', ha, ha', hn, hn', hne⟩

theorem bindAll_refuses_iff :
    ∀ {metrics : List Metric} {reg : AliasRegistry},
      (reg.bindAll metrics).2 = true ↔ reg.Contradicts metrics ∨ Clashes metrics
  | [], reg => by simp [bindAll, Contradicts, Clashes]
  | m :: rest, reg => by
    cases hname : m.name with
    | none =>
      rw [bindAll_cons_unnamed hname, bindAll_refuses_iff]
      simp [Contradicts, Clashes, hname]
    | some name =>
      cases htry : reg.tryBind name m.alias m.value.datatype with
      | error e =>
        refine iff_of_true ?_ (.inl ((contradicts_cons hname).mpr (.inl (tryBind_error htry))))
        simp [bindAll, hname, htry]
      | ok reg' =>
        obtain ⟨rfl, hfree⟩ := tryBind_ok htry
        have hhead : ¬ ∃ a n, m.alias = some a ∧ reg.nameForAlias a = some n ∧ n ≠ name := by
          rintro ⟨a, n, ha, hn, hne⟩
          exact hne (hfree a ha n hn)
        rw [contradicts_cons hname, or_iff_right hhead, ← contradicts_bind hname hfree,
          ← bindAll_refuses_iff]
        simp [bindAll, hname, htry]

/-- **A birth is refused** exactly when it binds one alias to two names. -/
theorem bindAll_new_refuses_iff {metrics : List Metric} :
    (new.bindAll metrics).2 = true ↔ Clashes metrics :=
  bindAll_refuses_iff.trans (or_iff_right (not_contradicts_new metrics))

instance (metrics : List Metric) : Decidable (Clashes metrics) :=
  decidable_of_iff _ bindAll_new_refuses_iff

/-! ## What a birth leaves in the registry -/

/-- A name that does not occur among the metrics keeps its alias. -/
theorem aliasForName_bindAll {metrics : List Metric} {reg reg' : AliasRegistry} {n : String}
    (hn : n ∉ namesOf metrics) (h : reg.bindAll metrics = (reg', false)) :
    reg'.aliasForName n = reg.aliasForName n := by
  refine lookup_bindAll (fun reg => reg.aliasForName n) ?_ h
  intro m hm name hname reg
  have hne : name ≠ n := fun heq => hn (List.mem_filterMap.mpr ⟨m, hm, heq ▸ hname⟩)
  rw [aliasForName_bind, if_neg hne]

/-- An alias that no named metric has is bound as before. -/
theorem forAlias_bindAll {metrics : List Metric} {reg reg' : AliasRegistry} {a : UInt64}
    (ha : ∀ m ∈ metrics, m.name ≠ none → m.alias ≠ some a)
    (h : reg.bindAll metrics = (reg', false)) :
    reg'.nameForAlias a = reg.nameForAlias a ∧ reg'.datatypeForAlias a = reg.datatypeForAlias a := by
  refine ⟨lookup_bindAll (fun reg => reg.nameForAlias a) ?_ h,
    lookup_bindAll (fun reg => reg.datatypeForAlias a) ?_ h⟩
  · intro m hm name hname reg
    rw [nameForAlias_bind, if_neg (ha m hm (by simp [hname]))]
  · intro m hm name hname reg
    rw [datatypeForAlias_bind, if_neg (ha m hm (by simp [hname]))]

/-- A metric of a birth whose names are distinct gives its name the alias it has. -/
theorem aliasForName_of_mem :
    ∀ {metrics : List Metric} {reg reg' : AliasRegistry}, (namesOf metrics).Nodup →
      reg.bindAll metrics = (reg', false) → ∀ m ∈ metrics, ∀ n, m.name = some n →
        reg'.aliasForName n = m.alias.or (reg.aliasForName n) := by
  intro metrics
  induction metrics with
  | nil =>
    intro reg reg' _ _ m hm
    exact absurd hm (by simp)
  | cons b rest ih =>
    intro reg reg' hnodup h m hm n hn
    cases hname : b.name with
    | none =>
      rw [bindAll_cons_unnamed hname] at h
      have hrest : (namesOf rest).Nodup := by simpa [namesOf, hname] using hnodup
      rcases List.mem_cons.mp hm with rfl | hm
      · exact absurd (hname.symm.trans hn) (by simp)
      · exact ih hrest h m hm n hn
    | some name =>
      obtain ⟨-, h⟩ := bindAll_cons_named hname h
      simp only [namesOf, List.filterMap_cons, hname, List.nodup_cons] at hnodup
      rcases List.mem_cons.mp hm with rfl | hm
      · obtain rfl : name = n := Option.some.inj (hname.symm.trans hn)
        rw [aliasForName_bindAll hnodup.1 h, aliasForName_bind, if_pos rfl]
      · have hne : name ≠ n := by
          rintro rfl
          exact hnodup.1 (List.mem_filterMap.mpr ⟨m, hm, hn⟩)
        rw [ih hnodup.2 h m hm n hn, aliasForName_bind, if_neg hne]

/-- A registry resolves names and aliases as the metrics of a birth declare them, and nothing
else: what a name that occurs more than once stands for is left open. -/
structure Resolves (reg : AliasRegistry) (metrics : List Metric) : Prop where
  datatype : (namesOf metrics).Nodup → ∀ m ∈ metrics, ∀ n, m.name = some n →
    reg.datatypeForName n = some m.value.datatype
  aliases : (namesOf metrics).Nodup → ∀ m ∈ metrics, ∀ n, m.name = some n →
    reg.aliasForName n = m.alias
  named : (namesOf metrics).Nodup → ∀ m ∈ metrics, ∀ n, m.name = some n → ∀ a,
    m.alias = some a → reg.nameForAlias a = some n ∧ reg.datatypeForAlias a = some m.value.datatype
  noName : ∀ n, n ∉ namesOf metrics → reg.datatypeForName n = none ∧ reg.aliasForName n = none
  noAlias : ∀ a, (∀ m ∈ metrics, m.name ≠ none → m.alias ≠ some a) →
    reg.nameForAlias a = none ∧ reg.datatypeForAlias a = none

/-- The registry a birth leaves behind. -/
def registryOf (metrics : List Metric) : AliasRegistry := (new.bindAll metrics).1

/-- **A birth leaves its own declarations** and no other, unless one of its binds is refused. -/
theorem resolves_registryOf {metrics : List Metric} (h : ¬ Clashes metrics) :
    (registryOf metrics).Resolves metrics := by
  have hok : new.bindAll metrics = (registryOf metrics, false) := by
    rw [← bindAll_new_refuses_iff, Bool.not_eq_true] at h
    exact Prod.ext rfl h
  refine ⟨?_, ?_, ?_, ?_, ?_⟩
  · intro hnodup m hm n hn
    exact (knows_of_bindAll hnodup hok m hm n hn).1
  · intro hnodup m hm n hn
    rw [aliasForName_of_mem hnodup hok m hm n hn, aliasForName_new, Option.or_none]
  · intro hnodup m hm n hn
    exact (knows_of_bindAll hnodup hok m hm n hn).2
  · intro n hn
    rw [datatypeForName_bindAll hn hok, aliasForName_bindAll hn hok]
    exact ⟨datatypeForName_new n, aliasForName_new n⟩
  · intro a ha
    obtain ⟨hname, hdatatype⟩ := forAlias_bindAll ha hok
    exact ⟨hname.trans (nameForAlias_new a), hdatatype.trans (datatypeForAlias_new a)⟩

end AliasRegistry

end SparkplugB
