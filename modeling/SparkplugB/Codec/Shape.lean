/-
# Nesting depth and well-formedness

The vocabulary of the codec's theorems, over the object model alone.  `height` counts how much
deeper than itself an object goes: each Template, member Metric, PropertySet, PropertyValue and
PropertySetList is one deeper than the object that directly contains it.  `Metric.All P` says
`P` of a metric and of every metric inside its nested templates; well-formedness and "the registry
recovers the datatype" are both of this form.
-/
import SparkplugB.Codec.ArrayLaws

namespace SparkplugB

/-! ## 1. Height -/

mutual

/-- How much deeper than a property value its contents go. -/
def PropertyValue.height : PropertyValue → Nat
  | .propertySet ps => 1 + PropertySet.height ps
  | .propertySetList list => 1 + PropertySetList.height list
  | _ => 0

def PropertySet.height : PropertySet → Nat
  | ⟨entries⟩ => entriesHeight entries

def entriesHeight : List (String × PropertyValue) → Nat
  | [] => 0
  | (_, value) :: rest => max (1 + PropertyValue.height value) (entriesHeight rest)

def PropertySetList.height : PropertySetList → Nat
  | ⟨sets⟩ => setsHeight sets

def setsHeight : List PropertySet → Nat
  | [] => 0
  | set :: rest => max (1 + PropertySet.height set) (setsHeight rest)

end

/-- How much deeper than a metric its properties go. -/
def propertiesHeight : Option PropertySet → Nat
  | some props => 1 + PropertySet.height props
  | none => 0

mutual

/-- How much deeper than a metric its contents go. -/
def Metric.height : Metric → Nat
  | ⟨_, _, _, value, _, _, _, properties⟩ =>
    max (propertiesHeight properties) (MetricValue.height value)

/-- How much deeper than its metric a value goes. -/
def MetricValue.height : MetricValue → Nat
  | .template t => 1 + Template.height t
  | _ => 0

def Template.height : Template → Nat
  | ⟨_, _, _, metrics, _⟩ => membersHeight metrics

def membersHeight : List Metric → Nat
  | [] => 0
  | metric :: rest => max (1 + Metric.height metric) (membersHeight rest)

end

/-- The nesting depth of a payload; a top-level metric is at depth 0. -/
def Payload.depth (p : Payload) : Nat := p.metrics.foldr (fun m d => max m.height d) 0

theorem Metric.height_eq (m : Metric) :
    m.height = max (propertiesHeight m.properties) m.value.height := by
  obtain ⟨_, _, _, value, _, _, _, properties⟩ := m
  rw [Metric.height]

theorem MetricValue.flat_of_datatype {v : MetricValue} (h : v.datatype ≠ .template) :
    ∀ t, v ≠ .template t := by
  rintro t rfl
  exact h rfl

theorem MetricValue.height_of_flat {v : MetricValue} (h : ∀ t, v ≠ .template t) : v.height = 0 := by
  cases v with
  | template t => exact absurd rfl (h t)
  | _ => rfl

theorem add_entriesHeight_le (d k : Nat) (entries : List (String × PropertyValue)) (hd : d ≤ k) :
    d + entriesHeight entries ≤ k ↔ ∀ e ∈ entries, d + 1 + e.2.height ≤ k := by
  induction entries with
  | nil => simpa [entriesHeight] using hd
  | cons e rest ih =>
    obtain ⟨key, value⟩ := e
    rw [entriesHeight, List.forall_mem_cons, ← ih]
    dsimp only
    omega

theorem add_setsHeight_le (d k : Nat) (sets : List PropertySet) (hd : d ≤ k) :
    d + setsHeight sets ≤ k ↔ ∀ set ∈ sets, d + 1 + PropertySet.height set ≤ k := by
  induction sets with
  | nil => simpa [setsHeight] using hd
  | cons set rest ih =>
    rw [setsHeight, List.forall_mem_cons, ← ih]
    omega

theorem add_membersHeight_le (d k : Nat) (metrics : List Metric) (hd : d ≤ k) :
    d + membersHeight metrics ≤ k ↔ ∀ m ∈ metrics, d + 1 + Metric.height m ≤ k := by
  induction metrics with
  | nil => simpa [membersHeight] using hd
  | cons m rest ih =>
    rw [membersHeight, List.forall_mem_cons, ← ih]
    omega

theorem Payload.depth_le_iff (p : Payload) (k : Nat) :
    p.depth ≤ k ↔ ∀ m ∈ p.metrics, Metric.height m ≤ k := by
  unfold Payload.depth
  induction p.metrics with
  | nil => simp
  | cons m rest ih =>
    rw [List.foldr_cons, List.forall_mem_cons, ← ih]
    exact Nat.max_le

/-! ## 2. A property of every metric -/

mutual

/-- `P` holds of the metric and of every metric nested in it. -/
def Metric.All (P : Metric → Prop) : Metric → Prop
  | ⟨name, alias?, timestamp, value, isHistorical, isTransient, metadata, properties⟩ =>
    P ⟨name, alias?, timestamp, value, isHistorical, isTransient, metadata, properties⟩ ∧
      MetricValue.All P value

/-- `P` holds of every metric nested in the value. -/
def MetricValue.All (P : Metric → Prop) : MetricValue → Prop
  | .template t => Template.All P t
  | _ => True

def Template.All (P : Metric → Prop) : Template → Prop
  | ⟨_, _, _, metrics, _⟩ => membersAll P metrics

def membersAll (P : Metric → Prop) : List Metric → Prop
  | [] => True
  | metric :: rest => Metric.All P metric ∧ membersAll P rest

end

theorem Metric.all_iff (P : Metric → Prop) (m : Metric) :
    m.All P ↔ P m ∧ m.value.All P := by
  obtain ⟨_, _, _, value, _, _, _, _⟩ := m
  rw [Metric.All]

theorem MetricValue.all_of_flat (P : Metric → Prop) {v : MetricValue}
    (h : ∀ t, v ≠ .template t) : v.All P := by
  cases v with
  | template t => exact absurd rfl (h t)
  | _ => trivial

theorem membersAll_iff (P : Metric → Prop) (metrics : List Metric) :
    membersAll P metrics ↔ ∀ m ∈ metrics, Metric.All P m := by
  induction metrics with
  | nil => simp [membersAll]
  | cons m rest ih => rw [membersAll, ih, List.forall_mem_cons]

theorem Template.all_iff (P : Metric → Prop) (t : Template) :
    Template.All P t ↔ ∀ m ∈ t.metrics, Metric.All P m := by
  obtain ⟨_, _, _, metrics, _⟩ := t
  rw [Template.All, membersAll_iff]

mutual

def Metric.decidableAll (P : Metric → Prop) [DecidablePred P] : (m : Metric) → Decidable (m.All P)
  | ⟨name, alias?, timestamp, value, isHistorical, isTransient, metadata, properties⟩ =>
    @instDecidableAnd
      (P ⟨name, alias?, timestamp, value, isHistorical, isTransient, metadata, properties⟩)
      (MetricValue.All P value) _ (MetricValue.decidableAll P value)

def MetricValue.decidableAll (P : Metric → Prop) [DecidablePred P] (v : MetricValue) :
    Decidable (v.All P) := by
  cases v with
  | template t => exact Template.decidableAll P t
  | _ => exact isTrue trivial

def Template.decidableAll (P : Metric → Prop) [DecidablePred P] :
    (t : Template) → Decidable (Template.All P t)
  | ⟨_, _, _, metrics, _⟩ => decidableMembersAll P metrics

def decidableMembersAll (P : Metric → Prop) [DecidablePred P] :
    (metrics : List Metric) → Decidable (membersAll P metrics)
  | [] => isTrue trivial
  | metric :: rest =>
    @instDecidableAnd (Metric.All P metric) (membersAll P rest) (Metric.decidableAll P metric)
      (decidableMembersAll P rest)

end

instance (P : Metric → Prop) [DecidablePred P] : DecidablePred (Metric.All P) :=
  Metric.decidableAll P

mutual

/-- What follows from two properties at each metric follows from both everywhere. -/
theorem Metric.All.combine {P Q R : Metric → Prop} (h : ∀ m, P m → Q m → R m) :
    (m : Metric) → m.All P → m.All Q → m.All R
  | ⟨_, _, _, value, _, _, _, _⟩, hp, hq => by
    rw [Metric.all_iff] at hp hq ⊢
    exact ⟨h _ hp.1 hq.1, MetricValue.All.combine h value hp.2 hq.2⟩

theorem MetricValue.All.combine {P Q R : Metric → Prop} (h : ∀ m, P m → Q m → R m) :
    (v : MetricValue) → v.All P → v.All Q → v.All R
  | v, hp, hq => by
    cases v with
    | template t =>
      obtain ⟨_, _, _, metrics, _⟩ := t
      rw [MetricValue.All, Template.All] at hp hq ⊢
      exact membersAll.combine h metrics hp hq
    | _ => trivial

theorem membersAll.combine {P Q R : Metric → Prop} (h : ∀ m, P m → Q m → R m) :
    (metrics : List Metric) → membersAll P metrics → membersAll Q metrics → membersAll R metrics
  | [], _, _ => trivial
  | m :: rest, hp, hq =>
    ⟨Metric.All.combine h m hp.1 hq.1, membersAll.combine h rest hp.2 hq.2⟩

end

theorem Metric.All.imp {P Q : Metric → Prop} (h : ∀ m, P m → Q m) (m : Metric) (hp : m.All P) :
    m.All Q := Metric.All.combine (fun m hp _ => h m hp) m hp hp

/-! ## 3. Well-formed payloads -/

/-- A parameter that has a value has one of its declared datatype. -/
def Parameter.Agrees (p : Parameter) : Prop := ∀ v, p.value = some v → v.datatype = p.datatype

instance (p : Parameter) : Decidable p.Agrees :=
  match h : p.value with
  | some v => decidable_of_iff (v.datatype = p.datatype) (by simp [Parameter.Agrees, h])
  | none => isTrue (by simp [Parameter.Agrees, h])

/-- What the codec asks of one value, its member metrics apart. -/
def MetricValue.Sound : MetricValue → Prop
  | .template t => ∀ p ∈ t.parameters, p.Agrees
  | v => Arrays.Packable v

instance : DecidablePred MetricValue.Sound := fun v => by
  apply @MetricValue.casesOn (fun v => Decidable v.Sound) v <;> intro x <;>
    first
    | exact instDecidableTrue
    | exact inferInstanceAs (Decidable (∀ p ∈ x.parameters, p.Agrees))
    | exact inferInstanceAs (Decidable (Arrays.Packable (.booleanArray x)))
    | exact inferInstanceAs (Decidable (Arrays.Packable (.stringArray x)))

theorem MetricValue.sound_of_packable {v : MetricValue} (hv : v.datatype ≠ .template)
    (h : Arrays.Packable v) : v.Sound := by
  cases v with
  | template t => exact absurd rfl hv
  | _ => exact h

/-- A metric whose values, at every level, the codec can write without loss. -/
def Metric.WellFormed (m : Metric) : Prop := m.All fun m => m.value.Sound

instance : DecidablePred Metric.WellFormed := fun m =>
  inferInstanceAs (Decidable (m.All fun m => m.value.Sound))

/-- **Well-formed payloads**: no StringArray element contains U+0000, every BooleanArray has
fewer than `2 ^ 32` elements, and every parameter value has its parameter's datatype.  (A `DataSet`
carries the checks of `DataSet::new` in its type.) -/
def Payload.WellFormed (p : Payload) : Prop := ∀ m ∈ p.metrics, Metric.WellFormed m

instance : DecidablePred Payload.WellFormed := fun p =>
  inferInstanceAs (Decidable (∀ m ∈ p.metrics, Metric.WellFormed m))

end SparkplugB
