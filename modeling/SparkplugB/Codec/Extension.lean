/-
# What is read with a larger registry

A registry only ever supplies a datatype that is missing.  So what is read with one registry, or with
none, is read the same way with every registry that supplies at least as much.  Two decoders that
differ in their registry run the same loops with different callees, and the loops agree wherever the
one that knows less succeeds.
-/
import SparkplugB.Codec.Fields

namespace SparkplugB

open Codec Reader

/-- What one registry supplies, the other supplies too, whether it is asked by name or by alias. -/
def Extends (types types' : Option AliasRegistry) : Prop :=
  ∀ name alias? dt, recoverDatatype types name alias? = some dt →
    recoverDatatype types' name alias? = some dt

theorem extends_none (types : Option AliasRegistry) : Extends none types :=
  fun _ _ _ h => absurd h (by simp [recoverDatatype])

/-- A name that was free, and has no alias. -/
theorem extends_bind (reg : AliasRegistry) {name : String} (hfree : reg.datatypeForName name = none)
    (dt : DataType) : Extends (some reg) (some (reg.bind name none dt)) := by
  intro name? alias? dt' h
  cases name? with
  | some n =>
    have hne : name ≠ n := by
      rintro rfl
      exact absurd (hfree.symm.trans h) (by simp)
    show (reg.bind name none dt).datatypeForName n = some dt'
    rw [AliasRegistry.datatypeForName_bind, if_neg hne]
    exact h
  | none =>
    cases alias? with
    | some a =>
      show (reg.bind name none dt).datatypeForAlias a = some dt'
      rw [AliasRegistry.datatypeForAlias_bind, if_neg (by simp)]
      exact h
    | none => exact absurd h (by simp [recoverDatatype])

namespace Codec

/-! ## 1. Loops that call more -/

theorem foldFields_mono {σ : Type} {handle handle' : σ → Nat → Raw → Result σ}
    (h : ∀ st n raw st', handle st n raw = .ok st' → handle' st n raw = .ok st') :
    ∀ (fs : List Field) (init st : σ), foldFields handle init fs = .ok st →
      foldFields handle' init fs = .ok st := by
  intro fs
  induction fs with
  | nil => exact fun _ _ hfold => hfold
  | cons f fs ih =>
    intro init st hfold
    rw [foldFields_cons] at hfold ⊢
    obtain ⟨st', hst', hfold⟩ := ok_of_bind hfold
    rw [h _ _ _ _ hst']
    exact ih st' st hfold

theorem readFields_mono {σ : Type} {handle handle' : σ → Nat → Raw → Result σ}
    (h : ∀ st n raw st', handle st n raw = .ok st' → handle' st n raw = .ok st') {init st : σ}
    {bytes : Bytes} (hread : readFields (byValue handle) init bytes = .ok st) :
    readFields (byValue handle') init bytes = .ok st := by
  obtain ⟨fs, hspells, hfold⟩ := exists_spells hread
  rw [readFields_spells handle' init hspells]
  exact foldFields_mono h fs init st hfold

/-! ## 2. Metrics and templates -/

/-- The datatype was written, or it is supplied. -/
theorem metricDatatype_extends {types types' : Option AliasRegistry} (hext : Extends types types')
    {st : RawMetric} {dt : DataType} (h : metricDatatype types st = .ok dt) :
    metricDatatype types' st = .ok dt := by
  unfold metricDatatype at h ⊢
  cases hcode : st.datatype with
  | some code =>
    rw [hcode] at h
    exact h
  | none =>
    rw [hcode] at h
    cases hrec : recoverDatatype types st.name st.alias with
    | some dt' =>
      rw [hrec] at h
      rw [hext _ _ _ hrec]
      exact h
    | none =>
      rw [hrec] at h
      exact absurd h (by simp)

theorem buildMetricValue_mono {dec dec' : Bytes → Result Template} {dt : DataType} {raw : RawValue}
    {v : MetricValue} (hdec : ∀ b t, dec b = .ok t → dec' b = .ok t)
    (h : buildMetricValue dec dt raw = .ok v) : buildMetricValue dec' dt raw = .ok v := by
  cases dt
  case template =>
    obtain ⟨b, hb, h⟩ := ok_of_bind h
    unfold buildMetricValue
    dsimp only
    rw [hb]
    exact map_mono (hdec b) h
  all_goals exact h

mutual

theorem decodeMetric_extends {types types' : Option AliasRegistry} (hext : Extends types types')
    {bytes : Bytes} {m : Metric} :
    ∀ (fuel depth : Nat), MAX_DEPTH < depth + fuel → decodeMetric bytes types depth = .ok m →
      decodeMetric bytes types' depth = .ok m
  | 0, depth, hfuel, h => by
    rw [decodeMetric, dif_pos (by omega)] at h
    exact absurd h (by simp)
  | fuel + 1, depth, hfuel, h => by
    rw [decodeMetric] at h ⊢
    split at h
    · exact absurd h (by simp)
    · rename_i hdepth
      obtain ⟨st, hst, h⟩ := ok_of_bind h
      obtain ⟨dt, hdt, h⟩ := ok_of_bind h
      rw [dif_neg hdepth, hst]
      dsimp only [bind, Except.bind]
      rw [metricDatatype_extends hext hdt]
      dsimp only
      split at h
      · rename_i hnull
        rw [if_pos hnull]
        exact h
      · rename_i hnull
        rw [if_neg hnull]
        have htemplate : ∀ b t, decodeTemplate b types (depth + 1) = .ok t →
            decodeTemplate b types' (depth + 1) = .ok t := fun b t ht =>
          decodeTemplate_extends hext fuel (depth + 1) (by omega) ht
        exact map_mono (fun v hv => buildMetricValue_mono htemplate hv) h

theorem decodeTemplate_extends {types types' : Option AliasRegistry} (hext : Extends types types')
    {bytes : Bytes} {t : Template} :
    ∀ (fuel depth : Nat), MAX_DEPTH < depth + fuel → decodeTemplate bytes types depth = .ok t →
      decodeTemplate bytes types' depth = .ok t
  | 0, depth, hfuel, h => by
    rw [decodeTemplate, dif_pos (by omega)] at h
    exact absurd h (by simp)
  | fuel + 1, depth, hfuel, h => by
    rw [decodeTemplate] at h ⊢
    split at h
    · exact absurd h (by simp)
    · rename_i hdepth
      rw [dif_neg hdepth]
      rw [templateBody_eq] at h ⊢
      refine readFields_mono (fun t n raw t' ht => ?_) h
      unfold templateField at ht ⊢
      split at ht
      case h_2 =>
        exact map_mono (fun m hm => decodeMetric_extends hext fuel (depth + 1) (by omega) hm) ht
      all_goals exact ht

end

end Codec

/-- **What is read with a registry is read with every larger one**, to the same payload, at every
level of nesting.  The bytes are any (`h` says that they were read). -/
theorem decode_extends {types types' : Option AliasRegistry} (hext : Extends types types')
    {bytes : Bytes} {p : Payload} (h : decode bytes types = .ok p) :
    decode bytes types' = .ok p := by
  rw [decode, decodePayload, payloadBody_eq] at h ⊢
  refine readFields_mono (fun p n raw p' hp => ?_) h
  unfold payloadField at hp ⊢
  split at hp
  case h_2 =>
    exact map_mono (fun m hm => decodeMetric_extends hext (MAX_DEPTH + 1) 0 (by omega) hm) hp
  all_goals exact hp

/-- A unit, and the number `x` that is a member of it. -/
def unitTypes : AliasRegistry := (AliasRegistry.new.bind "unit" none .template).bind "x" none .int32

/-- A unit whose `x` is 7, without datatypes. -/
def unitData : Bytes :=
  [0x12, 18, 0x0a, 4, 117, 110, 105, 116, 0x92, 1, 9, 0x12, 5, 0x0a, 1, 120, 0x50, 7, 0x28, 0]

theorem decode_extends_unitData :
    ∃ p, decode unitData (some unitTypes) = .ok p ∧
      decode unitData (some (unitTypes.bind "speed" none .double)) = .ok p := by
  obtain ⟨p, hp⟩ := exists_of_isOk (x := decode unitData (some unitTypes)) (by decide +kernel)
  exact ⟨p, hp, decode_extends (extends_bind unitTypes (by decide +kernel) .double) hp⟩

/-- **What is read without a registry is read with every registry**: its datatypes stand in the
bytes, and `decode_metric` prefers them. -/
theorem decode_of_none {bytes : Bytes} {p : Payload} (h : decode bytes none = .ok p)
    (types : Option AliasRegistry) : decode bytes types = .ok p :=
  decode_extends (extends_none types) h

end SparkplugB
