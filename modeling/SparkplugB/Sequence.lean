/-
# Sequence counters and bdSeq persistence

`src/sequence.rs`.  Both counters are a `u8` and wrap from 255 to 0.
-/
import SparkplugB.Error

namespace SparkplugB

/-- The payload sequence number (`seq`). -/
structure Seq where
  val : UInt8
  deriving DecidableEq, Repr

namespace Seq

/-- A counter starting at 0 (the value an NBIRTH carries). -/
def new : Seq := ⟨0⟩

/-- The current value, and the counter moved forward. -/
def nextValue (s : Seq) : UInt8 × Seq := (s.val, ⟨s.val + 1⟩)

/-- Reset to 0 (on NBIRTH / rebirth). -/
def reset (_s : Seq) : Seq := ⟨0⟩

@[simp] theorem nextValue_fst (s : Seq) : s.nextValue.1 = s.val := rfl

@[simp] theorem nextValue_snd (s : Seq) : s.nextValue.2 = ⟨s.val + 1⟩ := rfl

@[simp] theorem reset_eq (s : Seq) : s.reset = new := rfl

@[simp] theorem new_val : new.val = 0 := rfl

end Seq

/-- Persistence for the bdSeq counter.  An `io::Error` is its text. -/
class BdSeqStore (S : Type) where
  /-- The bdSeq value to use for the next death/will. -/
  loadNextDeath : EStateM String S UInt8
  /-- Persist the bdSeq value to use for the next connection. -/
  storeNextDeath : UInt8 → EStateM String S Unit

/-- A store whose calls all succeed, and which gives out what was saved last. -/
class LawfulBdSeqStore (S : Type) [BdSeqStore S] where
  /-- What the next load gives out. -/
  next : S → UInt8
  load (store : S) : ∃ store', (BdSeqStore.loadNextDeath : EStateM String S UInt8).run store =
    .ok (next store) store' ∧ next store' = next store
  save (store : S) (value : UInt8) : ∃ store',
    (BdSeqStore.storeNextDeath value : EStateM String S Unit).run store = .ok () store' ∧
      next store' = value

/-- An in-memory bdSeq store. -/
structure InMemoryBdSeqStore where
  value : UInt8

instance : BdSeqStore InMemoryBdSeqStore where
  loadNextDeath := do return (← get).value
  storeNextDeath value := set (InMemoryBdSeqStore.mk value)

instance : LawfulBdSeqStore InMemoryBdSeqStore where
  next := InMemoryBdSeqStore.value
  load store := ⟨store, rfl, rfl⟩
  save _ value := ⟨⟨value⟩, rfl, rfl⟩

end SparkplugB
