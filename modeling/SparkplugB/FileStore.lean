/-
# The file-backed bdSeq store

`src/sequence.rs`.  The store keeps one number, in decimal, in one file, and replaces the file by way
of a temporary one whose name ends in the process id.  A call can end with an error, or with its
process, before any of its steps; what the file system has been told, it keeps.

* **Round trip** (`read_contents`): every number that is written is read back.
* **Atomicity** (`stores_atomic`): whatever stores save at once, and wherever they are cut off, each
  loads a number that was saved as a whole, as if saving took one step.

Left out: file names that are no UTF-8, which `to_string_lossy` changes.
-/
import SparkplugB.Codec.WireLaws
import SparkplugB.Lib.Fallible
import SparkplugB.Lib.Replace
import SparkplugB.Sequence
import SparkplugB.StateText

namespace SparkplugB

open Replace

/-! ## 1. The store -/

/-- A `PathBuf`: the text in front of the file name, and the file name, which a root and `..` have
not. -/
structure FilePath where
  parent : String
  fileName : Option String
  deriving DecidableEq, Repr

namespace FilePath

/-- `Path::with_file_name`. -/
def withFileName (path : FilePath) (name : String) : FilePath := { path with fileName := some name }

/-- The path as it is printed. -/
def text (path : FilePath) : String := path.parent ++ path.fileName.getD ""

end FilePath

/-- The digits of `str::parse::<u8>`. -/
def parseUInt8Digits (acc : Nat) : List Char → Except String Nat
  | [] => .ok acc
  | c :: rest =>
    if ¬ ('0' ≤ c ∧ c ≤ '9') then .error "invalid digit found in string"
    else
      let n := acc * 10 + (c.toNat - '0'.toNat)
      if 2 ^ 8 ≤ n then .error "number too large to fit in target type"
      else parseUInt8Digits n rest

/-- `str::parse::<u8>`, with the text of its error. -/
def parseUInt8 : List Char → Except String UInt8
  | [] => .error "cannot parse integer from empty string"
  | ['+'] | ['-'] => .error "invalid digit found in string"
  | '+' :: rest => (parseUInt8Digits 0 rest).map UInt8.ofNat
  | s => (parseUInt8Digits 0 s).map UInt8.ofNat

/-- A file-backed bdSeq store. -/
structure FileBdSeqStore where
  path : FilePath
  deriving DecidableEq, Repr

namespace FileBdSeqStore

/-- What is written for a number. -/
def contents (value : UInt8) : Bytes := asBytes (toString value.toNat)

/-- What is read from a file, with the text of the `io::Error`. -/
def read (store : FileBdSeqStore) (bytes : Bytes) : Except String UInt8 :=
  match fromUtf8 bytes with
  | none => .error "stream did not contain valid UTF-8"
  | some text =>
    (parseUInt8 (trim text.toList)).mapError fun e =>
      s!"corrupt bdSeq file {debugStr store.path.text}: {e}"

/-- `load_next_death`: a missing file means "never connected". -/
def load (store : FileBdSeqStore) (files : Files FilePath UInt8) : Except String UInt8 :=
  match files store.path with
  | none => .ok 0
  | some bytes => store.read bytes

/-- The temporary file of a process. -/
def tmp (store : FileBdSeqStore) (process : UInt32) : FilePath :=
  let fileName := store.path.fileName.getD "bdseq"
  store.path.withFileName s!"{fileName}.tmp.{process.toNat}"

/-- The steps of `store_next_death`. -/
def saving (store : FileBdSeqStore) (process : UInt32) (value : UInt8) :
    List (FileStep FilePath UInt8) :=
  replacing (store.tmp process) store.path (contents value)

end FileBdSeqStore

/-- A store at work: its process, the files, and after how many steps each call is cut off, one after
the other; later calls are not. -/
structure MountedStore where
  store : FileBdSeqStore
  process : UInt32
  files : Files FilePath UInt8
  cuts : List Nat

namespace MountedStore

/-- The store after some steps of a call. -/
def after (s : MountedStore) (steps : List (FileStep FilePath UInt8)) : MountedStore :=
  { s with files := Machine.run Files.step s.files steps, cuts := s.cuts.tail }

instance : BdSeqStore MountedStore where
  loadNextDeath := do EStateM.liftExcept ((← get).store.load (← get).files)
  storeNextDeath value := do
    let s ← get
    let steps := s.store.saving s.process value
    set (s.after (steps.take (s.cuts.headD steps.length)))
    if s.cuts.headD steps.length < steps.length then throw "interrupted"

end MountedStore

/-! ## 2. What is written is read back -/

theorem parseUInt8Digits_ofDigitChars :
    ∀ (ds : List Char), (∀ c ∈ ds, c.isDigit = true) → ∀ acc : Nat,
      Nat.ofDigitChars 10 ds acc < 2 ^ 8 →
      parseUInt8Digits acc ds = .ok (Nat.ofDigitChars 10 ds acc) := by
  intro ds
  induction ds with
  | nil =>
    intro _ acc _
    rw [Nat.ofDigitChars_nil, parseUInt8Digits]
  | cons c ds ih =>
    intro hdigits acc hfits
    obtain ⟨hc, hrest⟩ := List.forall_mem_cons.mp hdigits
    rw [Nat.ofDigitChars_cons] at hfits ⊢
    have hgrow := le_ofDigitChars ds (10 * acc + (c.toNat - '0'.toNat))
    have hrange : '0' ≤ c ∧ c ≤ '9' := by
      simp only [Char.isDigit, Bool.and_eq_true, decide_eq_true_eq] at hc
      exact hc
    have hsum : acc * 10 + (c.toNat - '0'.toNat) = 10 * acc + (c.toNat - '0'.toNat) := by
      rw [Nat.mul_comm]
    rw [parseUInt8Digits, if_neg (not_not.mpr hrange)]
    dsimp only
    rw [hsum, if_neg (by omega)]
    exact ih hrest _ hfits

theorem mem_toString_nat {n : Nat} {c : Char} (hc : c ∈ (toString n).toList) :
    c.isDigit = true := by
  rw [Nat.toString_eq_repr, Nat.toList_repr] at hc
  exact isDigit_of_mem hc

/-- A digit is neither white space nor a sign. -/
theorem plain_of_isDigit {c : Char} (h : c.isDigit = true) :
    isWhitespace c = false ∧ c ≠ '+' ∧ c ≠ '-' ∧ c ≠ '.' := by
  simp only [Char.isDigit, Bool.and_eq_true, decide_eq_true_eq] at h
  have hlow : 48 ≤ c.toNat := h.1
  have hhigh : c.toNat ≤ 57 := h.2
  refine ⟨?_, ?_, ?_, ?_⟩
  · unfold isWhitespace
    simp only [Bool.or_eq_false_iff, Bool.and_eq_false_iff, decide_eq_false_iff_not]
    omega
  · rintro rfl
    exact absurd hlow (by decide)
  · rintro rfl
    exact absurd hlow (by decide)
  · rintro rfl
    exact absurd hlow (by decide)

theorem parseUInt8_digits {c : Char} {cs : List Char} (hc : c.isDigit = true) :
    parseUInt8 (c :: cs) = (parseUInt8Digits 0 (c :: cs)).map UInt8.ofNat := by
  obtain ⟨-, hplus, hminus, -⟩ := plain_of_isDigit hc
  unfold parseUInt8
  split <;> simp_all

/-- A number that is printed is read back. -/
theorem parseUInt8_toString (value : UInt8) :
    parseUInt8 (trim (toString value.toNat).toList) = .ok value := by
  have hplain : ∀ c ∈ (toString value.toNat).toList, isWhitespace c = false := fun c hc =>
    (plain_of_isDigit (mem_toString_nat hc)).1
  have hfits : Nat.ofDigitChars 10 (Nat.toDigits 10 value.toNat) 0 < 2 ^ 8 := by
    rw [Nat.ofDigitChars_ten_toDigits]
    exact value.toNat_lt
  rw [trim, trimMatches_of_all hplain, Nat.toString_eq_repr, Nat.toList_repr]
  obtain ⟨c, cs, hds⟩ := List.exists_cons_of_ne_nil (Nat.toDigits_ne_nil (b := 10) (n := value.toNat))
  have hdigits : ∀ c ∈ Nat.toDigits 10 value.toNat, c.isDigit = true := fun c hc => isDigit_of_mem hc
  have hparse := parseUInt8Digits_ofDigitChars _ hdigits 0 hfits
  rw [Nat.ofDigitChars_ten_toDigits] at hparse
  rw [hds] at hdigits hparse ⊢
  rw [parseUInt8_digits (hdigits c List.mem_cons_self), hparse]
  exact congrArg Except.ok (UInt8.ofNat_toNat)

namespace FileBdSeqStore

/-- **What is written is read back.** -/
theorem read_contents (store : FileBdSeqStore) (value : UInt8) :
    store.read (contents value) = .ok value := by
  rw [read, contents, fromUtf8_asBytes]
  dsimp only
  rw [parseUInt8_toString]
  rfl

/-! ## 3. Temporary files -/

/-- The name of a temporary file. -/
def tmpName (name : String) (process : UInt32) : String := s!"{name}.tmp.{process.toNat}"

theorem toList_tmpName (name : String) (process : UInt32) :
    (tmpName name process).toList =
      name.toList ++ (['.', 't', 'm', 'p', '.'] ++ (toString process.toNat).toList) := by
  have htext : tmpName name process = name ++ ".tmp." ++ toString process.toNat := rfl
  have hmiddle : ".tmp.".toList = ['.', 't', 'm', 'p', '.'] := rfl
  rw [htext, String.toList_append, String.toList_append, hmiddle, List.append_assoc]

/-- The file name, and the process, can be told from the name of a temporary file. -/
theorem tmpName_inj {name name' : String} {process process' : UInt32}
    (h : tmpName name process = tmpName name' process') : name = name' ∧ process = process' := by
  have hdot : ∀ process : UInt32, '.' ∉ (toString process.toNat).toList.reverse := by
    intro process hmem
    exact (plain_of_isDigit (mem_toString_nat (List.mem_reverse.mp hmem))).2.2.2 rfl
  -- read from the end, the digits go on to the first dot
  have hreverse : ∀ (name : String) (process : UInt32), (tmpName name process).toList.reverse =
      (toString process.toNat).toList.reverse ++
        '.' :: ('p' :: 'm' :: 't' :: '.' :: name.toList.reverse) := by
    intro name process
    rw [toList_tmpName, List.reverse_append, List.reverse_append, List.append_assoc]
    rfl
  have hboth := congrArg (fun name => splitOnce '.' name.toList.reverse) h
  rw [hreverse, hreverse, splitOnce_append (hdot process), splitOnce_append (hdot process')] at hboth
  obtain ⟨hdigits, hfront⟩ := Prod.mk.inj (Option.some.inj hboth)
  have hname : name.toList.reverse = name'.toList.reverse := by simpa using hfront
  have hprocess : toString process.toNat = toString process'.toNat :=
    String.toList_inj.mp (List.reverse_injective hdigits)
  rw [Nat.toString_eq_repr, Nat.toString_eq_repr] at hprocess
  exact ⟨String.toList_inj.mp (List.reverse_injective hname),
    UInt32.toNat_inj.mp (Nat.repr_inj.mp hprocess)⟩

/-- The temporary file is another one. -/
theorem tmp_ne_path (store : FileBdSeqStore) (process : UInt32) : store.tmp process ≠ store.path := by
  intro heq
  have hname : some (tmpName (store.path.fileName.getD "bdseq") process) = store.path.fileName :=
    congrArg FilePath.fileName heq
  cases hfile : store.path.fileName with
  | none => exact absurd (hname.trans hfile) (by simp)
  | some name =>
    rw [hfile, Option.getD_some] at hname
    have hlength := congrArg List.length (toList_tmpName name process)
    rw [Option.some.inj hname, List.length_append] at hlength
    simp at hlength

/-- No two stores have one temporary file, if their paths have file names. -/
theorem tmp_inj {store store' : FileBdSeqStore} {process process' : UInt32}
    (hnamed : store.path.fileName.isSome = true) (hnamed' : store'.path.fileName.isSome = true)
    (h : store.tmp process = store'.tmp process') : store = store' ∧ process = process' := by
  obtain ⟨⟨parent, fileName⟩⟩ := store
  obtain ⟨⟨parent', fileName'⟩⟩ := store'
  obtain ⟨name, rfl⟩ := Option.isSome_iff_exists.mp hnamed
  obtain ⟨name', rfl⟩ := Option.isSome_iff_exists.mp hnamed'
  have hparent : parent = parent' := congrArg FilePath.parent h
  have hfile : some (tmpName name process) = some (tmpName name' process') :=
    congrArg FilePath.fileName h
  obtain ⟨rfl, rfl⟩ := tmpName_inj (Option.some.inj hfile)
  exact ⟨by rw [hparent], rfl⟩

end FileBdSeqStore

/-! ## 4. One store -/

/-- A store whose saves succeed or fail as a whole, as long as what it holds is `Sound`. -/
class AtomicBdSeqStore (S : Type) [BdSeqStore S] where
  Sound : S → Prop
  /-- What the next load gives out. -/
  next : S → UInt8
  load (store : S) : Sound store →
    (BdSeqStore.loadNextDeath : EStateM String S UInt8).run store = .ok (next store) store
  save (store : S) (value : UInt8) : Sound store → ∃ store', Sound store' ∧
    ((BdSeqStore.storeNextDeath value : EStateM String S Unit).run store = .ok () store' ∧
        next store' = value ∨
      ∃ e, (BdSeqStore.storeNextDeath value : EStateM String S Unit).run store = .error e store' ∧
        next store' = next store)

namespace FileBdSeqStore

/-- A save that is cut off changes nothing. -/
theorem load_cut (store : FileBdSeqStore) (process : UInt32) (value : UInt8)
    (files : Files FilePath UInt8) {k : Nat} (hk : k < (store.saving process value).length) :
    store.load (Machine.run Files.step files ((store.saving process value).take k)) =
      store.load files := by
  rw [saving, length_replacing] at hk
  have hsame := run_replacing_cut files (store.tmp process) store.path (contents value) hk
    (store.tmp_ne_path process).symm
  rw [load, load, saving, hsame]

/-- One that is not, changes the number. -/
theorem load_saved (store : FileBdSeqStore) (process : UInt32) (value : UInt8)
    (files : Files FilePath UInt8) :
    store.load (Machine.run Files.step files (store.saving process value)) = .ok value := by
  rw [load, saving, run_replacing, Function.update_self]
  exact store.read_contents value

end FileBdSeqStore

namespace MountedStore

/-- What `load_next_death` returns. -/
def loads (s : MountedStore) : Except String UInt8 := s.store.load s.files

theorem run_load {s : MountedStore} {value : UInt8} (h : s.loads = .ok value) :
    (BdSeqStore.loadNextDeath : EStateM String MountedStore UInt8).run s = .ok value s := by
  show EStateM.run (EStateM.liftExcept s.loads) s = _
  rw [h]
  rfl

theorem run_save_cut {s : MountedStore} {value : UInt8}
    (h : s.cuts.headD (s.store.saving s.process value).length <
      (s.store.saving s.process value).length) :
    (BdSeqStore.storeNextDeath value : EStateM String MountedStore Unit).run s =
      .error "interrupted" (s.after ((s.store.saving s.process value).take
        (s.cuts.headD (s.store.saving s.process value).length))) := by
  simp only [BdSeqStore.storeNextDeath, EStateM.run_bind, EStateM.run_get, EStateM.run_set, if_pos h]
  rfl

theorem run_save_whole {s : MountedStore} {value : UInt8}
    (h : ¬ s.cuts.headD (s.store.saving s.process value).length <
      (s.store.saving s.process value).length) :
    (BdSeqStore.storeNextDeath value : EStateM String MountedStore Unit).run s =
      .ok () (s.after (s.store.saving s.process value)) := by
  simp only [BdSeqStore.storeNextDeath, EStateM.run_bind, EStateM.run_get, EStateM.run_set, if_neg h]
  rw [List.take_of_length_le (Nat.le_of_not_lt h)]
  rfl

/-- **A save happens as a whole or not at all**, if the file can be read. -/
theorem run_save {s : MountedStore} {old : UInt8} (value : UInt8) (h : s.loads = .ok old) :
    ∃ s', (BdSeqStore.storeNextDeath value : EStateM String MountedStore Unit).run s = .ok () s' ∧
        s'.loads = .ok value ∨
      (BdSeqStore.storeNextDeath value : EStateM String MountedStore Unit).run s =
        .error "interrupted" s' ∧ s'.loads = .ok old := by
  by_cases hcut : s.cuts.headD (s.store.saving s.process value).length <
      (s.store.saving s.process value).length
  · exact ⟨_, .inr ⟨run_save_cut hcut, (s.store.load_cut s.process value s.files hcut).trans h⟩⟩
  · exact ⟨_, .inl ⟨run_save_whole hcut, s.store.load_saved s.process value s.files⟩⟩

/-- What the next load gives out. -/
def next (s : MountedStore) : UInt8 := s.loads.toOption.getD 0

theorem next_of_loads {s : MountedStore} {value : UInt8} (h : s.loads = .ok value) :
    s.next = value := by
  rw [next, h]
  rfl

instance : AtomicBdSeqStore MountedStore where
  Sound s := ∃ value, s.loads = .ok value
  next := next
  load s h := by
    obtain ⟨value, hvalue⟩ := h
    rw [run_load hvalue, next_of_loads hvalue]
  save s value h := by
    obtain ⟨old, hold⟩ := h
    obtain ⟨s', ⟨hrun, hloads⟩ | ⟨hrun, hloads⟩⟩ := run_save value hold
    · exact ⟨s', ⟨value, hloads⟩, .inl ⟨hrun, next_of_loads hloads⟩⟩
    · exact ⟨s', ⟨old, hloads⟩, .inr ⟨_, hrun, (next_of_loads hloads).trans (next_of_loads hold).symm⟩⟩

end MountedStore

/-! ## 5. Stores that save at once -/

/-- Stores in their processes.  Their paths have file names, none of which is that of a temporary
file, and no two are one store in one process. -/
structure Siblings (C : Type) where
  store : C → FileBdSeqStore
  process : C → UInt32
  named : ∀ c, (store c).path.fileName.isSome = true
  distinct : ∀ c c', store c = store c' → process c = process c' → c = c'
  apart : ∀ c c', (store c).tmp (process c) ≠ (store c').path

/-- What a store does next: it is told to save a number, makes a step, or is cut off. -/
inductive Saving (C : Type) where
  | save (c : C) (value : UInt8)
  | step (c : C)
  | cut (c : C)

/-- What that is for the files. -/
def Saving.event {C : Type} : Saving C → Replace.Event UInt8 C
  | save c value => .start c (FileBdSeqStore.contents value)
  | step c => .advance c
  | cut c => .stop c

namespace Siblings

variable {C : Type} (siblings : Siblings C)

/-- The stores as writers. -/
def writers : Writers FilePath C where
  other c := (siblings.store c).tmp (siblings.process c)
  target c := (siblings.store c).path
  own c c' h := by
    obtain ⟨hstore, hprocess⟩ :=
      FileBdSeqStore.tmp_inj (siblings.named c) (siblings.named c') h
    exact siblings.distinct c c' hstore hprocess
  apart := siblings.apart

variable [DecidableEq C]

/-- The files after what the stores do. -/
def files (before : Files FilePath UInt8) (savings : List (Saving C)) : Files FilePath UInt8 :=
  (Machine.run siblings.writers.next ⟨before, fun _ => none⟩ (savings.map Saving.event)).files

/-- The files, if every save happened at once, with its last step. -/
def idealFiles (before : Files FilePath UInt8) (savings : List (Saving C)) :
    Files FilePath UInt8 :=
  (Machine.run siblings.writers.ideal ⟨before, fun _ => none⟩ (savings.map Saving.event)).files

/-- The number was in the file in the beginning, or one of the stores of the path has been told to
save it. -/
def Known (before : Files FilePath UInt8) (savings : List (Saving C)) (path : FilePath)
    (value : UInt8) : Prop :=
  FileBdSeqStore.load ⟨path⟩ before = .ok value ∨
    ∃ c, .save c value ∈ savings ∧ (siblings.store c).path = path

/-- In the ideal world, what is in a file, and what is to be, is the text of a number. -/
structure Legible (told : List (Saving C)) (before : Files FilePath UInt8)
    (s : World FilePath UInt8 C) : Prop where
  file : ∀ path, s.files path = before path ∨
    ∃ c value, .save c value ∈ told ∧ (siblings.store c).path = path ∧
      s.files path = some (FileBdSeqStore.contents value)
  task : ∀ c task, s.task c = some task →
    ∃ value, .save c value ∈ told ∧ task.bytes = FileBdSeqStore.contents value

/-- **One event** keeps it so. -/
theorem Legible.next {told : List (Saving C)} {before : Files FilePath UInt8}
    {s : World FilePath UInt8 C} (h : siblings.Legible told before s) {saving : Saving C}
    (htold : saving ∈ told) :
    siblings.Legible told before (siblings.writers.ideal s saving.event) := by
  have hset : ∀ c (task? : Option (Job UInt8)), (∀ task, task? = some task →
      ∃ value, .save c value ∈ told ∧ task.bytes = FileBdSeqStore.contents value) →
      ∀ c' task, Function.update s.task c task? c' = some task →
        ∃ value, .save c' value ∈ told ∧ task.bytes = FileBdSeqStore.contents value := by
    intro c task? hnew c' task htask
    by_cases hc : c' = c
    · subst hc
      rw [Function.update_self] at htask
      exact hnew task htask
    · rw [Function.update_of_ne hc] at htask
      exact h.task c' task htask
  cases saving with
  | save c value =>
    exact ⟨h.file, hset c _ fun task heq => ⟨value, htold, Option.some.inj heq ▸ rfl⟩⟩
  | cut c => exact ⟨h.file, hset c none (by simp)⟩
  | step c =>
    simp only [Saving.event, Writers.ideal]
    cases hat : s.task c with
    | none => exact h
    | some task =>
      obtain ⟨value, hsave, hbytes⟩ := h.task c task hat
      have htasks := hset c (some ⟨task.bytes, task.made + 1⟩) fun task' heq =>
        ⟨value, hsave, Option.some.inj heq ▸ hbytes⟩
      dsimp only
      split
      · exact ⟨h.file, htasks⟩
      · split
        · refine ⟨fun path => ?_, htasks⟩
          show Function.update s.files (siblings.store c).path (some task.bytes) path = _ ∨
            ∃ c' value, _ ∧ _ ∧
              Function.update s.files (siblings.store c).path (some task.bytes) path = _
          by_cases hpath : path = (siblings.store c).path
          · subst hpath
            rw [Function.update_self, hbytes]
            exact .inr ⟨c, value, hsave, rfl, rfl⟩
          · rw [Function.update_of_ne hpath]
            exact h.file path
        · exact h

/-- **Stores that save at once.**  Whatever stores are told to save, however their steps are
interleaved and wherever each of them is cut off: each loads what it would load if every save had
happened at once, with its last step.  This is a number that was saved as a whole, or the one that
was in the file in the beginning. -/
theorem stores_atomic (before : Files FilePath UInt8) (savings : List (Saving C)) (c : C)
    (hlegible : ∃ value, (siblings.store c).load before = .ok value) :
    (siblings.store c).load (siblings.files before savings) =
        (siblings.store c).load (siblings.idealFiles before savings) ∧
      ∃ value, (siblings.store c).load (siblings.files before savings) = .ok value ∧
        siblings.Known before savings (siblings.store c).path value := by
  have hideal : (siblings.store c).load (siblings.files before savings) =
      (siblings.store c).load (siblings.idealFiles before savings) := by
    have hsame := siblings.writers.run_refines ⟨before, fun _ => none⟩ (fun _ => rfl)
      (savings.map Saving.event) c
    have hpath : siblings.files before savings (siblings.store c).path =
        siblings.idealFiles before savings (siblings.store c).path := hsame
    rw [FileBdSeqStore.load, FileBdSeqStore.load, hpath]
  refine ⟨hideal, ?_⟩
  have hrun : ∀ (rest : List (Saving C)) (s : World FilePath UInt8 C), (∀ e ∈ rest, e ∈ savings) →
      siblings.Legible savings before s →
      siblings.Legible savings before
        (Machine.run siblings.writers.ideal s (rest.map Saving.event)) := by
    intro rest
    induction rest with
    | nil => exact fun _ _ h => h
    | cons e rest ih =>
      intro s htold h
      obtain ⟨hfirst, hmore⟩ := List.forall_mem_cons.mp htold
      exact ih _ hmore (Legible.next siblings h hfirst)
  have hlast := hrun savings ⟨before, fun _ => none⟩ (fun _ he => he)
    ⟨fun _ => .inl rfl, fun _ _ htask => absurd htask (by simp)⟩
  rw [hideal]
  rcases hlast.file (siblings.store c).path with hsame | ⟨c', value, hsave, hpath, hsome⟩
  · obtain ⟨value, hvalue⟩ := hlegible
    refine ⟨value, ?_, .inl hvalue⟩
    rw [FileBdSeqStore.load, idealFiles, hsame]
    exact hvalue
  · refine ⟨value, ?_, .inr ⟨c', hsave, hpath⟩⟩
    rw [FileBdSeqStore.load, idealFiles, hsome]
    exact FileBdSeqStore.read_contents _ value

/-- The ids of two processes. -/
def lineProcess (c : Bool) : UInt32 := if c then 12 else 7

theorem lineProcess_inj {c c' : Bool} (h : lineProcess c = lineProcess c') : c = c' := by
  revert c c'
  decide

/-- Two processes that save to one file. -/
def line : Siblings Bool where
  store _ := ⟨⟨"/var/lib/line/", some "bdseq"⟩⟩
  process := lineProcess
  named _ := rfl
  distinct _ _ _ h := lineProcess_inj h
  apart _ _ := FileBdSeqStore.tmp_ne_path _ _

/-- Both save at once, and the first is cut off before its last step. -/
theorem stores_atomic_line :
    ∃ value, (line.store true).load (line.files (fun _ => none)
        [.save false 3, .step false, .save true 41, .step true, .step false, .step true, .step true,
          .cut false, .step true]) = .ok value ∧
      line.Known (fun _ => none)
        [.save false 3, .step false, .save true 41, .step true, .step false, .step true, .step true,
          .cut false, .step true] (line.store true).path value :=
  (line.stores_atomic (fun _ => none)
    [.save false 3, .step false, .save true 41, .step true, .step false, .step true, .step true,
      .cut false, .step true] true ⟨0, rfl⟩).2

end Siblings

end SparkplugB
