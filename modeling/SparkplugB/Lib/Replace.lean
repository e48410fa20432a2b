/-
# Replacing a file

A file is replaced as a whole by writing its new contents to another file and renaming that.  A
writer does so in small steps, and can be cut off before any of them.

* **One writer** (`run_replacing_cut`): before the last step nothing has happened but to the other
  file, and after it the file has its new contents.
* **Many writers** (`Writers.run_refines`): their steps may be interleaved in any way.  If each has
  another file of its own, which is the target of none, then the targets are as if each was replaced
  at once, with its writer's last step.
-/
import Mathlib.Logic.Function.Basic
import SparkplugB.Lib.Run

namespace Replace

variable {Name Byte : Type} [DecidableEq Name]

/-! ## 1. Files -/

/-- The contents of the files that there are. -/
abbrev Files (Name Byte : Type) := Name → Option (List Byte)

/-- What is done to files, one small step at a time. -/
inductive FileStep (Name Byte : Type) where
  | truncate (name : Name)
  | append (name : Name) (byte : Byte)
  | rename (source target : Name)

/-- One step.  Renaming is atomic, and needs a file. -/
def Files.step (files : Files Name Byte) : FileStep Name Byte → Files Name Byte
  | .truncate name => Function.update files name (some [])
  | .append name byte => Function.update files name ((files name).map (· ++ [byte]))
  | .rename source target =>
    match files source with
    | some bytes => Function.update (Function.update files source none) target (some bytes)
    | none => files

/-- Write a file: empty it, and append the bytes. -/
def writing (name : Name) (bytes : List Byte) : List (FileStep Name Byte) :=
  .truncate name :: bytes.map (.append name)

/-- Replace a file by way of another. -/
def replacing (other target : Name) (bytes : List Byte) : List (FileStep Name Byte) :=
  writing other bytes ++ [.rename other target]

omit [DecidableEq Name] in
theorem length_replacing (other target : Name) (bytes : List Byte) :
    (replacing other target bytes).length = bytes.length + 2 := by
  simp [replacing, writing]

omit [DecidableEq Name] in
/-- The steps, one by one. -/
theorem getElem?_replacing (other target : Name) (bytes : List Byte) (k : Nat) :
    (replacing other target bytes)[k]? =
      if k = 0 then some (.truncate other)
      else if k = bytes.length + 1 then some (.rename other target)
      else (bytes[k - 1]?).map (.append other) := by
  cases k with
  | zero => rfl
  | succ k =>
    show (bytes.map (FileStep.append other) ++ [FileStep.rename other target])[k]? = _
    rw [if_neg (Nat.succ_ne_zero k), List.getElem?_append, List.length_map, List.getElem?_map]
    rcases Nat.lt_trichotomy k bytes.length with hlt | heq | hgt
    · rw [if_pos hlt, if_neg (by omega)]
      rfl
    · subst heq
      simp
    · rw [if_neg (by omega), if_neg (by omega), Nat.add_sub_cancel,
        List.getElem?_eq_none (by simp; omega), List.getElem?_eq_none (by omega)]
      rfl

/-! ## 2. One writer -/

/-- A writer that has made `k` steps, and not yet the last one. -/
structure Underway (files files' : Files Name Byte) (other : Name) (bytes : List Byte) (k : Nat) :
    Prop where
  written : 0 < k → files' other = some (bytes.take (k - 1))
  elsewhere : ∀ name, name ≠ other → files' name = files name

/-- **One step** that is not the last one. -/
theorem Underway.step {files files' : Files Name Byte} {other target : Name} {bytes : List Byte}
    {k : Nat} (h : Underway files files' other bytes k) (hk : k ≤ bytes.length)
    {s : FileStep Name Byte} (hs : (replacing other target bytes)[k]? = some s) :
    Underway files (files'.step s) other bytes (k + 1) := by
  rw [getElem?_replacing, if_neg (show ¬ k = bytes.length + 1 by omega)] at hs
  by_cases hzero : k = 0
  · subst hzero
    rw [if_pos rfl] at hs
    obtain rfl := Option.some.inj hs
    refine ⟨fun _ => Function.update_self .., fun name hname => ?_⟩
    exact (Function.update_of_ne hname ..).trans (h.elsewhere name hname)
  · rw [if_neg hzero] at hs
    obtain ⟨byte, hbyte, rfl⟩ := Option.map_eq_some_iff.mp hs
    refine ⟨fun _ => ?_, fun name hname => ?_⟩
    · refine (Function.update_self ..).trans ?_
      have htake : bytes.take k = bytes.take (k - 1) ++ [byte] := by
        obtain ⟨j, rfl⟩ := Nat.exists_eq_succ_of_ne_zero hzero
        rw [Nat.succ_sub_one] at hbyte
        rw [Nat.succ_eq_add_one, List.take_add_one, hbyte]
        rfl
      rw [h.written (Nat.pos_of_ne_zero hzero), Option.map_some, Nat.add_sub_cancel, htake]
    · exact (Function.update_of_ne hname ..).trans (h.elsewhere name hname)

theorem underway_run (files : Files Name Byte) (other target : Name) (bytes : List Byte) :
    ∀ k, k ≤ bytes.length + 1 → Underway files
      (Machine.run Files.step files ((replacing other target bytes).take k)) other bytes k := by
  intro k
  induction k with
  | zero => exact fun _ => ⟨fun h => absurd h (by omega), fun _ _ => rfl⟩
  | succ k ih =>
    intro hk
    have hlt : k < (replacing other target bytes).length := by
      rw [length_replacing]
      omega
    have hs := List.getElem?_eq_getElem hlt
    rw [List.take_add_one, hs, Option.toList_some, Machine.run_append]
    exact (ih (by omega)).step (by omega) hs

/-- **Cut off.**  Before the last step, only the other file has been touched. -/
theorem run_replacing_cut (files : Files Name Byte) (other target : Name) (bytes : List Byte)
    {k : Nat} (hk : k < bytes.length + 2) {name : Name} (hname : name ≠ other) :
    Machine.run Files.step files ((replacing other target bytes).take k) name = files name :=
  (underway_run files other target bytes k (by omega)).elsewhere name hname

/-- **Not cut off.**  The file has its new contents, and the other file is gone. -/
theorem run_replacing (files : Files Name Byte) {other target : Name} (bytes : List Byte) :
    Machine.run Files.step files (replacing other target bytes) =
      Function.update (Function.update files other none) target (some bytes) := by
  have hlast := underway_run files other target bytes (bytes.length + 1) (Nat.le_refl _)
  have hall : (replacing other target bytes).take (bytes.length + 1) = writing other bytes := by
    rw [replacing, List.take_append_of_le_length (by simp [writing]), List.take_of_length_le
      (by simp [writing])]
  rw [hall] at hlast
  have hwritten : Machine.run Files.step files (writing other bytes) other = some bytes := by
    simpa using hlast.written (by omega)
  have hgone : Function.update (Machine.run Files.step files (writing other bytes)) other none =
      Function.update files other none := by
    funext name
    by_cases hname : name = other
    · subst hname
      rw [Function.update_self, Function.update_self]
    · rw [Function.update_of_ne hname, Function.update_of_ne hname, hlast.elsewhere name hname]
  rw [replacing, Machine.run_append, Machine.run_cons, Machine.run_nil, Files.step, hwritten]
  exact congrArg (Function.update · target (some bytes)) hgone

/-! ## 3. Many writers -/

/-- Writers: the file that each replaces, and another file of its own. -/
structure Writers (Name C : Type) where
  other : C → Name
  target : C → Name
  own : Function.Injective other
  apart : ∀ c c', other c ≠ target c'

/-- The contents that a writer writes, and how many steps it has made. -/
structure Job (Byte : Type) where
  bytes : List Byte
  made : Nat

/-- The files, and what the writers are at. -/
structure World (Name Byte C : Type) where
  files : Files Name Byte
  task : C → Option (Job Byte)

/-- What happens next: a writer starts, makes its next step, or is cut off. -/
inductive Event (Byte C : Type) where
  | start (c : C) (bytes : List Byte)
  | advance (c : C)
  | stop (c : C)

variable {C : Type} [DecidableEq C]

/-- The step that a writer makes next. -/
def Writers.step? (w : Writers Name C) (c : C) (task : Job Byte) : Option (FileStep Name Byte) :=
  (replacing (w.other c) (w.target c) task.bytes)[task.made]?

/-- The world after a step of a writer. -/
def World.after (s : World Name Byte C) (c : C) (task : Job Byte) (files : Files Name Byte) :
    World Name Byte C :=
  ⟨files, Function.update s.task c (some ⟨task.bytes, task.made + 1⟩)⟩

/-- One event. -/
def Writers.next (w : Writers Name C) (s : World Name Byte C) : Event Byte C → World Name Byte C
  | .start c bytes => { s with task := Function.update s.task c (some ⟨bytes, 0⟩) }
  | .advance c =>
    match s.task c with
    | some task =>
      match w.step? c task with
      | some step => s.after c task (s.files.step step)
      | none => s
    | none => s
  | .stop c => { s with task := Function.update s.task c none }

/-- **What replacing is for**: a target changes at once, with the last step. -/
def Writers.ideal (w : Writers Name C) (s : World Name Byte C) : Event Byte C → World Name Byte C
  | .start c bytes => { s with task := Function.update s.task c (some ⟨bytes, 0⟩) }
  | .advance c =>
    match s.task c with
    | some task =>
      if task.made ≤ task.bytes.length then s.after c task s.files
      else if task.made = task.bytes.length + 1 then
        s.after c task (Function.update s.files (w.target c) (some task.bytes))
      else s
    | none => s
  | .stop c => { s with task := Function.update s.task c none }

/-- What a writer has made so far is in its other file. -/
def Writers.Written (w : Writers Name C) (s : World Name Byte C) : Prop :=
  ∀ c task, s.task c = some task → 0 < task.made → task.made ≤ task.bytes.length + 1 →
    s.files (w.other c) = some (task.bytes.take (task.made - 1))

omit [DecidableEq C] in
/-- What a step that is not the last one leaves alone. -/
theorem Writers.step_elsewhere (w : Writers Name C) (files : Files Name Byte) {c : C}
    {task : Job Byte} {step : FileStep Name Byte} (hstep : w.step? c task = some step)
    (hmore : task.made ≤ task.bytes.length) {name : Name} (hname : name ≠ w.other c) :
    files.step step name = files name := by
  rw [Writers.step?, getElem?_replacing, if_neg (show ¬ task.made = task.bytes.length + 1 by omega)]
    at hstep
  by_cases hzero : task.made = 0
  · rw [if_pos hzero] at hstep
    obtain rfl := Option.some.inj hstep
    exact Function.update_of_ne hname ..
  · rw [if_neg hzero] at hstep
    obtain ⟨byte, -, rfl⟩ := Option.map_eq_some_iff.mp hstep
    exact Function.update_of_ne hname ..

omit [DecidableEq Name] in
/-- What the others have written, after a step of a writer. -/
theorem Writers.Written.after {w : Writers Name C} {s : World Name Byte C} (h : w.Written s) {c : C}
    {task : Job Byte} {files : Files Name Byte}
    (hothers : ∀ c', c' ≠ c → files (w.other c') = s.files (w.other c'))
    (hown : task.made ≤ task.bytes.length →
      files (w.other c) = some (task.bytes.take task.made)) :
    w.Written (s.after c task files) := by
  intro c' task' htask' hmade hle
  have hfiles : (s.after c task files).files = files := rfl
  have htasks : (s.after c task files).task =
      Function.update s.task c (some ⟨task.bytes, task.made + 1⟩) := rfl
  rw [htasks] at htask'
  rw [hfiles]
  by_cases hc : c' = c
  · subst hc
    rw [Function.update_self] at htask'
    obtain rfl := Option.some.inj htask'
    exact hown (Nat.le_of_succ_le_succ hle)
  · rw [Function.update_of_ne hc] at htask'
    rw [hothers c' hc]
    exact h c' task' htask' hmade hle

omit [DecidableEq Name] in
/-- A writer that starts, or is cut off, has written nothing yet. -/
theorem Writers.Written.set {w : Writers Name C} {s : World Name Byte C} (h : w.Written s) (c : C)
    {task? : Option (Job Byte)} (hnew : ∀ task, task? = some task → task.made = 0) :
    w.Written { s with task := Function.update s.task c task? } := by
  intro c' task htask hmade
  have htask' : Function.update s.task c task? c' = some task := htask
  by_cases hc : c' = c
  · subst hc
    rw [Function.update_self] at htask'
    exact absurd (hnew task htask') (by omega)
  · rw [Function.update_of_ne hc] at htask'
    exact h c' task htask' hmade

omit [DecidableEq C] in
/-- The last step of a task puts what was written in place. -/
theorem Writers.step_last (w : Writers Name C) {files : Files Name Byte} {c : C} {task : Job Byte}
    {step : FileStep Name Byte} (hstep : w.step? c task = some step)
    (hlast : task.made = task.bytes.length + 1) (hother : files (w.other c) = some task.bytes) :
    files.step step =
      Function.update (Function.update files (w.other c) none) (w.target c) (some task.bytes) := by
  have hrename : step = .rename (w.other c) (w.target c) := by
    rw [Writers.step?, getElem?_replacing, if_neg (by omega), if_pos hlast] at hstep
    exact (Option.some.inj hstep).symm
  rw [hrename, Files.step, hother]

/-- The two worlds have the same tasks, and the same targets. -/
structure Writers.Agree (w : Writers Name C) (s ideal : World Name Byte C) : Prop where
  written : w.Written s
  task : s.task = ideal.task
  target : ∀ c, s.files (w.target c) = ideal.files (w.target c)

/-- **One event** keeps the two worlds agreed. -/
theorem Writers.Agree.next {w : Writers Name C} {s ideal : World Name Byte C}
    (h : w.Agree s ideal) (e : Event Byte C) : w.Agree (w.next s e) (w.ideal ideal e) := by
  obtain ⟨hwritten, htask, htarget⟩ := h
  cases e with
  | start c bytes =>
    refine ⟨hwritten.set c fun task heq => Option.some.inj heq ▸ rfl, ?_, htarget⟩
    exact congrArg (Function.update · c (some ⟨bytes, 0⟩)) htask
  | stop c =>
    refine ⟨hwritten.set c (by simp), ?_, htarget⟩
    exact congrArg (Function.update · c none) htask
  | advance c =>
    have hagain := congrFun htask c
    simp only [Writers.next, Writers.ideal, ← hagain]
    cases hat : s.task c with
    | none => exact ⟨hwritten, htask, htarget⟩
    | some task =>
      have htasks : Function.update s.task c (some ⟨task.bytes, task.made + 1⟩) =
          Function.update ideal.task c (some ⟨task.bytes, task.made + 1⟩) :=
        congrArg (Function.update · c _) htask
      dsimp only
      cases hstep : w.step? c task with
      | none =>
        have hover := List.getElem?_eq_none_iff.mp hstep
        rw [length_replacing] at hover
        rw [if_neg (by omega), if_neg (by omega)]
        exact ⟨hwritten, htask, htarget⟩
      | some step =>
        have hlen := (List.getElem?_eq_some_iff.mp hstep).1
        rw [length_replacing] at hlen
        by_cases hmore : task.made ≤ task.bytes.length
        · rw [if_pos hmore]
          have hunder : Underway s.files s.files (w.other c) task.bytes task.made :=
            ⟨fun hpos => hwritten c task hat hpos (by omega), fun _ _ => rfl⟩
          refine ⟨hwritten.after (fun c' hc => ?_) fun _ => ?_, htasks, fun c' => ?_⟩
          · exact w.step_elsewhere s.files hstep hmore fun heq => hc (w.own heq)
          · exact (hunder.step hmore hstep).written (Nat.succ_pos _)
          · exact (w.step_elsewhere s.files hstep hmore (w.apart c c').symm).trans (htarget c')
        · -- the last step: the other file becomes the target
          have hlast : task.made = task.bytes.length + 1 := by omega
          have hother : s.files (w.other c) = some task.bytes := by
            rw [hwritten c task hat (by omega) (by omega), hlast, Nat.add_sub_cancel,
              List.take_length]
          rw [if_neg hmore, if_pos hlast]
          dsimp only
          rw [w.step_last hstep hlast hother]
          refine ⟨hwritten.after (fun c' hc => ?_) fun hle => absurd hle (by omega), htasks,
            fun c' => ?_⟩
          · rw [Function.update_of_ne (w.apart c' c), Function.update_of_ne fun heq =>
              hc (w.own heq)]
          · show (Function.update (Function.update s.files (w.other c) none) (w.target c)
                (some task.bytes) : Files Name Byte) (w.target c') =
              (Function.update ideal.files (w.target c) (some task.bytes) : Files Name Byte)
                (w.target c')
            by_cases hc : w.target c' = w.target c
            · rw [hc, Function.update_self, Function.update_self]
            · rw [Function.update_of_ne hc, Function.update_of_ne hc,
                Function.update_of_ne (w.apart c c').symm, htarget c']

/-- **Many writers.**  The targets are as if each was replaced at once. -/
theorem Writers.run_refines (w : Writers Name C) (s : World Name Byte C)
    (hidle : ∀ c, s.task c = none) (events : List (Event Byte C)) (c : C) :
    (Machine.run w.next s events).files (w.target c) =
      (Machine.run w.ideal s events).files (w.target c) := by
  have hrun : ∀ (events : List (Event Byte C)) (s ideal : World Name Byte C), w.Agree s ideal →
      w.Agree (Machine.run w.next s events) (Machine.run w.ideal ideal events) := by
    intro events
    induction events with
    | nil => exact fun _ _ h => h
    | cons e rest ih => exact fun s ideal h => ih _ _ (h.next e)
  have hwritten : w.Written s := fun c' task htask => absurd ((hidle c').symm.trans htask) (by simp)
  exact (hrun events s s ⟨hwritten, rfl, fun _ => rfl⟩).target c

end Replace
