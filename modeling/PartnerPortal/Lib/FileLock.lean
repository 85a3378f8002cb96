import Mathlib.Logic.Function.Basic
import Mathlib.Tactic.Common

/-!
# Files that are locked

A directory of names, the descriptions through which its files are open, and on each file an exclusive
advisory lock that is held through one description.  A lock ends when its description is closed, and a
name may be removed while the file behind it is open and locked.

Results:
- `Holds.lockable_eq_false` — nobody locks a file that a description holds;
- `Sound.lockable_of_free` — a file none of whose other descriptions is open can be locked;
- `Holds.create`, `Holds.openAt`, `Holds.lock`, `Holds.close`, `Holds.unlink` — what leaves a held
  file held.
-/

namespace FileLock

structure Files (ν δ : Type*) where
  /-- the file a name stands for -/
  entry : ν → Option Nat
  /-- the file a description has open -/
  opened : δ → Option Nat
  /-- the description that holds the lock of a file -/
  locked : Nat → Option δ
  /-- the number of the next new file -/
  next : Nat

namespace Files

variable {ν δ : Type*}

/-- Open a file, which is created when it is not there. -/
def create [DecidableEq ν] [DecidableEq δ] (files : Files ν δ) (name : ν) (d : δ) : Files ν δ :=
  match files.entry name with
  | some file => { files with opened := Function.update files.opened d (some file) }
  | none =>
    { files with
      entry := Function.update files.entry name (some files.next)
      opened := Function.update files.opened d (some files.next)
      next := files.next + 1 }

/-- Open a file that is there. -/
def openAt [DecidableEq δ] (files : Files ν δ) (name : ν) (d : δ) : Files ν δ :=
  { files with opened := Function.update files.opened d (files.entry name) }

/-- Whether an attempt at the lock that does not wait succeeds. -/
def lockable [DecidableEq δ] (files : Files ν δ) (d : δ) : Bool :=
  match files.opened d with
  | none => false
  | some file => (files.locked file).all fun holder => holder = d

/-- An attempt at the lock that does not wait. -/
def lock [DecidableEq δ] (files : Files ν δ) (d : δ) : Files ν δ :=
  match files.opened d with
  | none => files
  | some file =>
    if files.lockable d then
      { files with locked := Function.update files.locked file (some d) }
    else files

/-- Close a description, which releases its lock. -/
def close [DecidableEq δ] (files : Files ν δ) (d : δ) : Files ν δ :=
  { files with
    opened := Function.update files.opened d none
    locked := fun file => (files.locked file).filter fun holder => holder ≠ d }

/-- Remove a name.  The file stays with the descriptions that have it open. -/
def unlink [DecidableEq ν] (files : Files ν δ) (name : ν) : Files ν δ :=
  { files with entry := Function.update files.entry name none }

/-! ## Sound file systems -/

/-- A file has a number below the next one, and only who has it open holds its lock. -/
structure Sound (files : Files ν δ) : Prop where
  entry_lt : ∀ name file, files.entry name = some file → file < files.next
  opened_lt : ∀ d file, files.opened d = some file → file < files.next
  opened_of_locked : ∀ file d, files.locked file = some d → files.opened d = some file

/-- A description holds the lock of the file that a name stands for. -/
def Holds (files : Files ν δ) (d : δ) (name : ν) : Prop :=
  ∃ file, files.entry name = some file ∧ files.opened d = some file ∧ files.locked file = some d

variable {files : Files ν δ} {name name' : ν} {d d' : δ} {file : Nat}

/-- A description that is not open holds no lock. -/
theorem Sound.not_locked (h : files.Sound) (hclosed : files.opened d = none) :
    files.locked file ≠ some d := fun hlocked => by
  rw [h.opened_of_locked file d hlocked] at hclosed
  cases hclosed

theorem unlink_entry_iff [DecidableEq ν] :
    (files.unlink name).entry name' = some file ↔ files.entry name' = some file ∧ name' ≠ name := by
  unfold unlink
  by_cases hname : name' = name
  · subst hname
    simp
  · simp [hname]

theorem Sound.unlink [DecidableEq ν] (h : files.Sound) : (files.unlink name).Sound where
  entry_lt := fun name' file hentry => h.entry_lt name' file (unlink_entry_iff.1 hentry).1
  opened_lt := h.opened_lt
  opened_of_locked := h.opened_of_locked

theorem Holds.unlink [DecidableEq ν] (h : files.Holds d name) (hne : name' ≠ name) :
    (files.unlink name').Holds d name := by
  obtain ⟨file, hentry, hopened, hlocked⟩ := h
  exact ⟨file, unlink_entry_iff.2 ⟨hentry, hne.symm⟩, hopened, hlocked⟩

variable [DecidableEq δ]

theorem lockable_iff (hopened : files.opened d = some file) :
    files.lockable d = true ↔ ∀ holder, files.locked file = some holder → holder = d := by
  simp only [lockable, hopened]
  cases files.locked file <;> simp

theorem lock_of_lockable (hopened : files.opened d = some file) (h : files.lockable d = true) :
    files.lock d = { files with locked := Function.update files.locked file (some d) } := by
  simp [lock, hopened, h]

theorem lock_of_refused (h : files.lockable d = false) : files.lock d = files := by
  unfold lock
  cases files.opened d with
  | none => rfl
  | some file => simp [h]

@[simp] theorem lock_entry (files : Files ν δ) (d : δ) : (files.lock d).entry = files.entry := by
  unfold lock
  split
  · rfl
  · split <;> rfl

@[simp] theorem lock_opened (files : Files ν δ) (d : δ) : (files.lock d).opened = files.opened := by
  unfold lock
  split
  · rfl
  · split <;> rfl

@[simp] theorem close_entry (files : Files ν δ) (d : δ) : (files.close d).entry = files.entry := rfl

theorem close_opened_self (files : Files ν δ) (d : δ) : (files.close d).opened d = none :=
  Function.update_self ..

theorem close_opened_of_ne (h : d' ≠ d) : (files.close d).opened d' = files.opened d' :=
  Function.update_of_ne h ..

theorem close_locked_iff : (files.close d).locked file = some d' ↔
    files.locked file = some d' ∧ d' ≠ d := by
  simp [close, Option.filter_eq_some_iff]

theorem openAt_opened_self : (files.openAt name d).opened d = files.entry name :=
  Function.update_self ..

theorem openAt_opened_of_ne (h : d' ≠ d) : (files.openAt name d).opened d' = files.opened d' :=
  Function.update_of_ne h ..

/-! ## Soundness is kept -/

namespace Sound

/-- What another description has open does not change the locks. -/
theorem opened_update (h : files.Sound) (hclosed : files.opened d = none) {target : Option Nat} :
    ∀ file d', files.locked file = some d' →
      Function.update files.opened d target d' = some file := by
  intro file d' hlocked
  rw [Function.update_of_ne]
  · exact h.opened_of_locked file d' hlocked
  · rintro rfl
    exact h.not_locked hclosed hlocked

theorem openAt (h : files.Sound) (hclosed : files.opened d = none) : (files.openAt name d).Sound where
  entry_lt := h.entry_lt
  opened_lt := by
    intro d' file hopened
    by_cases hd : d' = d
    · subst hd
      rw [openAt_opened_self] at hopened
      exact h.entry_lt name file hopened
    · rw [openAt_opened_of_ne hd] at hopened
      exact h.opened_lt d' file hopened
  opened_of_locked := h.opened_update hclosed

theorem lock (h : files.Sound) : (files.lock d).Sound := by
  cases hlockable : files.lockable d with
  | false => rwa [lock_of_refused hlockable]
  | true =>
    cases hopened : files.opened d with
    | none => simp [lockable, hopened] at hlockable
    | some file =>
      rw [lock_of_lockable hopened hlockable]
      refine ⟨h.entry_lt, h.opened_lt, fun other d' hlocked => ?_⟩
      by_cases hother : other = file
      · subst hother
        cases (Function.update_self other _ files.locked).symm.trans hlocked
        exact hopened
      · exact h.opened_of_locked other d' ((Function.update_of_ne hother _ _).symm.trans hlocked)

theorem close (h : files.Sound) : (files.close d).Sound where
  entry_lt := h.entry_lt
  opened_lt := by
    intro d' file hopened
    by_cases hd : d' = d
    · subst hd
      rw [close_opened_self] at hopened
      cases hopened
    · rw [close_opened_of_ne hd] at hopened
      exact h.opened_lt d' file hopened
  opened_of_locked := by
    intro file d' hlocked
    obtain ⟨hlocked, hne⟩ := close_locked_iff.1 hlocked
    rw [close_opened_of_ne hne]
    exact h.opened_of_locked file d' hlocked

/-- A file none of whose other descriptions is open can be locked. -/
theorem lockable_of_free (h : files.Sound) (hopened : files.opened d = some file)
    (hfree : ∀ d', files.opened d' = some file → d' = d) : files.lockable d = true :=
  (lockable_iff hopened).2 fun holder hlocked =>
    hfree holder (h.opened_of_locked file holder hlocked)

end Sound

/-! ## A held file stays held -/

namespace Holds

/-- Nobody locks a file that a description holds. -/
theorem lockable_eq_false (h : files.Holds d name) (hopened : files.opened d' = files.entry name)
    (hne : d' ≠ d) : files.lockable d' = false := by
  obtain ⟨file, hentry, -, hlocked⟩ := h
  rw [hentry] at hopened
  by_contra hlockable
  rw [Bool.not_eq_false, lockable_iff hopened] at hlockable
  exact hne (hlockable d hlocked).symm

theorem openAt (h : files.Holds d name) (hne : d' ≠ d) : (files.openAt name' d').Holds d name := by
  obtain ⟨file, hentry, hopened, hlocked⟩ := h
  exact ⟨file, hentry, (openAt_opened_of_ne hne.symm).trans hopened, hlocked⟩

theorem lock (h : files.Holds d name) (d' : δ) : (files.lock d').Holds d name := by
  cases hlockable : files.lockable d' with
  | false => rwa [lock_of_refused hlockable]
  | true =>
    cases hopened' : files.opened d' with
    | none => simp [lockable, hopened'] at hlockable
    | some other =>
      obtain ⟨file, hentry, hopened, hlocked⟩ := h
      rw [lock_of_lockable hopened' hlockable]
      refine ⟨file, hentry, hopened, ?_⟩
      by_cases hsame : file = other
      · -- whoever locks a held file is its holder
        subst hsame
        rw [(lockable_iff hopened').1 hlockable d hlocked]
        exact Function.update_self ..
      · exact (Function.update_of_ne hsame _ _).trans hlocked

theorem close (h : files.Holds d name) (hne : d' ≠ d) : (files.close d').Holds d name := by
  obtain ⟨file, hentry, hopened, hlocked⟩ := h
  exact ⟨file, hentry, (close_opened_of_ne hne.symm).trans hopened,
    close_locked_iff.2 ⟨hlocked, hne.symm⟩⟩

/-- The lock of a named file that was free is held. -/
theorem of_lock (hentry : files.entry name = some file) (hopened : files.opened d = some file)
    (hlockable : files.lockable d = true) : (files.lock d).Holds d name := by
  rw [lock_of_lockable hopened hlockable]
  exact ⟨file, hentry, hopened, Function.update_self ..⟩

end Holds

/-! ## New files -/

section Create

variable [DecidableEq ν]

theorem create_entry (hname : files.entry name = some file) :
    files.create name d = files.openAt name d := by
  simp [create, openAt, hname]

theorem create_new (hname : files.entry name = none) :
    files.create name d =
      { files with
        entry := Function.update files.entry name (some files.next)
        opened := Function.update files.opened d (some files.next)
        next := files.next + 1 } := by
  simp [create, hname]

theorem create_opened_of_ne (h : d' ≠ d) : (files.create name d).opened d' = files.opened d' := by
  cases hname : files.entry name with
  | some file =>
    rw [create_entry hname]
    exact openAt_opened_of_ne h
  | none =>
    rw [create_new hname]
    exact Function.update_of_ne h ..

theorem create_entry_of_ne (h : name' ≠ name) :
    (files.create name d).entry name' = files.entry name' := by
  cases hname : files.entry name with
  | some file =>
    rw [create_entry hname]
    rfl
  | none =>
    rw [create_new hname]
    exact Function.update_of_ne h ..

/-- A file that was not there is a new one. -/
theorem create_new_self (hname : files.entry name = none) :
    (files.create name d).entry name = some files.next ∧
      (files.create name d).opened d = some files.next := by
  rw [create_new hname]
  exact ⟨Function.update_self .., Function.update_self ..⟩

theorem Sound.create (h : files.Sound) (hclosed : files.opened d = none) : (files.create name d).Sound := by
  cases hname : files.entry name with
  | some file =>
    rw [create_entry hname]
    exact h.openAt hclosed
  | none =>
    rw [create_new hname]
    refine ⟨fun name' file hentry => ?_, fun d' file hopened => ?_, h.opened_update hclosed⟩
    · by_cases hsame : name' = name
      · subst hsame
        cases (Function.update_self name' _ files.entry).symm.trans hentry
        exact Nat.lt_succ_self _
      · exact Nat.lt_succ_of_lt
          (h.entry_lt name' file ((Function.update_of_ne hsame _ _).symm.trans hentry))
    · by_cases hsame : d' = d
      · subst hsame
        cases (Function.update_self d' _ files.opened).symm.trans hopened
        exact Nat.lt_succ_self _
      · exact Nat.lt_succ_of_lt
          (h.opened_lt d' file ((Function.update_of_ne hsame _ _).symm.trans hopened))

theorem Holds.create (h : files.Holds d name) (hne : d' ≠ d) : (files.create name' d').Holds d name := by
  cases hname : files.entry name' with
  | some file =>
    rw [create_entry hname]
    exact h.openAt hne
  | none =>
    obtain ⟨file, hentry, hopened, hlocked⟩ := h
    rw [create_new hname]
    refine ⟨file, (Function.update_of_ne ?_ _ _).trans hentry,
      (Function.update_of_ne hne.symm _ _).trans hopened, hlocked⟩
    rintro rfl
    rw [hname] at hentry
    cases hentry

end Create

end Files

end FileLock
