import Mathlib.Tactic.Common

/-!
# Deletion in bounded slices

A table kept in the order of its keys, and a sweep that deletes the rows a predicate marks, some at
a time, until a slice comes up short, the budget of slices is used up or a slice fails.

Results:
- `mem_delete_of_keep`, `mem_of_mem_delete` — a slice deletes marked rows only, and adds none;
- `delete_short` — a slice that deleted less than its limit left no marked row;
- `sweep_keeps` — what every slice keeps, a sweep keeps;
- `sweep_finished` — a sweep that came to its end left no marked row.
-/

namespace Slices

variable {α ε : Type*}

/-- Delete the first `limit` marked rows, and count them. -/
def deleteFirst (marked : α → Bool) : Nat → List α → List α × Nat
  | _, [] => ([], 0)
  | 0, table => (table, 0)
  | limit + 1, row :: table =>
    if marked row then
      let (kept, count) := deleteFirst marked limit table
      (kept, count + 1)
    else
      let (kept, count) := deleteFirst marked (limit + 1) table
      (row :: kept, count)

/-- One slice.  A negative limit is no limit. -/
def delete (marked : α → Bool) (limit : Int) (table : List α) : List α × Nat :=
  if limit < 0 then (table.filter fun row => !marked row, table.countP marked)
  else deleteFirst marked limit.toNat table

/-- Why a sweep stopped. -/
inductive Ending (ε : Type*) where
  /-- a slice came up short -/
  | finished
  | hitBudget
  | failed (error : ε)

/-- What a sweep did. -/
structure Swept (α ε : Type*) where
  table : List α
  deleted : Nat
  batches : Nat
  ending : Ending ε

/-- Slices until one comes up short, the budget is used up or a slice fails.  A failed slice leaves
the table as it was. -/
def sweep (fault : Nat → Option ε) (marked : α → Bool) (limit : Int) :
    Nat → Nat → List α → Swept α ε
  | 0, batches, table => ⟨table, 0, batches, .hitBudget⟩
  | budget + 1, batches, table =>
    match fault batches with
    | some error => ⟨table, 0, batches, .failed error⟩
    | none =>
      let slice := delete marked limit table
      if (slice.2 : Int) < limit then ⟨slice.1, slice.2, batches + 1, .finished⟩
      else
        let rest := sweep fault marked limit budget (batches + 1) slice.1
        { rest with deleted := slice.2 + rest.deleted }

/-! ## One slice -/

variable {marked : α → Bool}

theorem mem_deleteFirst_of_keep {row : α} (hkeep : marked row = false) (limit : Nat)
    {table : List α} (h : row ∈ table) : row ∈ (deleteFirst marked limit table).1 := by
  fun_induction deleteFirst marked limit table with
  | case1 => exact h
  | case2 => exact h
  | case3 limit first table hfirst kept count heq ih =>
    rcases List.mem_cons.1 h with rfl | h
    · rw [hkeep] at hfirst
      cases hfirst
    · rw [heq] at ih
      exact ih h
  | case4 limit first table hfirst kept count heq ih =>
    rw [heq] at ih
    exact List.mem_cons.2 ((List.mem_cons.1 h).imp_right ih)

theorem mem_of_mem_deleteFirst {row : α} (limit : Nat) {table : List α}
    (h : row ∈ (deleteFirst marked limit table).1) : row ∈ table := by
  fun_induction deleteFirst marked limit table with
  | case1 => exact h
  | case2 => exact h
  | case3 limit first table hfirst kept count heq ih =>
    rw [heq] at ih
    exact List.mem_cons_of_mem first (ih h)
  | case4 limit first table hfirst kept count heq ih =>
    rw [heq] at ih
    exact List.mem_cons.2 ((List.mem_cons.1 h).imp_right ih)

theorem deleteFirst_short {limit : Nat} {table : List α}
    (h : (deleteFirst marked limit table).2 < limit) :
    ∀ row ∈ (deleteFirst marked limit table).1, marked row = false := by
  fun_induction deleteFirst marked limit table with
  | case1 => simp
  | case2 => cases h
  | case3 limit first table hfirst kept count heq ih =>
    rw [heq] at ih
    exact ih (Nat.lt_of_succ_lt_succ h)
  | case4 limit first table hfirst kept count heq ih =>
    rw [heq] at ih
    exact List.forall_mem_cons.2 ⟨Bool.eq_false_iff.2 hfirst, ih h⟩

/-- A slice keeps every row that is not marked. -/
theorem mem_delete_of_keep {row : α} (hkeep : marked row = false) (limit : Int)
    {table : List α} (h : row ∈ table) : row ∈ (delete marked limit table).1 := by
  unfold delete
  split
  · simpa using ⟨h, hkeep⟩
  · exact mem_deleteFirst_of_keep hkeep _ h

theorem mem_of_mem_delete {row : α} {limit : Int} {table : List α}
    (h : row ∈ (delete marked limit table).1) : row ∈ table := by
  unfold delete at h
  split at h
  · exact (List.mem_filter.1 h).1
  · exact mem_of_mem_deleteFirst _ h

/-- A slice that came up short left no marked row. -/
theorem delete_short {limit : Int} {table : List α}
    (h : ((delete marked limit table).2 : Int) < limit) :
    ∀ row ∈ (delete marked limit table).1, marked row = false := by
  unfold delete at h ⊢
  split at h
  · rename_i hneg
    omega
  · rename_i hneg
    rw [if_neg hneg]
    exact deleteFirst_short (by omega)

/-- A slice of a table of one marked row empties it. -/
theorem delete_singleton {row : α} (h : marked row = true) {limit : Int} (hlimit : limit ≠ 0) :
    delete marked limit [row] = ([], 1) := by
  unfold delete
  split
  · simp [h]
  · obtain ⟨n, hn⟩ : ∃ n, limit.toNat = n + 1 := ⟨limit.toNat - 1, by omega⟩
    simp [hn, deleteFirst, h]

/-! ## Sweeps -/

/-- What every slice keeps, a sweep keeps. -/
theorem sweep_keeps (Inv : List α → Prop) {fault : Nat → Option ε} {limit : Int}
    (hslice : ∀ table, Inv table → Inv (delete marked limit table).1) (budget batches : Nat)
    {table : List α} (h : Inv table) :
    Inv (sweep fault marked limit budget batches table).table := by
  induction budget generalizing batches table with
  | zero => exact h
  | succ budget ih =>
    unfold sweep
    split
    · exact h
    · simp only
      split
      · exact hslice table h
      · exact ih _ (hslice table h)

/-- A sweep that came to its end left no marked row. -/
theorem sweep_finished {fault : Nat → Option ε} {limit : Int} {budget batches : Nat}
    {table : List α} (h : (sweep fault marked limit budget batches table).ending = .finished) :
    ∀ row ∈ (sweep fault marked limit budget batches table).table, marked row = false := by
  induction budget generalizing batches table with
  | zero => cases h
  | succ budget ih =>
    unfold sweep at h ⊢
    cases hfault : fault batches with
    | some error =>
      simp only [hfault] at h
      cases h
    | none =>
      simp only [hfault] at h ⊢
      by_cases hshort : ((delete marked limit table).2 : Int) < limit
      · rw [if_pos hshort]
        exact delete_short hshort
      · rw [if_neg hshort] at h ⊢
        exact ih h

/-- A sweep that came to its end deleted exactly the marked rows. -/
theorem mem_sweep_iff {fault : Nat → Option ε} {limit : Int} {budget batches : Nat}
    {table : List α} (h : (sweep fault marked limit budget batches table).ending = .finished)
    {row : α} : row ∈ (sweep fault marked limit budget batches table).table ↔
      row ∈ table ∧ marked row = false := by
  constructor
  · intro hrow
    refine ⟨?_, sweep_finished h row hrow⟩
    exact sweep_keeps (fun kept : List α => ∀ row ∈ kept, row ∈ table)
      (fun _ hkept row hrow => hkept row (mem_of_mem_delete hrow)) budget batches
      (fun _ hrow => hrow) row hrow
  · rintro ⟨hrow, hkeep⟩
    exact sweep_keeps (row ∈ ·) (fun _ => mem_delete_of_keep hkeep _) _ _ hrow

end Slices
