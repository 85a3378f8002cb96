import Mathlib.Algebra.BigOperators.Group.List.Basic
import Mathlib.Data.List.Dedup
import PartnerPortal.Lib.MachineInt
import PartnerPortal.Lib.Result

/-!
# SQL values, conditions and aggregates

Three-valued conditions over columns that may be `NULL`, the aggregate functions of a grouped
query, and what a grouping keeps of the rows it groups.  `SUM` runs over integers and fails when a
partial sum leaves the range of an `i64`.

Results:
- `sum_ok_iff` — over columns that are not negative, `SUM` fails exactly when the whole sum does
  not fit;
- `sum_groups` — the groups of a query hold every row once.
-/

namespace Sql

open MachineInt

/-! ## Conditions -/

/-- The value of a condition: true, false or `NULL`. -/
abbrev Truth := Option Bool

/-- `AND` -/
def and : Truth → Truth → Truth
  | some false, _ => some false
  | _, some false => some false
  | some true, some true => some true
  | _, _ => none

/-- `OR` -/
def or : Truth → Truth → Truth
  | some true, _ => some true
  | _, some true => some true
  | some false, some false => some false
  | _, _ => none

/-- `NOT` -/
def not : Truth → Truth
  | some b => some (!b)
  | none => none

/-- `IS NOT NULL` -/
def isNotNull {α : Type*} (value : Option α) : Truth := some value.isSome

/-- A comparison, which is `NULL` when one of its sides is. -/
def compare {α : Type*} (test : α → α → Bool) : Option α → Option α → Truth
  | some a, some b => some (test a b)
  | _, _ => none

/-- `COALESCE` of a value and a default. -/
def coalesce {α : Type*} (value : Option α) (default : α) : Option α := some (value.getD default)

/-- What `WHERE` and `FILTER` select: the rows whose condition is true. -/
def selects : Truth → Bool
  | some true => true
  | _ => false

@[simp] theorem selects_and (a b : Truth) : selects (and a b) = (selects a && selects b) := by
  rcases a with _ | _ | _ <;> rcases b with _ | _ | _ <;> rfl

@[simp] theorem selects_or (a b : Truth) : selects (or a b) = (selects a || selects b) := by
  rcases a with _ | _ | _ <;> rcases b with _ | _ | _ <;> rfl

@[simp] theorem selects_isNotNull {α : Type*} (value : Option α) :
    selects (isNotNull value) = value.isSome := by
  cases value <;> rfl

@[simp] theorem selects_compare_some {α : Type*} (test : α → α → Bool) (a b : α) :
    selects (compare test (some a) (some b)) = test a b := by
  simp only [compare, selects]
  cases test a b <;> rfl

@[simp] theorem selects_compare_none_left {α : Type*} (test : α → α → Bool) (b : Option α) :
    selects (compare test none b) = false := rfl

@[simp] theorem selects_compare_none_right {α : Type*} (test : α → α → Bool) (a : Option α) :
    selects (compare test a none) = false := by
  cases a <;> rfl

/-- A condition with its `NULL` read as false is selected exactly when it is true. -/
@[simp] theorem selects_coalesce (t : Truth) : selects (coalesce t false) = selects t := by
  rcases t with _ | _ | _ <;> rfl

/-- With its `NULL` read as false, a condition or its negation selects every row. -/
@[simp] theorem selects_not_coalesce (t : Truth) :
    selects (not (coalesce t false)) = !selects t := by
  rcases t with _ | _ | _ <;> rfl

/-! ## Aggregates -/

/-- `SUM` raised `integer overflow`. -/
structure IntegerOverflow where
deriving Repr, DecidableEq

/-- One row of a `SUM`: `NULL` is skipped. -/
def sumStep (total : Option Int) : Option Int → Except IntegerOverflow (Option Int)
  | none => .ok total
  | some value =>
    if FitsI64 (total.getD 0 + value) then .ok (some (total.getD 0 + value))
    else .error {}

/-- `SUM` of a column: `NULL` when no row has a value. -/
def sum (values : List (Option Int)) : Except IntegerOverflow (Option Int) :=
  values.foldlM sumStep none

/-- The sum of the values present, without a bound. -/
def total (values : List (Option Int)) : Int :=
  (values.map fun value => value.getD 0).sum

@[simp] theorem total_nil : total [] = 0 := rfl

@[simp] theorem total_cons (value : Option Int) (values : List (Option Int)) :
    total (value :: values) = value.getD 0 + total values := by
  simp [total]

theorem total_nonneg {values : List (Option Int)} (h : ∀ v ∈ values, 0 ≤ v.getD 0) :
    0 ≤ total values := by
  induction values with
  | nil => simp
  | cons v values ih =>
    have hv := h v List.mem_cons_self
    have hrest := ih fun w hw => h w (List.mem_cons_of_mem v hw)
    rw [total_cons]
    omega

theorem foldlM_sumStep_ok_iff {values : List (Option Int)} (h : ∀ v ∈ values, 0 ≤ v.getD 0)
    {start : Option Int} (hstart : 0 ≤ start.getD 0) (hfits : start.getD 0 ≤ i64Max)
    (result : Option Int) : values.foldlM sumStep start = .ok result ↔
      start.getD 0 + total values ≤ i64Max ∧
        result = if start.isSome ∨ values.any Option.isSome
          then some (start.getD 0 + total values) else none := by
  induction values generalizing start with
  | nil =>
    cases start with
    | none =>
      have hmax : (0 : Int) ≤ i64Max := by decide
      simp [hmax, pure, Except.pure, eq_comm]
    | some s => simp_all [pure, Except.pure, eq_comm]
  | cons v values ih =>
    have hv := h v List.mem_cons_self
    have hrest : ∀ w ∈ values, 0 ≤ w.getD 0 := fun w hw => h w (List.mem_cons_of_mem v hw)
    have htotal := total_nonneg hrest
    cases v with
    | none =>
      simp only [List.foldlM_cons, sumStep, Result.ok_bind, ih hrest hstart hfits, total_cons,
        Option.getD_none, Int.zero_add, List.any_cons, Option.isSome_none, Bool.false_or]
    | some value =>
      rw [Option.getD_some] at hv
      by_cases hstep : start.getD 0 + value ≤ i64Max
      · have hfits' : FitsI64 (start.getD 0 + value) :=
          ⟨by unfold i64Min; omega, hstep⟩
        simp only [List.foldlM_cons, sumStep, hfits', if_true, Result.ok_bind]
        rw [ih hrest (by simp; omega) (by simpa using hstep)]
        simp [Int.add_assoc]
      · -- what is added later is not negative, so the total does not fit either
        have hfits' : ¬ FitsI64 (start.getD 0 + value) := fun hf => hstep hf.2
        simp only [List.foldlM_cons, sumStep, hfits', if_false, Result.error_bind, reduceCtorEq,
          total_cons, Option.getD_some, false_iff, not_and]
        omega

/-- Over columns that are not negative, `SUM` succeeds exactly when the whole sum fits, and is then
the sum of the values present. -/
theorem sum_ok_iff {values : List (Option Int)} (h : ∀ v ∈ values, 0 ≤ v.getD 0)
    (result : Option Int) : sum values = .ok result ↔
      total values ≤ i64Max ∧
        result = if values.any Option.isSome then some (total values) else none := by
  have hstep := foldlM_sumStep_ok_iff h (show 0 ≤ (none : Option Int).getD 0 by simp)
    (by decide) result
  simpa [sum] using hstep

/-! ## Grouping -/

section Grouping

variable {α κ : Type*} [DecidableEq κ]

/-- The rows of one group. -/
def group (key : α → κ) (rows : List α) (k : κ) : List α :=
  rows.filter fun row => key row = k

theorem mem_group {key : α → κ} {rows : List α} {k : κ} {row : α} :
    row ∈ group key rows k ↔ row ∈ rows ∧ key row = k := by
  simp [group]

/-- A sum with one term that is not zero. -/
theorem sum_only {M : Type*} [AddCommMonoid M] {keys : List κ} (hnodup : keys.Nodup) {k : κ}
    (hk : k ∈ keys) (c : M) : (keys.map fun k' => if k = k' then c else 0).sum = c := by
  induction keys with
  | nil => cases hk
  | cons k' keys ih =>
    obtain ⟨hnot, hnodup'⟩ := List.nodup_cons.1 hnodup
    rw [List.map_cons, List.sum_cons]
    by_cases h : k = k'
    · have hzero : (keys.map fun k' => if k = k' then c else 0) = keys.map fun _ => 0 := by
        apply List.map_congr_left
        intro k'' hk''
        rw [if_neg]
        rintro rfl
        exact hnot (h ▸ hk'')
      rw [if_pos h, hzero]
      simp
    · rw [if_neg h, zero_add]
      exact ih hnodup' ((List.mem_cons.1 hk).resolve_left h)

/-- The groups of a query hold every row once: a sum over all rows is the sum over the groups. -/
theorem sum_groups {M : Type*} [AddCommMonoid M] (key : α → κ) (rows : List α) (f : α → M)
    {keys : List κ} (hnodup : keys.Nodup) (hmem : ∀ row ∈ rows, key row ∈ keys) :
    (keys.map fun k => ((group key rows k).map f).sum).sum = (rows.map f).sum := by
  induction rows with
  | nil => simp [group]
  | cons row rows ih =>
    have hrow := hmem row List.mem_cons_self
    have hgroup : ∀ k, ((group key (row :: rows) k).map f).sum =
        (if key row = k then f row else 0) + ((group key rows k).map f).sum := by
      intro k
      simp only [group, List.filter_cons]
      by_cases hk : key row = k <;> simp [hk]
    simp only [hgroup, List.sum_map_add, ih fun r hr => hmem r (List.mem_cons_of_mem row hr),
      List.map_cons, List.sum_cons]
    congr 1
    exact sum_only hnodup hrow (f row)

theorem countP_eq_sum (p : α → Bool) (rows : List α) :
    rows.countP p = (rows.map fun row => if p row then 1 else 0).sum := by
  induction rows with
  | nil => rfl
  | cons row rows ih =>
    rw [List.countP_cons, ih, List.map_cons, List.sum_cons]
    omega

/-- Counting group by group counts every row once. -/
theorem countP_groups (key : α → κ) (rows : List α) (p : α → Bool) {keys : List κ}
    (hnodup : keys.Nodup) (hmem : ∀ row ∈ rows, key row ∈ keys) :
    (keys.map fun k => (group key rows k).countP p).sum = rows.countP p := by
  simp only [countP_eq_sum]
  exact sum_groups key rows _ hnodup hmem

end Grouping

end Sql
