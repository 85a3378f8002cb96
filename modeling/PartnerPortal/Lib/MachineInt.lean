import Mathlib.Tactic.Common
import Mathlib.Algebra.Order.Ring.Int

/-!
# Machine integers

The values of the fixed-width integer types, checked arithmetic on them, and the cast that wraps.
-/

namespace MachineInt

/-- `i64::MAX` -/
def i64Max : Int := 9223372036854775807

/-- `i64::MIN` -/
def i64Min : Int := -9223372036854775808

/-- The values an `i64` holds. -/
def FitsI64 (n : Int) : Prop := i64Min ≤ n ∧ n ≤ i64Max

instance (n : Int) : Decidable (FitsI64 n) := by
  unfold FitsI64
  infer_instance

/-- The cast `as i64`. -/
def asI64 (n : Int) : Int := n.bmod 18446744073709551616

theorem asI64_of_fits {n : Int} (h : FitsI64 n) : asI64 n = n := by
  unfold FitsI64 i64Min i64Max at h
  unfold asI64
  rw [Int.bmod_def]
  split <;> omega

/-- `checked_` arithmetic on `i128`: the exact result, if the type holds it. -/
def checkedI128 (n : Int) : Option Int :=
  if -170141183460469231731687303715884105728 ≤ n ∧ n ≤ 170141183460469231731687303715884105727
  then some n else none

/-- An `i64` that is not negative. -/
@[ext] structure Count where
  value : Int
  inRange : 0 ≤ value ∧ value ≤ i64Max
deriving DecidableEq

namespace Count

theorem nonneg (n : Count) : 0 ≤ n.value := n.inRange.1

theorem le_max (n : Count) : n.value ≤ i64Max := n.inRange.2

theorem fits (n : Count) : FitsI64 n.value := by
  have := n.nonneg
  exact ⟨by unfold i64Min; omega, n.le_max⟩

def zero : Count := ⟨0, by decide⟩

@[simp] theorem value_zero : zero.value = 0 := rfl

/-- A count from an integer, if it is one. -/
def ofInt (n : Int) : Option Count :=
  if h : 0 ≤ n ∧ n ≤ i64Max then some ⟨n, h⟩ else none

theorem ofInt_eq_some_iff {n : Int} {c : Count} : ofInt n = some c ↔ c.value = n := by
  unfold ofInt
  split
  · rw [Option.some.injEq, Count.ext_iff]
    exact eq_comm
  · rename_i h
    simp only [reduceCtorEq, false_iff]
    rintro rfl
    exact h c.inRange

theorem ofInt_isSome_iff {n : Int} : (ofInt n).isSome ↔ 0 ≤ n ∧ n ≤ i64Max := by
  unfold ofInt
  split <;> rename_i h <;> simp [h]

/-- `checked_add` -/
def checkedAdd (a b : Count) : Option Count := ofInt (a.value + b.value)

theorem checkedAdd_eq_some_iff {a b c : Count} :
    a.checkedAdd b = some c ↔ c.value = a.value + b.value :=
  ofInt_eq_some_iff

theorem checkedAdd_isSome_iff {a b : Count} :
    (a.checkedAdd b).isSome ↔ a.value + b.value ≤ i64Max := by
  have ha := a.nonneg
  have hb := b.nonneg
  unfold checkedAdd
  rw [ofInt_isSome_iff]
  omega

end Count

end MachineInt
