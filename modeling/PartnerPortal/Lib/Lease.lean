import Mathlib.Logic.Function.Basic
import Mathlib.Order.Basic

/-!
# Leases with an end

A register holds an owner and an end for each key.  An owner remembers what it took, also after the end, when
the register may have gone to somebody else.  Until the end the two agree, if nobody is granted a key before
the end of a lease on it and nobody gives up a lease after its end.

Results:
- `Coherent.exclusive` — two owners whose leases have not ended do not hold one key;
- `Coherent.pass`, `Coherent.grant`, `Coherent.release` — what keeps memory and register in agreement.
-/

namespace Lease

variable {κ ι τ : Type*}

/-- What is remembered before its end is in the register. -/
def Coherent [LT τ] (clock : τ) (register : κ → Option (ι × τ)) (taken : ι → κ → τ → Prop) : Prop :=
  ∀ i k till, taken i k till → clock < till → register k = some (i, till)

section LT

variable [LT τ] {clock : τ} {register : κ → Option (ι × τ)} {taken taken' : ι → κ → τ → Prop}

/-- Two owners whose leases have not ended do not hold one key. -/
theorem Coherent.exclusive (h : Coherent clock register taken) {i j : ι} {k : κ} {till till' : τ}
    (hi : taken i k till) (hj : taken j k till') (htill : clock < till) (htill' : clock < till') :
    i = j := by
  have hregister := (h i k till hi htill).symm.trans (h j k till' hj htill')
  exact (Prod.mk.inj (Option.some.inj hregister)).1

/-- Owners may forget. -/
theorem Coherent.forget (h : Coherent clock register taken)
    (hsub : ∀ i k till, taken' i k till → taken i k till) : Coherent clock register taken' :=
  fun i k till htaken => h i k till (hsub i k till htaken)

/-- A grant of keys on which every lease has ended. -/
theorem Coherent.grant (h : Coherent clock register taken) {register' : κ → Option (ι × τ)} {i : ι}
    {till : τ} {granted : κ → Prop}
    (hgranted : ∀ k, granted k → register' k = some (i, till))
    (hkept : ∀ k, ¬granted k → register' k = register k)
    (hended : ∀ k, granted k → ∀ j till', register k = some (j, till') → ¬clock < till')
    (hnew : ∀ j k till', taken' j k till' → taken j k till' ∨ j = i ∧ granted k ∧ till' = till) :
    Coherent clock register' taken' := by
  intro j k till' htaken hclock
  rcases hnew j k till' htaken with hold | ⟨rfl, hk, rfl⟩
  · have hregister := h j k till' hold hclock
    by_cases hk : granted k
    · exact absurd hclock (hended k hk j till' hregister)
    · rw [hkept k hk, hregister]
  · exact hgranted k hk

/-- An owner gives up a key that the register has for nobody else, and forgets it. -/
theorem Coherent.release (h : Coherent clock register taken) {register' : κ → Option (ι × τ)} {i : ι}
    {k : κ} (hown : ∀ j till, register k = some (j, till) → j = i)
    (hkept : ∀ k', k' ≠ k → register' k' = register k')
    (hnew : ∀ j k' till', taken' j k' till' → taken j k' till' ∧ ¬(j = i ∧ k' = k)) :
    Coherent clock register' taken' := by
  intro j k' till' htaken hclock
  obtain ⟨hold, hother⟩ := hnew j k' till' htaken
  have hregister := h j k' till' hold hclock
  by_cases hk : k' = k
  · subst hk
    exact absurd ⟨hown j till' hregister, rfl⟩ hother
  · rw [hkept k' hk, hregister]

end LT

/-- Time passes. -/
theorem Coherent.pass [Preorder τ] {clock later : τ} {register : κ → Option (ι × τ)}
    {taken : ι → κ → τ → Prop} (h : Coherent clock register taken) (hle : clock ≤ later) :
    Coherent later register taken :=
  fun i k till htaken hlater => h i k till htaken (lt_of_le_of_lt hle hlater)

end Lease
