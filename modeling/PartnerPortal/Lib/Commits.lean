import Mathlib.Tactic.Common

/-!
# Chains of committed steps

A step leaves a state whether it answers or fails.  In a chain each step starts from what the one before it
left, so the steps before a failing one stay.

Results:
- `andThen_ok_iff` — a chain answers exactly where its steps do;
- `andThen_keeps` — what a step leaves and the next one keeps;
- `atomic_iff_answers` — once a change is there, a chain is atomic only if it answers.
-/

namespace Commits

universe u

variable {σ ω : Type*} {ε α β : Type u}

/-- What a step leaves, and its answer or failure. -/
abbrev Step (σ : Type*) (ε α : Type u) := σ → σ × Except ε α

/-- A step that leaves the state alone. -/
def answer (result : Except ε α) : Step σ ε α := fun s => (s, result)

/-- A step, and then one that starts with its answer. -/
def andThen (step : Step σ ε α) (next : α → Step σ ε β) : Step σ ε β := fun s =>
  match step s with
  | (t, .ok a) => next a t
  | (t, .error e) => (t, .error e)

/-- A step whose failures are told in other words. -/
def mapError {ε' : Type u} (f : ε → ε') (step : Step σ ε α) : Step σ ε' α := fun s =>
  ((step s).1, (step s).2.mapError f)

/-- What stops a step: an error, or a panic. -/
inductive Halt (ε : Type u) where
  | panicked
  | error (e : ε)

/-- A failure leaves what is observed as it was. -/
def Atomic (observe : σ → ω) (step : Step σ ε α) (s : σ) : Prop :=
  ∀ t e, step s = (t, .error e) → observe t = observe s

/-- A step keeps a property, whether it answers or fails. -/
def Keeps (P : σ → Prop) (step : Step σ ε α) : Prop :=
  ∀ s, P s → P (step s).1

section Chain

variable {P : σ → Prop} {step : Step σ ε α} {next : α → Step σ ε β} {s t : σ} {a : α} {b : β} {e : ε}

theorem andThen_ok_iff :
    andThen step next s = (t, .ok b) ↔ ∃ u a, step s = (u, .ok a) ∧ next a u = (t, .ok b) := by
  unfold andThen
  split
  · rename_i u a hstep
    constructor
    · exact fun hnext => ⟨u, a, hstep, hnext⟩
    · rintro ⟨u', a', hstep', hnext⟩
      rw [hstep] at hstep'
      cases hstep'
      exact hnext
  · rename_i u e hstep
    constructor
    · intro h
      cases h
    · rintro ⟨u', a', hstep', -⟩
      rw [hstep] at hstep'
      cases hstep'

theorem andThen_of_ok (h : step s = (t, .ok a)) : andThen step next s = next a t := by
  rw [andThen, h]

theorem andThen_of_error (h : step s = (t, .error e)) : andThen step next s = (t, .error e) := by
  rw [andThen, h]

/-- What a step leaves is there after the chain, if the next step keeps it. -/
theorem andThen_leaves (hstep : P (step s).1) (hnext : ∀ a, Keeps P (next a)) :
    P (andThen step next s).1 := by
  unfold andThen
  split
  · rename_i u a h
    rw [h] at hstep
    exact hnext a u hstep
  · rename_i u e h
    rw [h] at hstep
    exact hstep

theorem andThen_keeps (hstep : Keeps P step) (hnext : ∀ a, Keeps P (next a)) :
    Keeps P (andThen step next) :=
  fun s hs => andThen_leaves (hstep s hs) hnext

theorem mapError_ok_iff {ε' : Type u} {f : ε → ε'} :
    mapError f step s = (t, .ok a) ↔ step s = (t, .ok a) := by
  rw [mapError]
  rcases step s with ⟨u, result⟩
  cases result <;> simp [Except.mapError]

theorem mapError_keeps {ε' : Type u} {f : ε → ε'} (hstep : Keeps P step) : Keeps P (mapError f step) :=
  hstep

theorem answer_ok_iff {result : Except ε α} : (answer result : Step σ ε α) s = (t, .ok a) ↔
    t = s ∧ result = .ok a := by
  rw [answer, Prod.mk.injEq, eq_comm]

theorem answer_keeps (result : Except ε α) : Keeps P ((answer result : Step σ ε α)) := fun _ hs => hs

end Chain

/-! ## Atomic steps -/

section Atomic

variable {observe : σ → ω} {step : Step σ ε α} {s : σ}

theorem atomic_of_unchanged (h : (step s).1 = s) : Atomic observe step s := by
  intro t e hstep
  rw [hstep] at h
  exact congrArg observe h

/-- A step that leaves a change is atomic exactly where it answers. -/
theorem atomic_iff_answers (hchanged : observe (step s).1 ≠ observe s) :
    Atomic observe step s ↔ ∃ t a, step s = (t, .ok a) := by
  rcases hstep : step s with ⟨t, result⟩
  rw [hstep] at hchanged
  cases result with
  | ok a => exact ⟨fun _ => ⟨t, a, rfl⟩, fun _ u e hfailed => by
      rw [hstep] at hfailed
      cases hfailed⟩
  | error e =>
    constructor
    · exact fun hatomic => absurd (hatomic t e hstep) hchanged
    · rintro ⟨u, a, hanswer⟩
      cases hanswer

end Atomic

end Commits
