import PartnerPortal.Lib.Duty

/-!
# Values written once

A value that events may bring and a state may hold.  An event that brings none leaves a held value
alone; one that brings a value puts it in.

Results:
- `run_holds` — without an overriding event a held value stays;
- `frozen_iff` — a value is frozen along a run exactly when no event overrides the one held.
-/

namespace WriteOnce

open Duty

variable {σ ε α : Type*}

/-- The event brings a value, and the state holds another. -/
def Overrides (held : σ → Option α) (brings : ε → Option α) (s : σ) (event : ε) : Prop :=
  ∃ value old, brings event = some value ∧ held s = some old ∧ value ≠ old

/-- Once there, the value is the same until the end of the run. -/
def Frozen (step : σ → ε → Option σ) (held : σ → Option α) (s t : σ) (events : List ε) : Prop :=
  ∀ front back middle value, events = front ++ back → run step s front = some middle →
    held middle = some value → held t = some value

section Runs

variable {step : σ → ε → Option σ} {held : σ → Option α} {brings : ε → Option α} {s t : σ}
  {events : List ε}

/-- What an event makes of a held value. -/
def Brings (step : σ → ε → Option σ) (held : σ → Option α) (brings : ε → Option α) : Prop :=
  ∀ s event t value, step s event = some t → held s = some value →
    held t = some ((brings event).getD value)

/-- Without an overriding event a held value stays. -/
theorem run_holds (hstep : Brings step held brings) {value : α}
    (hrun : run step s events = some t)
    (hundisturbed : Undisturbed step (Overrides held brings) s events)
    (hvalue : held s = some value) : held t = some value := by
  induction events generalizing s with
  | nil =>
    cases hrun
    exact hvalue
  | cons event events ih =>
    obtain ⟨middle, hmiddle, hrun⟩ := run_cons_iff.1 hrun
    obtain ⟨hnot, hrest⟩ := (undisturbed_cons_iff hmiddle).1 hundisturbed
    refine ih hrun hrest ?_
    rw [hstep s event middle value hmiddle hvalue]
    cases hbrings : brings event with
    | none => rfl
    | some brought =>
      by_contra hne
      exact hnot ⟨brought, value, hbrings, hvalue, fun heq => hne (congrArg some heq)⟩

/-- A value is frozen along a run exactly when no event overrides the one held. -/
theorem frozen_iff (hstep : Brings step held brings) (hrun : run step s events = some t) :
    Frozen step held s t events ↔ Undisturbed step (Overrides held brings) s events := by
  induction events generalizing s with
  | nil =>
    refine iff_of_true (fun front back middle value hsplit hfront hvalue => ?_) trivial
    obtain ⟨rfl, -⟩ := List.append_eq_nil_iff.1 hsplit.symm
    cases hfront
    cases hrun
    exact hvalue
  | cons event events ih =>
    obtain ⟨middle, hmiddle, hrest⟩ := run_cons_iff.1 hrun
    rw [undisturbed_cons_iff hmiddle, ← ih hrest]
    constructor
    · intro h
      refine ⟨?_, fun front back last value hsplit hfront hvalue => ?_⟩
      · -- the value before and the value brought are both the last one
        rintro ⟨value, old, hbrings, hold, hne⟩
        have hlast := h [] (event :: events) s old rfl rfl hold
        have hbrought := hstep s event middle old hmiddle hold
        rw [hbrings, Option.getD_some] at hbrought
        have hlast' := h [event] events middle value rfl (run_cons_iff.2 ⟨middle, hmiddle, rfl⟩)
          hbrought
        exact hne (Option.some.inj (hlast'.symm.trans hlast))
      · exact h (event :: front) back last value (congrArg _ hsplit)
          (run_cons_iff.2 ⟨middle, hmiddle, hfront⟩) hvalue
    · rintro ⟨hnot, hfrozen⟩ front back last value hsplit hfront hvalue
      -- a value that is held at the start, or one that a later step brought
      cases front with
      | nil =>
        cases hfront
        refine run_holds hstep hrun ((undisturbed_cons_iff hmiddle).2 ⟨hnot, ?_⟩) hvalue
        exact (ih hrest).1 hfrozen
      | cons first front =>
        obtain ⟨rfl, rfl⟩ := List.cons_eq_cons.1 hsplit
        obtain ⟨middle', hmiddle', hfront⟩ := run_cons_iff.1 hfront
        cases hmiddle.symm.trans hmiddle'
        exact hfrozen front back last value rfl hfront hvalue

end Runs

end WriteOnce
