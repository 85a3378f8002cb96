import Mathlib.Tactic.Common

/-!
# A duty paid once

States that owe payments and keep the payments made.  Each event either keeps the sum of what is
owed and what is paid or loses one.  Over a run the sum says exactly whether something was lost, and
it bounds what is ever paid.

Results:
- `Conserves.run_le` — nothing is paid beyond what was owed and paid at the start;
- `Conserves.run_paid_iff` — a run pays everything exactly when it loses nothing and ends owing
  nothing;
- `Own.exists_rest` — events that come by themselves and bring a measure down lead to rest.
-/

namespace Duty

variable {σ ε β : Type*}

/-- Events one after another. -/
def run (step : σ → ε → Option σ) : σ → List ε → Option σ
  | s, [] => some s
  | s, event :: events => (step s event).bind fun t => run step t events

/-- No event of the run is one that loses a payment. -/
def Undisturbed (step : σ → ε → Option σ) (Loses : σ → ε → Prop) : σ → List ε → Prop
  | _, [] => True
  | s, event :: events => ¬ Loses s event ∧ ∀ t ∈ step s event, Undisturbed step Loses t events

instance decidableUndisturbed {step : σ → ε → Option σ} {Loses : σ → ε → Prop}
    [∀ s event, Decidable (Loses s event)] (s : σ) :
    (events : List ε) → Decidable (Undisturbed step Loses s events)
  | [] => isTrue trivial
  | event :: events =>
    have : ∀ t, Decidable (Undisturbed step Loses t events) := fun t => decidableUndisturbed t events
    inferInstanceAs (Decidable
      (¬ Loses s event ∧ ∀ t ∈ step s event, Undisturbed step Loses t events))

/-- What is owed and what is paid. -/
def total (owed : σ → Nat) (paid : σ → List β) (s : σ) : Nat := owed s + (paid s).length

/-- Every event keeps the sum, or loses one of it. -/
structure Conserves (step : σ → ε → Option σ) (owed : σ → Nat) (paid : σ → List β)
    (Loses : σ → ε → Prop) : Prop where
  keeps : ∀ s event t, step s event = some t → ¬ Loses s event → total owed paid t = total owed paid s
  loses : ∀ s event t, step s event = some t → Loses s event →
    total owed paid t + 1 = total owed paid s

section Runs

variable {step : σ → ε → Option σ} {s t : σ}

theorem run_cons_iff {event : ε} {events : List ε} :
    run step s (event :: events) = some t ↔
      ∃ middle, step s event = some middle ∧ run step middle events = some t :=
  Option.bind_eq_some_iff

theorem run_append_iff {events later : List ε} :
    run step s (events ++ later) = some t ↔
      ∃ middle, run step s events = some middle ∧ run step middle later = some t := by
  induction events generalizing s with
  | nil => simp [run]
  | cons event events ih =>
    simp only [List.cons_append, run_cons_iff, ih]
    exact ⟨fun ⟨next, hnext, middle, hmiddle, hlater⟩ => ⟨middle, ⟨next, hnext, hmiddle⟩, hlater⟩,
      fun ⟨middle, ⟨next, hnext, hmiddle⟩, hlater⟩ => ⟨next, hnext, middle, hmiddle, hlater⟩⟩

/-- What every event keeps holds at the end of a run. -/
theorem run_keeps {P : σ → Prop} (hstep : ∀ s event t, step s event = some t → P s → P t)
    {events : List ε} (hrun : run step s events = some t) (hs : P s) : P t := by
  induction events generalizing s with
  | nil =>
    cases hrun
    exact hs
  | cons event events ih =>
    obtain ⟨middle, hmiddle, hrun⟩ := run_cons_iff.1 hrun
    exact ih hrun (hstep s event middle hmiddle hs)

/-- What every event of a kind keeps holds at the end of a run of such events. -/
theorem run_keeps_of_forall {P : σ → Prop} {Q : ε → Prop}
    (hstep : ∀ s event t, Q event → step s event = some t → P s → P t) {events : List ε}
    (hall : ∀ event ∈ events, Q event) (hrun : run step s events = some t) (hs : P s) : P t := by
  induction events generalizing s with
  | nil =>
    cases hrun
    exact hs
  | cons event events ih =>
    obtain ⟨middle, hmiddle, hrun⟩ := run_cons_iff.1 hrun
    have hnext := hstep s event middle (hall event List.mem_cons_self) hmiddle hs
    exact ih (fun other hother => hall other (List.mem_cons_of_mem event hother)) hrun hnext

theorem undisturbed_cons_iff {Loses : σ → ε → Prop} {event : ε} {events : List ε} {middle : σ}
    (h : step s event = some middle) :
    Undisturbed step Loses s (event :: events) ↔
      ¬ Loses s event ∧ Undisturbed step Loses middle events := by
  simp [Undisturbed, h]

/-- What every event keeps that loses nothing holds at the end of a run without a loss. -/
theorem run_keeps_undisturbed {P : σ → Prop} {Loses : σ → ε → Prop}
    (hstep : ∀ s event t, step s event = some t → ¬ Loses s event → P s → P t)
    {events : List ε} (hrun : run step s events = some t)
    (hundisturbed : Undisturbed step Loses s events) (hs : P s) : P t := by
  induction events generalizing s with
  | nil =>
    cases hrun
    exact hs
  | cons event events ih =>
    obtain ⟨middle, hmiddle, hrun⟩ := run_cons_iff.1 hrun
    obtain ⟨hkeeps, hrest⟩ := (undisturbed_cons_iff hmiddle).1 hundisturbed
    exact ih hrun hrest (hstep s event middle hmiddle hkeeps hs)

/-- What every event keeps that loses nothing also rules out whatever it excludes. -/
theorem undisturbed_of_keeps {P : σ → Prop} {Loses Breaks : σ → ε → Prop}
    (hstep : ∀ s event t, step s event = some t → ¬ Loses s event → P s → P t)
    (hbreaks : ∀ s event, ¬ Loses s event → P s → ¬ Breaks s event) {events : List ε}
    (hundisturbed : Undisturbed step Loses s events) (hs : P s) : Undisturbed step Breaks s events := by
  induction events generalizing s with
  | nil => trivial
  | cons event events ih =>
    obtain ⟨hkeeps, hrest⟩ := hundisturbed
    exact ⟨hbreaks s event hkeeps hs,
      fun middle hmiddle => ih (hrest middle hmiddle) (hstep s event middle hmiddle hkeeps hs)⟩

end Runs

section Conservation

variable {step : σ → ε → Option σ} {owed : σ → Nat} {paid : σ → List β} {Loses : σ → ε → Prop}

/-- Nothing is paid beyond what was owed and paid at the start. -/
theorem Conserves.run_le (h : Conserves step owed paid Loses) {s t : σ} {events : List ε}
    (hrun : run step s events = some t) : total owed paid t ≤ total owed paid s := by
  induction events generalizing s with
  | nil =>
    cases hrun
    exact Nat.le_refl _
  | cons event events ih =>
    obtain ⟨middle, hmiddle, hrun⟩ := run_cons_iff.1 hrun
    refine Nat.le_trans (ih hrun) ?_
    by_cases hloses : Loses s event
    · exact Nat.le_of_succ_le (Nat.le_of_eq (h.loses s event middle hmiddle hloses))
    · exact Nat.le_of_eq (h.keeps s event middle hmiddle hloses)

/-- A run keeps the sum exactly when it loses nothing. -/
theorem Conserves.run_eq_iff (h : Conserves step owed paid Loses) {s t : σ} {events : List ε}
    (hrun : run step s events = some t) :
    total owed paid t = total owed paid s ↔ Undisturbed step Loses s events := by
  induction events generalizing s with
  | nil =>
    cases hrun
    exact iff_of_true rfl trivial
  | cons event events ih =>
    obtain ⟨middle, hmiddle, hrun⟩ := run_cons_iff.1 hrun
    rw [undisturbed_cons_iff hmiddle, ← ih hrun]
    by_cases hloses : Loses s event
    · -- what is lost never comes back
      have hlost := h.loses s event middle hmiddle hloses
      have hle := h.run_le hrun
      exact iff_of_false (by omega) fun hboth => hboth.1 hloses
    · rw [h.keeps s event middle hmiddle hloses]
      exact (and_iff_right hloses).symm

/-- A run pays everything exactly when it loses nothing and ends owing nothing. -/
theorem Conserves.run_paid_iff (h : Conserves step owed paid Loses) {s t : σ} {events : List ε}
    (hrun : run step s events = some t) :
    (paid t).length = total owed paid s ↔ Undisturbed step Loses s events ∧ owed t = 0 := by
  have hle := h.run_le hrun
  rw [← h.run_eq_iff hrun]
  unfold total at hle ⊢
  omega

end Conservation

/-! ## Coming to rest -/

/-- Events that come by themselves are possible, lose nothing and bring the measure down. -/
structure Own (step : σ → ε → Option σ) (Loses : σ → ε → Prop) (own : σ → Option ε)
    (measure : σ → Nat) : Prop where
  steps : ∀ s event, own s = some event → ∃ t, step s event = some t ∧ measure t < measure s
  guarded : ∀ s event, own s = some event → ¬ Loses s event

/-- Every state comes to rest by itself. -/
theorem Own.exists_rest {step : σ → ε → Option σ} {Loses : σ → ε → Prop} {own : σ → Option ε}
    {measure : σ → Nat} (h : Own step Loses own measure) (s : σ) :
    ∃ events t, run step s events = some t ∧ own t = none ∧ Undisturbed step Loses s events := by
  induction hmeasure : measure s using Nat.strongRecOn generalizing s with
  | ind n ih =>
    subst hmeasure
    cases hown : own s with
    | none => exact ⟨[], s, rfl, hown, trivial⟩
    | some event =>
      obtain ⟨middle, hmiddle, hlt⟩ := h.steps s event hown
      obtain ⟨events, t, hrun, hrest, hundisturbed⟩ := ih _ hlt middle rfl
      exact ⟨event :: events, t, run_cons_iff.2 ⟨middle, hmiddle, hrun⟩, hrest,
        (undisturbed_cons_iff hmiddle).2 ⟨h.guarded s event hown, hundisturbed⟩⟩

end Duty
