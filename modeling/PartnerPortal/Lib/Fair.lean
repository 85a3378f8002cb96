import PartnerPortal.Lib.Duty

/-!
# Coming to rest in every fair run

A system whose urgent events bring a measure down while no other event raises it.  As long as it is
not at rest some urgent event can happen.  If urgent events that can happen are not put off for ever,
every run without end reaches rest.

Results:
- `Leads.rests` — every fair run comes to rest;
- `Leads.exists_rest` — some finite run does, from every state.
-/

namespace Fair

variable {σ ε : Type*}

/-- A run without end. -/
structure Run (step : σ → ε → Option σ) where
  state : Nat → σ
  event : Nat → ε
  steps : ∀ n, step (state n) (event n) = some (state (n + 1))

/-- As long as an urgent event can happen, some urgent event will. -/
def Run.IsFair {step : σ → ε → Option σ} (run : Run step) (Urgent : σ → ε → Prop) : Prop :=
  ∀ n, (∃ event, Urgent (run.state n) event ∧ (step (run.state n) event).isSome = true) →
    ∃ m, n ≤ m ∧ Urgent (run.state m) (run.event m)

/-- What urgent events have to do for a system to come to rest, in the states that satisfy an
invariant and are not at rest yet. -/
structure Leads (step : σ → ε → Option σ) (Inv Rest : σ → Prop) (Urgent : σ → ε → Prop)
    (measure : σ → Nat) : Prop where
  keeps : ∀ s event t, step s event = some t → Inv s → Inv t
  falls : ∀ s event t, step s event = some t → Inv s → ¬ Rest s → Urgent s event →
    measure t < measure s
  rises : ∀ s event t, step s event = some t → Inv s → ¬ Rest s → measure t ≤ measure s
  possible : ∀ s, Inv s → ¬ Rest s → ∃ event, Urgent s event ∧ (step s event).isSome = true

section

variable {step : σ → ε → Option σ} {Inv Rest : σ → Prop} {Urgent : σ → ε → Prop}
  {measure : σ → Nat}

theorem Leads.inv (h : Leads step Inv Rest Urgent measure) (run : Run step)
    (hstart : Inv (run.state 0)) (n : Nat) : Inv (run.state n) := by
  induction n with
  | zero => exact hstart
  | succ n ih => exact h.keeps _ _ _ (run.steps n) ih

theorem Leads.measure_le (h : Leads step Inv Rest Urgent measure) (run : Run step)
    (hstart : Inv (run.state 0)) (hnever : ∀ n, ¬ Rest (run.state n)) {n m : Nat} (hle : n ≤ m) :
    measure (run.state m) ≤ measure (run.state n) := by
  induction hle with
  | refl => exact Nat.le_refl _
  | @step m _ ih =>
    exact Nat.le_trans (h.rises _ _ _ (run.steps m) (h.inv run hstart m) (hnever m)) ih

/-- Every fair run comes to rest. -/
theorem Leads.rests (h : Leads step Inv Rest Urgent measure) (run : Run step)
    (hfair : run.IsFair Urgent) (hstart : Inv (run.state 0)) : ∃ n, Rest (run.state n) := by
  by_contra hnever
  push Not at hnever
  -- the measure falls below every bound
  have hbelow : ∀ bound, ∃ n, measure (run.state n) + bound ≤ measure (run.state 0) := by
    intro bound
    induction bound with
    | zero => exact ⟨0, Nat.le_refl _⟩
    | succ bound ih =>
      obtain ⟨n, hn⟩ := ih
      have hinv := h.inv run hstart
      obtain ⟨m, hle, hm⟩ := hfair n (h.possible _ (hinv n) (hnever n))
      have hfall := h.falls _ _ _ (run.steps m) (hinv m) (hnever m) hm
      have hmono := h.measure_le run hstart hnever hle
      exact ⟨m + 1, by omega⟩
  obtain ⟨n, hn⟩ := hbelow (measure (run.state 0) + 1)
  omega

/-- Some finite run comes to rest, from every state. -/
theorem Leads.exists_rest (h : Leads step Inv Rest Urgent measure) (s : σ) (hs : Inv s) :
    ∃ events t, Duty.run step s events = some t ∧ Rest t := by
  induction hmeasure : measure s using Nat.strongRecOn generalizing s with
  | ind n ih =>
    subst hmeasure
    by_cases hrest : Rest s
    · exact ⟨[], s, rfl, hrest⟩
    · obtain ⟨event, hurgent, hsome⟩ := h.possible s hs hrest
      obtain ⟨next, hnext⟩ := Option.isSome_iff_exists.1 hsome
      have hfall := h.falls _ _ _ hnext hs hrest hurgent
      obtain ⟨events, t, hrun, ht⟩ := ih _ hfall next (h.keeps _ _ _ hnext hs) rfl
      exact ⟨event :: events, t, Duty.run_cons_iff.2 ⟨next, hnext, hrun⟩, ht⟩

end

end Fair
