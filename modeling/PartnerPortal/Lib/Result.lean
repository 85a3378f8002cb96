import Mathlib.Data.List.Forall2
import Mathlib.Tactic.Common

/-!
# Fallible computations

What the outcome of a sequence of `Except` computations says about its steps.
-/

namespace Result

universe u v

variable {ε : Type u} {α β : Type v}

/-- A sequence succeeds exactly when both of its parts do. -/
theorem bind_ok_iff {x : Except ε α} {f : α → Except ε β} {b : β} :
    (x >>= f) = .ok b ↔ ∃ a, x = .ok a ∧ f a = .ok b := by
  cases x <;> simp [bind, Except.bind]

/-- A sequence fails in its first part, or in its second after the first succeeded. -/
theorem bind_error_iff {x : Except ε α} {f : α → Except ε β} {e : ε} :
    (x >>= f) = .error e ↔ x = .error e ∨ ∃ a, x = .ok a ∧ f a = .error e := by
  cases x <;> simp [bind, Except.bind]

@[simp] theorem ok_bind {a : α} {f : α → Except ε β} : ((.ok a : Except ε α) >>= f) = f a := rfl

@[simp] theorem error_bind {e : ε} {f : α → Except ε β} :
    ((.error e : Except ε α) >>= f) = .error e := rfl

@[simp] theorem pure_eq {a : α} : (pure a : Except ε α) = .ok a := rfl

/-- A computation that cannot fail afterwards succeeds exactly when it does. -/
theorem isOk_map_iff {x : Except ε α} {f : α → β} :
    (∃ b, (x >>= fun a => pure (f a)) = .ok b) ↔ ∃ a, x = .ok a := by
  cases x <;> simp [bind, Except.bind, pure, Except.pure]

theorem mapError_ok_iff {ε' : Type*} {x : Except ε α} {f : ε → ε'} {a : α} :
    x.mapError f = .ok a ↔ x = .ok a := by
  cases x <;> simp [Except.mapError]

/-- A list of computations succeeds exactly when each of them does. -/
theorem mapM_ok_iff {l : List α} {f : α → Except ε β} {ys : List β} :
    l.mapM f = .ok ys ↔ List.Forall₂ (fun x y => f x = .ok y) l ys := by
  induction l generalizing ys with
  | nil =>
    cases ys <;> simp [pure, Except.pure]
  | cons x l ih =>
    rw [List.mapM_cons, bind_ok_iff]
    constructor
    · rintro ⟨y, hy, h⟩
      obtain ⟨ys', hys, h⟩ := bind_ok_iff.1 h
      rw [← Except.ok.inj h]
      exact .cons hy (ih.1 hys)
    · rintro (_ | ⟨hy, hys⟩)
      exact ⟨_, hy, bind_ok_iff.2 ⟨_, ih.2 hys, rfl⟩⟩

/-- It has a result exactly when each of them has one. -/
theorem isOk_mapM_iff {l : List α} {f : α → Except ε β} :
    (∃ ys, l.mapM f = .ok ys) ↔ ∀ x ∈ l, ∃ y, f x = .ok y := by
  simp only [mapM_ok_iff]
  induction l with
  | nil => simp
  | cons x l ih =>
    rw [List.forall_mem_cons, ← ih]
    constructor
    · rintro ⟨_, _ | ⟨hy, hys⟩⟩
      exact ⟨⟨_, hy⟩, ⟨_, hys⟩⟩
    · rintro ⟨⟨y, hy⟩, ys, hys⟩
      exact ⟨y :: ys, .cons hy hys⟩

/-! ## Folds -/

section Fold

variable {σ : Type u} {ι : Type*} {step : σ → ι → Except ε σ} {list : List ι}

/-- A fold whose steps keep an invariant succeeds exactly when each of its steps does from the
states of the invariant. -/
theorem foldlM_isOk_iff (Inv : σ → Prop) (P : ι → Prop)
    (hkeep : ∀ a ∈ list, ∀ s s', Inv s → step s a = .ok s' → Inv s')
    (hok : ∀ a ∈ list, ∀ s, Inv s → ((∃ s', step s a = .ok s') ↔ P a)) {s : σ} (h : Inv s) :
    (∃ s', list.foldlM step s = .ok s') ↔ ∀ a ∈ list, P a := by
  induction list generalizing s with
  | nil => simp [pure, Except.pure]
  | cons a rest ih =>
    have hrest := fun {s : σ} (hs : Inv s) => @ih
      (fun b hb => hkeep b (List.mem_cons_of_mem a hb))
      (fun b hb => hok b (List.mem_cons_of_mem a hb)) s hs
    have hfirst := hok a List.mem_cons_self s h
    rw [List.forall_mem_cons, ← hfirst, List.foldlM_cons]
    constructor
    · rintro ⟨s'', h''⟩
      obtain ⟨s', hs', h''⟩ := bind_ok_iff.1 h''
      exact ⟨⟨s', hs'⟩, (hrest (hkeep a List.mem_cons_self s s' h hs')).1 ⟨s'', h''⟩⟩
    · rintro ⟨⟨s', hs'⟩, hall⟩
      obtain ⟨s'', h''⟩ := (hrest (hkeep a List.mem_cons_self s s' h hs')).2 hall
      exact ⟨s'', bind_ok_iff.2 ⟨s', hs', h''⟩⟩

/-- What each step of a fold establishes for its element, and every step keeps, holds of all
elements at the end. -/
theorem foldlM_visits (Q : ι → σ → Prop)
    (hdone : ∀ a ∈ list, ∀ s s', step s a = .ok s' → Q a s')
    (hkeep : ∀ a ∈ list, ∀ b s s', step s a = .ok s' → Q b s → Q b s') {s s' : σ}
    (h : list.foldlM step s = .ok s') : (∀ a ∈ list, Q a s') ∧ ∀ b, Q b s → Q b s' := by
  induction list generalizing s with
  | nil =>
    cases h
    exact ⟨by simp, fun _ => id⟩
  | cons a rest ih =>
    rw [List.foldlM_cons] at h
    obtain ⟨next, hnext, h⟩ := bind_ok_iff.1 h
    obtain ⟨hall, hlast⟩ := ih (fun b hb => hdone b (List.mem_cons_of_mem a hb))
      (fun b hb => hkeep b (List.mem_cons_of_mem a hb)) h
    refine ⟨List.forall_mem_cons.2 ⟨hlast a (hdone a List.mem_cons_self s next hnext), hall⟩, ?_⟩
    exact fun b hb => hlast b (hkeep a List.mem_cons_self b s next hnext hb)

/-- A fold whose steps keep an invariant ends in it, or in an error of one of its steps. -/
theorem foldlM_ends (Inv : σ → Prop) (Fails : ε → Prop)
    (hkeep : ∀ a ∈ list, ∀ s s', Inv s → step s a = .ok s' → Inv s')
    (hfail : ∀ a ∈ list, ∀ s e, Inv s → step s a = .error e → Fails e) {s : σ} (h : Inv s) :
    (∃ s', list.foldlM step s = .ok s' ∧ Inv s') ∨
      ∃ e, list.foldlM step s = .error e ∧ Fails e := by
  induction list generalizing s with
  | nil => exact Or.inl ⟨s, rfl, h⟩
  | cons a rest ih =>
    rw [List.foldlM_cons]
    cases hstep : step s a with
    | error e => exact Or.inr ⟨e, rfl, hfail a List.mem_cons_self s e h hstep⟩
    | ok next =>
      exact ih (fun b hb => hkeep b (List.mem_cons_of_mem a hb))
        (fun b hb => hfail b (List.mem_cons_of_mem a hb))
        (hkeep a List.mem_cons_self s next h hstep)

end Fold

end Result
