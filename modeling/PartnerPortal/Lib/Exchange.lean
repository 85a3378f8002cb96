import Mathlib.Tactic.Common

/-!
# Stateful computations that may fail

A computation that reads and changes a state and may fail on its way keeps what it changed.  What
it ensures from a precondition speaks of the state with its value and of the state it failed in.

Results:
- `Ensures.bind` — a sequence ensures what its second part does from what the first one ensures;
- `Ensures.recover` — a handler takes over in the state of the failure;
- `Settles.bind` — what did not stop for want of room is the same with more of it.
-/

universe u

/-- A computation on a state that may fail, and leaves a state either way. -/
abbrev Exchange (σ ε α : Type u) : Type u := ExceptT ε (StateM σ) α

namespace Exchange

variable {σ ε α β : Type u}

/-- What a computation gives from a state. -/
def result (x : Exchange σ ε α) (s : σ) : Except ε α := (StateT.run (ExceptT.run x) s).1

/-- The state that it leaves. -/
def after (x : Exchange σ ε α) (s : σ) : σ := (StateT.run (ExceptT.run x) s).2

/-- A failure is handled in the state it left. -/
def recover (x : Exchange σ ε α) (handle : ε → Exchange σ ε α) : Exchange σ ε α :=
  tryCatch x handle

section Results

variable (s : σ)

@[simp] theorem result_pure (a : α) : (pure a : Exchange σ ε α).result s = .ok a := rfl

@[simp] theorem after_pure (a : α) : (pure a : Exchange σ ε α).after s = s := rfl

@[simp] theorem result_throw (e : ε) : (throw e : Exchange σ ε α).result s = .error e := rfl

@[simp] theorem after_throw (e : ε) : (throw e : Exchange σ ε α).after s = s := rfl

@[simp] theorem result_get : (get : Exchange σ ε σ).result s = .ok s := rfl

@[simp] theorem after_get : (get : Exchange σ ε σ).after s = s := rfl

@[simp] theorem result_modify (f : σ → σ) :
    (modify f : Exchange σ ε PUnit).result s = .ok ⟨⟩ := rfl

@[simp] theorem after_modify (f : σ → σ) : (modify f : Exchange σ ε PUnit).after s = f s := rfl

variable {x : Exchange σ ε α} {s}

/-- A sequence goes on with the value of its first part. -/
theorem bind_of_ok {a : α} (f : α → Exchange σ ε β) (h : x.result s = .ok a) :
    (x >>= f).result s = (f a).result (x.after s) ∧ (x >>= f).after s = (f a).after (x.after s) := by
  unfold result after ExceptT.run StateT.run at *
  simp only [bind, ExceptT.bind, ExceptT.mk, StateT.bind]
  cases hx : x s with
  | mk first next =>
    rw [hx] at h
    subst h
    exact ⟨rfl, rfl⟩

/-- A sequence fails where its first part does. -/
theorem bind_of_error {e : ε} (f : α → Exchange σ ε β) (h : x.result s = .error e) :
    (x >>= f).result s = .error e ∧ (x >>= f).after s = x.after s := by
  unfold result after ExceptT.run StateT.run at *
  simp only [bind, ExceptT.bind, ExceptT.mk, StateT.bind]
  cases hx : x s with
  | mk first next =>
    rw [hx] at h
    subst h
    exact ⟨rfl, rfl⟩

theorem recover_of_ok {a : α} (handle : ε → Exchange σ ε α) (h : x.result s = .ok a) :
    (x.recover handle).result s = .ok a ∧ (x.recover handle).after s = x.after s := by
  unfold recover result after ExceptT.run StateT.run at *
  simp only [tryCatch, tryCatchThe, MonadExceptOf.tryCatch, ExceptT.tryCatch, ExceptT.mk, bind,
    StateT.bind]
  cases hx : x s with
  | mk first next =>
    rw [hx] at h
    subst h
    exact ⟨rfl, rfl⟩

theorem recover_of_error {e : ε} (handle : ε → Exchange σ ε α) (h : x.result s = .error e) :
    (x.recover handle).result s = (handle e).result (x.after s) ∧
      (x.recover handle).after s = (handle e).after (x.after s) := by
  unfold recover result after ExceptT.run StateT.run at *
  simp only [tryCatch, tryCatchThe, MonadExceptOf.tryCatch, ExceptT.tryCatch, ExceptT.mk, bind,
    StateT.bind]
  cases hx : x s with
  | mk first next =>
    rw [hx] at h
    subst h
    exact ⟨rfl, rfl⟩

end Results

/-! ## What a computation ensures -/

/-- From the states of a precondition, a computation gives a value and a state as `Q` says, or fails
in a state as `E` says. -/
def Ensures (P : σ → Prop) (x : Exchange σ ε α) (Q : α → σ → Prop) (E : ε → σ → Prop) : Prop :=
  ∀ s, P s → (∀ a, x.result s = .ok a → Q a (x.after s)) ∧
    ∀ e, x.result s = .error e → E e (x.after s)

section Rules

variable {P : σ → Prop} {x : Exchange σ ε α} {Q : α → σ → Prop} {E : ε → σ → Prop}

theorem ensures_pure {a : α} (h : ∀ s, P s → Q a s) : Ensures P (pure a) Q E := by
  intro s hs
  refine ⟨fun b hb => ?_, fun e he => nomatch he⟩
  cases hb
  exact h s hs

theorem ensures_throw {e : ε} (h : ∀ s, P s → E e s) :
    Ensures P (throw e : Exchange σ ε α) Q E := by
  intro s hs
  refine ⟨fun a ha => (nomatch ha), fun e' he => ?_⟩
  cases he
  exact h s hs

theorem ensures_get {Q : σ → σ → Prop} (h : ∀ s, P s → Q s s) :
    Ensures P (get : Exchange σ ε σ) Q E := by
  intro s hs
  refine ⟨fun a ha => ?_, fun e he => nomatch he⟩
  cases ha
  exact h s hs

theorem ensures_modify {f : σ → σ} {Q : PUnit → σ → Prop} (h : ∀ s, P s → Q ⟨⟩ (f s)) :
    Ensures P (modify f : Exchange σ ε PUnit) Q E := by
  intro s hs
  refine ⟨fun a _ => h s hs, fun e he => nomatch he⟩

/-- A sequence ensures what its second part does from what the first one ensures. -/
theorem Ensures.bind {f : α → Exchange σ ε β} {R : β → σ → Prop} (hx : Ensures P x Q E)
    (hf : ∀ a, Ensures (Q a) (f a) R E) : Ensures P (x >>= f) R E := by
  intro s hs
  obtain ⟨hok, herror⟩ := hx s hs
  cases h : x.result s with
  | error e =>
    obtain ⟨hresult, hafter⟩ := bind_of_error f h
    rw [hresult, hafter]
    refine ⟨fun b hb => (nomatch hb), fun e' he => ?_⟩
    cases he
    exact herror e h
  | ok a =>
    obtain ⟨hresult, hafter⟩ := bind_of_ok f h
    rw [hresult, hafter]
    exact hf a _ (hok a h)

/-- A computation that reads the state goes on from the state it read. -/
theorem Ensures.get_bind {f : σ → Exchange σ ε β} {R : β → σ → Prop}
    (hf : ∀ read, Ensures (fun s => s = read ∧ P s) (f read) R E) : Ensures P (get >>= f) R E :=
  Ensures.bind (ensures_get fun _ hs => ⟨rfl, hs⟩) hf

/-- A computation that changes the state goes on from the changed state. -/
theorem Ensures.modify_bind (P' : σ → Prop) {f : σ → σ} {y : PUnit → Exchange σ ε β}
    {R : β → σ → Prop} (hf : ∀ s, P s → P' (f s)) (hy : Ensures P' (y ⟨⟩) R E) :
    Ensures P (modify f >>= y) R E :=
  Ensures.bind (ensures_modify hf) fun _ => hy

/-- A handler takes over in the state of the failure. -/
theorem Ensures.recover {handle : ε → Exchange σ ε α} {E' : ε → σ → Prop} (hx : Ensures P x Q E)
    (hhandle : ∀ e, Ensures (E e) (handle e) Q E') : Ensures P (x.recover handle) Q E' := by
  intro s hs
  obtain ⟨hok, herror⟩ := hx s hs
  cases h : x.result s with
  | error e =>
    obtain ⟨hresult, hafter⟩ := recover_of_error handle h
    rw [hresult, hafter]
    exact hhandle e _ (herror e h)
  | ok a =>
    obtain ⟨hresult, hafter⟩ := recover_of_ok handle h
    rw [hresult, hafter]
    refine ⟨fun b hb => ?_, fun e he => nomatch he⟩
    cases hb
    exact hok a h

/-- The precondition may be stronger and the conclusions weaker. -/
theorem Ensures.weaken {P' : σ → Prop} {Q' : α → σ → Prop} {E' : ε → σ → Prop}
    (hx : Ensures P x Q E) (hP : ∀ s, P' s → P s) (hQ : ∀ a s, Q a s → Q' a s)
    (hE : ∀ e s, E e s → E' e s) : Ensures P' x Q' E' := by
  intro s hs
  obtain ⟨hok, herror⟩ := hx s (hP s hs)
  exact ⟨fun a ha => hQ a _ (hok a ha), fun e he => hE e _ (herror e he)⟩

/-- Whatever a computation gives, one of its conclusions holds. -/
theorem Ensures.ends (hx : Ensures P x Q E) {s : σ} (h : P s) :
    (∃ a, x.result s = .ok a ∧ Q a (x.after s)) ∨ ∃ e, x.result s = .error e ∧ E e (x.after s) := by
  obtain ⟨hok, herror⟩ := hx s h
  cases hresult : x.result s with
  | ok a => exact Or.inl ⟨a, rfl, hok a hresult⟩
  | error e => exact Or.inr ⟨e, rfl, herror e hresult⟩

end Rules

/-! ## More room -/

/-- A computation stops for want of room, or does the same as one with more of it. -/
def Settles (stop : ε) (x y : Exchange σ ε α) : Prop :=
  ∀ s, x.result s = .error stop ∨ (x.result s = y.result s ∧ x.after s = y.after s)

section More

variable {stop : ε} {x y : Exchange σ ε α}

theorem Settles.refl (stop : ε) (x : Exchange σ ε α) : Settles stop x x :=
  fun _ => Or.inr ⟨rfl, rfl⟩

theorem Settles.of_stop (y : Exchange σ ε α) : Settles stop (throw stop) y := fun _ => Or.inl rfl

theorem Settles.bind {f g : α → Exchange σ ε β} (hx : Settles stop x y)
    (hf : ∀ a, Settles stop (f a) (g a)) : Settles stop (x >>= f) (y >>= g) := by
  intro s
  cases hfirst : x.result s with
  | error e =>
    obtain ⟨hresult, hafter⟩ := bind_of_error f hfirst
    rw [hresult, hafter]
    rcases hx s with hstop | ⟨hsame, hstate⟩
    · rw [hstop] at hfirst
      cases hfirst
      exact Or.inl rfl
    · obtain ⟨hresult', hafter'⟩ := bind_of_error g (hsame.symm.trans hfirst)
      rw [hresult', hafter']
      exact Or.inr ⟨rfl, hstate⟩
  | ok a =>
    obtain ⟨hresult, hafter⟩ := bind_of_ok f hfirst
    rw [hresult, hafter]
    rcases hx s with hstop | ⟨hsame, hstate⟩
    · rw [hstop] at hfirst
      cases hfirst
    · obtain ⟨hresult', hafter'⟩ := bind_of_ok g (hsame.symm.trans hfirst)
      rw [hresult', hafter', ← hstate]
      exact hf a (x.after s)

/-- A handler that passes the want of room on. -/
theorem Settles.recover {handle handle' : ε → Exchange σ ε α} (hx : Settles stop x y)
    (hhandle : ∀ e, Settles stop (handle e) (handle' e))
    (hstops : ∀ s, (handle stop).result s = .error stop) :
    Settles stop (x.recover handle) (y.recover handle') := by
  intro s
  cases hfirst : x.result s with
  | ok a =>
    obtain ⟨hresult, hafter⟩ := recover_of_ok handle hfirst
    rw [hresult, hafter]
    rcases hx s with hstop | ⟨hsame, hstate⟩
    · rw [hstop] at hfirst
      cases hfirst
    · obtain ⟨hresult', hafter'⟩ := recover_of_ok handle' (hsame.symm.trans hfirst)
      rw [hresult', hafter']
      exact Or.inr ⟨rfl, hstate⟩
  | error e =>
    obtain ⟨hresult, hafter⟩ := recover_of_error handle hfirst
    rw [hresult, hafter]
    rcases hx s with hstop | ⟨hsame, hstate⟩
    · rw [hstop] at hfirst
      cases hfirst
      exact Or.inl (hstops _)
    · obtain ⟨hresult', hafter'⟩ := recover_of_error handle' (hsame.symm.trans hfirst)
      rw [hresult', hafter', ← hstate]
      exact hhandle e (x.after s)

end More

end Exchange
