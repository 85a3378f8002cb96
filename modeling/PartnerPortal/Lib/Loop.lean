import Mathlib.Tactic.Common

/-!
# Loops that may stop early

A loop over a list whose body updates a state and may stop the whole loop.  What every turn keeps,
the loop keeps; a loop that was not stopped ran its body on every element.  A loop that runs while a
test holds, with a body that may fail, is counted in turns.
-/

namespace Loop

variable {α σ ε : Type*}

/-- Run a body over a list until it stops. -/
def runUntilStop (body : α → σ → σ × Option ε) : List α → σ → σ × Option ε
  | [], state => (state, none)
  | a :: rest, state =>
    match body a state with
    | (state, none) => runUntilStop body rest state
    | (state, some stop) => (state, some stop)

variable {body : α → σ → σ × Option ε}

@[simp] theorem runUntilStop_nil (state : σ) : runUntilStop body [] state = (state, none) := rfl

theorem runUntilStop_cons (a : α) (rest : List α) (state : σ) :
    runUntilStop body (a :: rest) state =
      match body a state with
      | (state, none) => runUntilStop body rest state
      | (state, some stop) => (state, some stop) := rfl

/-- What every turn keeps, the loop keeps. -/
theorem runUntilStop_keeps (Inv : σ → Prop) {list : List α}
    (hbody : ∀ a ∈ list, ∀ state, Inv state → Inv (body a state).1) {state : σ}
    (h : Inv state) : Inv (runUntilStop body list state).1 := by
  induction list generalizing state with
  | nil => exact h
  | cons a rest ih =>
    have hturn := hbody a List.mem_cons_self state h
    rw [runUntilStop_cons]
    split
    · rename_i next heq
      rw [heq] at hturn
      exact ih (fun b hb => hbody b (List.mem_cons_of_mem a hb)) hturn
    · rename_i next stop heq
      rw [heq] at hturn
      exact hturn

/-- A loop none of whose turns stops is not stopped. -/
theorem runUntilStop_completes (Inv : σ → Prop) {list : List α}
    (hbody : ∀ a ∈ list, ∀ state, Inv state → Inv (body a state).1 ∧ (body a state).2 = none)
    {state : σ} (h : Inv state) : (runUntilStop body list state).2 = none := by
  induction list generalizing state with
  | nil => rfl
  | cons a rest ih =>
    obtain ⟨hturn, hstop⟩ := hbody a List.mem_cons_self state h
    rw [runUntilStop_cons]
    split
    · rename_i next heq
      rw [heq] at hturn
      exact ih (fun b hb => hbody b (List.mem_cons_of_mem a hb)) hturn
    · rename_i next stop heq
      rw [heq] at hstop
      cases hstop

/-- A loop over two lists goes on to the second unless the first stopped it. -/
theorem runUntilStop_append (front back : List α) (state : σ) :
    runUntilStop body (front ++ back) state =
      match runUntilStop body front state with
      | (state, none) => runUntilStop body back state
      | (state, some stop) => (state, some stop) := by
  induction front generalizing state with
  | nil => rfl
  | cons a rest ih =>
    rw [List.cons_append, runUntilStop_cons, runUntilStop_cons]
    split
    · rename_i next _
      exact ih next
    · rfl

/-- A loop that was not stopped ran its body on every element.  What the turns before an element
keep holds when its turn comes, and what its turn establishes and the turns after it keep holds at
the end. -/
theorem runUntilStop_visits (Before After : σ → Prop) {front back : List α} {a : α}
    (hfront : ∀ b ∈ front, ∀ state, Before state → Before (body b state).1)
    (hturn : ∀ state, Before state → (body a state).2 = none → After (body a state).1)
    (hback : ∀ b ∈ back, ∀ state, After state → After (body b state).1) {state : σ}
    (h : Before state) (hdone : (runUntilStop body (front ++ a :: back) state).2 = none) :
    After (runUntilStop body (front ++ a :: back) state).1 := by
  have hreached := runUntilStop_keeps Before hfront h
  rw [runUntilStop_append] at hdone ⊢
  split at hdone
  · rename_i reached heq
    simp only [heq] at hreached ⊢
    rw [runUntilStop_cons] at hdone ⊢
    split at hdone
    · rename_i next hnext
      have hafter := hturn reached hreached (by rw [hnext])
      simp only [hnext] at hafter ⊢
      exact runUntilStop_keeps After hback hafter
    · cases hdone
  · cases hdone

/-! ## While a test holds -/

/-- `while test { turn }`, for at most a number of turns: nothing when they do not suffice. -/
def whileTurns (test : σ → Bool) (turn : σ → Except ε σ) : Nat → σ → Except ε (Option σ)
  | 0, _ => .ok none
  | turns + 1, state =>
    if test state then turn state >>= whileTurns test turn turns else .ok (some state)

variable {test : σ → Bool} {turn : σ → Except ε σ} {state : σ}

theorem whileTurns_done (h : test state = false) (turns : Nat) :
    whileTurns test turn (turns + 1) state = .ok (some state) := by
  rw [whileTurns, h]
  rfl

theorem whileTurns_turn (h : test state = true) (turns : Nat) :
    whileTurns test turn (turns + 1) state = turn state >>= whileTurns test turn turns := by
  rw [whileTurns, h]
  rfl

end Loop
