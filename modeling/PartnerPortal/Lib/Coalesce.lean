import Mathlib.Tactic.Common

/-!
# One in flight, one waiting

Whoever asks while something is in flight waits for it, and takes the place of whoever waited before.

Results:
- `Slot.Sound.sent_sublist` — what is sent was asked for, in that order;
- `Slot.Sound.at_rest` — with nothing in flight the newest that was asked for is the newest that was
  sent.
-/

namespace Coalesce

structure Slot (α : Type*) where
  flying : Option α
  waiting : Option α
  /-- everything that was asked for, and what of it was sent -/
  asked : List α
  sent : List α

namespace Slot

variable {α : Type*}

def empty : Slot α := { flying := none, waiting := none, asked := [], sent := [] }

def ask (s : Slot α) (a : α) : Slot α :=
  match s.flying with
  | some _ => { s with waiting := some a, asked := s.asked ++ [a] }
  | none => { s with flying := some a, asked := s.asked ++ [a], sent := s.sent ++ [a] }

/-- What was in flight is back, and what waited is sent. -/
def land (s : Slot α) : Option (Slot α) :=
  match s.flying, s.waiting with
  | none, _ => none
  | some _, none => some { s with flying := none }
  | some _, some a => some { s with flying := some a, waiting := none, sent := s.sent ++ [a] }

structure Sound (s : Slot α) : Prop where
  waits : s.flying = none → s.waiting = none
  flies : ∀ a, s.flying = some a → s.sent.getLast? = some a
  newest : s.asked.getLast? = (s.waiting <|> s.sent.getLast?)
  order : (s.sent ++ s.waiting.toList).Sublist s.asked

variable {s t : Slot α}

theorem empty_sound : (empty : Slot α).Sound :=
  ⟨fun _ => rfl, nofun, rfl, .slnil⟩

theorem Sound.ask (h : s.Sound) (a : α) : (s.ask a).Sound := by
  unfold Slot.ask
  split
  · rename_i b hflying
    refine ⟨fun hnone => ?_, h.flies, ?_, ?_⟩
    · rw [hflying] at hnone
      cases hnone
    · exact List.getLast?_concat
    · -- whoever waited before is not sent
      exact ((List.sublist_append_left _ _).trans h.order).append (.refl [a])
  · rename_i hflying
    have hwaiting := h.waits hflying
    refine ⟨nofun, fun b hb => ?_, ?_, ?_⟩
    · cases hb
      exact List.getLast?_concat
    · simp [hwaiting]
    · have horder := h.order
      rw [hwaiting, Option.toList_none, List.append_nil] at horder
      simp only [hwaiting, Option.toList_none, List.append_nil]
      exact horder.append (.refl [a])

theorem Sound.land (h : s.Sound) (hland : s.land = some t) : t.Sound := by
  unfold Slot.land at hland
  split at hland
  · cases hland
  · rename_i hwaiting
    cases hland
    refine ⟨fun _ => hwaiting, nofun, h.newest, h.order⟩
  · rename_i a _ hwaiting
    cases hland
    have hnewest := h.newest
    have horder := h.order
    rw [hwaiting] at hnewest horder
    refine ⟨nofun, fun b hb => ?_, ?_, ?_⟩
    · cases hb
      exact List.getLast?_concat
    · simpa using hnewest
    · simpa using horder

theorem Sound.sent_sublist (h : s.Sound) : s.sent.Sublist s.asked :=
  (List.sublist_append_left _ _).trans h.order

theorem Sound.at_rest (h : s.Sound) (hrest : s.flying = none) : s.sent.getLast? = s.asked.getLast? := by
  rw [h.newest, h.waits hrest]
  rfl

end Slot

end Coalesce
