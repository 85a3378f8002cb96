import Mathlib.Data.List.Sort
import Mathlib.Tactic.Common

/-!
# Ordered queries

The first row of an ordered query that meets a condition is the least row that meets it.
-/

namespace OrderBy

variable {α κ : Type*} [LinearOrder κ] {key : α → κ} {r : α → α → Prop} [DecidableRel r]
  {rows : List α} {p : α → Bool} {a : α}

/-- Sorting by a relation that compares keys on the rows sorted. -/
theorem insertionSort_pairwise (hr : ∀ a ∈ rows, ∀ b ∈ rows, r a b ↔ key a ≤ key b) :
    (rows.insertionSort r).Pairwise fun a b => key a ≤ key b := by
  have hsame := List.map_insertionSort r (fun a b => key a ≤ key b) id rows hr
  rw [List.map_id, List.map_id] at hsame
  rw [hsame]
  have : Std.Total fun a b : α => key a ≤ key b := ⟨fun a b => le_total (key a) (key b)⟩
  have : IsTrans α fun a b : α => key a ≤ key b := ⟨fun _ _ _ => le_trans⟩
  exact List.pairwise_insertionSort _ rows

/-- `ORDER BY key`, read up to the first row that meets a condition. -/
theorem find?_some (hr : ∀ a ∈ rows, ∀ b ∈ rows, r a b ↔ key a ≤ key b)
    (h : (rows.insertionSort r).find? p = some a) :
    a ∈ rows ∧ p a = true ∧ ∀ b ∈ rows, p b = true → key a ≤ key b := by
  obtain ⟨hp, before, after, hsplit, hbefore⟩ := List.find?_eq_some_iff_append.1 h
  have hmem : ∀ b, b ∈ rows ↔ b ∈ before ++ a :: after := fun b => by
    rw [← hsplit, List.mem_insertionSort]
  refine ⟨(hmem a).2 (List.mem_append_right _ List.mem_cons_self), hp, fun b hb hpb => ?_⟩
  have hsorted := insertionSort_pairwise hr
  rw [hsplit, List.pairwise_append] at hsorted
  rcases List.mem_append.1 ((hmem b).1 hb) with hb | hb
  · exact absurd hpb (by simpa using hbefore b hb)
  · rcases List.mem_cons.1 hb with rfl | hb
    · exact le_rfl
    · exact List.rel_of_pairwise_cons hsorted.2.1 hb

theorem find?_isSome_iff : ((rows.insertionSort r).find? p).isSome ↔ ∃ a ∈ rows, p a = true := by
  rw [List.find?_isSome]
  simp only [List.mem_insertionSort]

end OrderBy
