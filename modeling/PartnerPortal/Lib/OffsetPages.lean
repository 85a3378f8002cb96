import Mathlib.Data.List.Basic
import Mathlib.Tactic.Common

/-!
# Pages by offset

A list is read a page at a time, each page by the number of rows before it.  A pager that was told how
many rows there are asks for the pages that start below that number.

Results:
- `flatten_pages` — the pages are the list, where at least as many rows were announced as there are;
- `pages_ne_nil` — no page is empty, where no more rows were announced than there are.
-/

namespace OffsetPages

variable {α : Type*} {rows : List α} {limit total : Nat}

def page (rows : List α) (limit offset : Nat) : List α := (rows.drop offset).take limit

/-- The starts of the pages of some announced number of rows. -/
def offsets (limit total : Nat) : List Nat :=
  (List.range ((total + limit - 1) / limit)).map (· * limit)

theorem mem_offsets (hlimit : 0 < limit) {offset : Nat} :
    offset ∈ offsets limit total ↔ limit ∣ offset ∧ offset < total := by
  have hbelow : ∀ i : Nat, i < (total + limit - 1) / limit ↔ i * limit < total := by
    intro i
    rw [Nat.lt_iff_add_one_le, Nat.le_div_iff_mul_le hlimit, Nat.succ_mul]
    omega
  simp only [offsets, List.mem_map, List.mem_range, hbelow]
  constructor
  · rintro ⟨i, hi, rfl⟩
    exact ⟨Nat.dvd_mul_left limit i, hi⟩
  · rintro ⟨⟨i, rfl⟩, hoffset⟩
    exact ⟨i, by rwa [Nat.mul_comm], Nat.mul_comm i limit⟩

/-- The first pages are the first rows. -/
theorem flatten_take (n : Nat) :
    ((List.range n).map fun i => page rows limit (i * limit)).flatten = rows.take (n * limit) := by
  induction n with
  | zero => rw [Nat.zero_mul, List.take_zero, List.range_zero, List.map_nil, List.flatten_nil]
  | succ n ih =>
    rw [List.range_succ, List.map_append, List.flatten_append, ih, List.map_singleton,
      List.flatten_singleton, page, Nat.succ_mul, ← List.take_add]

/-- The pages are the list. -/
theorem flatten_pages (hlimit : 0 < limit) (htotal : rows.length ≤ total) :
    ((offsets limit total).map (page rows limit)).flatten = rows := by
  rw [offsets, List.map_map]
  refine (flatten_take _).trans (List.take_of_length_le (Nat.le_trans htotal ?_))
  have hdiv := Nat.div_add_mod (total + limit - 1) limit
  have hmod := Nat.mod_lt (total + limit - 1) hlimit
  rw [Nat.mul_comm] at hdiv
  omega

/-- No page that starts below the number of rows is empty. -/
theorem pages_ne_nil (hlimit : 0 < limit) (htotal : total ≤ rows.length) {offset : Nat}
    (h : offset ∈ offsets limit total) : page rows limit offset ≠ [] := by
  have hbelow := ((mem_offsets hlimit).1 h).2
  rw [page, Ne, List.take_eq_nil_iff, List.drop_eq_nil_iff]
  omega

end OffsetPages
