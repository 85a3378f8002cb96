import Mathlib.Data.List.Nodup
import Mathlib.Data.List.Perm.Basic

/-!
# Tables changed row by row

What an update of a table keeps of its rows, and unique indexes over a part of a table.

Results:
- `Kept.update`, `Kept.insert`, `Kept.trans` — what statements keep, run after run;
- `Indexed.update`, `Indexed.insert` — a unique index survives an update that moves no row into it
  and an insert of a new key;
- `Indexed.eq_of_key` — an index holds one row per key;
- `find?_key`, `lookup_of_mem` — a lookup by a unique key finds the row that has it.
-/

namespace Tables

variable {α κ : Type*}

/-! ## Rows over time -/

/-- Every row is still there, changed at most as `R` allows. -/
def Kept (R : α → α → Prop) (rows rows' : List α) : Prop := ∀ x ∈ rows, ∃ y ∈ rows', R x y

section Kept

variable {R : α → α → Prop} {rows rows' rows'' : List α}

theorem Kept.refl (hrefl : ∀ x, R x x) (rows : List α) : Kept R rows rows :=
  fun x hx => ⟨x, hx, hrefl x⟩

theorem Kept.trans (htrans : ∀ x y z, R x y → R y z → R x z) (h : Kept R rows rows')
    (h' : Kept R rows' rows'') : Kept R rows rows'' := by
  intro x hx
  obtain ⟨y, hy, hxy⟩ := h x hx
  obtain ⟨z, hz, hyz⟩ := h' y hy
  exact ⟨z, hz, htrans x y z hxy hyz⟩

/-- `UPDATE` -/
theorem Kept.update {f : α → α} (h : ∀ x ∈ rows, R x (f x)) : Kept R rows (rows.map f) :=
  fun x hx => ⟨f x, List.mem_map_of_mem hx, h x hx⟩

/-- `INSERT` -/
theorem Kept.insert (hrefl : ∀ x, R x x) (rows more : List α) : Kept R rows (rows ++ more) :=
  fun x hx => ⟨x, List.mem_append_left _ hx, hrefl x⟩

end Kept

/-! ## Unique indexes -/

/-- A unique index on `key` over the rows that meet `p`. -/
def Indexed (p : α → Bool) (key : α → κ) (rows : List α) : Prop :=
  ((rows.filter p).map key).Nodup

section Indexed

variable {p : α → Bool} {key : α → κ} {rows : List α}

theorem indexed_all_iff : Indexed (fun _ => true) key rows ↔ (rows.map key).Nodup := by
  simp [Indexed]

theorem Indexed.nil : Indexed p key [] := List.nodup_nil

/-- An update under which no row enters the index or changes its key. -/
theorem Indexed.update {f : α → α} (h : Indexed p key rows)
    (hf : ∀ x ∈ rows, p (f x) = true → p x = true ∧ key (f x) = key x) :
    Indexed p key (rows.map f) := by
  have hsub : (((rows.map f).filter p).map key).Sublist ((rows.filter p).map key) := by
    clear h
    induction rows with
    | nil => exact List.Sublist.refl _
    | cons x rest ih =>
      have hrest := ih fun y hy => hf y (List.mem_cons_of_mem x hy)
      by_cases hfx : p (f x) = true
      · obtain ⟨hx, hkey⟩ := hf x List.mem_cons_self hfx
        simp only [List.map_cons, List.filter_cons, hfx, hx, if_true, hkey]
        exact hrest.cons_cons _
      · simp only [List.map_cons, List.filter_cons, hfx, if_false, Bool.false_eq_true]
        split
        · exact hrest.cons _
        · exact hrest
  exact hsub.nodup h

theorem Indexed.insert {x : α} (h : Indexed p key rows)
    (hnew : p x = true → ∀ y ∈ rows, p y = true → key y ≠ key x) :
    Indexed p key (rows ++ [x]) := by
  unfold Indexed
  rw [List.filter_append, List.map_append]
  by_cases hx : p x = true
  · rw [List.filter_cons_of_pos hx, List.filter_nil, List.map_singleton, List.nodup_append]
    refine ⟨h, List.nodup_singleton _, fun a ha b hb => ?_⟩
    obtain ⟨y, hy, rfl⟩ := List.mem_map.1 ha
    obtain ⟨hyrows, hyp⟩ := List.mem_filter.1 hy
    rw [List.mem_singleton] at hb
    exact hb ▸ hnew hx y hyrows hyp
  · rw [List.filter_cons_of_neg hx, List.filter_nil, List.map_nil, List.append_nil]
    exact h

/-- With every row in the index: a row of a new key. -/
theorem nodup_insert {x : α} (h : (rows.map key).Nodup) (hnew : ∀ y ∈ rows, key y ≠ key x) :
    ((rows ++ [x]).map key).Nodup :=
  indexed_all_iff.1 ((indexed_all_iff.2 h).insert fun _ y hy _ => hnew y hy)

/-- An index holds one row per key. -/
theorem Indexed.eq_of_key (h : Indexed p key rows) {x y : α} (hx : x ∈ rows) (hy : y ∈ rows)
    (hpx : p x = true) (hpy : p y = true) (hkey : key x = key y) : x = y :=
  List.inj_on_of_nodup_map h (List.mem_filter.2 ⟨hx, hpx⟩) (List.mem_filter.2 ⟨hy, hpy⟩) hkey

theorem Indexed.length_le_one [DecidableEq κ] (h : Indexed p key rows) (k : κ) :
    (rows.filter fun x => key x = k && p x).length ≤ 1 := by
  have hcount := List.nodup_iff_count_le_one.1 h k
  rw [List.count, List.countP_map, List.countP_filter] at hcount
  rw [← List.countP_eq_length_filter]
  refine Nat.le_trans (Nat.le_of_eq (List.countP_congr fun x _ => ?_)) hcount
  simp

end Indexed

/-! ## Lookups -/

section Lookups

variable [DecidableEq κ]

/-- `WHERE key = ?`, over a unique key. -/
theorem find?_key {key : α → κ} {rows : List α} (h : (rows.map key).Nodup) {x : α}
    (hx : x ∈ rows) : rows.find? (fun y => key y = key x) = some x := by
  have hsome : (rows.find? fun y => key y = key x).isSome :=
    List.find?_isSome.2 ⟨x, hx, decide_eq_true rfl⟩
  obtain ⟨y, hy⟩ := Option.isSome_iff_exists.1 hsome
  have hkey : key y = key x := by simpa using List.find?_some hy
  rw [hy, List.inj_on_of_nodup_map h (List.mem_of_find?_eq_some hy) hx hkey]

/-- A lookup by a unique key. -/
theorem lookup_of_mem {entries : List (κ × α)} (h : (entries.map Prod.fst).Nodup) {k : κ} {x : α}
    (hmem : (k, x) ∈ entries) : entries.lookup k = some x := by
  have hsome : (entries.lookup k).isSome :=
    List.lookup_isSome_iff.2 ⟨(k, x), hmem, beq_self_eq_true k⟩
  obtain ⟨y, hy⟩ := Option.isSome_iff_exists.1 hsome
  obtain ⟨before, after, hsplit, -⟩ := List.lookup_eq_some_iff.1 hy
  have hy' : (k, y) ∈ entries := hsplit ▸ List.mem_append_right _ List.mem_cons_self
  have hpair : (k, y) = (k, x) := List.inj_on_of_nodup_map h hy' hmem rfl
  rw [hy, (Prod.mk.inj hpair).2]

end Lookups

end Tables
