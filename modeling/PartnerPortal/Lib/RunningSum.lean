import Mathlib.Algebra.BigOperators.Group.List.Basic
import Mathlib.Algebra.Order.BigOperators.Group.List
import Mathlib.Data.List.Nodup
import PartnerPortal.Lib.MachineInt
import PartnerPortal.Lib.Tables

/-!
# Tables of running sums

A table that keeps, for each key, the sums of the items with that key.  Items are added by an upsert
and retracted by an update that deletes the row it empties.  The counters are SQL integers: one that
leaves the range of an `i64` becomes a floating-point number, which is rounded, and is not a sum any
more.

Results:
- `Agrees.add`, `Agrees.retract` — adding and retracting an item keep a table in agreement with the
  items it sums, as long as the sums fit;
- `Agrees.perm` — the order of the items does not matter.
-/

namespace RunningSum

open MachineInt

/-- A stored number.  A floating-point number among counters is a whole one. -/
inductive Number where
  | integer (n : Int)
  | real (value : Int)
deriving Repr, DecidableEq

/-- The floating-point number nearest to an integer, the even one of two: 53 of its bits are kept. -/
def toDouble (n : Int) : Int :=
  let unit : Int := 2 ^ (n.natAbs.log2 - 52)
  let below := n / unit
  if 2 * (n % unit) < unit ∨ 2 * (n % unit) = unit ∧ below % 2 = 0 then below * unit
  else (below + 1) * unit

example : [toDouble 9007199254740993, toDouble 9007199254740995, toDouble (-i64Max)] =
    [9007199254740992, 9007199254740996, i64Min] := by decide

/-- A floating-point number in a column of integers is stored as the integer it is, inside the range
of an `i64`. -/
def Number.ofDouble (value : Int) : Number :=
  if i64Min < value ∧ value < i64Max then .integer value else .real value

/-- `+` with an integer. -/
def Number.add : Number → Int → Number
  | .integer n, d =>
    if FitsI64 (n + d) then .integer (n + d) else .ofDouble (toDouble (toDouble n + toDouble d))
  | .real value, d => .ofDouble (toDouble (value + toDouble d))

/-- `<= 0` -/
def Number.notPositive : Number → Bool
  | .integer n => n ≤ 0
  | .real value => value ≤ 0

theorem Number.add_integer {n d : Int} (h : FitsI64 (n + d)) :
    (Number.integer n).add d = .integer (n + d) :=
  if_pos h

/-- The counters of one key. -/
structure Row (κ ι : Type*) where
  key : κ
  counters : ι → Number

/-- One item: its key, and the amount it adds to each counter. -/
abbrev Item (κ ι : Type*) := κ × (ι → Int)

variable {κ ι : Type*}

def Row.ofItem (item : Item κ ι) : Row κ ι :=
  ⟨item.1, fun c => .integer (item.2 c)⟩

def Row.bump (row : Row κ ι) (amounts : ι → Int) : Row κ ι :=
  { row with counters := fun c => (row.counters c).add (amounts c) }

section Operations

variable [DecidableEq κ]

/-- Add amounts to the row of a key. -/
def bumpKey (k : κ) (amounts : ι → Int) (row : Row κ ι) : Row κ ι :=
  if row.key = k then row.bump amounts else row

/-- `INSERT … ON CONFLICT DO UPDATE` -/
def add (table : List (Row κ ι)) (item : Item κ ι) : List (Row κ ι) :=
  if table.any fun row => row.key = item.1 then table.map (bumpKey item.1 item.2)
  else table ++ [Row.ofItem item]

/-- `UPDATE`, and `DELETE` of the row when the counter of its items is not positive. -/
def retract (size : ι) (table : List (Row κ ι)) (item : Item κ ι) : List (Row κ ι) :=
  (table.map (bumpKey item.1 fun c => -item.2 c)).filter fun row =>
    !(row.key = item.1 && (row.counters size).notPositive)

/-- The sum of one counter over the items of a key. -/
def sumOf (items : List (Item κ ι)) (k : κ) (c : ι) : Int :=
  ((items.filter fun item => item.1 = k).map fun item => item.2 c).sum

/-- A table holds exactly the sums of some items. -/
structure Agrees (table : List (Row κ ι)) (items : List (Item κ ι)) : Prop where
  keys : (table.map Row.key).Nodup
  exists_iff : ∀ k, k ∈ table.map Row.key ↔ k ∈ items.map Prod.fst
  counters : ∀ row ∈ table, ∀ c, row.counters c = .integer (sumOf items row.key c)

end Operations

/-! ## Sums -/

section Sums

variable [DecidableEq κ] {items items' : List (Item κ ι)} {item : Item κ ι} {k : κ} {c : ι}

@[simp] theorem sumOf_nil : sumOf ([] : List (Item κ ι)) k c = 0 := rfl

theorem sumOf_cons : sumOf (item :: items) k c =
    (if item.1 = k then item.2 c else 0) + sumOf items k c := by
  simp only [sumOf, List.filter_cons]
  by_cases h : item.1 = k <;> simp [h]

theorem sumOf_append :
    sumOf (items ++ items') k c = sumOf items k c + sumOf items' k c := by
  simp [sumOf]

theorem sumOf_perm (h : items.Perm items') : sumOf items k c = sumOf items' k c :=
  ((h.filter _).map _).sum_eq

theorem sumOf_nonneg (h : ∀ item ∈ items, 0 ≤ item.2 c) : 0 ≤ sumOf items k c := by
  apply List.sum_nonneg
  intro x hx
  obtain ⟨item, hitem, rfl⟩ := List.mem_map.1 hx
  exact h item (List.mem_filter.1 hitem).1

/-- A counter that every item adds one to is positive exactly where there are items. -/
theorem sumOf_size_pos_iff {size : ι} (h : ∀ item ∈ items, item.2 size = 1) :
    0 < sumOf items k size ↔ k ∈ items.map Prod.fst := by
  induction items with
  | nil => simp
  | cons item items ih =>
    have hrest : ∀ item' ∈ items, item'.2 size = 1 :=
      fun item' hitem' => h item' (List.mem_cons_of_mem item hitem')
    have hnonneg : 0 ≤ sumOf items k size :=
      sumOf_nonneg fun item' hitem' => by rw [hrest item' hitem']; decide
    rw [sumOf_cons, List.map_cons, List.mem_cons, ← ih hrest, h item List.mem_cons_self]
    by_cases hk : item.1 = k
    · simp only [hk, if_true, true_or, iff_true]
      omega
    · simp only [hk, if_false, Int.zero_add, Ne.symm hk, false_or]

end Sums

/-! ## Agreement -/

section Agreement

variable [DecidableEq κ] {table : List (Row κ ι)} {items items' : List (Item κ ι)}
  {item : Item κ ι}

@[simp] theorem key_bumpKey (k : κ) (amounts : ι → Int) (row : Row κ ι) :
    (bumpKey k amounts row).key = row.key := by
  unfold bumpKey
  split <;> rfl

theorem map_key_bumpKey (k : κ) (amounts : ι → Int) (table : List (Row κ ι)) :
    (table.map (bumpKey k amounts)).map Row.key = table.map Row.key := by
  simp only [List.map_map, Function.comp_def, key_bumpKey]

theorem Agrees.nil : Agrees ([] : List (Row κ ι)) [] :=
  ⟨List.nodup_nil, fun _ => Iff.rfl, fun _ h => absurd h List.not_mem_nil⟩

/-- The order of the items does not matter. -/
theorem Agrees.perm (h : Agrees table items) (hperm : items.Perm items') :
    Agrees table items' where
  keys := h.keys
  exists_iff := fun k => (h.exists_iff k).trans (hperm.map Prod.fst).mem_iff
  counters := fun row hrow c => by rw [h.counters row hrow c, sumOf_perm hperm]

/-- What a bumped row holds. -/
theorem counters_bumpKey {k : κ} {amounts : ι → Int} {row : Row κ ι} {c : ι}
    (hrow : row.counters c = .integer (sumOf items row.key c))
    (hfits : FitsI64 (sumOf items k c + amounts c)) :
    (bumpKey k amounts row).counters c =
      .integer (sumOf items row.key c + if k = row.key then amounts c else 0) := by
  unfold bumpKey
  by_cases hk : row.key = k
  · subst hk
    simp only [if_true, Row.bump, hrow]
    exact Number.add_integer hfits
  · simp only [hk, if_false, Ne.symm hk, Int.add_zero, hrow]

/-- Adding an item keeps the agreement. -/
theorem Agrees.add (h : Agrees table items)
    (hfits : ∀ c, FitsI64 (sumOf items item.1 c + item.2 c)) :
    Agrees (add table item) (item :: items) := by
  have hany : (table.any fun row => row.key = item.1) = true ↔ item.1 ∈ table.map Row.key := by
    simp only [List.any_eq_true, decide_eq_true_eq, List.mem_map]
  unfold RunningSum.add
  split
  · rename_i hin
    have hmem := hany.1 hin
    refine ⟨?_, fun k => ?_, fun row' hrow' c => ?_⟩
    · rw [map_key_bumpKey]
      exact h.keys
    · rw [map_key_bumpKey, h.exists_iff, List.map_cons, List.mem_cons]
      refine ⟨Or.inr, fun hk => hk.elim (fun heq => ?_) id⟩
      rw [heq, ← h.exists_iff]
      exact hmem
    · obtain ⟨row, hrow, rfl⟩ := List.mem_map.1 hrow'
      rw [counters_bumpKey (h.counters row hrow c) (hfits c), key_bumpKey, sumOf_cons, Int.add_comm]
  · -- the first item of its key: its row's counters are its own
    rename_i hnot
    have hmem : item.1 ∉ table.map Row.key := fun hin => hnot (hany.2 hin)
    refine ⟨?_, fun k => ?_, fun row hrow c => ?_⟩
    · refine Tables.nodup_insert h.keys fun row hrow hsame => hmem ?_
      exact List.mem_map.2 ⟨row, hrow, hsame⟩
    · rw [List.map_append, List.mem_append, h.exists_iff, List.map_singleton, List.mem_singleton,
        List.map_cons, List.mem_cons, or_comm]
      rfl
    · rw [sumOf_cons]
      rcases List.mem_append.1 hrow with hrow | hrow
      · have hne : item.1 ≠ row.key := fun heq => hmem (heq ▸ List.mem_map_of_mem hrow)
        rw [h.counters row hrow c, if_neg hne, Int.zero_add]
      · rw [List.mem_singleton.1 hrow]
        have hzero : sumOf items item.1 c = 0 := by
          have hnone : items.filter (fun item' => item'.1 = item.1) = [] := by
            rw [List.filter_eq_nil_iff]
            intro item' hitem'
            rw [decide_eq_true_eq]
            exact fun heq => hmem ((h.exists_iff _).2 (heq ▸ List.mem_map_of_mem hitem'))
          rw [sumOf, hnone]
          rfl
        simp [Row.ofItem, hzero]

/-- Adding items one after the other keeps the agreement, when no amount is negative and the sums at
the end fit. -/
theorem Agrees.addAll {new : List (Item κ ι)} (h : Agrees table items)
    (hitems : ∀ item ∈ items, ∀ c, 0 ≤ item.2 c) (hnew : ∀ item ∈ new, ∀ c, 0 ≤ item.2 c)
    (hfits : ∀ k c, FitsI64 (sumOf (new ++ items) k c)) :
    Agrees (new.foldl RunningSum.add table) (new ++ items) := by
  induction new generalizing table items with
  | nil => exact h
  | cons item rest ih =>
    have hperm : (item :: rest ++ items).Perm (rest ++ item :: items) :=
      List.perm_middle.symm
    have hcons : ∀ item' ∈ item :: items, ∀ c, 0 ≤ item'.2 c :=
      List.forall_mem_cons.2 ⟨hnew item List.mem_cons_self, hitems⟩
    have hrest : ∀ item' ∈ rest, ∀ c, 0 ≤ item'.2 c :=
      fun item' hitem' => hnew item' (List.mem_cons_of_mem item hitem')
    have hadd : Agrees (RunningSum.add table item) (item :: items) := by
      refine h.add fun c => ?_
      have hfit := hfits item.1 c
      have hle : 0 ≤ sumOf rest item.1 c := sumOf_nonneg fun item' hitem' => hrest item' hitem' c
      have hfirst : 0 ≤ sumOf items item.1 c :=
        sumOf_nonneg fun item' hitem' => hitems item' hitem' c
      have hamount := hnew item List.mem_cons_self c
      rw [sumOf_perm hperm, sumOf_append, sumOf_cons, if_pos rfl] at hfit
      unfold FitsI64 i64Min at *
      omega
    refine (ih hadd hcons hrest fun k c => ?_).perm hperm.symm
    rw [← sumOf_perm hperm]
    exact hfits k c

/-- Retracting an item that was added keeps the agreement, and deletes a row exactly when its last
item goes. -/
theorem Agrees.retract {size : ι} (h : Agrees table (item :: items))
    (hsize : ∀ item' ∈ items, item'.2 size = 1) (hfits : ∀ c, FitsI64 (sumOf items item.1 c)) :
    Agrees (retract size table item) items := by
  have hcounters : ∀ row ∈ table, ∀ c,
      (bumpKey item.1 (fun c => -item.2 c) row).counters c =
        .integer (sumOf items row.key c) := by
    intro row hrow c
    have hsum : sumOf (item :: items) item.1 c + -item.2 c = sumOf items item.1 c := by
      rw [sumOf_cons, if_pos rfl]
      omega
    rw [counters_bumpKey (h.counters row hrow c) (by rw [hsum]; exact hfits c), sumOf_cons]
    by_cases hk : item.1 = row.key
    · rw [if_pos hk, if_pos hk]
      congr 1
      omega
    · rw [if_neg hk, if_neg hk]
      congr 1
      omega
  -- a row goes where its size falls to nothing, which is where its last item goes
  have hkept : ∀ row ∈ table,
      (!((bumpKey item.1 (fun c => -item.2 c) row).key = item.1 &&
        ((bumpKey item.1 (fun c => -item.2 c) row).counters size).notPositive)) = true ↔
      row.key ∈ items.map Prod.fst := by
    intro row hrow
    rw [hcounters row hrow, key_bumpKey, ← sumOf_size_pos_iff hsize]
    have hin : row.key ∈ (item :: items).map Prod.fst :=
      (h.exists_iff _).1 (List.mem_map_of_mem hrow)
    rw [List.map_cons, List.mem_cons, ← sumOf_size_pos_iff hsize] at hin
    by_cases hk : row.key = item.1
    · simp [hk, Number.notPositive]
    · simp only [hk, decide_false, Bool.false_and, Bool.not_false, true_iff]
      exact hin.resolve_left hk
  have hmap : ∀ k, k ∈ (RunningSum.retract size table item).map Row.key ↔
      k ∈ table.map Row.key ∧ k ∈ items.map Prod.fst := by
    intro k
    simp only [RunningSum.retract, List.mem_map, List.mem_filter]
    constructor
    · rintro ⟨row', ⟨⟨row, hrow, rfl⟩, hkeep⟩, rfl⟩
      exact ⟨⟨row, hrow, (key_bumpKey ..).symm⟩, by
        rw [key_bumpKey]
        exact List.mem_map.1 ((hkept row hrow).1 hkeep)⟩
    · rintro ⟨⟨row, hrow, rfl⟩, hitem⟩
      exact ⟨_, ⟨⟨row, hrow, rfl⟩, (hkept row hrow).2 (List.mem_map.2 hitem)⟩, key_bumpKey ..⟩
  refine ⟨?_, fun k => ?_, fun row' hrow' c => ?_⟩
  · have hsub : ((RunningSum.retract size table item).map Row.key).Sublist
        ((table.map (bumpKey item.1 fun c => -item.2 c)).map Row.key) :=
      List.filter_sublist.map Row.key
    rw [map_key_bumpKey] at hsub
    exact h.keys.sublist hsub
  · rw [hmap, h.exists_iff, List.map_cons, List.mem_cons]
    exact ⟨And.right, fun hk => ⟨Or.inr hk, hk⟩⟩
  · obtain ⟨hin, -⟩ := List.mem_filter.1 hrow'
    obtain ⟨row, hrow, rfl⟩ := List.mem_map.1 hin
    rw [hcounters row hrow c, key_bumpKey]

end Agreement

end RunningSum
