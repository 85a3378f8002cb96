import PartnerPortal.Lib.RunningSum
import PartnerPortal.Lib.Sql

/-!
# Sums of stored numbers

`SUM` over a column whose integers may have become floating-point numbers.  Integers are added up
exactly, and the sum fails when they leave the range of an `i64`; with a number that is not an integer
among them the sum is not one either.

Results:
- `sum_integers_ok_iff` — over integers that are not negative it succeeds exactly where their sum fits;
- `sum_sumOf` — the sums of some keys are the total of the items with these keys;
- `Agrees.mem_iff` — the items determine the rows of a table that agrees with them.
-/

namespace RunningSum

open MachineInt

/-- What a `SUM` gives.  The value of a floating-point number is not kept. -/
inductive Total where
  | integer (n : Int)
  | real
deriving Repr, DecidableEq

/-- `<= 0`, which a sum of counts past the integers is not. -/
def Total.notPositive : Total → Bool
  | .integer n => n ≤ 0
  | .real => false

def Number.toInt : Number → Option Int
  | .integer n => some n
  | .real _ => none

/-- `SUM` of a column: `NULL` when there is no row. -/
def sum (values : List Number) : Except Sql.IntegerOverflow (Option Total) :=
  match values.mapM Number.toInt with
  | some ns => (Sql.sum (ns.map some)).map (Option.map .integer)
  | none => .ok (some .real)

/-- Over integers it is the sum of integers. -/
theorem sum_integers (ns : List Int) :
    sum (ns.map .integer) = (Sql.sum (ns.map some)).map (Option.map .integer) := by
  have hall : (ns.map Number.integer).mapM Number.toInt = some ns := by
    induction ns with
    | nil => rfl
    | cons n ns ih => simp [ih, Number.toInt]
  rw [sum, hall]

/-- Over integers that are not negative it succeeds exactly where their sum fits, and is that sum. -/
theorem sum_integers_ok_iff {ns : List Int} (hnonneg : ∀ n ∈ ns, 0 ≤ n) (result : Option Total) :
    sum (ns.map .integer) = .ok result ↔
      ns.sum ≤ i64Max ∧ result = if ns = [] then none else some (.integer ns.sum) := by
  have hsome : ∀ v ∈ ns.map some, 0 ≤ v.getD 0 := by
    intro v hv
    obtain ⟨n, hn, rfl⟩ := List.mem_map.1 hv
    exact hnonneg n hn
  have htotal : Sql.total (ns.map some) = ns.sum := by
    rw [Sql.total, List.map_map]
    exact congrArg List.sum (List.map_id ns)
  have hany : (ns.map some).any Option.isSome = true ↔ ns ≠ [] := by cases ns <;> simp
  -- integers are summed as SQL sums them
  have hsql := Sql.sum_ok_iff hsome
  simp only [htotal, hany] at hsql
  rw [sum_integers]
  constructor
  · intro h
    cases hints : Sql.sum (ns.map some) with
    | error e =>
      rw [hints] at h
      cases h
    | ok r =>
      rw [hints] at h
      obtain ⟨hfits, rfl⟩ := (hsql r).1 hints
      refine ⟨hfits, (Except.ok.inj h).symm.trans ?_⟩
      cases ns <;> rfl
  · rintro ⟨hfits, rfl⟩
    rw [(hsql _).2 ⟨hfits, rfl⟩]
    cases ns <;> rfl

/-! ## Sums over a table -/

section Tables

variable {κ ι : Type*} {table : List (Row κ ι)} {items : List (Item κ ι)} {c : ι}

/-- The total of a counter over all items. -/
def totalOf (items : List (Item κ ι)) (c : ι) : Int := (items.map fun item => item.2 c).sum

theorem totalOf_cons (item : Item κ ι) : totalOf (item :: items) c = item.2 c + totalOf items c :=
  List.sum_cons

theorem totalOf_perm {items' : List (Item κ ι)} (h : items.Perm items') :
    totalOf items c = totalOf items' c := (h.map _).sum_eq

theorem totalOf_sublist {items' : List (Item κ ι)} (h : items'.Sublist items)
    (hnonneg : ∀ item ∈ items, 0 ≤ item.2 c) : totalOf items' c ≤ totalOf items c := by
  apply (h.map _).sum_le_sum
  intro amount hamount
  obtain ⟨item, hitem, rfl⟩ := List.mem_map.1 hamount
  exact hnonneg item hitem

variable [DecidableEq κ]

/-- Where the total of all items fits, so does the sum of each key. -/
theorem sumOf_fits (hnonneg : ∀ item ∈ items, 0 ≤ item.2 c) (hfits : totalOf items c ≤ i64Max)
    (k : κ) : FitsI64 (sumOf items k c) := by
  have hle : sumOf items k c ≤ totalOf items c :=
    totalOf_sublist (List.filter_sublist (p := fun item : Item κ ι => item.1 = k)) hnonneg
  have hzero : i64Min ≤ 0 := by decide
  exact ⟨hzero.trans (sumOf_nonneg hnonneg), hle.trans hfits⟩

/-- The sums of some keys are the total of the items with these keys. -/
theorem sum_sumOf {keys : List κ} (hkeys : keys.Nodup) :
    (keys.map fun k => sumOf items k c).sum =
      totalOf (items.filter fun item => item.1 ∈ keys) c := by
  have hgroup : ∀ k ∈ keys, sumOf items k c =
      ((Sql.group Prod.fst (items.filter fun item => item.1 ∈ keys) k).map
        fun item => item.2 c).sum := by
    intro k hk
    rw [sumOf, Sql.group, List.filter_filter]
    congr 2
    apply List.filter_congr
    intro item _
    by_cases h : item.1 = k <;> simp [h, hk]
  have hsum := Sql.sum_groups Prod.fst (items.filter fun item => item.1 ∈ keys)
    (fun item : Item κ ι => item.2 c) hkeys fun item hitem => by simpa using (List.mem_filter.1 hitem).2
  rw [List.map_congr_left hgroup, hsum, totalOf]

/-- The counters of some rows of a table that agrees with its items, as integers. -/
theorem Agrees.counters_rows (h : Agrees table items) {rows : List (Row κ ι)}
    (hrows : rows.Sublist table) :
    (rows.map fun row => row.counters c) =
        (rows.map fun row => sumOf items row.key c).map .integer ∧
      (rows.map fun row => sumOf items row.key c).sum =
        totalOf (items.filter fun item => item.1 ∈ rows.map Row.key) c := by
  refine ⟨?_, ?_⟩
  · rw [List.map_map]
    exact List.map_congr_left fun row hrow => h.counters row (hrows.subset hrow) c
  · rw [← sum_sumOf (h.keys.sublist (hrows.map Row.key)), List.map_map]
    rfl

/-- Two tables that agree with the same items hold the same rows. -/
theorem Agrees.mem_iff {table' : List (Row κ ι)} (h : Agrees table items) (h' : Agrees table' items)
    (row : Row κ ι) : row ∈ table ↔ row ∈ table' := by
  have hone : ∀ {t t' : List (Row κ ι)}, Agrees t items → Agrees t' items → row ∈ t → row ∈ t' := by
    intro t t' ht ht' hrow
    have hkey : row.key ∈ t'.map Row.key :=
      (ht'.exists_iff _).2 ((ht.exists_iff _).1 (List.mem_map_of_mem hrow))
    obtain ⟨row', hrow', hkeys⟩ := List.mem_map.1 hkey
    have hcounters : row'.counters = row.counters := by
      funext c
      rw [ht'.counters row' hrow' c, ht.counters row hrow c, hkeys]
    cases row
    cases row'
    cases hkeys
    cases hcounters
    exact hrow'
  exact ⟨hone h h', hone h' h⟩

end Tables

end RunningSum
