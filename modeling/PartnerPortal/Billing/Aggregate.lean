import PartnerPortal.Billing.Store

/-!
# What the usage aggregate returns

The grouped query over a day's usage, read as sets of rows: which rows it calls billable, which
rows each group holds, and when its sums fail.

Results:
- `selects_billableFlag_iff` — the computed column is true exactly of the billable rows;
- `usageGroup_ok_iff` — a group's aggregate is that of its billable rows, when the sums fit;
- `usageGroups_ok_iff` — the groups are those of the keys present, each once.
-/

namespace PartnerPortal

open MachineInt

/-! ## Billable rows -/

/-- The integer a column contributes to a sum. -/
def tokens (value : Option Count) : Int := (column value).getD 0

theorem tokens_nonneg (value : Option Count) : 0 ≤ tokens value := by
  cases value with
  | none => simp [tokens, column]
  | some c => simpa [tokens, column] using c.nonneg

@[simp] theorem tokens_some (c : Count) : tokens (some c) = c.value := rfl

@[simp] theorem tokens_none : tokens none = 0 := rfl

namespace UsageRow

/-- A row reported in full, priced in full, with a cached count where it matters, and a cached
count the prompt can hold. -/
def Billable (row : UsageRow) : Prop :=
  row.inputTokens.isSome ∧ row.outputTokens.isSome ∧
    row.inputPriceSnapshot.isSome ∧ row.cachedInputPriceSnapshot.isSome ∧
    row.outputPriceSnapshot.isSome ∧
    (row.cachedInputPriceSnapshot = row.inputPriceSnapshot ∨ row.cachedTokens.isSome) ∧
    tokens row.cachedTokens ≤ tokens row.inputTokens

instance (row : UsageRow) : Decidable row.Billable := by
  unfold Billable
  infer_instance

end UsageRow

/-- The computed column is true exactly of the billable rows. -/
theorem selects_billableFlag_iff (row : UsageRow) :
    Sql.selects (billableFlag row) = true ↔ row.Billable := by
  have hcached := tokens_nonneg row.cachedTokens
  rcases hinput : row.inputTokens with _ | input <;>
    rcases houtput : row.outputTokens with _ | output <;>
    rcases hip : row.inputPriceSnapshot with _ | ip <;>
    rcases hcp : row.cachedInputPriceSnapshot with _ | cp <;>
    rcases hop : row.outputPriceSnapshot with _ | op <;>
    simp [billableFlag, UsageRow.Billable, hinput, houtput, hip, hcp, hop, column]
  have hi := input.nonneg
  have ho := output.nonneg
  unfold tokens column at hcached
  simp only [Sql.coalesce, tokens, column, Sql.selects_compare_some, Count.ext_iff, hi, ho,
    hcached, decide_eq_true_eq, true_and]

theorem selects_billableFlag (row : UsageRow) :
    Sql.selects (billableFlag row) = decide row.Billable := by
  rw [Bool.eq_iff_iff, selects_billableFlag_iff, decide_eq_true_eq]

/-- Every row is counted on one side: billable, or not. -/
theorem selects_not_billableFlag (row : UsageRow) :
    Sql.selects (Sql.not (billableFlag row)) = !decide row.Billable := by
  rw [← selects_billableFlag]
  unfold billableFlag
  rw [Sql.selects_not_coalesce, Sql.selects_coalesce]

/-! ## One group -/

/-- The billable rows among some rows. -/
def billableRows (rows : List UsageRow) : List UsageRow :=
  rows.filter fun row => decide row.Billable

/-- The sum of a token column over some rows, without a bound. -/
def tokenSum (value : UsageRow → Option Count) (rows : List UsageRow) : Int :=
  (rows.map fun row => tokens (value row)).sum

theorem tokenSum_nonneg (value : UsageRow → Option Count) (rows : List UsageRow) :
    0 ≤ tokenSum value rows := by
  apply List.sum_nonneg
  intro x hx
  obtain ⟨row, -, rfl⟩ := List.mem_map.1 hx
  exact tokens_nonneg _

theorem total_columns (value : UsageRow → Option Count) (rows : List UsageRow) :
    Sql.total (rows.map fun row => column (value row)) = tokenSum value rows := by
  simp [Sql.total, tokenSum, tokens, Function.comp_def]

/-- What `SUM(column) FILTER (WHERE billable)` returns: `NULL` when no row has a value. -/
def summed (value : UsageRow → Option Count) (rows : List UsageRow) : Option Int :=
  if rows.any fun row => (value row).isSome then some (tokenSum value rows) else none

theorem sumBillable_ok_iff (rows : List UsageRow) (value : UsageRow → Option Count)
    (result : Option Int) : sumBillable rows value = .ok result ↔
      tokenSum value (billableRows rows) ≤ i64Max ∧
        result = summed value (billableRows rows) := by
  have hnonneg : ∀ v ∈ (billableRows rows).map fun row => column (value row), 0 ≤ v.getD 0 := by
    intro v hv
    obtain ⟨row, -, rfl⟩ := List.mem_map.1 hv
    exact tokens_nonneg (value row)
  have hany : ((billableRows rows).map fun row => column (value row)).any Option.isSome =
      (billableRows rows).any fun row => (value row).isSome := by
    simp [List.any_map, Function.comp_def, column]
  have hsum := Sql.sum_ok_iff hnonneg result
  rw [total_columns, hany] at hsum
  have hrows : (rows.filter fun row => Sql.selects (billableFlag row)) = billableRows rows := by
    simp only [selects_billableFlag]
    rfl
  unfold summed
  rw [← hsum, sumBillable, hrows]
  cases Sql.sum ((billableRows rows).map fun row => column (value row)) <;> simp

/-- The sums of a group fit. -/
def SumsFit (rows : List UsageRow) : Prop :=
  tokenSum UsageRow.inputTokens rows ≤ i64Max ∧ tokenSum UsageRow.cachedTokens rows ≤ i64Max ∧
    tokenSum UsageRow.outputTokens rows ≤ i64Max

/-- The aggregate of a group, from the rows it holds. -/
def groupOf (key : GroupKey) (rows : List UsageRow) : UsageGroup where
  model := key.model
  prices := (PricingSnapshot.fromColumns key.input key.cachedInput key.output).toOption
  requestCount := (billableRows rows).length
  inputTokens := summed UsageRow.inputTokens (billableRows rows)
  cachedTokens := summed UsageRow.cachedTokens (billableRows rows)
  outputTokens := summed UsageRow.outputTokens (billableRows rows)
  incompleteCount := rows.length - (billableRows rows).length

theorem countP_not_billable (rows : List UsageRow) :
    (rows.countP fun row => Sql.selects (Sql.not (billableFlag row))) =
      rows.length - (billableRows rows).length := by
  have hlength := List.length_eq_countP_add_countP (fun row => decide row.Billable) (l := rows)
  simp only [selects_not_billableFlag, billableRows, ← List.countP_eq_length_filter]
  simp only [Bool.not_eq_true, Bool.decide_eq_false] at *
  omega

/-- A group's aggregate is that of its billable rows, when the sums fit. -/
theorem usageGroup_ok_iff (key : GroupKey) (rows : List UsageRow) (g : UsageGroup) :
    usageGroup key rows = .ok g ↔ SumsFit (billableRows rows) ∧ g = groupOf key rows := by
  unfold usageGroup SumsFit
  simp only [Result.bind_ok_iff, sumBillable_ok_iff, Result.pure_eq, Except.ok.injEq]
  constructor
  · rintro ⟨_, ⟨hi, rfl⟩, _, ⟨hc, rfl⟩, _, ⟨ho, rfl⟩, rfl⟩
    refine ⟨⟨hi, hc, ho⟩, ?_⟩
    simp only [groupOf, countP_not_billable, selects_billableFlag, billableRows,
      ← List.countP_eq_length_filter]
  · rintro ⟨⟨hi, hc, ho⟩, rfl⟩
    refine ⟨_, ⟨hi, rfl⟩, _, ⟨hc, rfl⟩, _, ⟨ho, rfl⟩, ?_⟩
    simp only [groupOf, countP_not_billable, selects_billableFlag, billableRows,
      ← List.countP_eq_length_filter]

/-! ## All groups -/

theorem groupKeys_nodup (rows : List UsageRow) : (groupKeys rows).Nodup :=
  (List.perm_insertionSort _ _).nodup_iff.2 (List.nodup_dedup _)

theorem mem_groupKeys {rows : List UsageRow} {key : GroupKey} :
    key ∈ groupKeys rows ↔ ∃ row ∈ rows, GroupKey.ofRow row = key := by
  unfold groupKeys
  rw [(List.perm_insertionSort _ _).mem_iff, List.mem_dedup, List.mem_map]

/-- The groups are those of the keys present, each once; they are returned when all their sums
fit. -/
theorem usageGroups_ok_iff (usage : List UsageRow) (consumerId periodStart periodEnd : String)
    (groups : List UsageGroup) :
    usageGroups usage consumerId periodStart periodEnd = .ok groups ↔
      (∀ key ∈ groupKeys (inPeriod usage consumerId periodStart periodEnd),
        SumsFit (billableRows
          (Sql.group GroupKey.ofRow (inPeriod usage consumerId periodStart periodEnd) key))) ∧
      groups = (groupKeys (inPeriod usage consumerId periodStart periodEnd)).map fun key =>
        groupOf key (Sql.group GroupKey.ofRow (inPeriod usage consumerId periodStart periodEnd)
          key) := by
  unfold usageGroups
  simp only [Result.mapM_ok_iff, usageGroup_ok_iff]
  generalize groupKeys (inPeriod usage consumerId periodStart periodEnd) = keys
  induction keys generalizing groups with
  | nil => simp
  | cons key keys ih =>
    rw [List.forall₂_cons_left_iff]
    simp only [ih, List.mem_cons, forall_eq_or_imp, List.map_cons]
    constructor
    · rintro ⟨g, gs, ⟨hfit, rfl⟩, ⟨hfits, rfl⟩, rfl⟩
      exact ⟨⟨hfit, hfits⟩, rfl⟩
    · rintro ⟨⟨hfit, hfits⟩, rfl⟩
      exact ⟨_, _, ⟨hfit, rfl⟩, ⟨hfits, rfl⟩, rfl⟩

end PartnerPortal
