import PartnerPortal.Billing.PricingExact
import PartnerPortal.Billing.Statements

/-!
# The sum filter and the re-check

Which rows a statement charges is decided twice: by the filter of the aggregate, over rows, and by
`lineFor`, over the sums of a group.  The two are one rule.

Results:
- `chargeable_rowGroup_iff` — on one row, the re-check accepts exactly what the filter selects;
- `billable_flag_agrees` — and it refuses no group the aggregate summed, short of an overflow.
-/

namespace PartnerPortal

open MachineInt

/-- A group taken from one row as it is, whatever the filter makes of it. -/
def rowGroup (row : UsageRow) : UsageGroup where
  model := row.model
  prices := (PricingSnapshot.fromColumns row.inputPriceSnapshot row.cachedInputPriceSnapshot
    row.outputPriceSnapshot).toOption
  requestCount := 1
  inputTokens := column row.inputTokens
  cachedTokens := column row.cachedTokens
  outputTokens := column row.outputTokens
  incompleteCount := 0

/-- Charged, or refused for its amount alone. -/
def Chargeable (result : Except IncompleteReason StatementLineDraft) : Prop :=
  (∃ line, result = .ok line) ∨ result = .error .overflow

/-! ## The refusals of a line, in their order -/

/-- A priced line, or its refusal as the reason it is counted under. -/
theorem chargeable_priceLine_iff {input cached output : Nat} {prices : PricingSnapshot}
    {f : LineCost → StatementLineDraft} :
    Chargeable (((priceLine input cached output prices).mapError IncompleteReason.ofPriceError) >>=
      fun cost => .ok (f cost)) ↔ cached ≤ input := by
  by_cases hle : cached ≤ input
  · simp only [hle, iff_true]
    by_cases hparts : ∃ parts, PartsCost input cached output prices parts
    · obtain ⟨parts, hparts⟩ := hparts
      by_cases hfits : FitsI64 (partsTotal parts)
      · obtain ⟨cost, hcost⟩ := priceLine_isOk_iff.2 ⟨hle, parts, hparts, hfits⟩
        rw [hcost]
        exact Or.inl ⟨f cost, rfl⟩
      · rw [priceLine_total_overflow hle hparts hfits]
        exact Or.inr rfl
    · rw [priceLine_component_overflow hle hparts]
      exact Or.inr rfl
  · simp only [hle, iff_false]
    rw [priceLine_exceeds (Nat.not_le.1 hle)]
    rintro (⟨line, hline⟩ | hoverflow)
    · cases hline
    · cases hoverflow

theorem tokenCount_column (value : Option Count) :
    tokenCount (column value) = value.map fun count => count.value.toNat := by
  cases value with
  | none => rfl
  | some count => exact tokenCount_some count.nonneg

theorem column_isNone (value : Option Count) : (column value).isNone = value.isNone := by
  cases value <;> rfl

/-- The re-check on one row: three prices, a cached count where it matters, both token counts,
and a cached count the prompt can hold. -/
theorem chargeable_rowGroup {row : UsageRow} {prices : PricingSnapshot}
    (hprices : PricingSnapshot.fromColumns row.inputPriceSnapshot row.cachedInputPriceSnapshot
      row.outputPriceSnapshot = .ok prices) :
    Chargeable (lineFor (rowGroup row)) ↔
      (prices.cachedInput = prices.input ∨ row.cachedTokens.isSome) ∧
        row.inputTokens.isSome ∧ row.outputTokens.isSome ∧
        tokens row.cachedTokens ≤ tokens row.inputTokens := by
  unfold lineFor rowGroup
  simp only [hprices, Except.toOption, column_isNone, tokenCount_column]
  by_cases hmissing : needsCachedCount prices = true ∧ row.cachedTokens.isNone = true
  · have hdiffer : prices.cachedInput ≠ prices.input := by
      simpa [needsCachedCount] using hmissing.1
    rw [if_pos (by rw [hmissing.1, hmissing.2]; rfl)]
    constructor
    · rintro (⟨line, hline⟩ | hoverflow)
      · cases hline
      · cases hoverflow
    · rintro ⟨hsame | hcached, -⟩
      · exact absurd hsame hdiffer
      · rw [Option.isNone_iff_eq_none.1 hmissing.2] at hcached
        cases hcached
  · have hknown : prices.cachedInput = prices.input ∨ row.cachedTokens.isSome := by
      by_contra hunknown
      obtain ⟨hdiffer, hcached⟩ := not_or.1 hunknown
      exact hmissing ⟨by simpa [needsCachedCount] using hdiffer, by simpa using hcached⟩
    rw [if_neg (by simpa using hmissing)]
    simp only [hknown, true_and]
    cases hinput : row.inputTokens with
    | none =>
      simp only [Option.map_none, billable, Option.isSome_none, Bool.false_eq_true, false_and,
        iff_false]
      rintro (⟨line, hline⟩ | hoverflow)
      · cases hline
      · cases hoverflow
    | some input =>
      cases houtput : row.outputTokens with
      | none =>
        simp only [Option.map_some, Option.map_none, billable, Option.isSome_none,
          Bool.false_eq_true, false_and, and_false, iff_false]
        rintro (⟨line, hline⟩ | hoverflow)
        · cases hline
        · cases hoverflow
      | some output =>
        simp only [Option.map_some, billable, Except.mapError, Result.ok_bind, Result.pure_eq,
          Option.isSome_some, true_and, tokens_some]
        refine Iff.trans chargeable_priceLine_iff ?_
        cases hcached : row.cachedTokens with
        | none =>
          have hinput := input.nonneg
          simp [hinput]
        | some cached =>
          have hinput := input.nonneg
          have hcached := cached.nonneg
          simp only [Option.map_some, Option.getD_some, tokens_some]
          omega

/-- On one row the re-check accepts exactly what the filter selects. -/
theorem chargeable_rowGroup_iff (row : UsageRow) :
    Chargeable (lineFor (rowGroup row)) ↔ row.Billable := by
  cases hprices : PricingSnapshot.fromColumns row.inputPriceSnapshot row.cachedInputPriceSnapshot
      row.outputPriceSnapshot with
  | error e =>
    constructor
    · intro h
      unfold lineFor rowGroup at h
      rw [hprices] at h
      rcases h with ⟨line, hline⟩ | hoverflow
      · cases hline
      · cases hoverflow
    · rintro ⟨-, -, hinput, hcached, houtput, -⟩
      obtain ⟨input, hinput⟩ := Option.isSome_iff_exists.1 hinput
      obtain ⟨cached, hcached⟩ := Option.isSome_iff_exists.1 hcached
      obtain ⟨output, houtput⟩ := Option.isSome_iff_exists.1 houtput
      rw [hinput, hcached, houtput] at hprices
      cases hprices
  | ok prices =>
    rw [chargeable_rowGroup hprices]
    obtain ⟨hinput, hcached, houtput⟩ := PricingSnapshot.fromColumns_ok_iff.1 hprices
    unfold UsageRow.Billable
    rw [hinput, hcached, houtput]
    simp only [Option.isSome_some, Option.some.injEq, true_and]
    tauto

/-! ## Groups -/

theorem tokenSum_le {rows : List UsageRow} (h : ∀ row ∈ rows, row.Billable) :
    tokenSum UsageRow.cachedTokens rows ≤ tokenSum UsageRow.inputTokens rows :=
  List.sum_le_sum fun row hrow => (h row hrow).2.2.2.2.2.2

/-- A group the aggregate summed is charged, or refused for its amount alone. -/
theorem chargeable_groupOf {key : GroupKey} {rows : List UsageRow}
    (hkeyed : ∀ row ∈ rows, GroupKey.ofRow row = key) (hfit : SumsFit (billableRows rows))
    (hne : billableRows rows ≠ []) : Chargeable (lineFor (groupOf key rows)) := by
  obtain ⟨prices, -, -, -, hline⟩ := lineFor_groupOf hkeyed hfit hne
  have hbillable : ∀ row ∈ billableRows rows, row.Billable := fun row hrow => by
    simpa using (List.mem_filter.1 hrow).2
  have hsplit : ∀ result : Except PriceError LineCost,
      (result.map (lineOfRows key (billableRows rows) prices)).mapError
          IncompleteReason.ofPriceError =
        (result.mapError IncompleteReason.ofPriceError) >>= fun cost =>
          .ok (lineOfRows key (billableRows rows) prices cost) := by
    rintro (e | cost) <;> rfl
  rw [hline, hsplit]
  exact chargeable_priceLine_iff.2 (Int.toNat_le_toNat (tokenSum_le hbillable))

/-- The filter of the aggregate and the re-check are one rule: on every row they agree, and of the
groups the aggregate returns none with a summed row is refused for anything but its amount. -/
theorem billable_flag_agrees :
    (∀ row : UsageRow,
      Sql.selects (billableFlag row) = true ↔ Chargeable (lineFor (rowGroup row))) ∧
    ∀ (usage : List UsageRow) (consumerId periodStart periodEnd : String)
      (groups : List UsageGroup),
      usageGroups usage consumerId periodStart periodEnd = .ok groups →
        ∀ group ∈ groups, 0 < group.requestCount → Chargeable (lineFor group) := by
  constructor
  · intro row
    rw [chargeable_rowGroup_iff, selects_billableFlag_iff]
  · intro usage consumerId periodStart periodEnd groups hgroups group hgroup hcount
    obtain ⟨hfits, rfl⟩ := (usageGroups_ok_iff _ _ _ _ _).1 hgroups
    obtain ⟨key, hkey, rfl⟩ := List.mem_map.1 hgroup
    refine chargeable_groupOf (fun row hrow => (Sql.mem_group.1 hrow).2) (hfits key hkey) ?_
    exact List.length_pos_iff.1 hcount

end PartnerPortal
