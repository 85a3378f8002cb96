import PartnerPortal.Billing.Aggregate
import PartnerPortal.Billing.Generator

/-!
# Building one day's statement

Each group of a day's usage is priced into a line or counted as incomplete.  The second half shows
what the draft says about the rows it was built from.

Results:
- `lineFor_groupOf` — a line carries its group's sums at its group's prices, and is
  refused only when its amount does not fit;
- `statementForDay_ok` — the draft is the bill of the rows of its period;
- `statementForDay_conserves` — every row of the period is in one line or counted once.
-/

namespace PartnerPortal

open MachineInt

/-- Why a group of usage rows could not be charged. -/
inductive IncompleteReason where
  | usageMissing
  | cachedCountMissing
  | noPriceSnapshot
  | cachedExceedsInput
  | overflow
deriving Repr, DecidableEq

def IncompleteReason.ofPriceError : PriceError → IncompleteReason
  | .noPriceSnapshot _ => .noPriceSnapshot
  | .incompleteUsage => .usageMissing
  | .cachedExceedsInput _ _ => .cachedExceedsInput
  | .overflow _ => .overflow
  | .notANumber _ => .noPriceSnapshot
  | .outOfRange _ => .noPriceSnapshot

/-- A summed token column as a count. -/
def tokenCount (value : Option Int) : Option Nat :=
  value.bind fun v => if 0 ≤ v then some v.toNat else none

/-- Price one group into a line. -/
def lineFor (group : UsageGroup) : Except IncompleteReason StatementLineDraft :=
  match group.prices with
  | none => .error .noPriceSnapshot
  | some prices =>
    if needsCachedCount prices && group.cachedTokens.isNone then .error .cachedCountMissing
    else do
      let (input, output, cached) ← (billable (tokenCount group.inputTokens)
        (tokenCount group.outputTokens) (tokenCount group.cachedTokens)).mapError
          IncompleteReason.ofPriceError
      let cost ← (priceLine input cached output prices).mapError IncompleteReason.ofPriceError
      return {
        model := group.model
        prices := prices
        requestCount := group.requestCount
        inputTokens := asI64 input
        cachedInputTokens := asI64 cached
        outputTokens := asI64 output
        cost := cost }

/-- What the loop over the groups has built so far. -/
structure Bill where
  lines : List StatementLineDraft
  incompleteUsageCount : Nat

/-- One turn of the loop: the rows the read declined to sum are counted, and the rest are priced
into a line or counted too. -/
def billGroup (bill : Bill) (group : UsageGroup) : Bill :=
  let counted := bill.incompleteUsageCount + group.incompleteCount
  if group.requestCount = 0 then { bill with incompleteUsageCount := counted }
  else
    match lineFor group with
    | .ok line => { lines := bill.lines ++ [line], incompleteUsageCount := counted }
    | .error _ => { bill with incompleteUsageCount := counted + group.requestCount }

/-- The whole loop. -/
def billGroups (groups : List UsageGroup) : Bill :=
  groups.foldl billGroup { lines := [], incompleteUsageCount := 0 }

/-- Build one day's statement for one partner. -/
def statementForDay (gen : Generator) (usage : List UsageRow) (partner : Partner)
    (day : BillingDay) (cutoff : OffsetDateTime) :
    Except Panic (Except BillingError StatementDraft) := do
  let period ← BillingPeriod.forDay day gen.timezone
  let (start, finish) ← period.toBounds
  match usageGroups usage partner.consumerId start finish with
  | .error e => return .error (.database e)
  | .ok groups =>
    let bill := billGroups groups
    let billingCutoffAt ← formatTs cutoff
    let dueAt ← partner.dueAtFor period.finish
    return .ok {
      consumerId := partner.consumerId
      billingDate := day
      billingMode := partner.billingMode
      periodStart := start
      periodEnd := finish
      billingCutoffAt := billingCutoffAt
      dueAt := dueAt
      incompleteUsageCount := bill.incompleteUsageCount
      lines := bill.lines }

/-! ## The loop -/

/-- The line a group adds. -/
def groupLine (group : UsageGroup) : Option StatementLineDraft :=
  if group.requestCount = 0 then none else (lineFor group).toOption

/-- The rows a group adds to the incomplete count. -/
def groupIncomplete (group : UsageGroup) : Nat :=
  group.incompleteCount + if (groupLine group).isSome then 0 else group.requestCount

theorem billGroup_eq (bill : Bill) (group : UsageGroup) :
    billGroup bill group =
      { lines := bill.lines ++ (groupLine group).toList
        incompleteUsageCount := bill.incompleteUsageCount + groupIncomplete group } := by
  unfold billGroup groupIncomplete groupLine
  by_cases h : group.requestCount = 0
  · simp [h]
  · cases hline : lineFor group with
    | ok line => simp [h, Except.toOption]
    | error e => simp [h, Except.toOption, Nat.add_assoc]

theorem foldl_billGroup (groups : List UsageGroup) (bill : Bill) :
    groups.foldl billGroup bill =
      { lines := bill.lines ++ groups.filterMap groupLine
        incompleteUsageCount :=
          bill.incompleteUsageCount + (groups.map groupIncomplete).sum } := by
  induction groups generalizing bill with
  | nil => simp
  | cons group groups ih =>
    rw [List.foldl_cons, ih, billGroup_eq]
    cases h : groupLine group <;> simp [h, Nat.add_assoc]

/-- The bill has the lines of the groups that have one, and counts every other row. -/
theorem billGroups_eq (groups : List UsageGroup) :
    billGroups groups =
      { lines := groups.filterMap groupLine
        incompleteUsageCount := (groups.map groupIncomplete).sum } := by
  simp [billGroups, foldl_billGroup]

/-! ## One line -/

/-- The rows of a group that are billed together. -/
structure LineRows (key : GroupKey) (rows : List UsageRow) : Prop where
  keyed : ∀ row ∈ rows, GroupKey.ofRow row = key
  billable : ∀ row ∈ rows, row.Billable
  fit : SumsFit rows
  nonempty : rows ≠ []

namespace LineRows

variable {key : GroupKey} {rows : List UsageRow}

theorem priced (h : LineRows key rows) :
    ∃ prices : PricingSnapshot, key.input = some prices.input ∧
      key.cachedInput = some prices.cachedInput ∧ key.output = some prices.output := by
  obtain ⟨row, hrow⟩ := List.exists_mem_of_ne_nil rows h.nonempty
  obtain ⟨-, -, hi, hc, ho, -⟩ := h.billable row hrow
  obtain ⟨i, hi⟩ := Option.isSome_iff_exists.1 hi
  obtain ⟨c, hc⟩ := Option.isSome_iff_exists.1 hc
  obtain ⟨o, ho⟩ := Option.isSome_iff_exists.1 ho
  rw [← h.keyed row hrow]
  exact ⟨⟨i, c, o⟩, hi, hc, ho⟩

theorem summed_input (h : LineRows key rows) :
    summed UsageRow.inputTokens rows = some (tokenSum UsageRow.inputTokens rows) := by
  obtain ⟨row, hrow⟩ := List.exists_mem_of_ne_nil rows h.nonempty
  exact if_pos (List.any_eq_true.2 ⟨row, hrow, (h.billable row hrow).1⟩)

theorem summed_output (h : LineRows key rows) :
    summed UsageRow.outputTokens rows = some (tokenSum UsageRow.outputTokens rows) := by
  obtain ⟨row, hrow⟩ := List.exists_mem_of_ne_nil rows h.nonempty
  exact if_pos (List.any_eq_true.2 ⟨row, hrow, (h.billable row hrow).2.1⟩)

/-- A cached sum is missing only where every cached count is, and it then stands for zero. -/
theorem summed_cached_getD (rows : List UsageRow) :
    (summed UsageRow.cachedTokens rows).getD 0 = tokenSum UsageRow.cachedTokens rows := by
  unfold summed
  split
  · rfl
  · rename_i hany
    have hnone : ∀ row ∈ rows, row.cachedTokens = none := by
      intro row hrow
      by_contra h
      exact hany (List.any_eq_true.2 ⟨row, hrow, Option.isSome_iff_ne_none.2 h⟩)
    have hzero : (rows.map fun row => tokens row.cachedTokens) = rows.map fun _ => 0 :=
      List.map_congr_left fun row hrow => by rw [hnone row hrow, tokens_none]
    rw [Option.getD_none, tokenSum, hzero]
    simp

theorem cached_known (h : LineRows key rows) {prices : PricingSnapshot}
    (hi : key.input = some prices.input) (hc : key.cachedInput = some prices.cachedInput)
    (hneeds : needsCachedCount prices = true) :
    (summed UsageRow.cachedTokens rows).isSome := by
  obtain ⟨row, hrow⟩ := List.exists_mem_of_ne_nil rows h.nonempty
  obtain ⟨-, -, -, -, -, hcached, -⟩ := h.billable row hrow
  have hkey := h.keyed row hrow
  have hdiffer : row.cachedInputPriceSnapshot ≠ row.inputPriceSnapshot := by
    rw [← hkey] at hi hc
    change row.inputPriceSnapshot = _ at hi
    change row.cachedInputPriceSnapshot = _ at hc
    rw [hi, hc]
    simpa [needsCachedCount] using hneeds
  unfold summed
  rw [if_pos (List.any_eq_true.2 ⟨row, hrow, hcached.resolve_left hdiffer⟩)]
  rfl

end LineRows

theorem tokenCount_some {v : Int} (h : 0 ≤ v) : tokenCount (some v) = some v.toNat := by
  simp [tokenCount, h]

theorem tokenCount_getD {value : Option Int} (h : 0 ≤ value.getD 0) :
    (tokenCount value).getD 0 = (value.getD 0).toNat := by
  cases value with
  | none => rfl
  | some v => simp [tokenCount_some (show 0 ≤ v from h)]

/-- The line of billed rows at some prices and a cost. -/
def lineOfRows (key : GroupKey) (rows : List UsageRow) (prices : PricingSnapshot)
    (cost : LineCost) : StatementLineDraft where
  model := key.model
  prices := prices
  requestCount := rows.length
  inputTokens := tokenSum UsageRow.inputTokens rows
  cachedInputTokens := tokenSum UsageRow.cachedTokens rows
  outputTokens := tokenSum UsageRow.outputTokens rows
  cost := cost

/-- What pricing billed rows comes to. -/
def priceRows (rows : List UsageRow) (prices : PricingSnapshot) : Except PriceError LineCost :=
  priceLine (tokenSum UsageRow.inputTokens rows).toNat
    (tokenSum UsageRow.cachedTokens rows).toNat (tokenSum UsageRow.outputTokens rows).toNat prices

theorem sum_asI64 {value : UsageRow → Option Count} {rows : List UsageRow}
    (h : tokenSum value rows ≤ i64Max) :
    asI64 ((tokenSum value rows).toNat : Int) = tokenSum value rows := by
  have hnonneg := tokenSum_nonneg value rows
  rw [Int.toNat_of_nonneg hnonneg]
  exact asI64_of_fits ⟨by unfold i64Min; omega, h⟩

/-- The line of a group is that of its billable rows, refused only when its amount does not fit. -/
theorem lineFor_groupOf {key : GroupKey} {rows : List UsageRow}
    (hkeyed : ∀ row ∈ rows, GroupKey.ofRow row = key) (hfit : SumsFit (billableRows rows))
    (hne : billableRows rows ≠ []) :
    ∃ prices : PricingSnapshot, key.input = some prices.input ∧
      key.cachedInput = some prices.cachedInput ∧ key.output = some prices.output ∧
      lineFor (groupOf key rows) =
        ((priceRows (billableRows rows) prices).map
          (lineOfRows key (billableRows rows) prices)).mapError IncompleteReason.ofPriceError := by
  have hrows : LineRows key (billableRows rows) := {
    keyed := fun row hrow => hkeyed row (List.mem_filter.1 hrow).1
    billable := fun row hrow => by simpa using (List.mem_filter.1 hrow).2
    fit := hfit
    nonempty := hne }
  obtain ⟨prices, hi, hc, ho⟩ := hrows.priced
  refine ⟨prices, hi, hc, ho, ?_⟩
  have hprices : PricingSnapshot.fromColumns key.input key.cachedInput key.output = .ok prices :=
    PricingSnapshot.fromColumns_ok_iff.2 ⟨hi, hc, ho⟩
  have hcachedKnown : (needsCachedCount prices &&
      (summed UsageRow.cachedTokens (billableRows rows)).isNone) = false := by
    cases hneeds : needsCachedCount prices with
    | false => rfl
    | true =>
      obtain ⟨v, hv⟩ := Option.isSome_iff_exists.1 (hrows.cached_known hi hc hneeds)
      rw [hv]
      rfl
  have hcachedCount : (tokenCount (summed UsageRow.cachedTokens (billableRows rows))).getD 0 =
      (tokenSum UsageRow.cachedTokens (billableRows rows)).toNat := by
    rw [tokenCount_getD, LineRows.summed_cached_getD]
    rw [LineRows.summed_cached_getD]
    exact tokenSum_nonneg _ _
  have hbillable : billable
      (tokenCount (summed UsageRow.inputTokens (billableRows rows)))
      (tokenCount (summed UsageRow.outputTokens (billableRows rows)))
      (tokenCount (summed UsageRow.cachedTokens (billableRows rows))) =
      .ok ((tokenSum UsageRow.inputTokens (billableRows rows)).toNat,
        (tokenSum UsageRow.outputTokens (billableRows rows)).toNat,
        (tokenSum UsageRow.cachedTokens (billableRows rows)).toNat) := by
    rw [hrows.summed_input, hrows.summed_output, tokenCount_some (tokenSum_nonneg _ _),
      tokenCount_some (tokenSum_nonneg _ _), billable, hcachedCount]
  simp only [lineFor, groupOf, hprices, Except.toOption, hcachedKnown, Bool.false_eq_true,
    if_false, hbillable, Except.mapError, Result.ok_bind, priceRows]
  cases priceLine (tokenSum UsageRow.inputTokens (billableRows rows)).toNat
      (tokenSum UsageRow.cachedTokens (billableRows rows)).toNat
      (tokenSum UsageRow.outputTokens (billableRows rows)).toNat prices with
  | error e => rfl
  | ok cost =>
    obtain ⟨hfitInput, hfitCached, hfitOutput⟩ := hfit
    simp only [Result.ok_bind, Result.pure_eq, Except.map, lineOfRows, sum_asI64 hfitInput,
      sum_asI64 hfitCached, sum_asI64 hfitOutput]

/-! ## Conservation -/

/-- What a line shares with the rows on it. -/
def StatementLineDraft.key (line : StatementLineDraft) : GroupKey where
  model := line.model
  input := some line.prices.input
  cachedInput := some line.prices.cachedInput
  output := some line.prices.output

/-- The rows on a line: the billable ones of its model and prices. -/
def lineRows (rows : List UsageRow) (key : GroupKey) : List UsageRow :=
  billableRows (Sql.group GroupKey.ofRow rows key)

theorem mem_lineRows {rows : List UsageRow} {key : GroupKey} {row : UsageRow} :
    row ∈ lineRows rows key ↔ row ∈ rows ∧ GroupKey.ofRow row = key ∧ row.Billable := by
  simp [lineRows, billableRows, Sql.mem_group, and_assoc]

/-- A row is on a line when it is billable and its model and prices have a line. -/
def OnLine (lines : List StatementLineDraft) (row : UsageRow) : Prop :=
  row.Billable ∧ ∃ line ∈ lines, line.key = GroupKey.ofRow row

instance (lines : List StatementLineDraft) (row : UsageRow) : Decidable (OnLine lines row) := by
  unfold OnLine
  infer_instance

/-- What lines and an incomplete count say about the rows they were made from. -/
structure BillOf (rows : List UsageRow) (lines : List StatementLineDraft) (incomplete : Nat) :
    Prop where
  /-- the rows on lines and the incomplete ones are all the rows -/
  counted : (lines.map StatementLineDraft.requestCount).sum + incomplete = rows.length
  /-- the incomplete ones are the rows on no line -/
  incomplete_eq : incomplete = rows.countP fun row => !decide (OnLine lines row)
  /-- one line for a model and three prices -/
  distinct : (lines.map StatementLineDraft.key).Nodup
  /-- a line counts, sums and prices exactly its rows -/
  exact : ∀ line ∈ lines, lineRows rows line.key ≠ [] ∧
    priceRows (lineRows rows line.key) line.prices = .ok line.cost ∧
    line = lineOfRows line.key (lineRows rows line.key) line.prices line.cost
  /-- a billable row is on no line only where its group's amount does not fit -/
  refused : ∀ row ∈ rows, row.Billable → ¬ OnLine lines row →
    ∃ prices context, (GroupKey.ofRow row).input = some prices.input ∧
      (GroupKey.ofRow row).cachedInput = some prices.cachedInput ∧
      (GroupKey.ofRow row).output = some prices.output ∧
      priceRows (lineRows rows (GroupKey.ofRow row)) prices = .error (.overflow context)

/-- Rows billed together are refused only because an amount does not fit. -/
theorem priceLine_error {input cached output : Nat} {prices : PricingSnapshot} {e : PriceError}
    (hle : cached ≤ input) (h : priceLine input cached output prices = .error e) :
    ∃ context, e = .overflow context := by
  have hcomponent : ∀ {tokens : Nat} {price : PricePerMillion} {e : PriceError},
      componentCost tokens price = .error e → ∃ context, e = .overflow context := by
    intro tokens price e h
    unfold componentCost at h
    split at h <;> cases h
    exact ⟨_, rfl⟩
  rcases Result.bind_error_iff.1 h with h | ⟨⟨inputCost, cachedCost, outputCost⟩, -, h⟩
  · unfold components at h
    rw [if_neg (Nat.not_lt.2 hle)] at h
    rcases Result.bind_error_iff.1 h with h | ⟨_, -, h⟩
    · exact hcomponent h
    rcases Result.bind_error_iff.1 h with h | ⟨_, -, h⟩
    · exact hcomponent h
    rcases Result.bind_error_iff.1 h with h | ⟨_, -, h⟩
    · exact hcomponent h
    cases h
  · simp only [LineCost.ofParts] at h
    split at h <;> cases h
    exact ⟨_, rfl⟩

/-- The line of a group, where it has one. -/
theorem groupLine_groupOf {rows : List UsageRow} {key : GroupKey}
    (hfit : SumsFit (lineRows rows key)) :
    (lineRows rows key = [] ∧
      groupLine (groupOf key (Sql.group GroupKey.ofRow rows key)) = none) ∨
    (lineRows rows key ≠ [] ∧ ∃ prices : PricingSnapshot,
      key.input = some prices.input ∧ key.cachedInput = some prices.cachedInput ∧
      key.output = some prices.output ∧
      ((∃ cost, priceRows (lineRows rows key) prices = .ok cost ∧
        groupLine (groupOf key (Sql.group GroupKey.ofRow rows key)) =
          some (lineOfRows key (lineRows rows key) prices cost)) ∨
      (∃ context, priceRows (lineRows rows key) prices = .error (.overflow context) ∧
        groupLine (groupOf key (Sql.group GroupKey.ofRow rows key)) = none))) := by
  have hkeyed : ∀ row ∈ Sql.group GroupKey.ofRow rows key, GroupKey.ofRow row = key :=
    fun row hrow => (Sql.mem_group.1 hrow).2
  by_cases hne : lineRows rows key = []
  · have hempty : billableRows (Sql.group GroupKey.ofRow rows key) = [] := hne
    exact Or.inl ⟨hne, by simp [groupLine, groupOf, hempty]⟩
  · right
    refine ⟨hne, ?_⟩
    obtain ⟨prices, hi, hc, ho, hline⟩ := lineFor_groupOf hkeyed hfit hne
    have hcount : (groupOf key (Sql.group GroupKey.ofRow rows key)).requestCount ≠ 0 :=
      fun hzero => hne (List.length_eq_zero_iff.1 hzero)
    refine ⟨prices, hi, hc, ho, ?_⟩
    unfold groupLine
    rw [if_neg hcount, hline]
    change (∃ cost, priceRows (lineRows rows key) prices = .ok cost ∧ (Except.mapError _
        (Except.map _ (priceRows (lineRows rows key) prices))).toOption = _) ∨
      ∃ context, priceRows (lineRows rows key) prices = .error (.overflow context) ∧
        (Except.mapError _ (Except.map _ (priceRows (lineRows rows key) prices))).toOption = none
    cases hprice : priceRows (lineRows rows key) prices with
    | ok cost => exact Or.inl ⟨cost, rfl, rfl⟩
    | error e =>
      have hle : tokenSum UsageRow.cachedTokens (lineRows rows key) ≤
          tokenSum UsageRow.inputTokens (lineRows rows key) := by
        apply List.sum_le_sum
        intro row hrow
        exact (mem_lineRows.1 hrow).2.2.2.2.2.2.2.2
      obtain ⟨context, rfl⟩ := priceLine_error (Int.toNat_le_toNat hle) hprice
      exact Or.inr ⟨context, rfl, rfl⟩

section Bill

variable {rows : List UsageRow}

/-- The lines of the groups of some rows. -/
def billLines (rows : List UsageRow) : List StatementLineDraft :=
  (groupKeys rows).filterMap fun key => groupLine (groupOf key (Sql.group GroupKey.ofRow rows key))

/-- A line belongs to the group whose key it has. -/
theorem groupLine_some {key : GroupKey} (hfit : SumsFit (lineRows rows key))
    {line : StatementLineDraft}
    (h : groupLine (groupOf key (Sql.group GroupKey.ofRow rows key)) = some line) :
    line.key = key ∧ lineRows rows key ≠ [] ∧
      priceRows (lineRows rows key) line.prices = .ok line.cost ∧
      line = lineOfRows key (lineRows rows key) line.prices line.cost := by
  rcases groupLine_groupOf hfit with
    ⟨-, hnone⟩ | ⟨hne, prices, hi, hc, ho, ⟨cost, hprice, hline⟩ | ⟨-, -, hnone⟩⟩
  · rw [hnone] at h
    cases h
  · rw [hline] at h
    cases h
    refine ⟨?_, hne, hprice, rfl⟩
    cases key
    simp only [StatementLineDraft.key, lineOfRows, GroupKey.mk.injEq, true_and]
    exact ⟨hi.symm, hc.symm, ho.symm⟩
  · rw [hnone] at h
    cases h

theorem mem_billLines (hfits : ∀ key ∈ groupKeys rows, SumsFit (lineRows rows key))
    {line : StatementLineDraft} : line ∈ billLines rows ↔ line.key ∈ groupKeys rows ∧
      groupLine (groupOf line.key (Sql.group GroupKey.ofRow rows line.key)) = some line := by
  unfold billLines
  rw [List.mem_filterMap]
  constructor
  · rintro ⟨key, hkey, hline⟩
    obtain ⟨rfl, -⟩ := groupLine_some (hfits key hkey) hline
    exact ⟨hkey, hline⟩
  · rintro ⟨hkey, hline⟩
    exact ⟨line.key, hkey, hline⟩

/-- The keys of the lines are the group keys that have one, in order. -/
theorem map_key_billLines (hfits : ∀ key ∈ groupKeys rows, SumsFit (lineRows rows key)) :
    (billLines rows).map StatementLineDraft.key = (groupKeys rows).filter fun key =>
      (groupLine (groupOf key (Sql.group GroupKey.ofRow rows key))).isSome := by
  unfold billLines
  generalize groupKeys rows = keys at hfits
  induction keys with
  | nil => rfl
  | cons key keys ih =>
    have hrest := ih fun k hk => hfits k (List.mem_cons_of_mem key hk)
    rw [List.filterMap_cons, List.filter_cons]
    cases hline : groupLine (groupOf key (Sql.group GroupKey.ofRow rows key)) with
    | none => simpa using hrest
    | some line =>
      have hkey := (groupLine_some (hfits key List.mem_cons_self) hline).1
      simp only [Option.isSome_some, if_true, List.map_cons, hkey, hrest]

/-- A row of a group is on a line exactly when it is billable and the group has a line. -/
theorem onLine_iff (hfits : ∀ key ∈ groupKeys rows, SumsFit (lineRows rows key)) {row : UsageRow}
    (hrow : row ∈ rows) : OnLine (billLines rows) row ↔ row.Billable ∧
      (groupLine (groupOf (GroupKey.ofRow row)
        (Sql.group GroupKey.ofRow rows (GroupKey.ofRow row)))).isSome := by
  have hkey : GroupKey.ofRow row ∈ groupKeys rows := mem_groupKeys.2 ⟨row, hrow, rfl⟩
  unfold OnLine
  constructor
  · rintro ⟨hbillable, line, hline, hlineKey⟩
    refine ⟨hbillable, ?_⟩
    rw [← hlineKey, ((mem_billLines hfits).1 hline).2]
    rfl
  · rintro ⟨hbillable, hsome⟩
    obtain ⟨line, hline⟩ := Option.isSome_iff_exists.1 hsome
    obtain ⟨hlineKey, -⟩ := groupLine_some (hfits _ hkey) hline
    exact ⟨hbillable, line, (mem_billLines hfits).2 ⟨hlineKey ▸ hkey, hlineKey.symm ▸ hline⟩,
      hlineKey⟩

/-- The rows of a group on its line and the ones it counts as incomplete. -/
theorem group_split (hfits : ∀ key ∈ groupKeys rows, SumsFit (lineRows rows key))
    {key : GroupKey} (hkey : key ∈ groupKeys rows) :
    ((groupLine (groupOf key (Sql.group GroupKey.ofRow rows key))).map
        StatementLineDraft.requestCount).getD 0 =
      (Sql.group GroupKey.ofRow rows key).countP (fun row =>
        decide (OnLine (billLines rows) row)) ∧
    groupIncomplete (groupOf key (Sql.group GroupKey.ofRow rows key)) =
      (Sql.group GroupKey.ofRow rows key).countP fun row =>
        !decide (OnLine (billLines rows) row) := by
  have honLine : ∀ row ∈ Sql.group GroupKey.ofRow rows key, OnLine (billLines rows) row ↔
      row.Billable ∧ (groupLine (groupOf key (Sql.group GroupKey.ofRow rows key))).isSome := by
    intro row hrow
    obtain ⟨hmem, hrowKey⟩ := Sql.mem_group.1 hrow
    rw [onLine_iff hfits hmem, hrowKey]
  have hlength := List.length_eq_countP_add_countP (l := Sql.group GroupKey.ofRow rows key)
    fun row => decide (OnLine (billLines rows) row)
  have hbillable : (Sql.group GroupKey.ofRow rows key).countP (fun row =>
      decide row.Billable) = (lineRows rows key).length := List.countP_eq_length_filter
  have hle : (lineRows rows key).length ≤ (Sql.group GroupKey.ofRow rows key).length :=
    List.length_filter_le _ _
  simp only [Bool.not_eq_true, Bool.decide_eq_false] at hlength
  cases hline : groupLine (groupOf key (Sql.group GroupKey.ofRow rows key)) with
  | none =>
    have hcount : (Sql.group GroupKey.ofRow rows key).countP (fun row =>
        decide (OnLine (billLines rows) row)) = 0 := by
      rw [List.countP_eq_zero]
      intro row hrow
      simp [honLine row hrow, hline]
    refine ⟨by rw [hcount]; rfl, ?_⟩
    rw [hcount] at hlength
    simp only [groupIncomplete, hline, Option.isSome_none, Bool.false_eq_true, if_false]
    change _ - (lineRows rows key).length + (lineRows rows key).length = _
    omega
  | some line =>
    have hcount : (Sql.group GroupKey.ofRow rows key).countP (fun row =>
        decide (OnLine (billLines rows) row)) = (lineRows rows key).length := by
      rw [← hbillable]
      apply List.countP_congr
      intro row hrow
      simp [honLine row hrow, hline]
    have hrequests : line.requestCount = (lineRows rows key).length := by
      rw [(groupLine_some (hfits key hkey) hline).2.2.2]
      rfl
    refine ⟨by rw [hcount, ← hrequests]; rfl, ?_⟩
    rw [hcount] at hlength
    simp only [groupIncomplete, hline, Option.isSome_some, if_true, Nat.add_zero]
    change _ - (lineRows rows key).length = _
    omega

theorem sum_filterMap {κ β M : Type*} [AddCommMonoid M] (keys : List κ) (f : κ → Option β)
    (g : β → M) : ((keys.filterMap f).map g).sum =
      (keys.map fun key => ((f key).map g).getD 0).sum := by
  induction keys with
  | nil => rfl
  | cons key keys ih =>
    rw [List.filterMap_cons, List.map_cons, List.sum_cons, ← ih]
    cases f key <;> simp

/-- The groups of some rows are billed into lines and an incomplete count that hold every row
once. -/
theorem billOf_groups (hfits : ∀ key ∈ groupKeys rows, SumsFit (lineRows rows key)) :
    BillOf rows (billLines rows) ((groupKeys rows).map fun key =>
      groupIncomplete (groupOf key (Sql.group GroupKey.ofRow rows key))).sum := by
  have hnodup := groupKeys_nodup rows
  have hkeys : ∀ row ∈ rows, GroupKey.ofRow row ∈ groupKeys rows :=
    fun row hrow => mem_groupKeys.2 ⟨row, hrow, rfl⟩
  have hincomplete : ((groupKeys rows).map fun key =>
      groupIncomplete (groupOf key (Sql.group GroupKey.ofRow rows key))).sum =
      rows.countP fun row => !decide (OnLine (billLines rows) row) := by
    rw [← Sql.countP_groups GroupKey.ofRow rows _ hnodup hkeys]
    exact congrArg List.sum (List.map_congr_left fun key hkey => (group_split hfits hkey).2)
  have hcounted : ((billLines rows).map StatementLineDraft.requestCount).sum =
      rows.countP fun row => decide (OnLine (billLines rows) row) := by
    rw [← Sql.countP_groups GroupKey.ofRow rows _ hnodup hkeys]
    rw [billLines, sum_filterMap]
    exact congrArg List.sum (List.map_congr_left fun key hkey => (group_split hfits hkey).1)
  refine ⟨?_, hincomplete, ?_, ?_, ?_⟩
  · have hlength := List.length_eq_countP_add_countP (l := rows)
      fun row => decide (OnLine (billLines rows) row)
    simp only [Bool.not_eq_true, Bool.decide_eq_false] at hlength
    rw [hcounted, hincomplete, hlength]
  · rw [map_key_billLines hfits]
    exact hnodup.filter _
  · intro line hline
    obtain ⟨hkey, hgroup⟩ := (mem_billLines hfits).1 hline
    exact (groupLine_some (hfits _ hkey) hgroup).2
  · intro row hrow hbillable hnot
    have hkey := hkeys row hrow
    rcases groupLine_groupOf (hfits _ hkey) with
      ⟨hnil, -⟩ | ⟨-, prices, hi, hc, ho, ⟨cost, -, hline⟩ | ⟨context, hprice, -⟩⟩
    · have hmem : row ∈ lineRows rows (GroupKey.ofRow row) :=
        mem_lineRows.2 ⟨hrow, rfl, hbillable⟩
      rw [hnil] at hmem
      cases hmem
    · exact absurd ((onLine_iff hfits hrow).2 ⟨hbillable, by rw [hline]; rfl⟩) hnot
    · exact ⟨prices, context, hi, hc, ho, hprice⟩

end Bill

/-- The usage rows a draft covers: its partner's, in its period. -/
def StatementDraft.rows (draft : StatementDraft) (usage : List UsageRow) : List UsageRow :=
  inPeriod usage draft.consumerId draft.periodStart draft.periodEnd

theorem mem_inPeriod {usage : List UsageRow} {consumerId periodStart periodEnd : String}
    {row : UsageRow} : row ∈ inPeriod usage consumerId periodStart periodEnd ↔
      row ∈ usage ∧ row.consumerId = consumerId ∧ ¬ row.createdAt < periodStart ∧
        row.createdAt < periodEnd := by
  simp only [inPeriod, List.mem_filter, Bool.and_eq_true, decide_eq_true_eq, Bool.not_eq_true',
    decide_eq_false_iff_not, and_assoc]

/-- What a draft was made from. -/
theorem statementForDay_ok {gen : Generator} {usage : List UsageRow} {partner : Partner}
    {day : BillingDay} {cutoff : OffsetDateTime} {draft : StatementDraft}
    (h : statementForDay gen usage partner day cutoff = .ok (.ok draft)) :
    ∃ period, BillingPeriod.forDay day gen.timezone = .ok period ∧
      period.toBounds = .ok (draft.periodStart, draft.periodEnd) ∧
      partner.dueAtFor period.finish = .ok draft.dueAt ∧
      formatTs cutoff = .ok draft.billingCutoffAt ∧
      draft.consumerId = partner.consumerId ∧ draft.billingDate = day ∧
      draft.billingMode = partner.billingMode ∧
      (∀ key ∈ groupKeys (draft.rows usage), SumsFit (lineRows (draft.rows usage) key)) ∧
      draft.lines = billLines (draft.rows usage) ∧
      draft.incompleteUsageCount = ((groupKeys (draft.rows usage)).map fun key =>
        groupIncomplete (groupOf key (Sql.group GroupKey.ofRow (draft.rows usage) key))).sum := by
  obtain ⟨period, hperiod, h⟩ := Result.bind_ok_iff.1 h
  obtain ⟨⟨start, finish⟩, hbounds, h⟩ := Result.bind_ok_iff.1 h
  simp only at h
  split at h
  · cases h
  · rename_i groups hgroups
    obtain ⟨hfits, rfl⟩ := (usageGroups_ok_iff _ _ _ _ _).1 hgroups
    obtain ⟨cutoffText, hcutoff, h⟩ := Result.bind_ok_iff.1 h
    obtain ⟨dueAt, hdue, h⟩ := Result.bind_ok_iff.1 h
    cases h
    refine ⟨period, hperiod, hbounds, hdue, hcutoff, rfl, rfl, rfl, hfits, ?_, ?_⟩
    · simp only [billGroups_eq, List.filterMap_map]
      rfl
    · simp only [billGroups_eq, List.map_map]
      rfl

/-- Every usage row of the partner and period is on one line or counted once as incomplete, and
every line is that of its own rows. -/
theorem statementForDay_conserves {gen : Generator} {usage : List UsageRow} {partner : Partner}
    {day : BillingDay} {cutoff : OffsetDateTime} {draft : StatementDraft}
    (h : statementForDay gen usage partner day cutoff = .ok (.ok draft)) :
    BillOf (draft.rows usage) draft.lines draft.incompleteUsageCount := by
  obtain ⟨-, -, -, -, -, -, -, -, hfits, hlines, hincomplete⟩ := statementForDay_ok h
  rw [hlines, hincomplete]
  exact billOf_groups hfits

/-! ## The total -/

theorem foldlM_addLine_ok_iff (lines : List StatementLineDraft) (start result : MicroUsd) :
    lines.foldlM addLine start = .ok result ↔
      result.value = start.value + (lines.map fun line => line.cost.total.value).sum := by
  induction lines generalizing start with
  | nil =>
    simp only [List.foldlM_nil, Result.pure_eq, Except.ok.injEq, List.map_nil, List.sum_nil,
      Int.add_zero, Count.ext_iff]
    exact eq_comm
  | cons line lines ih =>
    rw [List.foldlM_cons, List.map_cons, List.sum_cons]
    have hrest : 0 ≤ (lines.map fun line => line.cost.total.value).sum := by
      apply List.sum_nonneg
      intro x hx
      obtain ⟨line', -, rfl⟩ := List.mem_map.1 hx
      exact line'.cost.total.nonneg
    cases hadd : start.checkedAdd line.cost.total with
    | none =>
      have hnot : ¬ (start.checkedAdd line.cost.total).isSome := by simp [hadd]
      rw [Count.checkedAdd_isSome_iff] at hnot
      have hmax := result.le_max
      simp only [addLine, hadd, Result.error_bind, reduceCtorEq, false_iff]
      omega
    | some next =>
      have hnext := Count.checkedAdd_eq_some_iff.1 hadd
      simp only [addLine, hadd, Result.ok_bind, ih, hnext]
      omega

/-- A statement's total is the exact sum of its lines, where an `i64` holds it. -/
theorem StatementDraft.total_ok_iff (draft : StatementDraft) (result : MicroUsd) :
    draft.total = .ok result ↔
      result.value = (draft.lines.map fun line => line.cost.total.value).sum := by
  have h := foldlM_addLine_ok_iff draft.lines Count.zero result
  simpa [StatementDraft.total] using h

/-! ## A statement accounts for its day -/

/-- A statement accounts for every usage row of its partner and period, exactly once, and its total
is the sum of its lines. -/
theorem statement_accounts_for_day {gen : Generator} {usage : List UsageRow} {partner : Partner}
    {day : BillingDay} {cutoff : OffsetDateTime} {draft : StatementDraft}
    (h : statementForDay gen usage partner day cutoff = .ok (.ok draft)) :
    BillOf (draft.rows usage) draft.lines draft.incompleteUsageCount ∧
      (∀ row, row ∈ draft.rows usage ↔ row ∈ usage ∧ row.consumerId = partner.consumerId ∧
        ¬ row.createdAt < draft.periodStart ∧ row.createdAt < draft.periodEnd) ∧
      (draft.periodStart = String.ofList (tsText (BillingDay.startNanos day.day gen.timezone)) ∧
        draft.periodEnd =
          String.ofList (tsText (BillingDay.startNanos (day.day + 1) gen.timezone))) ∧
      ∀ total, draft.total = .ok total →
        total.value = (draft.lines.map fun line => line.cost.total.value).sum := by
  obtain ⟨period, hperiod, hbounds, -, -, hconsumer, -⟩ := statementForDay_ok h
  obtain ⟨hstart, hfinish⟩ := BillingPeriod.forDay_ok hperiod
  obtain ⟨hstartText, hfinishText⟩ := BillingPeriod.toBounds_ok hbounds
  refine ⟨statementForDay_conserves h, fun row => ?_, ⟨?_, ?_⟩, fun total htotal => ?_⟩
  · rw [← hconsumer]
    exact mem_inPeriod
  · rw [← hstart]
    exact hstartText
  · rw [← hfinish]
    exact hfinishText
  · exact (draft.total_ok_iff total).1 htotal

namespace Sample

/-- A usage row of one partner, accepted at noon on 2026-09-27, with some tokens and prices. -/
def row (id : Nat) (model : String) (input output cached : Option Count)
    (price : Option Count) : UsageRow where
  id := id
  requestId := String.ofList (FixedWidth.pad 4 id)
  createdAt := "2026-09-27T12:00:00.000000000Z"
  consumerId := "acme"
  model := model
  endpoint := .chatCompletions
  streaming := false
  httpStatus := some 200
  requestStatus := .completed
  instanceId := some "one"
  inputTokens := input
  outputTokens := output
  cachedTokens := cached
  ttftMs := none
  durationMs := 5
  usageStatus := .available
  errorMessage := none
  errorBody := none
  inputPriceSnapshot := price
  cachedInputPriceSnapshot := price
  outputPriceSnapshot := price

/-- A count written as a number. -/
def count (n : Int) : Count := (Count.ofInt n).getD .zero

def partner (mode : BillingMode) (terms : Count) : Partner where
  consumerId := "acme"
  name := "Acme"
  billingEmail := ""
  billingMode := mode
  paymentTermsMinutes := terms
  createdAt := "2026-09-26T08:00:00.000000000Z"
  updatedAt := "2026-09-26T08:00:00.000000000Z"

def gen : Generator := ⟨BillingTimezone.utc, 15, by decide⟩

/-- 2026-09-27 -/
def day : BillingDay := ⟨20723, by decide⟩

/-- 2026-09-28, a quarter of an hour into the day -/
def cutoff : OffsetDateTime := ⟨1790554500000000000, 0, by decide⟩

/-- A full row, one without an output count, and one with more cached tokens than input. -/
def usage : List UsageRow :=
  [row 1 "gpt" (some (count 1000000)) (some (count 500000)) none (some (count 2000000)),
   row 2 "gpt" (some (count 10)) none none (some (count 2000000)),
   row 3 "gpt" (some (count 10)) (some (count 1)) (some (count 11)) (some (count 2000000))]

/-- The statement of the day: one line for the full row. -/
def draft : StatementDraft where
  consumerId := "acme"
  billingDate := day
  billingMode := .reconciliation
  periodStart := "2026-09-27T00:00:00.000000000Z"
  periodEnd := "2026-09-28T00:00:00.000000000Z"
  billingCutoffAt := "2026-09-28T00:15:00.000000000Z"
  dueAt := none
  incompleteUsageCount := 2
  lines := [{
    model := "gpt"
    prices := ⟨count 2000000, count 2000000, count 2000000⟩
    requestCount := 1
    inputTokens := 1000000
    cachedInputTokens := 0
    outputTokens := 500000
    cost := {
      uncachedInputTokens := 1000000
      inputCost := count 2000000
      cachedInputCost := count 0
      outputCost := count 1000000
      total := count 3000000 } }]

theorem statementForDay_eq : statementForDay gen usage (partner .reconciliation (count 720)) day
    cutoff = .ok (.ok draft) := by
  decide +kernel

end Sample

/-- The day of one full row, one row without an output count and one with too many cached
tokens. -/
theorem statement_accounts_for_sample :
    BillOf (Sample.draft.rows Sample.usage) Sample.draft.lines 2 ∧
      (Sample.draft.rows Sample.usage).length = 3 :=
  ⟨(statement_accounts_for_day Sample.statementForDay_eq).1, by decide⟩

end PartnerPortal
