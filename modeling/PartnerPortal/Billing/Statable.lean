import PartnerPortal.Billing.Statements

/-!
# Which days can be stated

Building a day's statement and writing it can fail on the amounts of the day: a token sum or the
statement's total may not fit.  A line that does not fit is counted as incomplete instead.

Results:
- `insertLines_complete` — the lines of a draft meet every constraint of their table;
- `day_stated_iff_amounts_fit` — a day is stated exactly when each group's token sums fit and so does
  the sum of the amounts of the groups that can be priced.
-/

namespace PartnerPortal

open MachineInt

/-! ## Exact amounts -/

/-- `tokens × price / 1_000_000`, rounded half up. -/
def exactComponent (tokens price : Int) : Int := (tokens * price * 2 + 1000000) / 2000000

/-- What the rows of a group cost together. -/
def exactCost (key : GroupKey) (rows : List UsageRow) : Int :=
  exactComponent (tokenSum UsageRow.inputTokens rows - tokenSum UsageRow.cachedTokens rows)
      (tokens key.input) +
    exactComponent (tokenSum UsageRow.cachedTokens rows) (tokens key.cachedInput) +
    exactComponent (tokenSum UsageRow.outputTokens rows) (tokens key.output)

/-- What a group adds to a statement: its cost, or nothing where its line overflows. -/
def groupAmount (rows : List UsageRow) (key : GroupKey) : Int :=
  if exactCost key (lineRows rows key) ≤ i64Max then exactCost key (lineRows rows key) else 0

theorem exactComponent_nonneg {tokens price : Int} (ht : 0 ≤ tokens) (hp : 0 ≤ price) :
    0 ≤ exactComponent tokens price := by
  have := Int.mul_nonneg ht hp
  unfold exactComponent
  omega

theorem componentCost_eq {tokens : Int} {price : PricePerMillion} (ht : 0 ≤ tokens)
    (hfits : exactComponent tokens price.value ≤ i64Max) :
    ∃ cost, componentCost tokens.toNat price = .ok cost ∧
      cost.value = exactComponent tokens price.value := by
  refine ⟨⟨_, exactComponent_nonneg ht price.nonneg, hfits⟩, componentCost_ok_iff.2 ?_, rfl⟩
  rw [Int.toNat_of_nonneg ht]
  rfl

theorem componentCost_value {tokens : Int} {price : PricePerMillion} {cost : MicroUsd}
    (ht : 0 ≤ tokens) (h : componentCost tokens.toNat price = .ok cost) :
    cost.value = exactComponent tokens price.value := by
  rw [componentCost_ok_iff.1 h, Int.toNat_of_nonneg ht]
  rfl

section Rows

variable {key : GroupKey} {rows : List UsageRow} {prices : PricingSnapshot}

theorem exactCost_parts (hi : key.input = some prices.input)
    (hc : key.cachedInput = some prices.cachedInput) (ho : key.output = some prices.output) :
    exactCost key rows =
      exactComponent (tokenSum UsageRow.inputTokens rows - tokenSum UsageRow.cachedTokens rows)
        prices.input.value +
      exactComponent (tokenSum UsageRow.cachedTokens rows) prices.cachedInput.value +
      exactComponent (tokenSum UsageRow.outputTokens rows) prices.output.value := by
  rw [exactCost, hi, hc, ho]
  rfl

/-- A priced line costs the exact amount of its rows. -/
theorem priceRows_total (hi : key.input = some prices.input)
    (hc : key.cachedInput = some prices.cachedInput) (ho : key.output = some prices.output)
    {cost : LineCost} (h : priceRows rows prices = .ok cost) :
    cost.total.value = exactCost key rows := by
  obtain ⟨hle, -, hinput, hcached, houtput, htotal⟩ := priceLine_ok h
  have h0 := tokenSum_nonneg UsageRow.cachedTokens rows
  have h1 := tokenSum_nonneg UsageRow.inputTokens rows
  rw [← Int.toNat_sub'' h1 h0] at hinput
  rw [htotal, exactCost_parts hi hc ho, componentCost_value (by omega) hinput,
    componentCost_value h0 hcached, componentCost_value (tokenSum_nonneg _ _) houtput]

/-- Rows whose exact amount fits can be priced. -/
theorem priceRows_isOk (hi : key.input = some prices.input)
    (hc : key.cachedInput = some prices.cachedInput) (ho : key.output = some prices.output)
    (hle : tokenSum UsageRow.cachedTokens rows ≤ tokenSum UsageRow.inputTokens rows)
    (hfits : exactCost key rows ≤ i64Max) : ∃ cost, priceRows rows prices = .ok cost := by
  have h0 := tokenSum_nonneg UsageRow.cachedTokens rows
  have h1 := tokenSum_nonneg UsageRow.inputTokens rows
  have h2 := tokenSum_nonneg UsageRow.outputTokens rows
  rw [exactCost_parts hi hc ho] at hfits
  have hp1 := exactComponent_nonneg (Int.sub_nonneg.2 hle) prices.input.nonneg
  have hp2 := exactComponent_nonneg h0 prices.cachedInput.nonneg
  have hp3 := exactComponent_nonneg h2 prices.output.nonneg
  obtain ⟨c1, hc1, hv1⟩ := @componentCost_eq _ prices.input (Int.sub_nonneg.2 hle) (by omega)
  obtain ⟨c2, hc2, hv2⟩ := @componentCost_eq _ prices.cachedInput h0 (by omega)
  obtain ⟨c3, hc3, hv3⟩ := @componentCost_eq _ prices.output h2 (by omega)
  obtain ⟨s1, hs1⟩ := Option.isSome_iff_exists.1
    (Count.checkedAdd_isSome_iff.2 (show c1.value + c2.value ≤ i64Max by omega))
  have hvs1 := Count.checkedAdd_eq_some_iff.1 hs1
  obtain ⟨s2, hs2⟩ := Option.isSome_iff_exists.1
    (Count.checkedAdd_isSome_iff.2 (show s1.value + c3.value ≤ i64Max by omega))
  rw [Int.toNat_sub'' h1 h0] at hc1
  have hnat : ¬ (tokenSum UsageRow.inputTokens rows).toNat <
      (tokenSum UsageRow.cachedTokens rows).toNat := Nat.not_lt.2 (Int.toNat_le_toNat hle)
  refine ⟨⟨(tokenSum UsageRow.inputTokens rows).toNat -
    (tokenSum UsageRow.cachedTokens rows).toNat, c1, c2, c3, s2⟩, ?_⟩
  simp only [priceRows, priceLine, components, if_neg hnat, hc1, hc2, hc3, Result.ok_bind,
    Result.pure_eq, LineCost.ofParts, hs1, Option.bind_some, hs2]

end Rows

theorem exactCost_nil (key : GroupKey) : exactCost key [] = 0 := by
  simp [exactCost, exactComponent, tokenSum]

/-- The amount on the line of a group, nothing where it has none. -/
theorem groupLine_amount {rows : List UsageRow} {key : GroupKey}
    (hfit : SumsFit (lineRows rows key)) :
    ((groupLine (groupOf key (Sql.group GroupKey.ofRow rows key))).map
      fun line => line.cost.total.value).getD 0 = groupAmount rows key := by
  unfold groupAmount
  rcases groupLine_groupOf hfit with
    ⟨hnil, hnone⟩ | ⟨-, prices, hi, hc, ho, ⟨cost, hprice, hline⟩ | ⟨context, hprice, hnone⟩⟩
  · rw [hnone, hnil, exactCost_nil]
    rfl
  · have htotal := priceRows_total hi hc ho hprice
    rw [hline, ← htotal, if_pos cost.total.le_max]
    rfl
  · have hle : tokenSum UsageRow.cachedTokens (lineRows rows key) ≤
        tokenSum UsageRow.inputTokens (lineRows rows key) := by
      apply List.sum_le_sum
      intro row hrow
      exact (mem_lineRows.1 hrow).2.2.2.2.2.2.2.2
    rw [hnone, if_neg]
    · rfl
    · intro hfits
      obtain ⟨cost, hcost⟩ := priceRows_isOk hi hc ho hle hfits
      rw [hprice] at hcost
      cases hcost

/-- The amounts on the lines of a day are those of its groups. -/
theorem sum_billLines {rows : List UsageRow}
    (hfits : ∀ key ∈ groupKeys rows, SumsFit (lineRows rows key)) :
    ((billLines rows).map fun line => line.cost.total.value).sum =
      ((groupKeys rows).map (groupAmount rows)).sum := by
  rw [billLines, sum_filterMap]
  exact congrArg List.sum
    (List.map_congr_left fun key hkey => groupLine_amount (hfits key hkey))

/-! ## Writing the lines -/

/-- A line of billed rows is consistent and meets the checks of its table. -/
theorem validateLine_of_bill {rows : List UsageRow} {lines : List StatementLineDraft}
    {incomplete : Nat} (h : BillOf rows lines incomplete) {line : StatementLineDraft}
    (hline : line ∈ lines) (hfit : SumsFit (lineRows rows line.key)) :
    validateLine line = .ok () ∧ ∀ id statementId, lineChecks (lineOf id statementId line) := by
  obtain ⟨-, hprice, heq⟩ := h.exact line hline
  obtain ⟨hle, huncached, -⟩ := priceLine_ok hprice
  have h0 := tokenSum_nonneg UsageRow.cachedTokens (lineRows rows line.key)
  have h1 := tokenSum_nonneg UsageRow.inputTokens (lineRows rows line.key)
  have h2 := tokenSum_nonneg UsageRow.outputTokens (lineRows rows line.key)
  have hinput : line.inputTokens = tokenSum UsageRow.inputTokens (lineRows rows line.key) := by
    rw [heq]
    rfl
  have hcached : line.cachedInputTokens =
      tokenSum UsageRow.cachedTokens (lineRows rows line.key) := by
    rw [heq]
    rfl
  have houtput : line.outputTokens = tokenSum UsageRow.outputTokens (lineRows rows line.key) := by
    rw [heq]
    rfl
  have horder : ¬ line.inputTokens < line.cachedInputTokens := by omega
  have hcast : asI64 line.cost.uncachedInputTokens = line.inputTokens - line.cachedInputTokens := by
    rw [asI64_of_fits]
    · omega
    · have := hfit.1
      unfold FitsI64 i64Min
      omega
  constructor
  · rw [validateLine, if_neg (not_not.2 hcast), if_neg horder]
  · intro id statementId
    simp only [lineChecks, lineOf, hcast, Bool.and_eq_true, decide_eq_true_eq, and_true]
    exact ⟨⟨⟨hinput ▸ h1, hcached ▸ h0⟩, houtput ▸ h2⟩, Int.sub_nonneg.2 (not_lt.1 horder)⟩

theorem forM_ok {α ε : Type} {f : α → Except ε Unit} {l : List α} (h : ∀ a ∈ l, f a = .ok ()) :
    l.forM f = .ok () := by
  induction l with
  | nil => rfl
  | cons a l ih =>
    change (f a >>= fun _ => l.forM f) = .ok ()
    rw [h a List.mem_cons_self, Result.ok_bind]
    exact ih fun b hb => h b (List.mem_cons_of_mem a hb)

/-- Lines of different models or prices go into a statement that has none of them. -/
theorem insertLines_complete {statementId : Nat} {lines : List StatementLineDraft} {store : Store}
    (hchecks : ∀ line ∈ lines, ∀ id, lineChecks (lineOf id statementId line))
    (hdistinct : (lines.map StatementLineDraft.key).Nodup)
    (hfresh : ∀ l ∈ store.lines, l.statementId = statementId →
      ∀ line ∈ lines, ¬ (l.model = line.model ∧ l.prices = line.prices)) :
    ∃ written, lines.foldlM (insertLine statementId) store = .ok written := by
  induction lines generalizing store with
  | nil => exact ⟨store, rfl⟩
  | cons line lines ih =>
    obtain ⟨hnot, hdistinct'⟩ := List.nodup_cons.1 hdistinct
    have hunique : (store.lines.any fun l => l.statementId = statementId &&
        l.model = line.model && l.prices = line.prices) = false := by
      rw [List.any_eq_false]
      intro l hl hmatch
      simp only [Bool.and_eq_true, decide_eq_true_eq] at hmatch
      exact hfresh l hl hmatch.1.1 line List.mem_cons_self ⟨hmatch.1.2, hmatch.2⟩
    have hinsert : insertLine statementId store line = .ok { store with
        lines := store.lines ++ [lineOf store.nextLineId statementId line]
        nextLineId := store.nextLineId + 1 } := by
      simp only [insertLine, hchecks line List.mem_cons_self store.nextLineId, hunique,
        Bool.not_true, Bool.false_eq_true, if_false]
    rw [List.foldlM_cons, hinsert, Result.ok_bind]
    refine ih (fun line' hline' => hchecks line' (List.mem_cons_of_mem line hline')) hdistinct' ?_
    intro l hl hid line' hline'
    rcases List.mem_append.1 hl with hl | hl
    · exact hfresh l hl hid line' (List.mem_cons_of_mem line hline')
    · rintro ⟨hmodel, hprices⟩
      rw [List.mem_singleton] at hl
      subst hl
      apply hnot
      rw [List.mem_map]
      refine ⟨line', hline', ?_⟩
      have hm : line.model = line'.model := hmodel
      have hp : line.prices = line'.prices := hprices
      simp only [StatementLineDraft.key, hm, hp]

/-- The due date a mode asks for is there. -/
def DueFits (mode : BillingMode) (due : Option OffsetDateTime) : Prop :=
  (mode = .invoice ∧ due.isSome) ∨ (mode = .reconciliation ∧ due = none)

theorem validateDraft_ok {draft : StatementDraft}
    (hdue : DueFits draft.billingMode draft.dueAt)
    (hlines : ∀ line ∈ draft.lines, validateLine line = .ok ()) : validateDraft draft = .ok () := by
  unfold validateDraft
  rcases hdue with ⟨hmode, hsome⟩ | ⟨hmode, hnone⟩
  · obtain ⟨due, hdue⟩ := Option.isSome_iff_exists.1 hsome
    simp only [hmode, BillingMode.owesPayment, hdue]
    exact forM_ok hlines
  · simp only [hmode, BillingMode.owesPayment, hnone]
    exact forM_ok hlines

/-- A draft whose lines can be stored is written, or its day was stated already.  A failed read of
the row afterwards changes the answer and not the tables. -/
theorem writeStatement_complete {store : Store} {draft : StatementDraft} {total : MicroUsd}
    {dueText : Option String} {fault : WriteFault} (now : Instant)
    (hbegins : fault.begins = none) (hinside : fault.inside = none)
    (hpartner : ∃ p ∈ store.partners, p.consumerId = draft.consumerId)
    (hdue : DueFits draft.billingMode draft.dueAt)
    (hlines : ∀ line ∈ draft.lines, validateLine line = .ok ())
    (htotal : draft.total = .ok total) (hdueText : formatDue draft.dueAt = .ok dueText)
    (hinsert : ∃ written,
      draft.lines.foldlM (insertLine store.nextStatementId) { store with
        statements := store.statements ++
          [statementOf store.nextStatementId draft total dueText (formatInstant now)]
        nextStatementId := store.nextStatementId + 1 } = .ok written) :
    ∃ written result, writeStatement fault now draft store = .ok (written, result) ∧
      (getStatement written draft.consumerId draft.billingDate.toText).isSome ∧
      (fault.readBack = none → ∃ outcome, result = .ok outcome) := by
  have hvalid := validateDraft_ok hdue hlines
  have hcheck : (!draft.billingMode.owesPayment && dueText.isSome) = false := by
    rcases hdue with ⟨hmode, -⟩ | ⟨-, hnone⟩
    · simp [hmode, BillingMode.owesPayment]
    · rw [hnone] at hdueText
      cases hdueText
      simp
  have htransaction : ∃ written inserted,
      statementTransaction fault now draft total store = .ok (.ok (written, inserted)) ∧
        (getStatement written draft.consumerId draft.billingDate.toText).isSome := by
    simp only [statementTransaction, hbegins, hinside, hdueText, Result.ok_bind, Result.pure_eq,
      insertStatement, hcheck, Bool.false_eq_true, if_false]
    by_cases hstated : (getStatement store draft.consumerId draft.billingDate.toText).isSome
    · exact ⟨store, false, by rw [if_pos hstated], hstated⟩
    · obtain ⟨p, hp, hconsumer⟩ := hpartner
      have hany : (store.partners.any fun p => p.consumerId = draft.consumerId) = true :=
        List.any_eq_true.2 ⟨p, hp, by simpa using hconsumer⟩
      obtain ⟨written, hwritten⟩ := hinsert
      refine ⟨written, true, ?_, ?_⟩
      · rw [if_neg hstated]
        simp only [hany, Bool.not_true, Bool.false_eq_true, if_false, statementOf] at hwritten ⊢
        rw [hwritten]
        rfl
      · rw [getStatement_isSome_iff, (insertLines_ok hwritten).1]
        exact ⟨_, List.mem_append_right _ List.mem_cons_self, rfl, rfl⟩
  obtain ⟨written, inserted, htransaction, hstated⟩ := htransaction
  obtain ⟨statement, hstatement⟩ := Option.isSome_iff_exists.1 hstated
  cases hread : fault.readBack with
  | some e =>
    refine ⟨written, .error (.database e), ?_, hstated, fun h => by cases h⟩
    simp only [writeStatement, hvalid, htotal, htransaction, Result.ok_bind, hread,
      Result.pure_eq]
  | none =>
    refine ⟨written, .ok (if inserted then .created statement else .existed statement), ?_,
      hstated, fun _ => ⟨_, rfl⟩⟩
    simp only [writeStatement, hvalid, htotal, htransaction, Result.ok_bind, hstatement, hread,
      Result.pure_eq]

/-! ## When a day is stated -/

/-- The amounts of a day fit: every token sum of a group, and the sum of what the groups add. -/
def AmountsFit (rows : List UsageRow) : Prop :=
  (∀ key ∈ groupKeys rows, SumsFit (lineRows rows key)) ∧
    ((groupKeys rows).map (groupAmount rows)).sum ≤ i64Max

/-- The keys of the statement lines are those of statements already inserted. -/
def Store.Numbered (store : Store) : Prop :=
  ∀ line ∈ store.lines, line.statementId < store.nextStatementId

theorem Added.numbered {store written : Store} {draft : StatementDraft} {total : MicroUsd}
    {dueAt : Option String} {now : String}
    (h : Added store written (statementOf store.nextStatementId draft total dueAt now))
    (hstore : store.Numbered) : written.Numbered := by
  obtain ⟨new, hlines, hnew⟩ := h.lines
  intro line hline
  rw [hlines] at hline
  rw [h.nextStatementId]
  rcases List.mem_append.1 hline with hline | hline
  · exact Nat.lt_succ_of_lt (hstore line hline)
  · rw [hnew line hline]
    exact Nat.lt_succ_self _

/-- A draft exists exactly when the token sums fit. -/
theorem statementForDay_isOk_iff {gen : Generator} {usage : List UsageRow} {partner : Partner}
    {day : BillingDay} {cutoff : OffsetDateTime} {cutoffText start finish : String}
    {period : BillingPeriod} {due : Option OffsetDateTime}
    (hcutoffText : formatTs cutoff = .ok cutoffText)
    (hperiod : BillingPeriod.forDay day gen.timezone = .ok period)
    (hbounds : period.toBounds = .ok (start, finish))
    (hdue : partner.dueAtFor period.finish = .ok due) :
    (∃ draft, statementForDay gen usage partner day cutoff = .ok (.ok draft)) ↔
      ∀ key ∈ groupKeys (inPeriod usage partner.consumerId start finish),
        SumsFit (lineRows (inPeriod usage partner.consumerId start finish) key) := by
  simp only [statementForDay, hperiod, hbounds, Result.ok_bind]
  constructor
  · rintro ⟨draft, h⟩
    split at h
    · cases h
    · rename_i groups hgroups
      exact ((usageGroups_ok_iff _ _ _ _ _).1 hgroups).1
  · intro hfits
    have hgroups := (usageGroups_ok_iff usage partner.consumerId start finish _).2 ⟨hfits, rfl⟩
    simp only [hgroups, hcutoffText, hdue, Result.ok_bind, Result.pure_eq]
    exact ⟨_, rfl⟩

/-- What a draft of a day with a computable due date needs to be written. -/
theorem draft_total_isOk_iff {gen : Generator} {usage : List UsageRow} {partner : Partner}
    {day : BillingDay} {cutoff : OffsetDateTime} {draft : StatementDraft}
    (h : statementForDay gen usage partner day cutoff = .ok (.ok draft)) :
    (∃ total, draft.total = .ok total) ↔
      ((groupKeys (draft.rows usage)).map (groupAmount (draft.rows usage))).sum ≤ i64Max := by
  obtain ⟨-, -, -, -, -, -, -, -, hfits, hlines, -⟩ := statementForDay_ok h
  simp only [StatementDraft.total_ok_iff]
  rw [hlines, sum_billLines hfits]
  constructor
  · rintro ⟨total, htotal⟩
    rw [← htotal]
    exact total.le_max
  · intro hmax
    have hnonneg : 0 ≤ ((groupKeys (draft.rows usage)).map (groupAmount (draft.rows usage))).sum := by
      rw [← sum_billLines hfits]
      apply List.sum_nonneg
      intro x hx
      obtain ⟨line, -, rfl⟩ := List.mem_map.1 hx
      exact line.cost.total.nonneg
    exact ⟨⟨_, hnonneg, hmax⟩, rfl⟩

/-- A draft with a due date where its mode asks for one is written when its total fits. -/
theorem writeStatement_of_draft {gen : Generator} {store : Store} {partner : Partner}
    {day : BillingDay} {cutoff : OffsetDateTime} {draft : StatementDraft} {total : MicroUsd}
    {dueText : Option String} {fault : WriteFault} (now : Instant)
    (hbegins : fault.begins = none) (hinside : fault.inside = none)
    (hpartner : partner ∈ store.partners) (hnumbered : store.Numbered)
    (h : statementForDay gen store.usage partner day cutoff = .ok (.ok draft))
    (hdue : DueFits partner.billingMode draft.dueAt) (hdueText : formatDue draft.dueAt = .ok dueText)
    (htotal : draft.total = .ok total) :
    ∃ written result, writeStatement fault now draft store = .ok (written, result) ∧
      (getStatement written draft.consumerId draft.billingDate.toText).isSome ∧
      (fault.readBack = none → ∃ outcome, result = .ok outcome) := by
  have hbill := statementForDay_conserves h
  obtain ⟨-, -, -, -, -, hconsumer, -, hmode, hfits, hlines, -⟩ := statementForDay_ok h
  have hvalid : ∀ line ∈ draft.lines, validateLine line = .ok () ∧
      ∀ id statementId, lineChecks (lineOf id statementId line) := by
    intro line hline
    refine validateLine_of_bill hbill hline (hfits _ ?_)
    rw [hlines] at hline
    exact ((mem_billLines hfits).1 hline).1
  refine writeStatement_complete now hbegins hinside ⟨partner, hpartner, hconsumer.symm⟩
    (hmode ▸ hdue) (fun line hline => (hvalid line hline).1) htotal hdueText ?_
  refine insertLines_complete (fun line hline id => (hvalid line hline).2 id _) hbill.distinct ?_
  intro l hl hid
  exact absurd hid (Nat.ne_of_lt (hnumbered l hl))

/-- A day whose due date can be computed is stated exactly when its amounts fit. -/
theorem day_stated_iff_amounts_fit {gen : Generator} {store : Store} {partner : Partner}
    {day : BillingDay} {cutoff : OffsetDateTime} {cutoffText start finish : String}
    {period : BillingPeriod} {due : Option OffsetDateTime} {dueText : Option String}
    (now : Instant) (hpartner : partner ∈ store.partners) (hnumbered : store.Numbered)
    (hcutoffText : formatTs cutoff = .ok cutoffText)
    (hperiod : BillingPeriod.forDay day gen.timezone = .ok period)
    (hbounds : period.toBounds = .ok (start, finish))
    (hdue : partner.dueAtFor period.finish = .ok due) (hfits : DueFits partner.billingMode due)
    (hdueText : formatDue due = .ok dueText) :
    (∃ draft written outcome,
      statementForDay gen store.usage partner day cutoff = .ok (.ok draft) ∧
        writeStatement {} now draft store = .ok (written, .ok outcome) ∧
        (getStatement written partner.consumerId day.toText).isSome) ↔
      AmountsFit (inPeriod store.usage partner.consumerId start finish) := by
  have hisOk := @statementForDay_isOk_iff gen store.usage partner day cutoff cutoffText start finish
    period due hcutoffText hperiod hbounds hdue
  have hdraft : ∀ draft, statementForDay gen store.usage partner day cutoff = .ok (.ok draft) →
      draft.rows store.usage = inPeriod store.usage partner.consumerId start finish ∧
        draft.dueAt = due ∧ draft.consumerId = partner.consumerId ∧ draft.billingDate = day := by
    intro draft h
    obtain ⟨period', hperiod', hbounds', hdue', -, hconsumer, hday, -⟩ := statementForDay_ok h
    rw [hperiod] at hperiod'
    cases hperiod'
    rw [hbounds] at hbounds'
    cases hbounds'
    rw [hdue] at hdue'
    cases hdue'
    exact ⟨by rw [StatementDraft.rows, hconsumer], rfl, hconsumer, hday⟩
  constructor
  · rintro ⟨draft, written, outcome, h, hwrite, -⟩
    have htotal : ∃ total, draft.total = .ok total := by
      unfold writeStatement at hwrite
      split at hwrite
      · cases hwrite
      · split at hwrite
        · cases hwrite
        · rename_i total htotal
          exact ⟨total, htotal⟩
    rw [draft_total_isOk_iff h, (hdraft draft h).1] at htotal
    exact ⟨hisOk.1 ⟨draft, h⟩, htotal⟩
  · rintro ⟨hsums, htotal⟩
    obtain ⟨draft, h⟩ := hisOk.2 hsums
    obtain ⟨hrows, hdueAt, hconsumer, hday⟩ := hdraft draft h
    rw [← hrows, ← draft_total_isOk_iff h] at htotal
    obtain ⟨total, htotal⟩ := htotal
    obtain ⟨written, result, hwrite, hstated, hresult⟩ := @writeStatement_of_draft gen store partner
      day cutoff draft total dueText {} now rfl rfl hpartner hnumbered h (hdueAt ▸ hfits)
      (hdueAt ▸ hdueText) htotal
    obtain ⟨outcome, rfl⟩ := hresult rfl
    rw [hconsumer, hday] at hstated
    exact ⟨draft, written, outcome, h, hwrite, hstated⟩

namespace Sample

/-- One partner, with some usage and no statements. -/
def store (partner : Partner) (usage : List UsageRow) : Store where
  partners := [partner]
  usage := usage
  statements := []
  lines := []
  nextStatementId := 1
  nextLineId := 1

/-- The instant a statement is written. -/
def now : Instant := ⟨1790554500000000000, by decide⟩

def period : BillingPeriod where
  start := BillingDay.startUtc day BillingTimezone.utc
  finish := BillingDay.startUtc ⟨20724, by decide⟩ BillingTimezone.utc

/-- Two requests of the largest count the table stores, of one model at one price. -/
def hugeUsage : List UsageRow :=
  [row 1 "gpt" (some (count i64Max)) (some (count 0)) (some (count 0)) (some (count 0)),
   row 2 "gpt" (some (count i64Max)) (some (count 0)) (some (count 0)) (some (count 0))]

end Sample

/-- The day of three ordinary rows is stated. -/
theorem day_stated_sample :
    (∃ draft written outcome,
      statementForDay Sample.gen Sample.usage (Sample.partner .reconciliation (Sample.count 720))
          Sample.day Sample.cutoff = .ok (.ok draft) ∧
        writeStatement {} Sample.now draft
          (Sample.store (Sample.partner .reconciliation (Sample.count 720)) Sample.usage) =
            .ok (written, .ok outcome) ∧
        (getStatement written "acme" Sample.day.toText).isSome) ↔
      AmountsFit (inPeriod Sample.usage "acme" "2026-09-27T00:00:00.000000000Z"
        "2026-09-28T00:00:00.000000000Z") :=
  @day_stated_iff_amounts_fit Sample.gen
    (Sample.store (Sample.partner .reconciliation (Sample.count 720)) Sample.usage)
    (Sample.partner .reconciliation (Sample.count 720)) Sample.day Sample.cutoff
    "2026-09-28T00:15:00.000000000Z" "2026-09-27T00:00:00.000000000Z"
    "2026-09-28T00:00:00.000000000Z" Sample.period none none Sample.now List.mem_cons_self
    (fun _ h => absurd h List.not_mem_nil) (by decide +kernel) (by decide +kernel)
    (by decide +kernel) rfl (Or.inr ⟨rfl, rfl⟩) rfl

/-- Two rows whose token counts are each within the table's range leave their day unstated: the
aggregate fails. -/
theorem day_unstated_sum_overflow :
    ¬ ∃ draft written outcome,
      statementForDay Sample.gen Sample.hugeUsage
          (Sample.partner .reconciliation (Sample.count 720)) Sample.day Sample.cutoff =
            .ok (.ok draft) ∧
        writeStatement {} Sample.now draft
          (Sample.store (Sample.partner .reconciliation (Sample.count 720)) Sample.hugeUsage) =
            .ok (written, .ok outcome) := by
  have hfails : statementForDay Sample.gen Sample.hugeUsage
      (Sample.partner .reconciliation (Sample.count 720)) Sample.day Sample.cutoff =
      .ok (.error (.database .integerOverflow)) := by
    decide +kernel
  rintro ⟨draft, written, outcome, h, -⟩
  rw [hfails] at h
  cases h

end PartnerPortal
