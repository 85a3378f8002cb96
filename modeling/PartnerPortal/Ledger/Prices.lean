import PartnerPortal.Ledger.Requests
import PartnerPortal.Lib.WriteOnce

/-!
# The price snapshot of a request

The three price columns of a row under accepts, finalizes and recovery passes.

Results:
- `LedgerOp.step_row` — what a write does to the row of a request and to its prices;
- `prices_frozen_iff` — a snapshot is frozen along a run exactly when no finalize carries another,
  and a row always has all three prices or none;
- `price_changed_by_finalize` — a finalize with other prices replaces them.
-/

namespace PartnerPortal

open MachineInt

/-! ## Writes -/

/-- A committed write of the ledger. -/
inductive LedgerOp where
  | write (instanceId : Option String) (pending : PendingWrite)
  | recover (ctx : RecoveryContext)

/-- The tables after a write.  A write that fails is rolled back, and is none. -/
def LedgerOp.step (iso : Iso8601) (ledger : Ledger) : LedgerOp → Option Ledger
  | .write instanceId pending => (applyOne iso instanceId ledger pending).toOption
  | .recover ctx => ((recoverInTx iso ctx ledger).map Prod.fst).toOption

/-- The prices a write brings for a request. -/
def LedgerOp.prices (requestId : String) : LedgerOp → Option PricingSnapshot
  | .write _ pending => pending.prices requestId
  | .recover _ => none

/-! ## Snapshots -/

/-- The price snapshot of a row that has all three prices. -/
def UsageRow.snapshot (row : UsageRow) : Option PricingSnapshot :=
  match row.prices with
  | (some input, some cachedInput, some output) => some ⟨input, cachedInput, output⟩
  | _ => none

/-- All three prices are there, or none is. -/
def UsageRow.WholePrices (row : UsageRow) : Prop :=
  row.prices = (none, none, none) ∨ ∃ prices, row.snapshot = some prices

/-- The price snapshot the row of a request holds. -/
def Ledger.snapshot (ledger : Ledger) (requestId : String) : Option PricingSnapshot :=
  (ledger.find requestId).bind UsageRow.snapshot

theorem UsageRow.snapshot_congr {row row' : UsageRow} (h : row.prices = row'.prices) :
    row.snapshot = row'.snapshot := by
  rw [UsageRow.snapshot, h, UsageRow.snapshot]

theorem UsageRow.WholePrices.congr {row row' : UsageRow} (h : row.WholePrices)
    (hprices : row'.prices = row.prices) : row'.WholePrices := by
  rw [UsageRow.WholePrices, hprices, UsageRow.snapshot_congr hprices]
  exact h

/-- The prices of a record come together. -/
theorem snapshot_of_columns {row : UsageRow} {record : RequestRecord}
    (h : row.prices = record.priceColumns) :
    row.WholePrices ∧ row.snapshot = record.pricing := by
  unfold UsageRow.WholePrices UsageRow.snapshot
  rw [h]
  cases hpricing : record.pricing <;> simp [RequestRecord.priceColumns, hpricing]

/-! ## One write -/

section Steps

variable {iso : Iso8601} {requestId : String} {ledger next : Ledger}

/-- What a write leaves of the row of a request: no row where none was, a new one with the prices
of its record, or the row there with the prices the write brings, if it brings any. -/
inductive PriceStep (prices : Option PricingSnapshot) : Option UsageRow → Option UsageRow → Prop
  | absent : PriceStep prices none none
  | opened {row : UsageRow} (hwhole : row.WholePrices) : PriceStep prices none (some row)
  | kept {row row' : UsageRow} (hnone : prices = none) (hprices : row'.prices = row.prices) :
      PriceStep prices (some row) (some row')
  | replaced {row row' : UsageRow} (hwhole : row'.WholePrices) (hsome : prices.isSome)
      (hprices : row'.snapshot = prices) : PriceStep prices (some row) (some row')

theorem RowStep.priceStep {instanceId : Option String} {finalized : List String}
    {pending : PendingWrite} {row row' : Option UsageRow}
    (h : RowStep instanceId finalized requestId pending row row') :
    PriceStep (pending.prices requestId) row row' := by
  have hsame : pending.prices requestId = none →
      PriceStep (pending.prices requestId) row row := by
    intro hnone
    cases row with
    | none => exact .absent
    | some row => exact .kept hnone rfl
  cases h with
  | other hother =>
    refine hsame ?_
    cases pending with
    | finalize record => exact if_neg fun hid => hother (congrArg some hid)
    | accept _ | barrier => rfl
  | skipped | ignored => exact hsame rfl
  | accepted => exact .opened (snapshot_of_columns rfl).1
  | inserted => exact .opened (snapshot_of_columns rfl).1
  | @updated record figures row hid hfigures =>
    have hprices := updatedRow_prices row record figures
    simp only [PendingWrite.prices, if_pos hid]
    cases hpricing : record.pricing with
    | none =>
      rw [hpricing] at hprices
      exact .kept rfl hprices
    | some prices =>
      rw [hpricing] at hprices
      obtain ⟨hwhole, hsnapshot⟩ := snapshot_of_columns hprices
      exact .replaced hwhole rfl (hsnapshot.trans hpricing)

/-- A recovery pass touches no price. -/
theorem recoverInTx_priceStep {ctx : RecoveryContext} {report : RecoveryReport}
    {swept : List String} (h : recoverInTx iso ctx ledger = .ok (next, report, swept)) :
    PriceStep none (ledger.find requestId) (next.find requestId) := by
  obtain ⟨oldBefore, -, h⟩ := Result.bind_ok_iff.1 h
  obtain ⟨hourly, -, h⟩ := Result.bind_ok_iff.1 h
  cases h
  let stranded := isStranded (classifyCandidates ctx ledger) oldBefore
  have hid : ∀ row : UsageRow,
      (if stranded row then recoveredRow row else row).requestId = row.requestId := by
    intro row
    split <;> rfl
  have hprices : ∀ row : UsageRow,
      (if stranded row then recoveredRow row else row).prices = row.prices := by
    intro row
    split <;> rfl
  have hfind : ((ledger.records.map fun row =>
      if stranded row then recoveredRow row else row).find? fun row => row.requestId = requestId) =
      (ledger.find requestId).map fun row => if stranded row then recoveredRow row else row := by
    simp only [List.find?_map, Function.comp_def, hid, Ledger.find]
  show PriceStep none (ledger.find requestId) (List.find? _ _)
  rw [hfind]
  cases ledger.find requestId with
  | none => exact .absent
  | some row => exact .kept rfl (hprices row)

theorem LedgerOp.step_row {op : LedgerOp} (h : op.step iso ledger = some next) :
    PriceStep (op.prices requestId) (ledger.find requestId) (next.find requestId) := by
  cases op with
  | write instanceId pending =>
    cases hresult : applyOne iso instanceId ledger pending with
    | error e => simp [LedgerOp.step, hresult, Except.toOption] at h
    | ok written =>
      simp only [LedgerOp.step, hresult, Except.toOption, Option.some.injEq] at h
      subst h
      exact (applyOne_row hresult).priceStep
  | recover ctx =>
    cases hresult : recoverInTx iso ctx ledger with
    | error e => simp [LedgerOp.step, hresult, Except.map, Except.toOption] at h
    | ok result =>
      simp only [LedgerOp.step, hresult, Except.map, Except.toOption, Option.some.injEq] at h
      subst h
      exact recoverInTx_priceStep hresult

/-- A snapshot that is there stays, unless the write brings one. -/
theorem LedgerOp.step_snapshot {op : LedgerOp} {held : PricingSnapshot}
    (h : op.step iso ledger = some next) (hheld : ledger.snapshot requestId = some held) :
    next.snapshot requestId = some ((op.prices requestId).getD held) := by
  have hstep := @LedgerOp.step_row iso requestId ledger next op h
  unfold Ledger.snapshot at hheld ⊢
  generalize ledger.find requestId = row at hstep hheld
  generalize next.find requestId = row' at hstep
  generalize op.prices requestId = prices at hstep
  cases hstep with
  | absent | opened => cases hheld
  | kept hnone hprices =>
    rw [hnone]
    exact (UsageRow.snapshot_congr hprices).trans hheld
  | replaced hwhole hsome hprices =>
    obtain ⟨brought, rfl⟩ := Option.isSome_iff_exists.1 hsome
    exact hprices

/-- Every row of the request has whole prices. -/
def Ledger.WholePrices (ledger : Ledger) (requestId : String) : Prop :=
  ∀ row, ledger.find requestId = some row → row.WholePrices

theorem LedgerOp.step_whole {op : LedgerOp} (h : op.step iso ledger = some next)
    (hwhole : ledger.WholePrices requestId) : next.WholePrices requestId := by
  have hstep := @LedgerOp.step_row iso requestId ledger next op h
  unfold Ledger.WholePrices at hwhole ⊢
  generalize ledger.find requestId = row at hstep hwhole
  generalize next.find requestId = row' at hstep
  generalize op.prices requestId = prices at hstep
  rintro last rfl
  cases hstep with
  | opened hwhole => exact hwhole
  | kept _ hprices => exact (hwhole _ rfl).congr hprices
  | replaced hwhole => exact hwhole

end Steps

/-! ## Runs -/

/-- A finalize brings prices, and the row holds others. -/
abbrev Reprices (requestId : String) : Ledger → LedgerOp → Prop :=
  WriteOnce.Overrides (fun ledger => ledger.snapshot requestId) (LedgerOp.prices requestId)

section Runs

variable {iso : Iso8601} {requestId : String} {ledger last : Ledger} {ops : List LedgerOp}

/-- In every run a row has all three prices or none; and the snapshot, once there, is frozen exactly
when no finalize of the run carries prices other than those the row holds by then. -/
theorem prices_frozen_iff (hstart : ledger.find requestId = none)
    (hrun : Duty.run (LedgerOp.step iso) ledger ops = some last) :
    last.WholePrices requestId ∧
      (WriteOnce.Frozen (LedgerOp.step iso) (fun ledger => ledger.snapshot requestId)
          ledger last ops ↔
        Duty.Undisturbed (LedgerOp.step iso) (Reprices requestId) ledger ops) := by
  have hwhole : ledger.WholePrices requestId := fun row hrow => by
    rw [hstart] at hrow
    cases hrow
  have hkeeps : ∀ ledger op next, LedgerOp.step iso ledger op = some next →
      ledger.WholePrices requestId → next.WholePrices requestId :=
    fun _ _ _ hstep => LedgerOp.step_whole hstep
  exact ⟨@Duty.run_keeps Ledger LedgerOp _ ledger last (fun ledger => ledger.WholePrices requestId)
      hkeeps ops hrun hwhole,
    WriteOnce.frozen_iff (fun _ _ _ _ hstep => LedgerOp.step_snapshot hstep) hrun⟩

end Runs

namespace Sample

/-- A request accepted at one price and finalized at another. -/
def repriced : List LedgerOp :=
  [.write none (.accept (pricedRecord 95000)), .write none (.finalize (pricedRecord 190000))]

/-- The tables after a run. -/
def ledgerAfter (ops : List LedgerOp) : Ledger :=
  (Duty.run (LedgerOp.step iso) emptyLedger ops).getD emptyLedger

theorem run_repriced : Duty.run (LedgerOp.step iso) emptyLedger repriced =
    some (ledgerAfter repriced) := by
  have hsome : (Duty.run (LedgerOp.step iso) emptyLedger repriced).isSome := by decide +kernel
  obtain ⟨last, hlast⟩ := Option.isSome_iff_exists.1 hsome
  rw [ledgerAfter, hlast, Option.getD_some]

end Sample

theorem prices_frozen_sample :
    (Sample.ledgerAfter Sample.repriced).WholePrices "r1" ∧
      (WriteOnce.Frozen (LedgerOp.step Sample.iso) (fun ledger => ledger.snapshot "r1")
          Sample.emptyLedger (Sample.ledgerAfter Sample.repriced) Sample.repriced ↔
        Duty.Undisturbed (LedgerOp.step Sample.iso) (Reprices "r1") Sample.emptyLedger
          Sample.repriced) :=
  prices_frozen_iff rfl Sample.run_repriced

/-- The row holds the price of the accept, and after the finalize the price of that. -/
theorem price_changed_by_finalize :
    (Sample.ledgerAfter (Sample.repriced.take 1)).snapshot "r1" =
        some (Sample.flatPrices 95000) ∧
      (Sample.ledgerAfter Sample.repriced).snapshot "r1" = some (Sample.flatPrices 190000) ∧
      Duty.run (LedgerOp.step Sample.iso) Sample.emptyLedger Sample.repriced =
        some (Sample.ledgerAfter Sample.repriced) ∧
      ¬ WriteOnce.Frozen (LedgerOp.step Sample.iso) (fun ledger => ledger.snapshot "r1")
        Sample.emptyLedger (Sample.ledgerAfter Sample.repriced) Sample.repriced := by
  have hbefore : (Sample.ledgerAfter (Sample.repriced.take 1)).snapshot "r1" =
      some (Sample.flatPrices 95000) := by
    decide +kernel
  have hafter : (Sample.ledgerAfter Sample.repriced).snapshot "r1" =
      some (Sample.flatPrices 190000) := by
    decide +kernel
  refine ⟨hbefore, hafter, Sample.run_repriced, fun hfrozen => ?_⟩
  have hheld : (Sample.ledgerAfter Sample.repriced).snapshot "r1" = some (Sample.flatPrices 95000) :=
    hfrozen (Sample.repriced.take 1) (Sample.repriced.drop 1)
      (Sample.ledgerAfter (Sample.repriced.take 1)) _ rfl rfl hbefore
  rw [hafter] at hheld
  exact absurd hheld (by decide +kernel)

end PartnerPortal
