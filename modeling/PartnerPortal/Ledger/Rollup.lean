import PartnerPortal.Ledger.Types
import PartnerPortal.Lib.RunningSum

/-!
# The hourly rollup

What one request adds to its bucket of `usage_hourly`, and the two ways it is read: from the record
a finalize carries, and from the row stored for it.

Results:
- `contributionOf_formatInstant` — what a row contributes, for a timestamp the ledger wrote;
- `amount_nonneg` — no row contributes a negative amount.
-/

namespace PartnerPortal

open MachineInt

/-- The bucket a request rolls up into. -/
structure BucketKey where
  hour : String
  consumerId : String
  model : String
  endpoint : Endpoint
  streaming : Bool
deriving DecidableEq

/-- The bucket of a request, from the instant it was accepted at. -/
def BucketKey.fromRecord (record : RequestRecord) : BucketKey where
  hour := formatInstantHour record.createdAt
  consumerId := record.consumerId
  model := record.model
  endpoint := record.endpoint
  streaming := record.streaming

/-- What one request adds to its bucket. -/
structure Metrics where
  inputTokens : Int := 0
  outputTokens : Int := 0
  cachedTokens : Int := 0
  durationMs : Int := 0
  ttftMs : Int := 0
  ttftCount : Int := 0
  successCount : Int := 0
  failureCount : Int := 0
deriving Repr, DecidableEq

/-- The counters of a row of `usage_hourly`. -/
inductive Counter where
  | requestCount
  | totalInputTokens
  | totalOutputTokens
  | totalCachedTokens
  | totalDurationMs
  | totalTtftMs
  | ttftCount
  | successCount
  | failureCount
deriving Repr, DecidableEq

/-- The amount added to each counter. -/
def Metrics.amount (m : Metrics) : Counter → Int
  | .requestCount => 1
  | .totalInputTokens => m.inputTokens
  | .totalOutputTokens => m.outputTokens
  | .totalCachedTokens => m.cachedTokens
  | .totalDurationMs => m.durationMs
  | .totalTtftMs => m.ttftMs
  | .ttftCount => m.ttftCount
  | .successCount => m.successCount
  | .failureCount => m.failureCount

/-- A row of `usage_hourly`. -/
abbrev Bucket := RunningSum.Row BucketKey Counter

/-- `i32::from` -/
def flag (b : Bool) : Int := if b then 1 else 0

def RequestStatus.isFailure : RequestStatus → Bool
  | .failed | .interrupted => true
  | _ => false

/-- One request's effect on one bucket. -/
structure Contribution where
  key : BucketKey
  metrics : Metrics
deriving DecidableEq

namespace Contribution

/-- The contribution of a terminal record, into the bucket `key`. -/
def terminal (record : RequestRecord) (key : BucketKey) : Contribution where
  key := key
  metrics := {
    inputTokens := asI64 ((record.usage.inputTokens.getD 0).toNat : Int)
    outputTokens := asI64 ((record.usage.outputTokens.getD 0).toNat : Int)
    cachedTokens := asI64 ((record.usage.cachedTokens.getD 0).toNat : Int)
    durationMs := asI64 (record.durationMs.toNat : Int)
    ttftMs := asI64 ((record.ttftMs.getD 0).toNat : Int)
    ttftCount := flag record.ttftMs.isSome
    successCount := flag (record.requestStatus = .completed)
    failureCount := flag record.requestStatus.isFailure }

/-- The contribution of a request stranded mid-flight and recovered as interrupted. -/
def interrupted (durationMs : Int) : Metrics where
  failureCount := 1
  durationMs := durationMs

/-- The key and the amounts. -/
def item (x : Contribution) : RunningSum.Item BucketKey Counter :=
  (x.key, x.metrics.amount)

/-- Apply a contribution to its bucket, creating it if needed. -/
def add (x : Contribution) (hourly : List Bucket) : List Bucket :=
  RunningSum.add hourly x.item

/-- Undo a contribution, and delete a bucket it empties. -/
def retract (x : Contribution) (hourly : List Bucket) : List Bucket :=
  RunningSum.retract .requestCount hourly x.item

end Contribution

/-- A stored row, as the rollup needs to see it. -/
structure StoredRow where
  status : RequestStatus
  key : BucketKey
  contribution : Metrics
deriving DecidableEq

/-- An integer column, or zero. -/
def columnValue (value : Option Count) : Int := (value.map Count.value).getD 0

/-- The columns of a row the rollup reads, with the hour of its bucket. -/
def StoredRow.ofColumns (row : UsageRow) (hour : String) : StoredRow where
  status := row.requestStatus
  key := {
    hour := hour
    consumerId := row.consumerId
    model := row.model
    endpoint := row.endpoint
    streaming := row.streaming }
  contribution := {
    inputTokens := columnValue row.inputTokens
    outputTokens := columnValue row.outputTokens
    cachedTokens := columnValue row.cachedTokens
    durationMs := row.durationMs
    ttftMs := columnValue row.ttftMs
    ttftCount := flag row.ttftMs.isSome
    successCount := flag (row.requestStatus = .completed)
    failureCount := flag row.requestStatus.isFailure }

/-- `StoredRow::load`, of a row that was found. -/
def storedRow (iso : Iso8601) (row : UsageRow) : Except Panic StoredRow := do
  let hour ← formatHourStr iso row.createdAt
  return StoredRow.ofColumns row hour

/-- `StoredRow::contribution`: nothing for a row in flight. -/
def StoredRow.contributes (row : StoredRow) : Option Contribution :=
  if row.status.isTerminal then some ⟨row.key, row.contribution⟩ else none

/-! ## Reading a stored row -/

/-- A row's timestamp is one the ledger wrote. -/
def UsageRow.Stamped (row : UsageRow) : Prop :=
  ∃ t : Instant, row.createdAt = formatInstant t

theorem storedRow_formatInstant {row : UsageRow} {t : Instant}
    (h : row.createdAt = formatInstant t) (iso : Iso8601) :
    storedRow iso row = .ok (StoredRow.ofColumns row (formatInstantHour t)) := by
  rw [storedRow, h, formatHourStr_formatInstant]
  rfl

theorem UsageRow.Stamped.storedRow_isOk {row : UsageRow} (h : row.Stamped) (iso : Iso8601) :
    ∃ stored, storedRow iso row = .ok stored :=
  h.elim fun _ ht => ⟨_, storedRow_formatInstant ht iso⟩

/-- What a row contributes to the rollup, as its stored columns are read. -/
def contributionOf (iso : Iso8601) (row : UsageRow) : Option Contribution :=
  match storedRow iso row with
  | .ok stored => stored.contributes
  | .error _ => none

theorem contributionOf_formatInstant {row : UsageRow} {t : Instant}
    (h : row.createdAt = formatInstant t) (iso : Iso8601) :
    contributionOf iso row =
      if row.requestStatus.isTerminal then
        some ⟨(StoredRow.ofColumns row (formatInstantHour t)).key,
          (StoredRow.ofColumns row (formatInstantHour t)).contribution⟩
      else none := by
  simp only [contributionOf, storedRow_formatInstant h, StoredRow.contributes,
    StoredRow.ofColumns]

theorem flag_nonneg (b : Bool) : 0 ≤ flag b := by
  cases b <;> decide

theorem columnValue_nonneg (value : Option Count) : 0 ≤ columnValue value := by
  cases value with
  | none => exact le_rfl
  | some c => exact c.nonneg

/-- A row with a duration that is not negative contributes no negative amount. -/
theorem amount_nonneg {row : UsageRow} {hour : String} (h : 0 ≤ row.durationMs) (c : Counter) :
    0 ≤ (StoredRow.ofColumns row hour).contribution.amount c := by
  cases c with
  | requestCount => exact Int.one_nonneg
  | totalInputTokens | totalOutputTokens | totalCachedTokens | totalTtftMs =>
    exact columnValue_nonneg _
  | totalDurationMs => exact h
  | ttftCount | successCount | failureCount => exact flag_nonneg _

end PartnerPortal
