import PartnerPortal.Dashboard.Query
import PartnerPortal.Lib.Totals

/-!
# The rollup's readers

The summary, the time series and the model list of a scope and a window, read from `usage_hourly`, and
the summary's count of requests without usage, read from the ledger's rows.

Results:
- `allSums_ok` — the sums of a `SELECT` are those of its columns;
- `selectRows_rollup` — the buckets a statement selects are the ones its filter asks for.
-/

namespace PartnerPortal.Dashboard

open MachineInt Prepared RunningSum

/-! ## Sums over buckets -/

/-- `SUM` of a counter. -/
def columnSum (rows : List Bucket) (c : Counter) : Except SqliteError (Option Total) :=
  (sum (rows.map fun bucket => bucket.counters c)).mapError fun _ => .integerOverflow

/-- The sums of a `SELECT`, one for each counter. -/
def allSums (rows : List Bucket) : Except SqliteError (Counter → Option Total) := do
  let requestCount ← columnSum rows .requestCount
  let successCount ← columnSum rows .successCount
  let failureCount ← columnSum rows .failureCount
  let totalInputTokens ← columnSum rows .totalInputTokens
  let totalOutputTokens ← columnSum rows .totalOutputTokens
  let totalCachedTokens ← columnSum rows .totalCachedTokens
  let totalDurationMs ← columnSum rows .totalDurationMs
  let totalTtftMs ← columnSum rows .totalTtftMs
  let ttftCount ← columnSum rows .ttftCount
  return fun
    | .requestCount => requestCount
    | .successCount => successCount
    | .failureCount => failureCount
    | .totalInputTokens => totalInputTokens
    | .totalOutputTokens => totalOutputTokens
    | .totalCachedTokens => totalCachedTokens
    | .totalDurationMs => totalDurationMs
    | .totalTtftMs => totalTtftMs
    | .ttftCount => ttftCount

theorem allSums_ok {rows : List Bucket} {sums : Counter → Option Total} (h : allSums rows = .ok sums)
    (c : Counter) : columnSum rows c = .ok (sums c) := by
  obtain ⟨requestCount, hrequests, h⟩ := Result.bind_ok_iff.1 h
  obtain ⟨successCount, hsuccesses, h⟩ := Result.bind_ok_iff.1 h
  obtain ⟨failureCount, hfailures, h⟩ := Result.bind_ok_iff.1 h
  obtain ⟨inputTokens, hinput, h⟩ := Result.bind_ok_iff.1 h
  obtain ⟨outputTokens, houtput, h⟩ := Result.bind_ok_iff.1 h
  obtain ⟨cachedTokens, hcached, h⟩ := Result.bind_ok_iff.1 h
  obtain ⟨durationMs, hduration, h⟩ := Result.bind_ok_iff.1 h
  obtain ⟨ttftMs, httft, h⟩ := Result.bind_ok_iff.1 h
  obtain ⟨ttftCount, hcount, h⟩ := Result.bind_ok_iff.1 h
  obtain rfl := Except.ok.inj h
  cases c <;> assumption

/-- `row.get::<_, i64>`: a `NULL` or a floating-point number is not one. -/
def getI64 : Option Total → Except SqliteError Int
  | some (.integer n) => .ok n
  | _ => .error .other

/-- `COALESCE(…, 0)` -/
def orZero (value : Option Total) : Option Total := some (value.getD (.integer 0))

/-- A sum over a count of items, not divided out. -/
structure Mean where
  total : Option Total
  count : Option Total
deriving Repr, DecidableEq

/-- `CASE WHEN count > 0 THEN total * 1.0 / count END` -/
def meanOf (total count : Option Total) : Option Mean :=
  if count.any fun n => !n.notPositive then some ⟨total, count⟩ else none

/-- The rows that a statement without trailing parameters selects. -/
def selectRows {ρ : Type} (conds : List (Cond ρ)) (params : List Value) (table : List ρ) :
    Except SqliteError (List ρ) :=
  match query conds 0 params table with
  | some (rows, _) => .ok rows
  | none => .error .other

theorem selectRows_congr {ρ : Type} {conds conds' : List (Cond ρ)} {params params' : List Value}
    {table table' : List ρ} (h : query conds 0 params table = query conds' 0 params' table') :
    selectRows conds params table = selectRows conds' params' table' := by
  rw [selectRows, selectRows, h]

/-! ## Summary -/

structure RollupFilter where
  scope : Scope
  window : TimeWindow
  model : Option String

namespace RollupFilter

variable (filter : RollupFilter)

/-- The `WHERE` of a read of `usage_hourly`. -/
def conds : List (Cond Bucket) :=
  [filter.scope.cond fun bucket => bucket.key.consumerId,
    .column (fun bucket => .text bucket.key.hour) Value.atLeast .next,
    .column (fun bucket => .text bucket.key.hour) Value.atMost .next,
    .ifGiven (fun bucket => .text bucket.key.model) .next .next]

def params : List Value :=
  filter.scope.params ++ [.text filter.window.startHour, .text filter.window.endHour,
    .ofOption filter.model, .ofOption filter.model]

/-- The `WHERE` of the count of requests without usage. -/
def recordConds : List (Cond UsageRow) :=
  [filter.scope.cond UsageRow.consumerId,
    .column (fun row => .text row.createdAt) Value.atLeast .next,
    .column (fun row => .text row.createdAt) Value.below .next,
    .ifGiven (fun row => .text row.model) .next .next,
    .test fun row => some (row.usageStatus = .unavailable),
    .test fun row => some (row.requestStatus ≠ .inFlight)]

def recordParams : List Value :=
  filter.scope.params ++ [.text filter.window.startTs, .text filter.window.endTs,
    .ofOption filter.model, .ofOption filter.model]

end RollupFilter

structure SummaryResponse where
  totalRequests : Nat
  successCount : Nat
  failureCount : Nat
  totalInputTokens : Nat
  totalOutputTokens : Nat
  totalCachedTokens : Nat
  avgLatencyMs : Option Mean
  avgTtftMs : Option Mean
  /-- none is zero -/
  successRate : Option Mean
  unavailableUsageCount : Nat
deriving Repr, DecidableEq

/-- The sums of the summary, before the requests without usage are counted. -/
def readSummary (filter : RollupFilter) (hourly : List Bucket) : Except SqliteError SummaryResponse := do
  let rows ← selectRows filter.conds filter.params hourly
  let sums ← allSums rows
  let totalRequests ← getI64 (orZero (sums .requestCount))
  let successCount ← getI64 (orZero (sums .successCount))
  let failureCount ← getI64 (orZero (sums .failureCount))
  let totalInputTokens ← getI64 (orZero (sums .totalInputTokens))
  let totalOutputTokens ← getI64 (orZero (sums .totalOutputTokens))
  let totalCachedTokens ← getI64 (orZero (sums .totalCachedTokens))
  return {
    totalRequests := asU64 totalRequests
    successCount := asU64 successCount
    failureCount := asU64 failureCount
    totalInputTokens := asU64 totalInputTokens
    totalOutputTokens := asU64 totalOutputTokens
    totalCachedTokens := asU64 totalCachedTokens
    avgLatencyMs := meanOf (sums .totalDurationMs) (sums .requestCount)
    avgTtftMs := meanOf (sums .totalTtftMs) (sums .ttftCount)
    successRate := meanOf (sums .successCount) (sums .requestCount)
    unavailableUsageCount := 0 }

/-- What a query reads of the rollup, in a window. -/
def rollupFilter (consumer : ConsumerContext) (query : DashboardQuery) (window : TimeWindow) :
    RollupFilter where
  scope := resolveScope consumer query.consumers
  window := window
  model := modelFilter query

section Handlers

variable (texts : Texts) (now : Instant) (retentionDays : UInt32) (consumer : ConsumerContext)
  (query : DashboardQuery)

def getSummary (hourly : List Bucket) (records : List UsageRow) : Answer SummaryResponse := do
  let window ← TimeWindow.resolve texts now retentionDays query
  let filter := rollupFilter consumer query window
  let summary ← orDatabase (readSummary filter hourly)
  let unavailable ← orDatabase (selectRows filter.recordConds filter.recordParams records)
  return { summary with unavailableUsageCount := unavailable.length }

end Handlers

/-! ## Time series -/

structure TimeseriesPoint where
  hour : String
  requests : Nat
  successCount : Nat
  failureCount : Nat
  inputTokens : Nat
  outputTokens : Nat
  cachedTokens : Nat
  totalDurationMs : Nat
  totalTtftMs : Nat
  ttftCount : Nat
deriving Repr, DecidableEq

/-- One row of the series. -/
def timeseriesPoint (hour : String) (rows : List Bucket) : Except SqliteError TimeseriesPoint := do
  let sums ← allSums rows
  let requests ← getI64 (sums .requestCount)
  let successCount ← getI64 (sums .successCount)
  let failureCount ← getI64 (sums .failureCount)
  let inputTokens ← getI64 (sums .totalInputTokens)
  let outputTokens ← getI64 (sums .totalOutputTokens)
  let cachedTokens ← getI64 (sums .totalCachedTokens)
  let totalDurationMs ← getI64 (sums .totalDurationMs)
  let totalTtftMs ← getI64 (sums .totalTtftMs)
  let ttftCount ← getI64 (sums .ttftCount)
  return {
    hour := hour
    requests := asU64 requests
    successCount := asU64 successCount
    failureCount := asU64 failureCount
    inputTokens := asU64 inputTokens
    outputTokens := asU64 outputTokens
    cachedTokens := asU64 cachedTokens
    totalDurationMs := asU64 totalDurationMs
    totalTtftMs := asU64 totalTtftMs
    ttftCount := asU64 ttftCount }

/-- The values of a column, each once and in order. -/
def distinct (values : List String) : List String := values.dedup.insertionSort fun a b => !(b < a)

def readTimeseries (filter : RollupFilter) (hourly : List Bucket) :
    Except SqliteError (List TimeseriesPoint) := do
  let rows ← selectRows filter.conds filter.params hourly
  (distinct (rows.map fun bucket => bucket.key.hour)).mapM fun hour =>
    timeseriesPoint hour (Sql.group (fun bucket : Bucket => bucket.key.hour) rows hour)

section Handlers

variable (texts : Texts) (now : Instant) (retentionDays : UInt32) (consumer : ConsumerContext)
  (query : DashboardQuery)

def getTimeseries (hourly : List Bucket) : Answer (List TimeseriesPoint) := do
  let window ← TimeWindow.resolve texts now retentionDays query
  orDatabase (readTimeseries (rollupFilter consumer query window) hourly)

/-- The `WHERE` of the model list. -/
def modelConds (scope : Scope) : List (Cond Bucket) :=
  [scope.cond fun bucket => bucket.key.consumerId,
    .column (fun bucket => .text bucket.key.hour) Value.atLeast .next,
    .column (fun bucket => .text bucket.key.hour) Value.atMost .next]

/-- The models of a scope.  The query's own model does not filter them. -/
def getModels (hourly : List Bucket) : Answer (List String) := do
  let window ← TimeWindow.resolve texts now retentionDays query
  let scope := resolveScope consumer query.consumers
  let rows ← orDatabase (selectRows (modelConds scope)
    (scope.params ++ [.text window.startHour, .text window.endHour]) hourly)
  return distinct (rows.map fun bucket => bucket.key.model)

end Handlers

/-! ## What the statements select -/

section Statements

variable (filter : RollupFilter)

/-- The conditions on a bucket, with their values. -/
def RollupFilter.bound : List (BoundCond Bucket) :=
  [filter.scope.boundCond fun bucket => bucket.key.consumerId,
    .compare (fun bucket => .text bucket.key.hour) Value.atLeast (.text filter.window.startHour),
    .compare (fun bucket => .text bucket.key.hour) Value.atMost (.text filter.window.endHour),
    .ifGiven (fun bucket => bucket.key.model) filter.model]

/-- The buckets a filter asks for. -/
def RollupFilter.wants (bucket : Bucket) : Bool :=
  filter.scope.contains bucket.key.consumerId && !decide (bucket.key.hour < filter.window.startHour) &&
    !decide (filter.window.endHour < bucket.key.hour) &&
    filter.model.all fun m => bucket.key.model = m

theorem bucket_conds : filter.bound.map BoundCond.cond = filter.conds := rfl

theorem bucket_values : filter.bound.flatMap BoundCond.values = filter.params := by
  simp [RollupFilter.bound, RollupFilter.params, Scope.boundCond, BoundCond.compare, BoundCond.ifGiven]

theorem selectRows_bound {ρ : Type} (parts : List (BoundCond ρ)) (table : List ρ) :
    selectRows (parts.map BoundCond.cond) (parts.flatMap BoundCond.values) table =
      .ok (table.filter fun row => parts.all fun part => part.selects row) := by
  have hquery := query_bound parts [] table
  rw [List.append_nil, List.length_nil] at hquery
  rw [selectRows, hquery]

/-- The buckets a statement selects are the ones its filter asks for. -/
theorem selectRows_rollup (hourly : List Bucket) :
    selectRows filter.conds filter.params hourly = .ok (hourly.filter filter.wants) := by
  have hselects : ∀ bucket, (filter.bound.all fun part => part.selects bucket) = filter.wants bucket := by
    intro bucket
    simp only [RollupFilter.bound, List.all_cons, List.all_nil, Bool.and_true,
      Scope.boundCond_selects, BoundCond.compare_selects, BoundCond.ifGiven_selects, Value.atLeast,
      selects_atMost_text, RollupFilter.wants, Bool.and_assoc]
  have hrows := selectRows_bound filter.bound hourly
  rw [bucket_conds, bucket_values] at hrows
  simpa only [hselects] using hrows

/-- The conditions of the count of requests without usage, with their values. -/
def recordBound (filter : RollupFilter) : List (BoundCond UsageRow) :=
  [filter.scope.boundCond UsageRow.consumerId,
    .compare (fun row => .text row.createdAt) Value.atLeast (.text filter.window.startTs),
    .compare (fun row => .text row.createdAt) Value.below (.text filter.window.endTs),
    .ifGiven UsageRow.model filter.model,
    .test fun row => some (row.usageStatus = .unavailable),
    .test fun row => some (row.requestStatus ≠ .inFlight)]

/-- The count of requests without usage never fails. -/
theorem selectRows_records_isOk (records : List UsageRow) :
    ∃ rows, selectRows filter.recordConds filter.recordParams records = .ok rows :=
  ⟨_, selectRows_bound (recordBound filter) records⟩

end Statements

end PartnerPortal.Dashboard
