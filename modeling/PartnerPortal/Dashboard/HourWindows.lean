import PartnerPortal.Dashboard.ExactRollup
import PartnerPortal.Dashboard.Requests
import PartnerPortal.Ledger.Hours

/-!
# Windows on hour boundaries

The summary and the time series read whole hours of `usage_hourly`, the hour of the window's end among
them.  A window that ends now needs that hour; a window that ends on the boundary of an hour ends before
it, and the request list and the count of requests without usage stop there.

Results:
- `hour_windows_exact_iff` — the totals and the points of a custom window on hour boundaries cover the
  terminal rows of the window exactly if none that matches was accepted in the hour after it, and adjacent
  windows add up exactly if none was in the hour between them.
-/

namespace PartnerPortal

open MachineInt FixedWidth

/-! ## Hours as texts -/

/-- A stored hour compares with the hour of any instant of the calendar as the two hours do. -/
theorem formatInstantHour_lt_hourText_iff {t : Instant} {nanos : Int}
    (h : nanos < (maxDay + 1) * nanosPerDay) :
    formatInstantHour t < String.ofList (hourText nanos) ↔
      t.nanos / nanosPerHour < nanos / nanosPerHour := by
  rw [formatInstantHour, ofList_lt_iff]
  rcases yearNeg_or_fourDigitYear h with hneg | hyear
  · exact iff_of_false (lt_asymm (dateText_lt_of_year_neg hneg t.fourDigitYear _ _))
      (lt_asymm (t.hour_gt_of_year_neg hneg))
  · exact hourText_lt_hourText_iff t.fourDigitYear hyear

theorem hourText_lt_formatInstantHour_iff {t : Instant} {nanos : Int}
    (h : nanos < (maxDay + 1) * nanosPerDay) :
    String.ofList (hourText nanos) < formatInstantHour t ↔
      nanos / nanosPerHour < t.nanos / nanosPerHour := by
  rw [formatInstantHour, ofList_lt_iff]
  rcases yearNeg_or_fourDigitYear h with hneg | hyear
  · exact iff_of_true (dateText_lt_of_year_neg hneg t.fourDigitYear _ _)
      (t.hour_gt_of_year_neg hneg)
  · exact hourText_lt_hourText_iff hyear t.fourDigitYear

/-! ## The rows of a window -/

/-- What a terminal row counts for. -/
def UsageRow.figure (row : UsageRow) : Counter → Int
  | .requestCount => 1
  | .totalInputTokens => columnValue row.inputTokens
  | .totalOutputTokens => columnValue row.outputTokens
  | .totalCachedTokens => columnValue row.cachedTokens
  | .totalDurationMs => row.durationMs
  | .totalTtftMs => columnValue row.ttftMs
  | .ttftCount => flag row.ttftMs.isSome
  | .successCount => flag (row.requestStatus = .completed)
  | .failureCount => flag row.requestStatus.isFailure

namespace Dashboard

/-- The total of a counter over some rows. -/
def totalOver (rows : List UsageRow) (c : Counter) : Int := (rows.map fun row => row.figure c).sum

/-- What the request list selects for the same query and any status. -/
def RollupFilter.requests (filter : RollupFilter) : RequestFilter where
  scope := filter.scope
  window := filter.window
  model := filter.model
  status := none

/-- The terminal rows of a window. -/
def windowRows (filter : RollupFilter) (records : List UsageRow) : List UsageRow :=
  records.filter fun row => row.requestStatus.isTerminal && filter.requests.wants row

/-- The totals of a summary. -/
def SummaryResponse.totals (summary : SummaryResponse) : List (Counter × Nat) :=
  [(.requestCount, summary.totalRequests), (.successCount, summary.successCount),
    (.failureCount, summary.failureCount), (.totalInputTokens, summary.totalInputTokens),
    (.totalOutputTokens, summary.totalOutputTokens), (.totalCachedTokens, summary.totalCachedTokens)]

/-- The totals of a point. -/
def TimeseriesPoint.totals (point : TimeseriesPoint) : List (Counter × Nat) :=
  [(.requestCount, point.requests), (.successCount, point.successCount),
    (.failureCount, point.failureCount), (.totalInputTokens, point.inputTokens),
    (.totalOutputTokens, point.outputTokens), (.totalCachedTokens, point.cachedTokens),
    (.totalDurationMs, point.totalDurationMs), (.totalTtftMs, point.totalTtftMs),
    (.ttftCount, point.ttftCount)]

/-- Totals that are those of some rows. -/
def TotalsOver (totals : List (Counter × Nat)) (rows : List UsageRow) : Prop :=
  ∀ x ∈ totals, (x.2 : Int) = totalOver rows x.1

/-- Whether a row was accepted in an hour. -/
def acceptedIn (iso : Iso8601) (hour : String) (row : UsageRow) : Bool :=
  match formatHourStr iso row.createdAt with
  | .ok h => h = hour
  | .error _ => false

/-- The rows of an hour. -/
def hourRows (iso : Iso8601) (rows : List UsageRow) (hour : String) : List UsageRow :=
  rows.filter (acceptedIn iso hour)

/-- The points of a series are one for each hour of some rows, with the totals of these. -/
structure SeriesOver (iso : Iso8601) (points : List TimeseriesPoint) (rows : List UsageRow) : Prop where
  once : (points.map TimeseriesPoint.hour).Nodup
  hours : ∀ hour, hour ∈ points.map TimeseriesPoint.hour ↔ hourRows iso rows hour ≠ []
  totals : ∀ point ∈ points, TotalsOver point.totals (hourRows iso rows point.hour)

/-- The rollup agrees with the rows, which the ledger has written. -/
structure RolledUp (iso : Iso8601) (ledger : Ledger) : Prop where
  stamped : ledger.Stamped
  durations : ∀ row ∈ ledger.records, 0 ≤ row.durationMs
  agrees : RunningSum.Agrees ledger.hourly (ledger.items iso)

/-- The rollup of a reachable ledger agrees with its rows. -/
theorem rolledUp_of_invariant {iso : Iso8601} {ledger : Ledger} (h : RollupInvariant iso ledger) :
    RolledUp iso ledger :=
  ⟨h.stamped, h.durations, h.agrees⟩

/-! ## Rows behind the buckets that are read -/

section Totals

variable {rows : List UsageRow} {c : Counter}

theorem totalOver_cons (row : UsageRow) (rows : List UsageRow) (c : Counter) :
    totalOver (row :: rows) c = row.figure c + totalOver rows c :=
  List.sum_cons

/-- The total of some rows is that of those that pass a test and of those that do not. -/
theorem totalOver_filter_add (p : UsageRow → Bool) (rows : List UsageRow) (c : Counter) :
    totalOver (rows.filter p) c + totalOver (rows.filter fun row => !p row) c = totalOver rows c := by
  rw [totalOver, totalOver, totalOver, ← List.sum_append, ← List.map_append]
  exact ((List.filter_append_perm p rows).map _).sum_eq

theorem figure_nonneg {row : UsageRow} (h : 0 ≤ row.durationMs) (c : Counter) : 0 ≤ row.figure c :=
  (@amount_nonneg row "" h c).trans_eq (by cases c <;> rfl)

theorem totalOver_nonneg (h : ∀ row ∈ rows, 0 ≤ row.durationMs) : 0 ≤ totalOver rows c := by
  refine List.sum_nonneg fun amount hamount => ?_
  obtain ⟨row, hrow, rfl⟩ := List.mem_map.1 hamount
  exact figure_nonneg (h row hrow) c

theorem totalOver_sublist {rows' : List UsageRow} (h : rows'.Sublist rows)
    (hdurations : ∀ row ∈ rows, 0 ≤ row.durationMs) : totalOver rows' c ≤ totalOver rows c := by
  refine (h.map _).sum_le_sum fun amount hamount => ?_
  obtain ⟨row, hrow, rfl⟩ := List.mem_map.1 hamount
  exact figure_nonneg (hdurations row hrow) c

theorem totalOver_requestCount (rows : List UsageRow) :
    totalOver rows .requestCount = rows.length := by
  rw [totalOver]
  simp [UsageRow.figure]

end Totals

/-- What a filter wants of a bucket's key. -/
def RollupFilter.wantsKey (filter : RollupFilter) (key : BucketKey) : Bool :=
  filter.scope.contains key.consumerId && !decide (key.hour < filter.window.startHour) &&
    !decide (filter.window.endHour < key.hour) && filter.model.all fun m => key.model = m

/-- The terminal rows whose bucket passes a test. -/
def rolledRows (iso : Iso8601) (p : BucketKey → Bool) (records : List UsageRow) : List UsageRow :=
  records.filter fun row => (contributionOf iso row).any fun x => p x.key

section Selected

variable {iso : Iso8601} {records : List UsageRow} {hourly : List Bucket} {p : BucketKey → Bool}

theorem amount_eq_figure {row : UsageRow} {x : Contribution} (h : row.Stamped)
    (hx : contributionOf iso row = some x) : x.metrics.amount = row.figure := by
  obtain ⟨t, ht⟩ := h
  rw [contributionOf_formatInstant ht] at hx
  obtain ⟨-, hsome⟩ := Option.ite_none_right_eq_some.1 hx
  rw [← Option.some.inj hsome]
  funext c
  cases c <;> rfl

/-- The items of some keys are the rows that roll up into them. -/
theorem totalOf_rolled (hstamped : ∀ row ∈ records, row.Stamped) (c : Counter) :
    RunningSum.totalOf (((records.filterMap (contributionOf iso)).map Contribution.item).filter
      fun item => p item.1) c = totalOver (rolledRows iso p records) c := by
  induction records with
  | nil => rfl
  | cons row records ih =>
    obtain ⟨hrow, hrecords⟩ := List.forall_mem_cons.1 hstamped
    rw [rolledRows, List.filter_cons]
    cases hx : contributionOf iso row with
    | none =>
      rw [List.filterMap_cons_none hx]
      exact ih hrecords
    | some x =>
      rw [List.filterMap_cons_some hx, List.map_cons, List.filter_cons, Option.any_some]
      cases hp : p x.key with
      | false => simpa [Contribution.item, hp, rolledRows] using ih hrecords
      | true =>
        simp only [Contribution.item, hp, if_true, RunningSum.totalOf_cons, totalOver_cons]
        rw [amount_eq_figure hrow hx]
        exact congrArg _ (ih hrecords)

theorem mem_keys_filter {k : BucketKey} :
    k ∈ (hourly.filter fun bucket => p bucket.key).map RunningSum.Row.key ↔
      k ∈ hourly.map RunningSum.Row.key ∧ p k = true := by
  simp only [List.mem_map, List.mem_filter]
  constructor
  · rintro ⟨bucket, ⟨hbucket, hp⟩, rfl⟩
    exact ⟨⟨bucket, hbucket, rfl⟩, hp⟩
  · rintro ⟨⟨bucket, hbucket, rfl⟩, hp⟩
    exact ⟨bucket, ⟨hbucket, hp⟩, rfl⟩

end Selected

section Read

variable {iso : Iso8601} {ledger : Ledger} {p : BucketKey → Bool} {c : Counter}

/-- The sum over the buckets that pass a test is the total of the rows that roll up into them. -/
theorem columnSum_rolled_iff (h : RolledUp iso ledger) (result : Option RunningSum.Total) :
    columnSum (ledger.hourly.filter fun bucket => p bucket.key) c = .ok result ↔
      totalOver (rolledRows iso p ledger.records) c ≤ i64Max ∧
        result = if ledger.hourly.filter (fun bucket => p bucket.key) = [] then none else
          some (.integer (totalOver (rolledRows iso p ledger.records) c)) := by
  have hnonneg : ∀ item ∈ ledger.items iso, ∀ c, 0 ≤ item.2 c :=
    fun item hitem => (items_amounts h.durations item hitem).2
  have hkeys : (ledger.items iso).filter (fun item => item.1 ∈
      (ledger.hourly.filter fun bucket => p bucket.key).map RunningSum.Row.key) =
      (ledger.items iso).filter fun item => p item.1 := by
    refine List.filter_congr fun item hitem => ?_
    have hkey : item.1 ∈ ledger.hourly.map RunningSum.Row.key :=
      (h.agrees.exists_iff _).2 (List.mem_map_of_mem hitem)
    simp only [mem_keys_filter, hkey, true_and, Bool.decide_eq_true]
  have htotal := @totalOf_rolled iso ledger.records p h.stamped c
  rw [columnSum_ok_iff h.agrees hnonneg List.filter_sublist, hkeys]
  exact htotal ▸ Iff.rfl

/-- A row rolls up into some bucket that passes exactly if there is such a bucket. -/
theorem rolledRows_eq_nil_iff (h : RolledUp iso ledger) :
    rolledRows iso p ledger.records = [] ↔
      ledger.hourly.filter (fun bucket => p bucket.key) = [] := by
  rw [rolledRows, List.filter_eq_nil_iff, List.filter_eq_nil_iff]
  constructor
  · intro hrows bucket hbucket hp
    obtain ⟨item, hitem, hkey⟩ :=
      List.mem_map.1 ((h.agrees.exists_iff _).1 (List.mem_map_of_mem hbucket))
    obtain ⟨x, hx, rfl⟩ := List.mem_map.1 hitem
    obtain ⟨row, hrow, hcontribution⟩ := List.mem_filterMap.1 hx
    refine hrows row hrow ?_
    rw [hcontribution, Option.any_some, show x.key = bucket.key from hkey]
    exact hp
  · intro hbuckets row hrow hany
    obtain ⟨x, hx, hp⟩ := (Option.any_eq_true _ _).1 hany
    have hitem : x.item ∈ ledger.items iso :=
      List.mem_map_of_mem (List.mem_filterMap.2 ⟨row, hrow, hx⟩)
    obtain ⟨bucket, hbucket, hkey⟩ :=
      List.mem_map.1 ((h.agrees.exists_iff _).2 (List.mem_map_of_mem hitem))
    exact hbuckets bucket hbucket (by rw [hkey]; exact hp)

theorem getI64_rolled (h : RolledUp iso ledger) {result : Option RunningSum.Total}
    (hsum : columnSum (ledger.hourly.filter fun bucket => p bucket.key) c = .ok result) :
    getI64 (orZero result) = .ok (totalOver (rolledRows iso p ledger.records) c) := by
  obtain ⟨-, rfl⟩ := (columnSum_rolled_iff h result).1 hsum
  split
  · rename_i hnone
    rw [(rolledRows_eq_nil_iff h).2 hnone]
    rfl
  · rfl

theorem asU64_of_range {n : Int} (hlow : 0 ≤ n) (hhigh : n ≤ i64Max) : (asU64 n : Int) = n := by
  unfold i64Max at hhigh
  rw [asU64, Int.emod_eq_of_lt hlow (by omega), Int.toNat_of_nonneg hlow]

variable {filter : RollupFilter}

/-- The sums of an answered summary are the totals of the rows behind the buckets it reads. -/
theorem readSummary_totals (h : RolledUp iso ledger) {summary : SummaryResponse}
    (hread : readSummary filter ledger.hourly = .ok summary) :
    (∀ c, totalOver (rolledRows iso filter.wantsKey ledger.records) c ≤ i64Max) ∧
      TotalsOver summary.totals (rolledRows iso filter.wantsKey ledger.records) := by
  rw [readSummary, selectRows_rollup, Result.ok_bind] at hread
  obtain ⟨sums, hsums, hread⟩ := Result.bind_ok_iff.1 hread
  have hcolumn : ∀ c, columnSum (ledger.hourly.filter fun bucket => filter.wantsKey bucket.key) c =
      .ok (sums c) := allSums_ok hsums
  have hfits := fun c => ((columnSum_rolled_iff h _).1 (hcolumn c)).1
  have hvalue : ∀ c, (asU64 (totalOver (rolledRows iso filter.wantsKey ledger.records) c) : Int) =
      totalOver (rolledRows iso filter.wantsKey ledger.records) c := fun c =>
    asU64_of_range (totalOver_nonneg fun row hrow => h.durations row (List.mem_of_mem_filter hrow))
      (hfits c)
  simp only [getI64_rolled h (hcolumn _), Result.ok_bind, Result.pure_eq, Except.ok.injEq] at hread
  refine ⟨hfits, ?_⟩
  rw [← hread]
  simp only [TotalsOver, SummaryResponse.totals, List.forall_mem_cons, List.not_mem_nil,
    false_implies, implies_true, and_true, hvalue]

theorem readSummary_isOk_of_fits (h : RolledUp iso ledger)
    (hfits : ∀ c, totalOver (rolledRows iso filter.wantsKey ledger.records) c ≤ i64Max) :
    ∃ summary, readSummary filter ledger.hourly = .ok summary := by
  have hcolumn := fun c => (columnSum_rolled_iff h _).2 ⟨hfits c, rfl⟩
  have hrows : ledger.hourly.filter filter.wants =
      ledger.hourly.filter fun bucket => filter.wantsKey bucket.key := rfl
  simp only [readSummary, selectRows_rollup, hrows, allSums, hcolumn, Result.ok_bind, Result.pure_eq,
    getI64_rolled h (hcolumn _)]
  exact ⟨_, rfl⟩

/-- A point is the totals of the rows behind its buckets. -/
theorem timeseriesPoint_of_fits (h : RolledUp iso ledger) {hour : String}
    (hne : ledger.hourly.filter (fun bucket => p bucket.key) ≠ [])
    (hfits : ∀ c, totalOver (rolledRows iso p ledger.records) c ≤ i64Max) :
    ∃ point, timeseriesPoint hour (ledger.hourly.filter fun bucket => p bucket.key) = .ok point ∧
      point.hour = hour ∧ TotalsOver point.totals (rolledRows iso p ledger.records) := by
  have hcolumn := fun c => (columnSum_rolled_iff h _).2 ⟨hfits c, rfl⟩
  have hvalue : ∀ c, (asU64 (totalOver (rolledRows iso p ledger.records) c) : Int) =
      totalOver (rolledRows iso p ledger.records) c := fun c =>
    asU64_of_range (totalOver_nonneg fun row hrow => h.durations row (List.mem_of_mem_filter hrow))
      (hfits c)
  simp only [if_neg hne] at hcolumn
  simp only [timeseriesPoint, allSums, hcolumn, getI64, Result.ok_bind, Result.pure_eq]
  refine ⟨_, rfl, rfl, ?_⟩
  simp only [TotalsOver, TimeseriesPoint.totals, List.forall_mem_cons, List.not_mem_nil,
    false_implies, implies_true, and_true, hvalue]

theorem acceptedIn_eq {row : UsageRow} {t : Instant} (ht : row.createdAt = formatInstant t)
    (hour : String) : acceptedIn iso hour row = decide (formatInstantHour t = hour) := by
  rw [acceptedIn, ht, formatHourStr_formatInstant]

/-- The rows behind the buckets of one hour. -/
theorem rolledRows_hour (hstamped : ledger.Stamped) (hour : String) :
    rolledRows iso (fun key => p key && decide (key.hour = hour)) ledger.records =
      hourRows iso (rolledRows iso p ledger.records) hour := by
  rw [hourRows, rolledRows, rolledRows, List.filter_filter]
  refine List.filter_congr fun row hrow => ?_
  obtain ⟨t, ht⟩ := hstamped row hrow
  rw [contributionOf_formatInstant ht, acceptedIn_eq ht]
  split
  · rw [Option.any_some, Option.any_some, Bool.and_comm]
    rfl
  · rw [Option.any_none, Option.any_none, Bool.and_false]

theorem nodup_distinct (values : List String) : (distinct values).Nodup :=
  (List.perm_insertionSort _ _).nodup_iff.2 (List.nodup_dedup values)

theorem mem_distinct {values : List String} {value : String} :
    value ∈ distinct values ↔ value ∈ values := by
  rw [distinct, List.mem_insertionSort, List.mem_dedup]

theorem group_hour (hour : String) : Sql.group (fun bucket : Bucket => bucket.key.hour)
    (ledger.hourly.filter filter.wants) hour =
      ledger.hourly.filter fun bucket => filter.wantsKey bucket.key && decide (bucket.key.hour = hour) := by
  rw [Sql.group, List.filter_filter]
  exact List.filter_congr fun bucket _ => Bool.and_comm _ _

/-- The hours of the buckets that are read are those of the rows behind them. -/
theorem mem_hours_iff (h : RolledUp iso ledger) {hour : String} :
    hour ∈ distinct ((ledger.hourly.filter filter.wants).map fun bucket => bucket.key.hour) ↔
      hourRows iso (rolledRows iso filter.wantsKey ledger.records) hour ≠ [] := by
  rw [← rolledRows_hour h.stamped, Ne, @rolledRows_eq_nil_iff iso ledger
    (fun key => filter.wantsKey key && decide (key.hour = hour)) h, ← group_hour,
    List.eq_nil_iff_forall_not_mem, not_forall_not, mem_distinct]
  simp only [List.mem_map, Sql.mem_group]

/-- One point of the series. -/
theorem timeseriesPoint_hour (h : RolledUp iso ledger)
    (hfits : ∀ c, totalOver (rolledRows iso filter.wantsKey ledger.records) c ≤ i64Max) {hour : String}
    (hhour : hourRows iso (rolledRows iso filter.wantsKey ledger.records) hour ≠ []) :
    ∃ point, timeseriesPoint hour (Sql.group (fun bucket : Bucket => bucket.key.hour)
        (ledger.hourly.filter filter.wants) hour) = .ok point ∧ point.hour = hour ∧
      TotalsOver point.totals (hourRows iso (rolledRows iso filter.wantsKey ledger.records) hour) := by
  rw [group_hour, ← rolledRows_hour h.stamped]
  refine @timeseriesPoint_of_fits iso ledger
    (fun key => filter.wantsKey key && decide (key.hour = hour)) h hour ?_ fun c => ?_
  · rw [← rolledRows_hour h.stamped] at hhour
    exact mt (@rolledRows_eq_nil_iff iso ledger
      (fun key => filter.wantsKey key && decide (key.hour = hour)) h).2 hhour
  · rw [rolledRows_hour h.stamped]
    exact le_trans (totalOver_sublist List.filter_sublist fun row hrow =>
      h.durations row (List.mem_of_mem_filter hrow)) (hfits c)

/-- The series is that of the rows behind the buckets it reads. -/
theorem readTimeseries_of_fits (h : RolledUp iso ledger)
    (hfits : ∀ c, totalOver (rolledRows iso filter.wantsKey ledger.records) c ≤ i64Max) :
    ∃ points, readTimeseries filter ledger.hourly = .ok points ∧
      SeriesOver iso points (rolledRows iso filter.wantsKey ledger.records) := by
  have hpoints : Nonempty TimeseriesPoint := ⟨⟨"", 0, 0, 0, 0, 0, 0, 0, 0, 0⟩⟩
  have hpoint := fun hour => @timeseriesPoint_hour iso ledger filter h hfits hour
  choose! point hok hhour htotals using hpoint
  have hof := fun hour (hmem : hour ∈ distinct ((ledger.hourly.filter filter.wants).map fun bucket =>
    bucket.key.hour)) => (mem_hours_iff h).1 hmem
  have hhours : ((distinct ((ledger.hourly.filter filter.wants).map fun bucket =>
      bucket.key.hour)).map point).map TimeseriesPoint.hour =
      distinct ((ledger.hourly.filter filter.wants).map fun bucket => bucket.key.hour) := by
    rw [List.map_map]
    exact (List.map_congr_left fun hour hmem => hhour hour (hof hour hmem)).trans (List.map_id' _)
  refine ⟨(distinct ((ledger.hourly.filter filter.wants).map fun bucket =>
    bucket.key.hour)).map point, ?_, ⟨?_, fun hour => ?_, fun x hx => ?_⟩⟩
  · rw [readTimeseries, selectRows_rollup, Result.ok_bind, Result.mapM_ok_iff,
      List.forall₂_map_right_iff, List.forall₂_same]
    exact fun hour hmem => hok hour (hof hour hmem)
  · rw [hhours]
    exact nodup_distinct _
  · rw [hhours, mem_hours_iff h]
  · obtain ⟨hour, hmem, rfl⟩ := List.mem_map.1 hx
    rw [hhour hour (hof hour hmem)]
    exact htotals hour (hof hour hmem)

end Read

/-! ## Windows on hour boundaries -/

/-- A text names the start of an hour. -/
def NamesHour (iso : Iso8601) (text : String) (hour : Int) : Prop :=
  ∃ ts, parseTs iso text = .ok (some ts) ∧ ts.nanos = hour * nanosPerHour

/-- The query for an explicitly chosen window. -/
def customQuery (query : DashboardQuery) (start finish : String) : DashboardQuery :=
  { query with range := "custom", start := some start, finish := some finish }

/-- The bounds of a window from one hour to another. -/
def hourWindow (a b : Int) : TimeWindow where
  startTs := String.ofList (tsText (a * nanosPerHour))
  endTs := String.ofList (tsText (b * nanosPerHour))
  startHour := String.ofList (hourText (a * nanosPerHour))
  endHour := String.ofList (hourText (b * nanosPerHour))

/-- A terminal row of a scope and a model, accepted in an hour. -/
def MatchesIn (consumer : ConsumerContext) (query : DashboardQuery) (hour : Int) (row : UsageRow) :
    Prop :=
  row.requestStatus.isTerminal ∧ (resolveScope consumer query.consumers).contains row.consumerId = true ∧
    (modelFilter query).all (fun m => row.model = m) = true ∧
    ∃ t : Instant, row.createdAt = formatInstant t ∧ t.nanos / nanosPerHour = hour

/-- No row that matches was accepted in an hour. -/
def NoneAt (consumer : ConsumerContext) (query : DashboardQuery) (records : List UsageRow)
    (hour : Int) : Prop :=
  ∀ row ∈ records, ¬MatchesIn consumer query hour row

/-- The handlers count the terminal rows of a window. -/
structure CountsWindow (texts : Texts) (now : Instant) (retentionDays : UInt32)
    (consumer : ConsumerContext) (query : DashboardQuery) (ledger : Ledger) (window : TimeWindow) :
    Prop where
  summary : ∃ summary,
    getSummary texts now retentionDays consumer query ledger.hourly ledger.records = .ok summary ∧
      TotalsOver summary.totals (windowRows (rollupFilter consumer query window) ledger.records)
  series : ∃ points,
    getTimeseries texts now retentionDays consumer query ledger.hourly = .ok points ∧
      SeriesOver texts.iso points (windowRows (rollupFilter consumer query window) ledger.records)

/-- The totals of two summaries are those of a third. -/
structure AddsUp (first second whole : SummaryResponse) : Prop where
  totalRequests : first.totalRequests + second.totalRequests = whole.totalRequests
  successCount : first.successCount + second.successCount = whole.successCount
  failureCount : first.failureCount + second.failureCount = whole.failureCount
  totalInputTokens : first.totalInputTokens + second.totalInputTokens = whole.totalInputTokens
  totalOutputTokens : first.totalOutputTokens + second.totalOutputTokens = whole.totalOutputTokens
  totalCachedTokens : first.totalCachedTokens + second.totalCachedTokens = whole.totalCachedTokens

open scoped Classical in
/-- The rows that match from one hour to before another. -/
noncomputable def between (consumer : ConsumerContext) (query : DashboardQuery)
    (records : List UsageRow) (a b : Int) : List UsageRow :=
  records.filter fun row => ∃ hour, a ≤ hour ∧ hour < b ∧ MatchesIn consumer query hour row

section Windows

variable {texts : Texts} {now : Instant} {retentionDays : UInt32} {query : DashboardQuery}
  {consumer : ConsumerContext} {x y : String} {a b : Int} {window : TimeWindow}

theorem orPanic_ok {α : Type} {r : Except Panic α} {v : α} (h : orPanic r = .ok v) : r = .ok v :=
  Result.mapError_ok_iff.1 h

theorem windowOf_ok {start finish : OffsetDateTime} (h : windowOf start finish = .ok window) :
    window = { startTs := String.ofList (tsText start.nanos)
               endTs := String.ofList (tsText finish.nanos)
               startHour := String.ofList (hourText start.nanos)
               endHour := String.ofList (hourText finish.nanos) } := by
  obtain ⟨startTs, hstartTs, h⟩ := Result.bind_ok_iff.1 h
  obtain ⟨endTs, hendTs, h⟩ := Result.bind_ok_iff.1 h
  obtain ⟨startHour, hstartHour, h⟩ := Result.bind_ok_iff.1 h
  obtain ⟨endHour, hendHour, h⟩ := Result.bind_ok_iff.1 h
  rw [← Except.ok.inj h, formatTs_ok (orPanic_ok hstartTs), formatTs_ok (orPanic_ok hendTs),
    formatHour_ok (orPanic_ok hstartHour), formatHour_ok (orPanic_ok hendHour)]

theorem customBound_eq {name raw : String} {ts : OffsetDateTime}
    (h : parseTs texts.iso raw = .ok (some ts)) : customBound texts name raw = .ok ts := by
  rw [customBound, h]
  rfl

/-- What an answered custom window on hour boundaries is. -/
theorem resolve_custom (hx : NamesHour texts.iso x a) (hy : NamesHour texts.iso y b)
    (hnow : b * nanosPerHour ≤ now.nanos)
    (h : TimeWindow.resolve texts now retentionDays (customQuery query x y) = .ok window) :
    window = hourWindow a b ∧ a < b := by
  obtain ⟨start, hstart, hstartNanos⟩ := hx
  obtain ⟨finish, hfinish, hfinishNanos⟩ := hy
  have hended : finish ≤ now.utc := by
    rw [OffsetDateTime.le_iff, hfinishNanos, Instant.nanos_utc]
    exact hnow
  obtain ⟨bounds, hbounds, h⟩ := Result.bind_ok_iff.1 h
  have hcustom : customRange texts (customQuery query x y) = .ok bounds := hbounds
  simp only [customRange, customQuery, customBound_eq hstart, customBound_eq hfinish,
    Result.ok_bind] at hcustom
  split at hcustom
  · cases hcustom
  · rename_i hlater
    cases hcustom
    obtain ⟨earliest, -, h⟩ := Result.bind_ok_iff.1 h
    split at h
    · obtain ⟨text, -, h⟩ := Result.bind_ok_iff.1 h
      cases h
    · refine ⟨?_, ?_⟩
      · rw [windowOf_ok h, hstartNanos, hfinishNanos, hourWindow]
      · rw [OffsetDateTime.le_iff, hstartNanos, hfinishNanos] at hlater
        unfold nanosPerHour at hlater
        omega

/-- The hour of a row and the bounds of a window, as texts. -/
theorem hour_bounds {t : Instant} (ha : a * nanosPerHour < (maxDay + 1) * nanosPerDay)
    (hb : b * nanosPerHour < (maxDay + 1) * nanosPerDay) :
    (formatInstantHour t < (hourWindow a b).startHour ↔ t.nanos / nanosPerHour < a) ∧
      ((hourWindow a b).endHour < formatInstantHour t ↔ b < t.nanos / nanosPerHour) ∧
      (formatInstant t < (hourWindow a b).startTs ↔ t.nanos / nanosPerHour < a) ∧
      (formatInstant t < (hourWindow a b).endTs ↔ t.nanos / nanosPerHour < b) := by
  have hdiv : ∀ n : Int, n * nanosPerHour / nanosPerHour = n :=
    fun n => Int.mul_ediv_cancel n (by decide)
  have hlt : ∀ n : Int, t.nanos < n * nanosPerHour ↔ t.nanos / nanosPerHour < n :=
    fun n => (Int.ediv_lt_iff_lt_mul (by decide)).symm
  simp only [hourWindow, formatInstantHour_lt_hourText_iff ha, hourText_lt_formatInstantHour_iff hb,
    formatInstant_lt_tsText_iff ha, formatInstant_lt_tsText_iff hb, hdiv, hlt, and_self]

variable {ledger : Ledger} {row : UsageRow}

theorem matchesIn_iff {t : Instant} (ht : row.createdAt = formatInstant t) {hour : Int} :
    MatchesIn consumer query hour row ↔ row.requestStatus.isTerminal = true ∧
      (resolveScope consumer query.consumers).contains row.consumerId = true ∧
      (modelFilter query).all (fun m => row.model = m) = true ∧ t.nanos / nanosPerHour = hour := by
  have hcreated : (∃ t' : Instant, row.createdAt = formatInstant t' ∧ t'.nanos / nanosPerHour = hour) ↔
      t.nanos / nanosPerHour = hour := by
    constructor
    · rintro ⟨t', ht', hhour⟩
      rwa [formatInstant_injective (ht.symm.trans ht')]
    · exact fun hhour => ⟨t, ht, hhour⟩
  rw [MatchesIn, hcreated]

/-- The rows behind the buckets that are read are those of the window and of the hour after it. -/
theorem rolled_iff (hstamped : row.Stamped) (ha : a * nanosPerHour < (maxDay + 1) * nanosPerDay)
    (hb : b * nanosPerHour < (maxDay + 1) * nanosPerDay) :
    ((contributionOf texts.iso row).any fun x =>
        (rollupFilter consumer query (hourWindow a b)).wantsKey x.key) = true ↔
      ∃ hour, a ≤ hour ∧ hour ≤ b ∧ MatchesIn consumer query hour row := by
  obtain ⟨t, ht⟩ := hstamped
  obtain ⟨hstart, hend, -, -⟩ := @hour_bounds a b t ha hb
  simp only [matchesIn_iff ht]
  rw [contributionOf_formatInstant ht]
  split
  · rename_i hterminal
    simp only [Option.any_some, RollupFilter.wantsKey, rollupFilter, StoredRow.ofColumns,
      Bool.and_eq_true, Bool.not_eq_true', decide_eq_false_iff_not, hstart, hend, hterminal, true_and]
    constructor
    · rintro ⟨⟨⟨hscope, hlow⟩, hhigh⟩, hmodel⟩
      exact ⟨_, not_lt.1 hlow, not_lt.1 hhigh, hscope, hmodel, rfl⟩
    · rintro ⟨hour, hlow, hhigh, hscope, hmodel, rfl⟩
      exact ⟨⟨⟨hscope, not_lt.2 hlow⟩, not_lt.2 hhigh⟩, hmodel⟩
  · rename_i hterminal
    simp only [Option.any_none, Bool.false_eq_true, false_iff, not_exists]
    exact fun hour h => hterminal h.2.2.1

/-- The rows of the window itself. -/
theorem window_iff (hstamped : row.Stamped) (ha : a * nanosPerHour < (maxDay + 1) * nanosPerDay)
    (hb : b * nanosPerHour < (maxDay + 1) * nanosPerDay) :
    (row.requestStatus.isTerminal &&
        (rollupFilter consumer query (hourWindow a b)).requests.wants row) = true ↔
      ∃ hour, a ≤ hour ∧ hour < b ∧ MatchesIn consumer query hour row := by
  obtain ⟨t, ht⟩ := hstamped
  obtain ⟨-, -, hstart, hend⟩ := @hour_bounds a b t ha hb
  simp only [matchesIn_iff ht, RollupFilter.requests, RequestFilter.wants, rollupFilter, ht, hstart,
    hend, Bool.and_eq_true, Bool.not_eq_true', decide_eq_false_iff_not, decide_eq_true_eq,
    Option.all_none, and_true]
  constructor
  · rintro ⟨hterminal, ⟨⟨hscope, hlow⟩, hhigh⟩, hmodel⟩
    exact ⟨_, not_lt.1 hlow, hhigh, hterminal, hscope, hmodel, rfl⟩
  · rintro ⟨hour, hlow, hhigh, hterminal, hscope, hmodel, rfl⟩
    exact ⟨hterminal, ⟨⟨hscope, not_lt.2 hlow⟩, hhigh⟩, hmodel⟩

variable {records : List UsageRow}

theorem windowRows_eq (hstamped : ∀ row ∈ records, row.Stamped)
    (ha : a * nanosPerHour < (maxDay + 1) * nanosPerDay)
    (hb : b * nanosPerHour < (maxDay + 1) * nanosPerDay) :
    windowRows (rollupFilter consumer query (hourWindow a b)) records =
      between consumer query records a b := by
  classical
  refine List.filter_congr fun row hrow => Bool.eq_iff_iff.2 ?_
  exact (window_iff (hstamped row hrow) ha hb).trans decide_eq_true_iff.symm

/-- What is read is one hour longer than the window. -/
theorem rolledRows_eq (hstamped : ∀ row ∈ records, row.Stamped)
    (ha : a * nanosPerHour < (maxDay + 1) * nanosPerDay)
    (hb : b * nanosPerHour < (maxDay + 1) * nanosPerDay) :
    rolledRows texts.iso (rollupFilter consumer query (hourWindow a b)).wantsKey records =
      between consumer query records a (b + 1) := by
  classical
  refine List.filter_congr fun row hrow => Bool.eq_iff_iff.2 ?_
  rw [rolled_iff (hstamped row hrow) ha hb, decide_eq_true_iff]
  simp only [Int.lt_add_one_iff]

/-- A row is accepted in one hour only. -/
theorem MatchesIn.unique {hour hour' : Int} (h : MatchesIn consumer query hour row)
    (h' : MatchesIn consumer query hour' row) : hour = hour' := by
  obtain ⟨-, -, -, t, ht, hhour⟩ := h
  obtain ⟨-, -, -, t', ht', hhour'⟩ := h'
  rw [← hhour, ← hhour', formatInstant_injective (ht.symm.trans ht')]

/-- The rows of two adjacent windows are those of the whole. -/
theorem totalOver_between (hab : a ≤ b) {z : Int} (hbz : b ≤ z) (c : Counter) :
    totalOver (between consumer query records a b) c + totalOver (between consumer query records b z) c =
      totalOver (between consumer query records a z) c := by
  classical
  have hfirst : between consumer query records a b = (between consumer query records a z).filter
      fun row => decide (∃ hour, a ≤ hour ∧ hour < b ∧ MatchesIn consumer query hour row) := by
    rw [between, between, List.filter_filter]
    refine List.filter_congr fun row _ => ?_
    rw [Bool.eq_iff_iff, Bool.and_eq_true, decide_eq_true_eq, decide_eq_true_eq]
    refine ⟨fun h => ⟨h, ?_⟩, And.left⟩
    obtain ⟨hour, hlow, hhigh, hmatch⟩ := h
    exact ⟨hour, hlow, hhigh.trans_le hbz, hmatch⟩
  have hsecond : between consumer query records b z = (between consumer query records a z).filter
      fun row => !decide (∃ hour, a ≤ hour ∧ hour < b ∧ MatchesIn consumer query hour row) := by
    rw [between, between, List.filter_filter]
    refine List.filter_congr fun row _ => ?_
    rw [Bool.eq_iff_iff, Bool.and_eq_true, Bool.not_eq_true', decide_eq_false_iff_not,
      decide_eq_true_eq, decide_eq_true_eq]
    constructor
    · rintro ⟨hour, hlow, hhigh, hmatch⟩
      refine ⟨?_, hour, hab.trans hlow, hhigh, hmatch⟩
      rintro ⟨hour', -, hbefore, hmatch'⟩
      rw [hmatch'.unique hmatch] at hbefore
      exact absurd hbefore (not_lt.2 hlow)
    · rintro ⟨hnot, hour, hlow, hhigh, hmatch⟩
      exact ⟨hour, not_lt.1 fun hbefore => hnot ⟨hour, hlow, hbefore, hmatch⟩, hhigh, hmatch⟩
  rw [hfirst, hsecond, totalOver_filter_add]

theorem between_one_eq_nil_iff :
    between consumer query records b (b + 1) = [] ↔ NoneAt consumer query records b := by
  classical
  rw [between, List.filter_eq_nil_iff]
  refine forall₂_congr fun row _ => not_congr ?_
  rw [decide_eq_true_eq]
  constructor
  · rintro ⟨hour, hlow, hhigh, hmatch⟩
    rwa [show b = hour by omega]
  · exact fun hmatch => ⟨b, le_rfl, Int.lt_succ b, hmatch⟩

/-- Where no row that matches was accepted in an hour, a window may go on over it. -/
theorem between_succ (hnone : NoneAt consumer query records b) :
    between consumer query records a (b + 1) = between consumer query records a b := by
  classical
  refine List.filter_congr fun row hrow => Bool.eq_iff_iff.2 ?_
  rw [decide_eq_true_iff, decide_eq_true_iff]
  constructor
  · rintro ⟨hour, hlow, hhigh, hmatch⟩
    refine ⟨hour, hlow, lt_of_le_of_ne (Int.lt_add_one_iff.1 hhigh) ?_, hmatch⟩
    rintro rfl
    exact hnone row hrow hmatch
  · rintro ⟨hour, hlow, hhigh, hmatch⟩
    exact ⟨hour, hlow, hhigh.trans (Int.lt_succ b), hmatch⟩

/-- The totals of the hour after a window are zero exactly if no row was accepted there. -/
theorem noneAt_iff_total : NoneAt consumer query records b ↔
    totalOver (between consumer query records b (b + 1)) .requestCount = 0 := by
  rw [← between_one_eq_nil_iff, totalOver_requestCount, Nat.cast_eq_zero, List.length_eq_zero_iff]

/-- A summary is answered from the sums of the rollup. -/
theorem getSummary_ok (hwindow : TimeWindow.resolve texts now retentionDays query = .ok window)
    {summary : SummaryResponse}
    (h : getSummary texts now retentionDays consumer query ledger.hourly ledger.records = .ok summary) :
    ∃ sums, readSummary (rollupFilter consumer query window) ledger.hourly = .ok sums ∧
      summary.totals = sums.totals := by
  rw [getSummary, hwindow, Result.ok_bind] at h
  obtain ⟨sums, hsums, h⟩ := Result.bind_ok_iff.1 h
  obtain ⟨unavailable, -, h⟩ := Result.bind_ok_iff.1 h
  rw [← Except.ok.inj h]
  exact ⟨sums, Result.mapError_ok_iff.1 hsums, rfl⟩

theorem getSummary_isOk (hwindow : TimeWindow.resolve texts now retentionDays query = .ok window)
    {sums : SummaryResponse}
    (h : readSummary (rollupFilter consumer query window) ledger.hourly = .ok sums) :
    ∃ summary,
      getSummary texts now retentionDays consumer query ledger.hourly ledger.records = .ok summary ∧
        summary.totals = sums.totals := by
  obtain ⟨rows, hrows⟩ := selectRows_records_isOk (rollupFilter consumer query window) ledger.records
  refine ⟨{ sums with unavailableUsageCount := rows.length }, ?_, rfl⟩
  simp only [getSummary, hwindow, Result.ok_bind, h, hrows]
  rfl

theorem totalRequests_of_totalsOver {summary : SummaryResponse} {rows : List UsageRow}
    (h : TotalsOver summary.totals rows) :
    (summary.totalRequests : Int) = totalOver rows .requestCount :=
  h (.requestCount, summary.totalRequests) List.mem_cons_self

/-- The totals of an answered summary over a window are those of the window and the hour after it. -/
theorem getSummary_totals (h : RolledUp texts.iso ledger)
    (ha : a * nanosPerHour < (maxDay + 1) * nanosPerDay)
    (hb : b * nanosPerHour < (maxDay + 1) * nanosPerDay)
    (hwindow : TimeWindow.resolve texts now retentionDays query = .ok (hourWindow a b))
    {summary : SummaryResponse} (hsummary : getSummary texts now retentionDays consumer query
      ledger.hourly ledger.records = .ok summary) :
    (∀ c, totalOver (between consumer query ledger.records a (b + 1)) c ≤ i64Max) ∧
      TotalsOver summary.totals (between consumer query ledger.records a (b + 1)) := by
  obtain ⟨sums, hsums, htotals⟩ := getSummary_ok hwindow hsummary
  rw [htotals, ← @rolledRows_eq texts query consumer a b ledger.records h.stamped ha hb]
  exact readSummary_totals h hsums

/-- A window is counted exactly if no row that matches was accepted in the hour after it and its totals
fit. -/
theorem countsWindow_iff (h : RolledUp texts.iso ledger)
    (ha : a * nanosPerHour < (maxDay + 1) * nanosPerDay)
    (hb : b * nanosPerHour < (maxDay + 1) * nanosPerDay) (hab : a < b)
    (hwindow : TimeWindow.resolve texts now retentionDays query = .ok (hourWindow a b)) :
    CountsWindow texts now retentionDays consumer query ledger (hourWindow a b) ↔
      NoneAt consumer query ledger.records b ∧
        ∀ c, totalOver (windowRows (rollupFilter consumer query (hourWindow a b)) ledger.records) c ≤
          i64Max := by
  have hwhole := fun c => @totalOver_between query consumer a b ledger.records hab.le (b + 1)
    (Int.le_of_lt (Int.lt_succ b)) c
  have hrows := @windowRows_eq query consumer a b ledger.records h.stamped ha hb
  constructor
  · intro hcounts
    obtain ⟨summary, hsummary, hexact⟩ := hcounts.summary
    obtain ⟨hfits, htotals⟩ := getSummary_totals h ha hb hwindow hsummary
    rw [hrows] at hexact ⊢
    have hrequests := totalRequests_of_totalsOver htotals
    rw [totalRequests_of_totalsOver hexact, ← hwhole] at hrequests
    refine ⟨noneAt_iff_total.2 (by omega), fun c => ?_⟩
    have hafter : 0 ≤ totalOver (between consumer query ledger.records b (b + 1)) c :=
      totalOver_nonneg fun row hrow => h.durations row (List.mem_of_mem_filter hrow)
    exact (le_add_of_nonneg_right hafter).trans ((hwhole c).le.trans (hfits c))
  · rintro ⟨hnone, hfits⟩
    have hread := @rolledRows_eq texts query consumer a b ledger.records h.stamped ha hb
    rw [between_succ hnone, ← hrows] at hread
    rw [← hread] at hfits
    obtain ⟨sums, hsums⟩ := readSummary_isOk_of_fits h hfits
    obtain ⟨summary, hsummary, htotals⟩ := getSummary_isOk hwindow hsums
    obtain ⟨points, hpoints, hseries⟩ := readTimeseries_of_fits h hfits
    rw [hread] at hseries
    refine ⟨⟨summary, hsummary, ?_⟩, points, ?_, hseries⟩
    · rw [htotals, ← hread]
      exact (readSummary_totals h hsums).2
    · rw [getTimeseries, hwindow, Result.ok_bind, hpoints]
      rfl

/-- Two adjacent windows add up to the whole exactly if no row that matches was accepted in the hour
between them, which both of them read. -/
theorem addsUp_iff {first second whole : SummaryResponse} {z : Int} (hab : a ≤ b) (hbz : b ≤ z)
    (hfirst : TotalsOver first.totals (between consumer query records a (b + 1)))
    (hsecond : TotalsOver second.totals (between consumer query records b (z + 1)))
    (hwhole : TotalsOver whole.totals (between consumer query records a (z + 1))) :
    AddsUp first second whole ↔ NoneAt consumer query records b := by
  have htwice : ∀ c, totalOver (between consumer query records a (b + 1)) c +
      totalOver (between consumer query records b (z + 1)) c =
        totalOver (between consumer query records a (z + 1)) c +
          totalOver (between consumer query records b (b + 1)) c := by
    intro c
    have hend := @totalOver_between query consumer a b records hab (b + 1) (by omega) c
    have hrest := @totalOver_between query consumer a b records hab (z + 1) (by omega) c
    omega
  simp only [TotalsOver, SummaryResponse.totals, List.forall_mem_cons] at hfirst hsecond hwhole
  constructor
  · intro hadds
    have hrequests := hadds.totalRequests
    have hcount := htwice .requestCount
    exact noneAt_iff_total.2 (by omega)
  · intro hnone
    have hzero : ∀ c, totalOver (between consumer query records b (b + 1)) c = 0 := by
      rw [between_one_eq_nil_iff.2 hnone]
      exact fun c => rfl
    simp only [hzero, add_zero] at htwice
    have hrequests := htwice .requestCount
    have hsuccesses := htwice .successCount
    have hfailures := htwice .failureCount
    have hinput := htwice .totalInputTokens
    have houtput := htwice .totalOutputTokens
    have hcached := htwice .totalCachedTokens
    constructor <;> omega

/-- An hour that is no later than one the clock has reached is in the calendar. -/
theorem hour_lt_calendar {hour reached : Int} (hle : hour ≤ reached)
    (hnow : reached * nanosPerHour ≤ now.nanos) :
    hour * nanosPerHour < (maxDay + 1) * nanosPerDay := by
  refine lt_of_le_of_lt (le_trans ?_ hnow) now.inRange.2
  exact Int.mul_le_mul_of_nonneg_right hle (by decide)

/-- The totals of an answered summary of a custom window. -/
theorem customSummary_totals (h : RolledUp texts.iso ledger) (hx : NamesHour texts.iso x a)
    (hy : NamesHour texts.iso y b) (hnow : b * nanosPerHour ≤ now.nanos) {summary : SummaryResponse}
    (hsummary : getSummary texts now retentionDays consumer (customQuery query x y) ledger.hourly
      ledger.records = .ok summary) :
    a < b ∧ TotalsOver summary.totals (between consumer query ledger.records a (b + 1)) := by
  obtain ⟨window, hwindow, -⟩ := Result.bind_ok_iff.1 hsummary
  obtain ⟨rfl, hab⟩ := resolve_custom hx hy hnow hwindow
  have ha := hour_lt_calendar hab.le hnow
  have hb := hour_lt_calendar le_rfl hnow
  exact ⟨hab, (getSummary_totals h ha hb hwindow hsummary).2⟩

end Windows

/-- On hour boundaries before the clock, a window is counted exactly if no row that matches was accepted
in the hour after it (and its totals fit), and two adjacent windows add up exactly if none was in the hour
between them. -/
theorem hour_windows_exact_iff (texts : Texts) (now : Instant) (retentionDays : UInt32)
    (consumer : ConsumerContext) (query : DashboardQuery) (ledger : Ledger)
    (h : RolledUp texts.iso ledger) :
    (∀ x y a b window, NamesHour texts.iso x a → NamesHour texts.iso y b →
      b * nanosPerHour ≤ now.nanos →
      TimeWindow.resolve texts now retentionDays (customQuery query x y) = .ok window →
      (CountsWindow texts now retentionDays consumer (customQuery query x y) ledger window ↔
        NoneAt consumer query ledger.records b ∧
          ∀ c, totalOver (windowRows (rollupFilter consumer query window) ledger.records) c ≤ i64Max)) ∧
    (∀ x y z a b c first second whole, NamesHour texts.iso x a → NamesHour texts.iso y b →
      NamesHour texts.iso z c → c * nanosPerHour ≤ now.nanos →
      getSummary texts now retentionDays consumer (customQuery query x y) ledger.hourly ledger.records =
        .ok first →
      getSummary texts now retentionDays consumer (customQuery query y z) ledger.hourly ledger.records =
        .ok second →
      getSummary texts now retentionDays consumer (customQuery query x z) ledger.hourly ledger.records =
        .ok whole →
      (AddsUp first second whole ↔ NoneAt consumer query ledger.records b)) := by
  constructor
  · intro x y a b window hx hy hnow hwindow
    obtain ⟨rfl, hab⟩ := resolve_custom hx hy hnow hwindow
    have ha := hour_lt_calendar hab.le hnow
    have hb := hour_lt_calendar le_rfl hnow
    exact countsWindow_iff h ha hb hab hwindow
  · intro x y z a b c first second whole hx hy hz hnow hfirst hsecond hwhole
    obtain ⟨hbc, htotalsSecond⟩ := customSummary_totals h hy hz hnow hsecond
    have hbefore : b * nanosPerHour ≤ now.nanos := by
      unfold nanosPerHour at *
      omega
    obtain ⟨hab, htotalsFirst⟩ := customSummary_totals h hx hy hbefore hfirst
    obtain ⟨-, htotalsWhole⟩ := customSummary_totals h hx hz hnow hwhole
    exact addsUp_iff hab.le hbc.le htotalsFirst htotalsSecond htotalsWhole

/-! ## One request after noon -/

namespace Sample

def isoTexts : Texts := { quoted := id, iso := PartnerPortal.Sample.iso }

/-- 2026-09-27, at eleven -/
def eleven : Instant := ⟨1790506800000000000, by decide⟩

theorem namesHour_formatInstant {t : Instant} {hour : Int} (h : t.nanos = hour * nanosPerHour) :
    NamesHour isoTexts.iso (formatInstant t) hour :=
  ⟨t.utc, parseTs_formatInstant _ t, h⟩

/-- From eleven to noon. -/
def beforeNoon : DashboardQuery :=
  customQuery {} (formatInstant eleven) (formatInstant PartnerPortal.Sample.noon)

theorem beforeNoon_window : TimeWindow.resolve isoTexts PartnerPortal.Sample.halfPastNoon 60 beforeNoon =
    .ok (hourWindow 497363 497364) := by
  decide +kernel

/-- The only request was accepted at a quarter to one. -/
theorem matchesIn_noonHour : ¬NoneAt .manager beforeNoon PartnerPortal.Sample.noonHourLedger.records
    497364 := by
  have hrows : PartnerPortal.Sample.noonHourLedger.records.all (fun row =>
      row.requestStatus.isTerminal && row.createdAt = formatInstant PartnerPortal.Sample.quarterToOne) =
      true := by decide +kernel
  have hne : PartnerPortal.Sample.noonHourLedger.records ≠ [] := by
    intro hnil
    have hlength : PartnerPortal.Sample.noonHourLedger.records.length = 1 := by decide +kernel
    rw [hnil] at hlength
    cases hlength
  obtain ⟨row, hrow⟩ := List.exists_mem_of_ne_nil _ hne
  obtain ⟨hterminal, hcreated⟩ := Bool.and_eq_true_iff.1 (List.all_eq_true.1 hrows row hrow)
  have hmodel : modelFilter beforeNoon = none := by decide +kernel
  refine fun hnone => hnone row hrow ⟨hterminal, rfl, ?_, _, of_decide_eq_true hcreated, by decide⟩
  rw [hmodel, Option.all_none]

/-- What is counted from eleven to noon. -/
def beforeNoonRequests : Option Nat :=
  match getSummary isoTexts PartnerPortal.Sample.halfPastNoon 60 .manager beforeNoon
    PartnerPortal.Sample.noonHourLedger.hourly PartnerPortal.Sample.noonHourLedger.records with
  | .ok summary => some summary.totalRequests
  | .error _ => none

end Sample

/-- The window from eleven to noon, of a ledger with one request. -/
theorem hour_windows_exact_iff_noonHour :
    CountsWindow Sample.isoTexts PartnerPortal.Sample.halfPastNoon 60 .manager Sample.beforeNoon
        PartnerPortal.Sample.noonHourLedger (hourWindow 497363 497364) ↔
      NoneAt .manager {} PartnerPortal.Sample.noonHourLedger.records 497364 ∧
        ∀ c, totalOver (windowRows (rollupFilter .manager {} (hourWindow 497363 497364))
          PartnerPortal.Sample.noonHourLedger.records) c ≤ i64Max :=
  (hour_windows_exact_iff Sample.isoTexts PartnerPortal.Sample.halfPastNoon 60 .manager {}
    PartnerPortal.Sample.noonHourLedger
    (rolledUp_of_invariant PartnerPortal.Sample.noonHourLedger_run.invariant)).1 _ _ 497363 497364 _
    (Sample.namesHour_formatInstant (by decide)) (Sample.namesHour_formatInstant (by decide))
    (by decide) Sample.beforeNoon_window

/-- A request of a quarter to one is counted in the window from eleven to noon. -/
theorem hour_window_counts_next_hour :
    Sample.beforeNoonRequests = some 1 ∧
    windowRows (rollupFilter .manager Sample.beforeNoon (hourWindow 497363 497364))
      PartnerPortal.Sample.noonHourLedger.records = [] ∧
    ¬∀ texts now retentionDays consumer query ledger x y a b window, RolledUp texts.iso ledger →
      NamesHour texts.iso x a → NamesHour texts.iso y b → b * nanosPerHour ≤ now.nanos →
      TimeWindow.resolve texts now retentionDays (customQuery query x y) = .ok window →
      CountsWindow texts now retentionDays consumer (customQuery query x y) ledger window := by
  refine ⟨by decide +kernel, by decide +kernel, fun hall => ?_⟩
  have hrolled := rolledUp_of_invariant PartnerPortal.Sample.noonHourLedger_run.invariant
  have hcounts := hall Sample.isoTexts PartnerPortal.Sample.halfPastNoon 60 .manager {}
    PartnerPortal.Sample.noonHourLedger _ _ 497363 497364 _ hrolled
    (Sample.namesHour_formatInstant (by decide)) (Sample.namesHour_formatInstant (by decide))
    (by decide) Sample.beforeNoon_window
  exact Sample.matchesIn_noonHour
    ((countsWindow_iff hrolled (by decide) (by decide) (by decide) Sample.beforeNoon_window).1 hcounts).1

end Dashboard

end PartnerPortal
