import PartnerPortal.Dashboard.Rollups
import PartnerPortal.Ledger.Agreement

/-!
# The rollup and its readers under large counts

Counts that can be stored one by one leave the range of an `i64` when they are added up: in a bucket, which
then is no sum any more, or in a `SUM` over buckets, which then fails.

Results:
- `readSummary_isOk`, `readTimeseries_isOk` — the reads succeed where the totals over all rows fit;
- `totals_fit_of_readSummary` — the widest read succeeds only there;
- `rollup_exact_iff_totals_fit` — the rollup and its reads stay exact exactly as long as each finalize keeps
  the totals within an `i64`.
-/

namespace PartnerPortal

open MachineInt RunningSum Dashboard

/-! ## Sums of a read -/

section Reads

variable {hourly rows : List Bucket} {items : List (RunningSum.Item BucketKey Counter)}

theorem columnSum_ok_iff (h : Agrees hourly items) (hnonneg : ∀ item ∈ items, ∀ c, 0 ≤ item.2 c)
    (hrows : rows.Sublist hourly) {c : Counter} (result : Option Total) :
    columnSum rows c = .ok result ↔
      totalOf (items.filter fun item => item.1 ∈ rows.map RunningSum.Row.key) c ≤ i64Max ∧
        result = if rows = [] then none else
          some (.integer (totalOf (items.filter fun item => item.1 ∈ rows.map RunningSum.Row.key) c)) := by
  obtain ⟨hcounters, hsum⟩ := @Agrees.counters_rows _ _ _ _ c _ h _ hrows
  have hsums : ∀ n ∈ rows.map fun row => sumOf items row.key c, 0 ≤ n := by
    intro n hn
    obtain ⟨row, -, rfl⟩ := List.mem_map.1 hn
    exact sumOf_nonneg fun item hitem => hnonneg item hitem c
  rw [columnSum, Result.mapError_ok_iff, hcounters, sum_integers_ok_iff hsums, hsum]
  simp only [List.map_eq_nil_iff]

/-- Where the totals over all rows fit, every sum is an integer. -/
theorem columnSum_ok (h : Agrees hourly items) (hnonneg : ∀ item ∈ items, ∀ c, 0 ≤ item.2 c)
    (hfits : ∀ c, totalOf items c ≤ i64Max) (hrows : rows.Sublist hourly) (c : Counter) :
    ∃ n, columnSum rows c = .ok (if rows = [] then none else some (.integer n)) := by
  have hle := @totalOf_sublist _ _ items c _
    (List.filter_sublist (p := fun item => item.1 ∈ rows.map RunningSum.Row.key))
    fun item hitem => hnonneg item hitem c
  exact ⟨_, (columnSum_ok_iff h hnonneg hrows _).2 ⟨le_trans hle (hfits c), rfl⟩⟩

theorem readSummary_isOk (h : Agrees hourly items) (hnonneg : ∀ item ∈ items, ∀ c, 0 ≤ item.2 c)
    (hfits : ∀ c, totalOf items c ≤ i64Max) (filter : RollupFilter) :
    ∃ summary, readSummary filter hourly = .ok summary := by
  choose n hsum using fun c => columnSum_ok h hnonneg hfits
    (List.filter_sublist (p := filter.wants)) c
  have hget : ∀ value : Int, ∃ m, getI64 (orZero (if hourly.filter filter.wants = [] then none else
      some (.integer value))) = .ok m := by
    intro value
    split
    · exact ⟨0, rfl⟩
    · exact ⟨value, rfl⟩
  choose read hread using fun c => hget (n c)
  simp only [readSummary, selectRows_rollup, allSums, hsum, hread, Result.ok_bind, Result.pure_eq]
  exact ⟨_, rfl⟩

theorem timeseriesPoint_isOk (h : Agrees hourly items)
    (hnonneg : ∀ item ∈ items, ∀ c, 0 ≤ item.2 c) (hfits : ∀ c, totalOf items c ≤ i64Max)
    (hrows : rows.Sublist hourly) (hne : rows ≠ []) (hour : String) :
    ∃ point, timeseriesPoint hour rows = .ok point := by
  choose n hsum using fun c => columnSum_ok h hnonneg hfits hrows c
  simp only [if_neg hne] at hsum
  simp only [timeseriesPoint, allSums, hsum, getI64, Result.ok_bind, Result.pure_eq]
  exact ⟨_, rfl⟩

theorem readTimeseries_isOk (h : Agrees hourly items) (hnonneg : ∀ item ∈ items, ∀ c, 0 ≤ item.2 c)
    (hfits : ∀ c, totalOf items c ≤ i64Max) (filter : RollupFilter) :
    ∃ points, readTimeseries filter hourly = .ok points := by
  have hpoints : ∀ hour ∈ distinct ((hourly.filter filter.wants).map fun bucket => bucket.key.hour),
      ∃ point, timeseriesPoint hour (Sql.group (fun bucket : Bucket => bucket.key.hour)
        (hourly.filter filter.wants) hour) = .ok point := by
    intro hour hhour
    have hmem := List.mem_dedup.1 ((List.mem_insertionSort _).1 hhour)
    obtain ⟨bucket, hbucket, rfl⟩ := List.mem_map.1 hmem
    refine timeseriesPoint_isOk h hnonneg hfits ?_ ?_ _
    · exact List.filter_sublist.trans List.filter_sublist
    · exact List.ne_nil_of_mem (Sql.mem_group.2 ⟨hbucket, rfl⟩)
  rw [readTimeseries, selectRows_rollup, Result.ok_bind]
  exact Result.isOk_mapM_iff.2 hpoints

/-- Every bucket, over all hours there are. -/
def everything (last : String) : RollupFilter where
  scope := .all
  window := { startTs := "", endTs := "", startHour := "", endHour := last }
  model := none

theorem exists_last (hours : List String) : ∃ last : String, ∀ hour ∈ hours, hour ≤ last := by
  induction hours with
  | nil => exact ⟨"", fun _ h => absurd h List.not_mem_nil⟩
  | cons hour hours ih =>
    obtain ⟨last, hlast⟩ := ih
    refine ⟨max hour last, List.forall_mem_cons.2 ⟨le_max_left hour last, fun other hother => ?_⟩⟩
    exact (hlast other hother).trans (le_max_right hour last)

theorem exists_everything (hourly : List Bucket) :
    ∃ last, hourly.filter (everything last).wants = hourly := by
  obtain ⟨last, hlast⟩ := exists_last (hourly.map fun bucket => bucket.key.hour)
  refine ⟨last, List.filter_eq_self.2 fun bucket hbucket => ?_⟩
  have hhour := hlast bucket.key.hour (List.mem_map_of_mem hbucket)
  have hfirst : ¬bucket.key.hour < "" := List.not_lt_nil bucket.key.hour.toList
  simp [RollupFilter.wants, everything, Scope.contains, hfirst, not_lt.2 hhour]

/-- The widest read succeeds only where the totals over all rows fit. -/
theorem totals_fit_of_readSummary (h : Agrees hourly items)
    (hnonneg : ∀ item ∈ items, ∀ c, 0 ≤ item.2 c)
    (hreads : ∀ filter, ∃ summary, readSummary filter hourly = .ok summary) (c : Counter) :
    totalOf items c ≤ i64Max := by
  obtain ⟨last, hall⟩ := exists_everything hourly
  obtain ⟨summary, hsummary⟩ := hreads (everything last)
  rw [readSummary, selectRows_rollup, hall, Result.ok_bind] at hsummary
  obtain ⟨sums, hsums, -⟩ := Result.bind_ok_iff.1 hsummary
  obtain ⟨hfits, -⟩ := (columnSum_ok_iff h hnonneg (List.Sublist.refl hourly) _).1
    (allSums_ok hsums c)
  have hevery : items.filter (fun item => item.1 ∈ hourly.map RunningSum.Row.key) = items := by
    refine List.filter_eq_self.2 fun item hitem => ?_
    rw [decide_eq_true_eq, h.exists_iff]
    exact List.mem_map_of_mem hitem
  rwa [hevery] at hfits

end Reads

/-! ## The rows of a request and the others -/

section Rows

variable {iso : Iso8601} {ledger written : Ledger}

/-- The rows of the other requests. -/
def Ledger.others (requestId : String) (ledger : Ledger) : Ledger :=
  { ledger with records := ledger.records.filter fun row => row.requestId ≠ requestId }

/-- The total of a counter over all terminal rows. -/
def Ledger.rowsTotal (iso : Iso8601) (ledger : Ledger) (c : Counter) : Int :=
  ((ledger.contributions iso).map fun x => x.metrics.amount c).sum

theorem rowsTotal_eq (iso : Iso8601) (ledger : Ledger) (c : Counter) :
    ledger.rowsTotal iso c = totalOf (ledger.items iso) c := by
  rw [Ledger.rowsTotal, totalOf, Ledger.items, List.map_map]
  rfl

/-- A row that contributes, beside the rows of the other requests. -/
theorem items_perm_others {row : UsageRow} {x : Contribution}
    (hids : (ledger.records.map UsageRow.requestId).Nodup) (hrow : row ∈ ledger.records)
    (hx : contributionOf iso row = some x) :
    (x.item :: (ledger.others row.requestId).items iso).Perm (ledger.items iso) := by
  obtain ⟨front, back, hsplit⟩ := List.append_of_mem hrow
  have hothers : (ledger.others row.requestId).records = front ++ back := by
    rw [hsplit, List.map_append, List.map_cons, List.nodup_append, List.nodup_cons] at hids
    obtain ⟨-, ⟨hback, -⟩, hfront⟩ := hids
    have hkeepFront : front.filter (fun other => other.requestId ≠ row.requestId) = front := by
      refine List.filter_eq_self.2 fun other hother => decide_eq_true fun heq => ?_
      exact hfront _ (List.mem_map_of_mem hother) _ List.mem_cons_self heq
    have hkeepBack : back.filter (fun other => other.requestId ≠ row.requestId) = back := by
      refine List.filter_eq_self.2 fun other hother => decide_eq_true fun heq => hback ?_
      exact heq ▸ List.mem_map_of_mem hother
    simp only [Ledger.others, hsplit, List.filter_append, List.filter_cons, ne_eq, not_true_eq_false,
      decide_false, Bool.false_eq_true, if_false]
    exact congrArg₂ (· ++ ·) hkeepFront hkeepBack
  rw [items_split hsplit, hx]
  simp only [Ledger.items, Ledger.contributions, hothers, List.filterMap_append, List.map_append]
  exact List.perm_middle.symm

/-- Where no row of a request contributes, the others are all that do. -/
theorem items_others {requestId : String} (h : ∀ row ∈ ledger.records, row.requestId = requestId →
    contributionOf iso row = none) :
    (ledger.others requestId).items iso = ledger.items iso := by
  simp only [Ledger.items, Ledger.contributions, Ledger.others, List.filterMap_filter]
  congr 1
  refine List.filterMap_congr fun row hrow => ?_
  by_cases hid : row.requestId = requestId
  · simp [hid, h row hrow hid]
  · simp [hid]

theorem records_others_update {requestId : String} {change : UsageRow → UsageRow}
    (hid : ∀ row, (change row).requestId = row.requestId) :
    ((ledger.update requestId change).others requestId).records =
      (ledger.others requestId).records := by
  simp only [Ledger.others, Ledger.update]
  induction ledger.records with
  | nil => rfl
  | cons row rows ih =>
    by_cases h : row.requestId = requestId
    · simpa [List.filter_cons, h, hid] using ih
    · simpa [List.filter_cons, h, hid] using ih

variable {record : RequestRecord} {figures : Figures} {instanceId : Option String}

/-- A finalize leaves the rows of the other requests as they were. -/
theorem Finalized.others (h : Finalized iso instanceId record figures ledger written) :
    (written.others record.requestId).records = (ledger.others record.requestId).records := by
  cases h with
  | updated hfind hstored =>
    have hupdate := @records_others_update ledger record.requestId
      (fun row => updatedRow row record figures) fun _ => rfl
    simpa [Ledger.others] using hupdate
  | inserted hfind => simp [Ledger.others, insertedRow]

/-- The row a finalize leaves contributes what the record does. -/
theorem Finalized.contributes (h : Finalized iso instanceId record figures ledger written)
    (hfigures : bindFigures record = .ok figures) (hterminal : record.requestStatus.isTerminal)
    (hsame : SameRequest record ledger) :
    ∃ row ∈ written.records, row.requestId = record.requestId ∧
      contributionOf iso row = some (Contribution.terminal record (BucketKey.fromRecord record)) := by
  cases h with
  | @updated existing stored hfind hstored =>
    obtain ⟨hmem, hid⟩ := Ledger.find_some hfind
    refine ⟨updatedRow existing record figures, ?_, hid,
      finalized_row hfigures hterminal (hsame existing hmem hid)⟩
    rw [Ledger.records_add, Ledger.records_retractStored]
    exact List.mem_map.2 ⟨existing, hmem, if_pos hid⟩
  | inserted hfind =>
    refine ⟨_, List.mem_append_right _ List.mem_cons_self, rfl, ?_⟩
    exact contributionOf_terminal hfigures hterminal rfl rfl rfl rfl rfl rfl rfl rfl rfl rfl
      (by simp only [insertedRow])

end Rows

/-! ## Finalizes -/

/-- What a record adds to its bucket. -/
def RequestRecord.contribution (record : RequestRecord) : Contribution :=
  Contribution.terminal record (BucketKey.fromRecord record)

/-- The writer commits the finalize of a record. -/
structure Finalizes (iso : Iso8601) (record : RequestRecord) (ledger written : Ledger) : Prop where
  terminal : record.requestStatus.isTerminal
  same : SameRequest record ledger
  duration : (record.durationMs.toNat : Int) ≤ i64Max
  commits : ∃ instanceId, finalizeRecord iso instanceId record ledger = .ok written

/-- With the rows of all other requests, a record's figures stay within an `i64`. -/
def Fits (iso : Iso8601) (ledger : Ledger) (record : RequestRecord) : Prop :=
  ∀ c, record.contribution.metrics.amount c + (ledger.others record.requestId).rowsTotal iso c ≤ i64Max

/-- The rollup holds the exact sums of the rows, and every read of it succeeds. -/
structure Ledger.Exact (iso : Iso8601) (ledger : Ledger) : Prop where
  agrees : RunningSum.Agrees ledger.hourly (ledger.items iso)
  summary : ∀ filter, ∃ summary, readSummary filter ledger.hourly = .ok summary
  unavailable : ∀ filter : RollupFilter, ∃ rows,
    selectRows filter.recordConds filter.recordParams ledger.records = .ok rows
  timeseries : ∀ filter, ∃ points, readTimeseries filter ledger.hourly = .ok points

/-- Taking a finalized record back leaves the sums of the other rows, and so what was there before if
the request had not been rolled up yet. -/
structure Restores (iso : Iso8601) (record : RequestRecord) (ledger written : Ledger) : Prop where
  others : RunningSum.Agrees (record.contribution.retract written.hourly)
    ((ledger.others record.requestId).items iso)
  before : (∀ row ∈ ledger.records, row.requestId = record.requestId →
      row.requestStatus.isTerminal = false) →
    ∀ bucket, bucket ∈ record.contribution.retract written.hourly ↔ bucket ∈ ledger.hourly

/-- Ledgers reached from an empty one by accepts, and by finalizes that fit. -/
inductive FittingRun (iso : Iso8601) : Ledger → Prop
  | empty {ledger : Ledger} (hrecords : ledger.records = []) (hhourly : ledger.hourly = []) :
      FittingRun iso ledger
  | accept {ledger : Ledger} (instanceId : Option String) (record : RequestRecord)
      (hrun : FittingRun iso ledger) : FittingRun iso (insertAccept instanceId record ledger)
  | finalize {ledger written : Ledger} {record : RequestRecord} (hrun : FittingRun iso ledger)
      (hstep : Finalizes iso record ledger written) (hfits : Fits iso ledger record) :
      FittingRun iso written

section Finalizes

variable {iso : Iso8601} {ledger written : Ledger} {record : RequestRecord}

theorem Finalizes.items_perm (h : Finalizes iso record ledger written)
    (hinv : RollupInvariant iso ledger) :
    (record.contribution.item :: (ledger.others record.requestId).items iso).Perm
      (written.items iso) := by
  obtain ⟨instanceId, hcommits⟩ := h.commits
  obtain ⟨figures, hfigures, hfinalized⟩ := finalizeRecord_ok hcommits
  have hids := (hfinalized.rows hfigures h.terminal h.same hinv.ids).ids
  obtain ⟨row, hrow, hid, hx⟩ := hfinalized.contributes hfigures h.terminal h.same
  have hothers : (written.others record.requestId).items iso =
      (ledger.others record.requestId).items iso := by
    simp only [Ledger.items, Ledger.contributions, hfinalized.others]
  have hperm := items_perm_others hids hrow hx
  rwa [hid, hothers] at hperm

theorem Finalizes.amounts (h : Finalizes iso record ledger written)
    (hinv : RollupInvariant iso ledger) :
    ∀ item ∈ written.items iso, item.2 .requestCount = 1 ∧ ∀ c, 0 ≤ item.2 c := by
  obtain ⟨instanceId, hcommits⟩ := h.commits
  obtain ⟨figures, hfigures, hfinalized⟩ := finalizeRecord_ok hcommits
  refine items_amounts fun row hrow => ?_
  rcases (hfinalized.rows hfigures h.terminal h.same hinv.ids).rows row hrow with hold | ⟨-, heq⟩
  · exact hinv.durations row hold
  · rw [heq]
    exact duration_nonneg h.duration

/-- What fits is that the totals over the rows after the finalize do. -/
theorem Finalizes.fits_iff (h : Finalizes iso record ledger written)
    (hinv : RollupInvariant iso ledger) :
    Fits iso ledger record ↔ ∀ c, totalOf (written.items iso) c ≤ i64Max := by
  refine forall_congr' fun c => ?_
  rw [← totalOf_perm (h.items_perm hinv), totalOf_cons, rowsTotal_eq]
  rfl

theorem Finalizes.sumsFit (h : Finalizes iso record ledger written)
    (hinv : RollupInvariant iso ledger) (hfits : Fits iso ledger record) : written.SumsFit iso :=
  fun key c => sumOf_fits (fun item hitem => (h.amounts hinv item hitem).2 c)
    ((h.fits_iff hinv).1 hfits c) key

theorem Finalizes.invariant (h : Finalizes iso record ledger written)
    (hinv : RollupInvariant iso ledger) (hfits : Fits iso ledger record) :
    RollupInvariant iso written := by
  obtain ⟨instanceId, hcommits⟩ := h.commits
  exact hinv.finalize h.terminal h.same h.duration hcommits (h.sumsFit hinv hfits)

theorem RollupInvariant.exact_iff (hinv : RollupInvariant iso ledger) :
    ledger.Exact iso ↔ ∀ c, totalOf (ledger.items iso) c ≤ i64Max := by
  have hnonneg : ∀ item ∈ ledger.items iso, ∀ c, 0 ≤ item.2 c :=
    fun item hitem => (items_amounts hinv.durations item hitem).2
  constructor
  · exact fun h c => totals_fit_of_readSummary h.agrees hnonneg h.summary c
  · exact fun hfits => ⟨hinv.agrees, readSummary_isOk hinv.agrees hnonneg hfits,
      fun filter => selectRows_records_isOk filter ledger.records,
      readTimeseries_isOk hinv.agrees hnonneg hfits⟩

/-- After a finalize that fits, taking the record back is exact. -/
theorem Finalizes.restores (h : Finalizes iso record ledger written)
    (hinv : RollupInvariant iso ledger) (hfits : Fits iso ledger record) :
    Restores iso record ledger written := by
  have hperm := h.items_perm hinv
  have hsize : ∀ item ∈ (ledger.others record.requestId).items iso, item.2 .requestCount = 1 :=
    fun item hitem => (h.amounts hinv item (hperm.subset (List.mem_cons_of_mem _ hitem))).1
  have hsums := fits_of_cons hperm (fun item hitem => (h.amounts hinv item hitem).2)
    (h.sumsFit hinv hfits)
  have hothers := (((h.invariant hinv hfits).agrees).perm hperm.symm).retract hsize fun c => hsums _ c
  refine ⟨hothers, fun hnew bucket => ?_⟩
  have hnone : ∀ row ∈ ledger.records, row.requestId = record.requestId →
      contributionOf iso row = none := by
    intro row hrow hid
    rw [Option.eq_none_iff_forall_ne_some]
    intro x hx
    have hterminal := (contributionOf_eq_some_iff.1 hx).1
    rw [hnew row hrow hid] at hterminal
    cases hterminal
  rw [items_others hnone] at hothers
  exact hothers.mem_iff hinv.agrees bucket

theorem FittingRun.invariant (h : FittingRun iso ledger) :
    RollupInvariant iso ledger ∧ ∀ c, totalOf (ledger.items iso) c ≤ i64Max := by
  induction h with
  | @empty ledger hrecords hhourly =>
    refine ⟨(LedgerRun.empty hrecords hhourly).invariant, fun c => ?_⟩
    simp only [Ledger.items, Ledger.contributions, hrecords, List.filterMap_nil, List.map_nil]
    show (0 : Int) ≤ i64Max
    decide
  | @accept ledger instanceId record hrun ih =>
    refine ⟨ih.1.accept instanceId record, fun c => ?_⟩
    rw [items_insertAccept]
    exact ih.2 c
  | finalize hrun hstep hfits ih =>
    exact ⟨hstep.invariant ih.1 hfits, (hstep.fits_iff ih.1).1 hfits⟩

end Finalizes

/-- The rollup and its reads stay exact as long as the totals over all rows stay within an `i64`, and
no longer: the finalize that takes one past it is neither summed exactly nor refused. -/
theorem rollup_exact_iff_totals_fit {iso : Iso8601} {ledger : Ledger} (h : FittingRun iso ledger) :
    ledger.Exact iso ∧ ∀ record written, Finalizes iso record ledger written →
      (written.Exact iso ∧ Restores iso record ledger written ↔ Fits iso ledger record) := by
  obtain ⟨hinv, htotals⟩ := h.invariant
  refine ⟨hinv.exact_iff.2 htotals, fun record written hstep => ⟨fun hexact => ?_, fun hfits => ?_⟩⟩
  · refine (hstep.fits_iff hinv).2 fun c => ?_
    exact totals_fit_of_readSummary hexact.1.agrees
      (fun item hitem => (hstep.amounts hinv item hitem).2) hexact.1.summary c
  · exact ⟨(hstep.invariant hinv hfits).exact_iff.2 ((hstep.fits_iff hinv).1 hfits),
      hstep.restores hinv hfits⟩

namespace Sample

/-- As many tokens as a column can hold. -/
def large : RequestRecord := record "r1" (some 9223372036854775807)

/-- One token, in the same bucket. -/
def small : RequestRecord := record "r2" (some 1)

/-- No input tokens, in the same bucket. -/
def fitting : RequestRecord := record "r3" (some 0)

def finalized (record : RequestRecord) (ledger : Ledger) : Ledger :=
  match finalizeRecord iso none record ledger with
  | .ok written => written
  | .error _ => ledger

/-- The large request alone, and both. -/
def largeLedger : Ledger := finalized large emptyLedger

def bothLedger : Ledger := finalized small largeLedger

/-- The large request, and the accept of the one that fits. -/
def acceptedLedger : Ledger := insertAccept (some "one") fitting largeLedger

def fittingLedger : Ledger := finalized fitting acceptedLedger

/-- The input tokens of every bucket. -/
def inputTokens (hourly : List Bucket) : List RunningSum.Number :=
  hourly.map fun bucket => bucket.counters .totalInputTokens

theorem finalizes_finalized {record : RequestRecord} {ledger : Ledger} (hstamped : ledger.Stamped)
    (hstorable : record.Storable) (hterminal : record.requestStatus.isTerminal)
    (hsame : SameRequest record ledger) (hduration : (record.durationMs.toNat : Int) ≤ i64Max) :
    Finalizes iso record ledger (finalized record ledger) := by
  obtain ⟨written, hwritten⟩ := (@finalizeRecord_isOk_iff iso none record ledger hstamped).2 hstorable
  have hfinalized : finalized record ledger = written := by rw [finalized, hwritten]
  refine ⟨hterminal, hsame, hduration, none, ?_⟩
  rw [hfinalized, hwritten]

theorem finalizes_large : Finalizes iso large emptyLedger largeLedger :=
  finalizes_finalized (fun _ h => absurd h List.not_mem_nil)
    ⟨by decide, by decide, by decide, by decide⟩ rfl (fun _ h => absurd h List.not_mem_nil) (by decide)

theorem largeLedger_stamped : largeLedger.Stamped := by
  obtain ⟨instanceId, hcommits⟩ := finalizes_large.commits
  obtain ⟨figures, -, hfinalized⟩ := finalizeRecord_ok hcommits
  exact hfinalized.stamped fun _ h => absurd h List.not_mem_nil

/-- Its accept is in the ledger, and its finalize changes that row. -/
theorem finalizes_fitting : Finalizes iso fitting acceptedLedger fittingLedger :=
  finalizes_finalized (insertAccept_stamped largeLedger_stamped)
    ⟨by decide, by decide, by decide, by decide⟩ rfl
    (show ∀ row ∈ acceptedLedger.records, row.requestId = fitting.requestId →
        row.createdAt = formatInstant fitting.createdAt ∧ row.consumerId = fitting.consumerId ∧
          row.model = fitting.model ∧ row.endpoint = fitting.endpoint by decide +kernel) (by decide)

theorem fittingRun : FittingRun iso fittingLedger := by
  have hlarge : FittingRun iso largeLedger := by
    refine .finalize (.empty rfl rfl) finalizes_large fun c => ?_
    cases c <;> decide +kernel
  refine .finalize (hlarge.accept (some "one") fitting) finalizes_fitting fun c => ?_
  cases c <;> decide +kernel

end Sample

/-- After a request that fills its bucket and one that fits beside it. -/
theorem rollup_exact_iff_totals_fit_fitting :
    Sample.inputTokens Sample.fittingLedger.hourly = [.integer i64Max] ∧
      Sample.fittingLedger.Exact Sample.iso ∧
      ∀ record written, Finalizes Sample.iso record Sample.fittingLedger written →
        (written.Exact Sample.iso ∧ Restores Sample.iso record Sample.fittingLedger written ↔
          Fits Sample.iso Sample.fittingLedger record) :=
  ⟨by decide +kernel, rollup_exact_iff_totals_fit Sample.fittingRun⟩

/-- Each of two requests can be stored.  The second makes the bucket's sum a floating-point number:
taking it back does not restore the sum, and no read covers the bucket any more. -/
theorem rollup_leaves_integers :
    Finalizes Sample.iso Sample.large Sample.emptyLedger Sample.largeLedger ∧
      Finalizes Sample.iso Sample.small Sample.largeLedger Sample.bothLedger ∧
      Sample.inputTokens Sample.largeLedger.hourly = [.integer i64Max] ∧
      Sample.inputTokens Sample.bothLedger.hourly = [.real 9223372036854775808] ∧
      Sample.inputTokens (Sample.small.contribution.retract Sample.bothLedger.hourly) =
        [.real 9223372036854775808] ∧
      readSummary (everything "9999") Sample.bothLedger.hourly = .error .other ∧
      readTimeseries (everything "9999") Sample.bothLedger.hourly = .error .other ∧
      ¬Sample.bothLedger.Exact Sample.iso := by
  have hsmall : Finalizes Sample.iso Sample.small Sample.largeLedger Sample.bothLedger := by
    refine Sample.finalizes_finalized Sample.largeLedger_stamped
      ⟨by decide, by decide, by decide, by decide⟩ rfl ?_ (by decide)
    have hids : Sample.largeLedger.records.map UsageRow.requestId = ["r1"] := by decide +kernel
    intro row hrow heq
    have hmem := List.mem_map_of_mem (f := UsageRow.requestId) hrow
    rw [hids, heq] at hmem
    exact absurd hmem (by decide)
  have hsummary : readSummary (everything "9999") Sample.bothLedger.hourly = .error .other := by
    decide +kernel
  refine ⟨Sample.finalizes_large, hsmall, by decide +kernel, by decide +kernel, by decide +kernel,
    hsummary, by decide +kernel, fun hexact => ?_⟩
  obtain ⟨summary, hok⟩ := hexact.summary (everything "9999")
  rw [hsummary] at hok
  cases hok

end PartnerPortal
