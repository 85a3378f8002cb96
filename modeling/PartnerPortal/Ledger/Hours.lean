import PartnerPortal.Ledger.Agreement
import PartnerPortal.Ledger.Retention

/-!
# Retention and the rollup

Retention cuts the raw ledger at a timestamp and the rollup at the same text, but a bucket carries
only an hour.  The hour of the cutoff is a beginning of it and sorts before it, so the bucket goes
while the rows of the hour that were accepted after the cutoff stay.

Results:
- `hourlyOld_iff` — which buckets a cutoff makes old;
- `retention_covers_iff` — a sweep leaves the rows that stay covered exactly when no row of the
  cutoff's own hour stays, or none of that hour has ended;
- `surviving_row_uncovered` — a row of the cutoff's hour outlives its bucket.
-/

namespace PartnerPortal

open Retention

/-! ## Buckets and rows -/

/-- The nanosecond from which on rows are kept. -/
def keptFrom (retentionDays : UInt32) (now : Instant) : Int :=
  now.nanos - keptDays retentionDays * nanosPerDay

/-- A row is rolled up into a bucket. -/
def UsageRow.In (iso : Iso8601) (row : UsageRow) (bucket : Bucket) : Prop :=
  row.requestStatus.isTerminal ∧ ∃ stored, storedRow iso row = .ok stored ∧ stored.key = bucket.key

/-- A bucket is old exactly when its hour is no later than the hour of the cutoff. -/
theorem hourlyOld_iff {retentionDays : UInt32} {now created : Instant} {cutoff : String}
    (h : cutoffFor retentionDays now = .ok cutoff) {bucket : Bucket}
    (hhour : bucket.key.hour = formatInstantHour created) :
    hourlyOld cutoff bucket = true ↔
      created.nanos / nanosPerHour ≤ keptFrom retentionDays now / nanosPerHour := by
  have hdays := keptDays_range retentionDays
  have hnow := now.inRange
  rw [hourlyOld, decide_eq_true_eq, hhour, cutoffFor_ok h]
  refine formatInstantHour_lt_tsText_iff ?_
  unfold nanosPerDay at *
  omega

theorem UsageRow.In.hour {iso : Iso8601} {row : UsageRow} {bucket : Bucket} (h : row.In iso bucket)
    {created : Instant} (hcreated : row.createdAt = formatInstant created) :
    bucket.key.hour = formatInstantHour created := by
  obtain ⟨-, stored, hstored, hkey⟩ := h
  rw [storedRow_formatInstant hcreated] at hstored
  rw [← hkey, ← Except.ok.inj hstored]
  rfl

/-! ## A sweep -/

section Sweep

variable {iso : Iso8601} {fault : Nat → Option SqliteError} {now : Instant}
  {retentionDays : UInt32} {batchSize : UInt64} {maxBatches : Nat} {ledger swept : Ledger}
  {stats : RetentionStats}

/-- Every bucket with a row in it that stayed has stayed, and no bucket is gone while a row of its
hour from the cutoff on has stayed. -/
def Covered (iso : Iso8601) (retentionDays : UInt32) (now : Instant) (ledger swept : Ledger) :
    Prop :=
  (∀ bucket ∈ ledger.hourly, (∃ row ∈ swept.records, row.In iso bucket) →
    bucket ∈ swept.hourly) ∧
  ∀ bucket ∈ ledger.hourly, bucket ∉ swept.hourly → ¬ ∃ row ∈ swept.records, ∃ created : Instant,
    row.createdAt = formatInstant created ∧ formatInstantHour created = bucket.key.hour ∧
      keptFrom retentionDays now ≤ created.nanos

/-- A row was accepted in the hour of the cutoff. -/
def InCutoffHour (retentionDays : UInt32) (now created : Instant) : Prop :=
  created.nanos / nanosPerHour = keptFrom retentionDays now / nanosPerHour

/-- No row accepted in the hour of the cutoff, from the cutoff on, shares the hour with a terminal
row, itself included. -/
def CutoffHourClear (retentionDays : UInt32) (now : Instant) (ledger : Ledger) : Prop :=
  ∀ row ∈ ledger.records, ∀ created : Instant, row.createdAt = formatInstant created →
    InCutoffHour retentionDays now created → keptFrom retentionDays now ≤ created.nanos →
      ∀ row' ∈ ledger.records, row'.requestStatus.isTerminal →
        ∀ created' : Instant, row'.createdAt = formatInstant created' →
          ¬ InCutoffHour retentionDays now created'

section Ended

variable (hrun : runRetention fault now retentionDays batchSize maxBatches ledger =
  .ok (swept, .ok stats)) (hfinished : stats.hitBudget = false)

include hrun hfinished

/-- The rows that stay are those from the cutoff on. -/
theorem row_stays_iff {row : UsageRow} {created : Instant}
    (hcreated : row.createdAt = formatInstant created) :
    row ∈ swept.records ↔ row ∈ ledger.records ∧ keptFrom retentionDays now ≤ created.nanos := by
  obtain ⟨cutoff, hcutoff, hrecords, -⟩ := runRetention_mem_iff hrun hfinished
  rw [hrecords, Bool.eq_false_iff, Ne, rawOld_iff hcutoff hcreated, keptFrom, not_lt]

/-- The buckets that go are those up to the hour of the cutoff. -/
theorem bucket_gone_iff {bucket : Bucket} {created : Instant} (hbucket : bucket ∈ ledger.hourly)
    (hhour : bucket.key.hour = formatInstantHour created) : bucket ∉ swept.hourly ↔
      created.nanos / nanosPerHour ≤ keptFrom retentionDays now / nanosPerHour := by
  obtain ⟨cutoff, hcutoff, -, hhourly⟩ := runRetention_mem_iff hrun hfinished
  rw [hhourly, not_and, Bool.not_eq_false, hourlyOld_iff hcutoff hhour]
  exact ⟨fun h => h hbucket, fun h _ => h⟩

end Ended

/-- A row from the cutoff on whose bucket is old was accepted in the hour of the cutoff. -/
theorem inCutoffHour_of_le {created : Instant} (hkept : keptFrom retentionDays now ≤ created.nanos)
    (hle : created.nanos / nanosPerHour ≤ keptFrom retentionDays now / nanosPerHour) :
    InCutoffHour retentionDays now created :=
  le_antisymm hle (Int.ediv_le_ediv (by decide) hkept)

/-- A sweep that came to its end, over a rollup that agreed with the rows, leaves the rows that stay
covered exactly when the hour of the cutoff was clear. -/
theorem retention_covers_iff (hstamped : ledger.Stamped)
    (hagrees : RunningSum.Agrees ledger.hourly (ledger.items iso))
    (hrun : runRetention fault now retentionDays batchSize maxBatches ledger =
      .ok (swept, .ok stats)) (hfinished : stats.hitBudget = false) :
    Covered iso retentionDays now ledger swept ↔ CutoffHourClear retentionDays now ledger := by
  have hstays {row : UsageRow} {created : Instant} (hcreated : row.createdAt = formatInstant created) :=
    row_stays_iff hrun hfinished hcreated
  have hgone {bucket : Bucket} {created : Instant} (hbucket : bucket ∈ ledger.hourly)
      (hhour : bucket.key.hour = formatInstantHour created) :=
    bucket_gone_iff hrun hfinished hbucket hhour
  have hold {row : UsageRow} (hrow : row ∈ swept.records) : row ∈ ledger.records := by
    obtain ⟨cutoff, -, hrecords, -⟩ := runRetention_mem_iff hrun hfinished
    exact ((hrecords row).1 hrow).1
  constructor
  · rintro ⟨-, hnone⟩ row hrow created hcreated hin hkept row' hrow' hterminal created' hcreated' hin'
    obtain ⟨stored, hstored⟩ := (hstamped row' hrow').storedRow_isOk iso
    obtain ⟨bucket, hbucket, hkey⟩ := (exists_bucket_iff hagrees stored.key).2
      ⟨row', hrow', hterminal, stored, hstored, rfl⟩
    have hhour := UsageRow.In.hour ⟨hterminal, stored, hstored, hkey.symm⟩ hcreated'
    -- the bucket of the cutoff's hour is gone while the kept row still needs it
    refine hnone bucket hbucket ((hgone hbucket hhour).2 (le_of_eq hin'))
      ⟨row, (hstays hcreated).2 ⟨hrow, hkept⟩, created, hcreated, ?_, hkept⟩
    rw [hhour]
    exact formatInstantHour_eq_iff.2 (hin.trans hin'.symm)
  · intro hnone
    refine ⟨fun bucket hbucket ⟨row, hrow, hin⟩ => ?_, fun bucket hbucket hnot => ?_⟩
    · by_contra hnot
      obtain ⟨created, hcreated⟩ := hstamped row (hold hrow)
      obtain ⟨hrow', hkept⟩ := (hstays hcreated).1 hrow
      have hle := (hgone hbucket (hin.hour hcreated)).1 hnot
      have hcutoffHour := inCutoffHour_of_le hkept hle
      exact hnone row hrow' created hcreated hcutoffHour hkept row hrow' hin.1 created hcreated
        hcutoffHour
    · rintro ⟨row, hrow, created, hcreated, hhour, hkept⟩
      obtain ⟨row', hrow', hterminal, stored, hstored, hkey⟩ :=
        (exists_bucket_iff hagrees bucket.key).1 ⟨bucket, hbucket, rfl⟩
      obtain ⟨created', hcreated'⟩ := hstamped row' hrow'
      have hhour' := UsageRow.In.hour ⟨hterminal, stored, hstored, hkey⟩ hcreated'
      have hin := inCutoffHour_of_le hkept ((hgone hbucket hhour.symm).1 hnot)
      have hsame := formatInstantHour_eq_iff.1 (hhour'.symm.trans hhour.symm)
      exact hnone row ((hstays hcreated).1 hrow).1 created hcreated hin hkept row' hrow' hterminal
        created' hcreated' (hsame.trans hin)

end Sweep

namespace Sample

/-- 2026-09-27, a quarter to one -/
def quarterToOne : Instant := ⟨1790513100000000000, by decide⟩

/-- The day after, at half past noon -/
def halfPastNoon : Instant := ⟨1790598600000000000, by decide⟩

def quarterToOneRecord : RequestRecord :=
  { record "r1" (some 7) with createdAt := quarterToOne }

/-- One request that ended, rolled up into the hour from noon to one. -/
def noonHourLedger : Ledger :=
  match finalizeRecord iso none quarterToOneRecord emptyLedger with
  | .ok ledger => ledger
  | .error _ => emptyLedger

theorem noonHourLedger_run : LedgerRun iso noonHourLedger := by
  obtain ⟨written, hwritten⟩ := (@finalizeRecord_isOk_iff iso none quarterToOneRecord emptyLedger
    fun _ h => absurd h List.not_mem_nil).2 ⟨by decide, by decide, by decide, by decide⟩
  have hfinalize : finalizeRecord iso none quarterToOneRecord emptyLedger = .ok noonHourLedger := by
    rw [noonHourLedger, hwritten]
  refine LedgerRun.finalize none quarterToOneRecord (LedgerRun.empty rfl rfl) rfl
    (fun _ h => absurd h List.not_mem_nil) (by decide) hfinalize ?_
  refine sumsFit_of_single (show noonHourLedger.contributions iso =
    [Contribution.terminal quarterToOneRecord (BucketKey.fromRecord quarterToOneRecord)] by
      decide +kernel) fun c => ?_
  cases c <;> decide

/-- A sweep at half past noon on the day after, keeping one day. -/
def halfPastSweep : Ledger × RetentionStats :=
  match runRetention (fun _ => none) halfPastNoon 1 2000 defaultMaxBatches noonHourLedger with
  | .ok (swept, .ok stats) => (swept, stats)
  | _ => (noonHourLedger, { rawDeleted := 0, hourlyDeleted := 0, batches := 0, hitBudget := true })

theorem halfPastSweep_finished : halfPastSweep.2.hitBudget = false := by
  decide +kernel

theorem halfPastSweep_eq :
    runRetention (fun _ => none) halfPastNoon 1 2000 defaultMaxBatches noonHourLedger =
      .ok (halfPastSweep.1, .ok halfPastSweep.2) := by
  have hfinished := halfPastSweep_finished
  unfold halfPastSweep at hfinished ⊢
  split at hfinished
  · rename_i heq
    rw [heq]
  · cases hfinished

end Sample

theorem retention_covers_sample :
    Covered Sample.iso 1 Sample.halfPastNoon Sample.noonHourLedger Sample.halfPastSweep.1 ↔
      CutoffHourClear 1 Sample.halfPastNoon Sample.noonHourLedger :=
  retention_covers_iff Sample.noonHourLedger_run.invariant.stamped
    Sample.noonHourLedger_run.invariant.agrees Sample.halfPastSweep_eq Sample.halfPastSweep_finished

/-- The request of a quarter to one stays, and its bucket, which agreed with it, is gone. -/
theorem surviving_row_uncovered :
    LedgerRun Sample.iso Sample.noonHourLedger ∧
      cutoffFor 1 Sample.halfPastNoon = .ok "2026-09-27T12:30:00.000000000Z" ∧
      runRetention (fun _ => none) Sample.halfPastNoon 1 2000 defaultMaxBatches
        Sample.noonHourLedger = .ok (Sample.halfPastSweep.1, .ok Sample.halfPastSweep.2) ∧
      Sample.halfPastSweep.2.hitBudget = false ∧
      Sample.noonHourLedger.hourly.map (fun bucket => bucket.key.hour) = ["2026-09-27T12"] ∧
      Sample.halfPastSweep.1.records = Sample.noonHourLedger.records ∧
      Sample.noonHourLedger.records.map UsageRow.createdAt = ["2026-09-27T12:45:00.000000000Z"] ∧
      Sample.halfPastSweep.1.hourly.length = 0 ∧
      ¬ Covered Sample.iso 1 Sample.halfPastNoon Sample.noonHourLedger Sample.halfPastSweep.1 := by
  have hrecords : Sample.halfPastSweep.1.records = Sample.noonHourLedger.records := by
    decide +kernel
  have hempty : Sample.halfPastSweep.1.hourly.length = 0 := by decide +kernel
  refine ⟨Sample.noonHourLedger_run, by decide +kernel, Sample.halfPastSweep_eq,
    Sample.halfPastSweep_finished, by decide +kernel, hrecords, by decide +kernel, hempty, ?_⟩
  rintro ⟨hstays, -⟩
  have hpos : 0 < Sample.noonHourLedger.hourly.length := by decide +kernel
  have hbucket := List.getElem_mem hpos
  obtain ⟨row, hrow, hterminal, stored, hstored, hkey⟩ :=
    (exists_bucket_iff Sample.noonHourLedger_run.invariant.agrees _).1 ⟨_, hbucket, rfl⟩
  have hleft := hstays _ hbucket ⟨row, hrecords ▸ hrow, hterminal, stored, hstored, hkey⟩
  rw [List.length_eq_zero_iff.1 hempty] at hleft
  exact List.not_mem_nil hleft

end PartnerPortal
