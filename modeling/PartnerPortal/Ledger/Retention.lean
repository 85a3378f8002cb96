import PartnerPortal.Config.Loader
import PartnerPortal.Ledger.Writer
import PartnerPortal.Lib.Slices

/-!
# Retention

A sweep deletes the usage rows and the hourly buckets older than the configured number of days, in
slices that commit one by one.  The cutoff is taken from the clock once, when the sweep starts.

The tables are lists in the order of their keys.  The return of free pages to the file system is
left out.

Results:
- `cutoffFor_lt_iff` — a row is older than the cutoff exactly when it was accepted more than that
  many days before the sweep started;
- `runRetention_keeps` — a sweep deletes no row accepted since;
- `runRetention_finished` — a sweep that neither failed nor hit its budget leaves nothing older.
-/

namespace PartnerPortal.Retention

open MachineInt

def defaultMaxBatches : Nat := 500

/-- The days a row is kept, at least one. -/
def keptDays (retentionDays : UInt32) : Int := max (retentionDays.toNat : Int) 1

/-- Records strictly older than this are eligible. -/
def cutoffFor (retentionDays : UInt32) (now : Instant) : Except Panic String := do
  let days ← Duration.days (keptDays retentionDays)
  let cutoff ← now.utc.sub days
  formatTs cutoff

/-- The `LIMIT` of a slice. -/
def sliceLimit (batchSize : UInt64) : Int := asI64 (max (batchSize.toNat : Int) 1)

/-- `created_at < ?1` -/
def rawOld (cutoff : String) (row : UsageRow) : Bool := row.createdAt < cutoff

/-- `hour < ?1` -/
def hourlyOld (cutoff : String) (bucket : Bucket) : Bool := bucket.key.hour < cutoff

/-- One slice of the raw ledger. -/
def rawSlice (cutoff : String) (batchSize : UInt64) (records : List UsageRow) :
    List UsageRow × Nat :=
  Slices.delete (rawOld cutoff) (sliceLimit batchSize) records

/-- What a sweep accomplished. -/
structure RetentionStats where
  rawDeleted : Nat
  hourlyDeleted : Nat
  batches : Nat
  hitBudget : Bool
deriving DecidableEq

/-- Whether a sweep of one table stopped for its budget. -/
def stoppedByBudget {α : Type} (swept : Slices.Swept α SqliteError) : Bool :=
  match swept.ending with
  | .hitBudget => true
  | _ => false

/-- One bounded sweep: the raw ledger, then the hourly rollup, on one budget of slices.  The slices
before one that fails are committed. -/
def runRetention (fault : Nat → Option SqliteError) (now : Instant) (retentionDays : UInt32)
    (batchSize : UInt64) (maxBatches : Nat) (ledger : Ledger) :
    Except Panic (Ledger × Except SqliteError RetentionStats) := do
  let cutoff ← cutoffFor retentionDays now
  let limit := sliceLimit batchSize
  let raw := Slices.sweep fault (rawOld cutoff) limit maxBatches 0 ledger.records
  match raw.ending with
  | .failed e => return ({ ledger with records := raw.table }, .error e)
  | _ =>
    let hourly := Slices.sweep fault (hourlyOld cutoff) limit (maxBatches - raw.batches)
      raw.batches ledger.hourly
    let swept := { ledger with records := raw.table, hourly := hourly.table }
    match hourly.ending with
    | .failed e => return (swept, .error e)
    | _ =>
      return (swept, .ok
        { rawDeleted := raw.deleted
          hourlyDeleted := hourly.deleted
          batches := hourly.batches
          hitBudget := stoppedByBudget raw || stoppedByBudget hourly })

/-! ## The cutoff -/

theorem keptDays_range (retentionDays : UInt32) :
    1 ≤ keptDays retentionDays ∧ keptDays retentionDays < 4294967296 := by
  have h := retentionDays.toNat_lt
  unfold keptDays
  omega

theorem sliceLimit_ne_zero (batchSize : UInt64) : sliceLimit batchSize ≠ 0 := by
  have h := batchSize.toNat_lt
  unfold sliceLimit asI64
  simp only [Int.bmod_def]
  omega

/-- The cutoff is the text of the instant that many days before. -/
theorem cutoffFor_ok {retentionDays : UInt32} {now : Instant} {cutoff : String}
    (h : cutoffFor retentionDays now = .ok cutoff) :
    cutoff = String.ofList (tsText (now.nanos - keptDays retentionDays * nanosPerDay)) := by
  obtain ⟨days, hdays, hrest⟩ := Result.bind_ok_iff.1 h
  obtain ⟨instant, hsub, htext⟩ := Result.bind_ok_iff.1 hrest
  have hnanos := (OffsetDateTime.checkedAdd_eq_some (OffsetDateTime.add_ok hsub)).1
  unfold Duration.days at hdays
  split at hdays
  · cases hdays
    rw [formatTs_ok htext, hnanos, Instant.nanos_utc]
    rfl
  · cases hdays

/-- A cutoff within the calendar can be computed. -/
theorem cutoffFor_isOk {retentionDays : UInt32} {now : Instant}
    (h : minDay * nanosPerDay ≤ now.nanos - keptDays retentionDays * nanosPerDay) :
    ∃ cutoff, cutoffFor retentionDays now = .ok cutoff := by
  obtain ⟨hpos, hlt⟩ := keptDays_range retentionDays
  have hnow := now.inRange
  have hfits : FitsI64 (keptDays retentionDays * 86400) := by
    unfold FitsI64 i64Min i64Max
    omega
  have hsome : (now.utc.checkedAdd ⟨-(keptDays retentionDays * nanosPerDay)⟩).isSome := by
    rw [OffsetDateTime.checkedAdd_isSome_iff, OffsetDateTime.wall, Instant.nanos_utc,
      Instant.offset_utc]
    simp only
    unfold nanosPerDay nanosPerSecond at *
    omega
  obtain ⟨instant, hinstant⟩ := Option.isSome_iff_exists.1 hsome
  have hnanos := (OffsetDateTime.checkedAdd_eq_some hinstant).1
  rw [Instant.nanos_utc] at hnanos
  obtain ⟨cutoff, hcutoff⟩ := (@formatTs_isOk_iff instant).2 (by
    rw [hnanos]
    simp only
    unfold nanosPerDay at *
    omega)
  exact ⟨cutoff, by simp only [cutoffFor, Duration.days, hfits, if_true, Result.ok_bind,
    OffsetDateTime.sub, OffsetDateTime.add, hinstant, hcutoff]⟩

/-- A row is older than the cutoff exactly when it was accepted more than that many days before. -/
theorem cutoffFor_lt_iff {retentionDays : UInt32} {now created : Instant} {cutoff : String}
    (h : cutoffFor retentionDays now = .ok cutoff) :
    formatInstant created < cutoff ↔
      created.nanos < now.nanos - keptDays retentionDays * nanosPerDay := by
  have hdays := keptDays_range retentionDays
  have hnow := now.inRange
  rw [cutoffFor_ok h]
  refine formatInstant_lt_tsText_iff ?_
  unfold nanosPerDay at *
  omega

theorem rawOld_iff {retentionDays : UInt32} {now created : Instant} {cutoff : String}
    (h : cutoffFor retentionDays now = .ok cutoff) {row : UsageRow}
    (hcreated : row.createdAt = formatInstant created) :
    rawOld cutoff row = true ↔
      created.nanos < now.nanos - keptDays retentionDays * nanosPerDay := by
  rw [rawOld, decide_eq_true_eq, hcreated, cutoffFor_lt_iff h]

/-! ## Sweeps -/

section Sweep

variable {fault : Nat → Option SqliteError} {now : Instant} {retentionDays : UInt32}
  {batchSize : UInt64} {maxBatches : Nat} {ledger swept : Ledger}
  {result : Except SqliteError RetentionStats}

/-- The tables after a sweep are those of the two sweeps of slices. -/
theorem runRetention_tables
    (h : runRetention fault now retentionDays batchSize maxBatches ledger = .ok (swept, result)) :
    ∃ cutoff, cutoffFor retentionDays now = .ok cutoff ∧
      swept.records = (Slices.sweep fault (rawOld cutoff) (sliceLimit batchSize) maxBatches 0
        ledger.records).table ∧
      (swept.hourly = ledger.hourly ∨ ∃ budget batches, swept.hourly =
        (Slices.sweep fault (hourlyOld cutoff) (sliceLimit batchSize) budget batches
          ledger.hourly).table) := by
  obtain ⟨cutoff, hcutoff, h⟩ := Result.bind_ok_iff.1 h
  refine ⟨cutoff, hcutoff, ?_⟩
  dsimp only at h
  split at h
  · cases h
    exact ⟨rfl, Or.inl rfl⟩
  · split at h <;> cases h <;> exact ⟨rfl, Or.inr ⟨_, _, rfl⟩⟩

/-- A sweep deletes no row accepted within the kept days. -/
theorem runRetention_keeps
    (h : runRetention fault now retentionDays batchSize maxBatches ledger = .ok (swept, result))
    {row : UsageRow} (hrow : row ∈ ledger.records) {created : Instant}
    (hcreated : row.createdAt = formatInstant created)
    (hrecent : now.nanos - keptDays retentionDays * nanosPerDay ≤ created.nanos) :
    row ∈ swept.records := by
  obtain ⟨cutoff, hcutoff, hrecords, -⟩ := runRetention_tables h
  have hkeep : rawOld cutoff row = false := by
    rw [Bool.eq_false_iff, Ne, rawOld_iff hcutoff hcreated]
    omega
  rw [hrecords]
  exact Slices.sweep_keeps (row ∈ ·) (fun _ => Slices.mem_delete_of_keep hkeep _) _ _ hrow

/-- A sweep that neither failed nor hit its budget deletes exactly the old rows of both tables. -/
theorem runRetention_mem_iff {stats : RetentionStats}
    (h : runRetention fault now retentionDays batchSize maxBatches ledger = .ok (swept, .ok stats))
    (hbudget : stats.hitBudget = false) :
    ∃ cutoff, cutoffFor retentionDays now = .ok cutoff ∧
      (∀ row, row ∈ swept.records ↔ row ∈ ledger.records ∧ rawOld cutoff row = false) ∧
      ∀ bucket, bucket ∈ swept.hourly ↔ bucket ∈ ledger.hourly ∧ hourlyOld cutoff bucket = false := by
  obtain ⟨cutoff, hcutoff, h⟩ := Result.bind_ok_iff.1 h
  refine ⟨cutoff, hcutoff, ?_⟩
  dsimp only at h
  split at h
  · cases h
  · rename_i hraw
    split at h
    · cases h
    · rename_i hhourly
      cases h
      simp only [stoppedByBudget, Bool.or_eq_false_iff] at hbudget
      refine ⟨fun row => Slices.mem_sweep_iff ?_, fun bucket => Slices.mem_sweep_iff ?_⟩
      · cases hending : (Slices.sweep fault (rawOld cutoff) (sliceLimit batchSize) maxBatches 0
            ledger.records).ending with
        | finished => rfl
        | hitBudget =>
          rw [hending] at hbudget
          exact absurd hbudget.1 (by decide)
        | failed e => exact absurd hending (hraw e)
      · generalize hending : (Slices.sweep fault (hourlyOld cutoff) (sliceLimit batchSize)
            _ _ ledger.hourly).ending = ending at hbudget hhourly
        cases ending with
        | finished => rfl
        | hitBudget => exact absurd hbudget.2 (by decide)
        | failed e => exact absurd rfl (hhourly e)

/-- A sweep that neither failed nor hit its budget leaves no row older than the kept days. -/
theorem runRetention_finished {stats : RetentionStats}
    (h : runRetention fault now retentionDays batchSize maxBatches ledger = .ok (swept, .ok stats))
    (hbudget : stats.hitBudget = false) {row : UsageRow} (hrow : row ∈ swept.records)
    {created : Instant} (hcreated : row.createdAt = formatInstant created) :
    now.nanos - keptDays retentionDays * nanosPerDay ≤ created.nanos := by
  obtain ⟨cutoff, hcutoff, hrecords, -⟩ := runRetention_mem_iff h hbudget
  have hkeep := ((hrecords row).1 hrow).2
  rw [Bool.eq_false_iff, Ne, rawOld_iff hcutoff hcreated] at hkeep
  omega

end Sweep

end PartnerPortal.Retention
