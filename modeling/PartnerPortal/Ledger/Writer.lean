import PartnerPortal.Ledger.Rollup
import PartnerPortal.Lib.Result

/-!
# The ledger writer

Accepting and finalizing a request, and the flush of a batch of both in one transaction.  A value
that cannot be bound fails its statement, and with it the transaction of the whole batch.

Results:
- `finalizeRecord_isOk_iff` — a finalize succeeds exactly when its figures fit the columns;
- `flush_commits_iff_storable` — a batch commits exactly when every finalize in it does.
-/

namespace PartnerPortal

open MachineInt

/-- The tables the ledger writes, with the counter of the autoincrement key and the registered
instances. -/
structure Ledger where
  records : List UsageRow
  hourly : List Bucket
  nextRecordId : Nat
  instances : List String

/-- Why a step of the ledger's transaction ended it. -/
inductive LedgerError where
  | panicked (panic : Panic)
  | sqlite (error : SqliteError)
deriving Repr, DecidableEq

def LedgerError.isBusy : LedgerError → Bool
  | .sqlite .busy => true
  | _ => false

/-- One queued write. -/
inductive PendingWrite where
  /-- insert the record as in flight -/
  | accept (record : RequestRecord)
  /-- move the record to its terminal state and roll it up -/
  | finalize (record : RequestRecord)
  /-- no row, only an acknowledgement -/
  | barrier
deriving DecidableEq

/-! ## Rows -/

/-- The prices of a record, as three columns. -/
def RequestRecord.priceColumns (record : RequestRecord) :
    Option Count × Option Count × Option Count :=
  (record.pricing.map PricingSnapshot.input, record.pricing.map PricingSnapshot.cachedInput,
    record.pricing.map PricingSnapshot.output)

/-- Binding a `u64`: a value past `i64::MAX` has no column to go to. -/
def bindU64 : Option UInt64 → Except SqliteError (Option Count)
  | none => .ok none
  | some v =>
    match Count.ofInt (v.toNat : Int) with
    | some c => .ok (some c)
    | none => .error .toSqlConversionFailure

/-- The figures of a record as they are bound. -/
structure Figures where
  inputTokens : Option Count
  outputTokens : Option Count
  cachedTokens : Option Count
  ttftMs : Option Count
deriving DecidableEq

def bindFigures (record : RequestRecord) : Except SqliteError Figures := do
  let inputTokens ← bindU64 record.usage.inputTokens
  let outputTokens ← bindU64 record.usage.outputTokens
  let cachedTokens ← bindU64 record.usage.cachedTokens
  let ttftMs ← bindU64 record.ttftMs
  return {
    inputTokens := inputTokens
    outputTokens := outputTokens
    cachedTokens := cachedTokens
    ttftMs := ttftMs }

/-- The row of an accepted request. -/
def acceptedRow (id : Nat) (record : RequestRecord) (instanceId : Option String) : UsageRow where
  id := id
  requestId := record.requestId
  createdAt := formatInstant record.createdAt
  consumerId := record.consumerId
  model := record.model
  endpoint := record.endpoint
  streaming := record.streaming
  httpStatus := none
  requestStatus := .inFlight
  instanceId := instanceId
  inputTokens := none
  outputTokens := none
  cachedTokens := none
  ttftMs := none
  durationMs := 0
  usageStatus := .unavailable
  errorMessage := none
  errorBody := none
  inputPriceSnapshot := record.priceColumns.1
  cachedInputPriceSnapshot := record.priceColumns.2.1
  outputPriceSnapshot := record.priceColumns.2.2

/-- The row of a request finalized without an accept. -/
def insertedRow (id : Nat) (record : RequestRecord) (instanceId : Option String)
    (figures : Figures) : UsageRow where
  id := id
  requestId := record.requestId
  createdAt := formatInstant record.createdAt
  consumerId := record.consumerId
  model := record.model
  endpoint := record.endpoint
  streaming := record.streaming
  httpStatus := record.httpStatus
  requestStatus := record.requestStatus
  instanceId := instanceId
  inputTokens := figures.inputTokens
  outputTokens := figures.outputTokens
  cachedTokens := figures.cachedTokens
  ttftMs := figures.ttftMs
  durationMs := asI64 (record.durationMs.toNat : Int)
  usageStatus := record.usageStatus
  errorMessage := record.errorMessage
  errorBody := record.errorBody
  inputPriceSnapshot := record.priceColumns.1
  cachedInputPriceSnapshot := record.priceColumns.2.1
  outputPriceSnapshot := record.priceColumns.2.2

/-- The `UPDATE` of a finalize.  A stored price stays unless the record carries one. -/
def updatedRow (row : UsageRow) (record : RequestRecord) (figures : Figures) : UsageRow :=
  { row with
    httpStatus := record.httpStatus
    requestStatus := record.requestStatus
    streaming := record.streaming
    inputTokens := figures.inputTokens
    outputTokens := figures.outputTokens
    cachedTokens := figures.cachedTokens
    ttftMs := figures.ttftMs
    durationMs := asI64 (record.durationMs.toNat : Int)
    usageStatus := record.usageStatus
    errorMessage := record.errorMessage
    errorBody := record.errorBody
    inputPriceSnapshot := record.priceColumns.1.or row.inputPriceSnapshot
    cachedInputPriceSnapshot := record.priceColumns.2.1.or row.cachedInputPriceSnapshot
    outputPriceSnapshot := record.priceColumns.2.2.or row.outputPriceSnapshot }

/-! ## The two writes -/

def Ledger.find (ledger : Ledger) (requestId : String) : Option UsageRow :=
  ledger.records.find? fun row => row.requestId = requestId

/-- Insert a row under the next key. -/
def Ledger.insert (ledger : Ledger) (row : UsageRow) : Ledger :=
  { ledger with
    records := ledger.records ++ [row]
    nextRecordId := ledger.nextRecordId + 1 }

/-- Rewrite the row of a request. -/
def Ledger.update (ledger : Ledger) (requestId : String) (change : UsageRow → UsageRow) : Ledger :=
  { ledger with
    records := ledger.records.map fun row => if row.requestId = requestId then change row else row }

def Ledger.add (ledger : Ledger) (x : Contribution) : Ledger :=
  { ledger with hourly := x.add ledger.hourly }

def Ledger.retract (ledger : Ledger) (x : Contribution) : Ledger :=
  { ledger with hourly := x.retract ledger.hourly }

/-- What a row was rolled up as is taken back, if it was. -/
def Ledger.retractStored (ledger : Ledger) (stored : StoredRow) : Ledger :=
  match stored.contributes with
  | some previous => ledger.retract previous
  | none => ledger

/-- Insert a fresh record in flight.  A duplicate accept is ignored. -/
def insertAccept (instanceId : Option String) (record : RequestRecord) (ledger : Ledger) :
    Ledger :=
  match ledger.find record.requestId with
  | some _ => ledger
  | none => ledger.insert (acceptedRow ledger.nextRecordId record instanceId)

/-- A panic or a database error, as the end of the transaction. -/
def orSqlite {α : Type} (result : Except SqliteError α) : Except LedgerError α :=
  result.mapError LedgerError.sqlite

/-- Move a record to its terminal state, keeping the rollup in step with it. -/
def finalizeRecord (iso : Iso8601) (instanceId : Option String) (record : RequestRecord)
    (ledger : Ledger) : Except LedgerError Ledger :=
  let contribution := Contribution.terminal record (BucketKey.fromRecord record)
  match ledger.find record.requestId with
  | some existing => do
    let stored ← (storedRow iso existing).mapError LedgerError.panicked
    let figures ← orSqlite (bindFigures record)
    let updated := ledger.update record.requestId fun row => updatedRow row record figures
    return (updated.retractStored stored).add contribution
  | none => do
    let figures ← orSqlite (bindFigures record)
    let inserted := ledger.insert (insertedRow ledger.nextRecordId record instanceId figures)
    return inserted.add contribution

/-! ## The flush of a batch -/

/-- The requests a batch finalizes, whose accepts it skips. -/
def finalizedIds (batch : List PendingWrite) : List String :=
  batch.filterMap fun
    | .finalize record => some record.requestId
    | _ => none

/-- One write of a batch, in its transaction. -/
def flushOne (iso : Iso8601) (instanceId : Option String) (finalized : List String)
    (state : Ledger × Nat) (pending : PendingWrite) : Except LedgerError (Ledger × Nat) :=
  match pending with
  | .barrier => .ok state
  | .accept record =>
    if record.requestId ∈ finalized then .ok state
    else .ok (insertAccept instanceId record state.1, state.2 + 1)
  | .finalize record => do
    let ledger ← finalizeRecord iso instanceId record state.1
    return (ledger, state.2 + 1)

/-- One attempt at writing the batch in a single transaction.  The database may fail under it, which
leaves the tables as they were. -/
def tryFlush (iso : Iso8601) (instanceId : Option String) (fault : Option SqliteError)
    (batch : List PendingWrite) (ledger : Ledger) : Except LedgerError (Ledger × Nat) :=
  match fault with
  | some e => .error (.sqlite e)
  | none => batch.foldlM (flushOne iso instanceId (finalizedIds batch)) (ledger, 0)

/-- What a flush leaves: the tables, the answer every waiter of the batch gets, the number of
records committed, and whether the writer is still healthy. -/
structure Flushed where
  ledger : Ledger
  ack : Except LedgerError Unit
  committed : Nat
  healthy : Bool

/-- Retries beyond the first attempt when the database is busy. -/
def busyRetries : Nat := 6

/-- The attempts of a flush, with some retries left. -/
def flushAttempts (iso : Iso8601) (instanceId : Option String)
    (faults : Nat → Option SqliteError) (batch : List PendingWrite) (ledger : Ledger) :
    Nat → Nat → Flushed
  | retries, attempt =>
    match tryFlush iso instanceId (faults attempt) batch ledger with
    | .ok (written, n) => { ledger := written, ack := .ok (), committed := n, healthy := true }
    | .error e =>
      match retries with
      | 0 => { ledger := ledger, ack := .error e, committed := 0, healthy := false }
      | retries + 1 =>
        if e.isBusy then flushAttempts iso instanceId faults batch ledger retries (attempt + 1)
        else { ledger := ledger, ack := .error e, committed := 0, healthy := false }

/-- Flush a batch, retrying while the database is busy. -/
def flushWithRetry (iso : Iso8601) (instanceId : Option String)
    (faults : Nat → Option SqliteError) (batch : List PendingWrite) (ledger : Ledger) : Flushed :=
  if batch = [] then { ledger := ledger, ack := .ok (), committed := 0, healthy := true }
  else flushAttempts iso instanceId faults batch ledger busyRetries 0

/-! ## When a finalize succeeds -/

/-- A figure its column can hold. -/
def FitsColumn (value : Option UInt64) : Prop := ∀ v ∈ value, (v.toNat : Int) ≤ i64Max

instance : (value : Option UInt64) → Decidable (FitsColumn value)
  | none => isTrue fun _ h => by cases h
  | some v => decidable_of_iff ((v.toNat : Int) ≤ i64Max) (by simp [FitsColumn])

/-- A record whose figures can all be stored. -/
structure RequestRecord.Storable (record : RequestRecord) : Prop where
  inputTokens : FitsColumn record.usage.inputTokens
  outputTokens : FitsColumn record.usage.outputTokens
  cachedTokens : FitsColumn record.usage.cachedTokens
  ttftMs : FitsColumn record.ttftMs

theorem bindU64_isOk_iff {value : Option UInt64} :
    (∃ bound, bindU64 value = .ok bound) ↔ FitsColumn value := by
  cases value with
  | none => simp [bindU64, FitsColumn]
  | some v =>
    have hsome := @Count.ofInt_isSome_iff (v.toNat : Int)
    have hnonneg : (0 : Int) ≤ v.toNat := Int.natCast_nonneg _
    simp only [bindU64, FitsColumn, Option.mem_def, Option.some.injEq, forall_eq']
    cases h : Count.ofInt (v.toNat : Int) with
    | none =>
      rw [h] at hsome
      simpa [hnonneg] using hsome
    | some c =>
      rw [h] at hsome
      simpa [hnonneg] using hsome

theorem bindU64_ok {value : Option UInt64} {bound : Option Count} (h : bindU64 value = .ok bound) :
    bound.map Count.value = value.map fun v => (v.toNat : Int) := by
  cases value with
  | none =>
    cases h
    rfl
  | some v =>
    simp only [bindU64] at h
    split at h
    · rename_i c hc
      cases h
      simp [Count.ofInt_eq_some_iff.1 hc]
    · cases h

theorem bindFigures_isOk_iff {record : RequestRecord} :
    (∃ figures, bindFigures record = .ok figures) ↔ record.Storable := by
  constructor
  · rintro ⟨figures, h⟩
    obtain ⟨input, hinput, h⟩ := Result.bind_ok_iff.1 h
    obtain ⟨output, houtput, h⟩ := Result.bind_ok_iff.1 h
    obtain ⟨cached, hcached, h⟩ := Result.bind_ok_iff.1 h
    obtain ⟨ttft, httft, -⟩ := Result.bind_ok_iff.1 h
    exact ⟨bindU64_isOk_iff.1 ⟨_, hinput⟩, bindU64_isOk_iff.1 ⟨_, houtput⟩,
      bindU64_isOk_iff.1 ⟨_, hcached⟩, bindU64_isOk_iff.1 ⟨_, httft⟩⟩
  · rintro ⟨hinput, houtput, hcached, httft⟩
    obtain ⟨input, hinput⟩ := bindU64_isOk_iff.2 hinput
    obtain ⟨output, houtput⟩ := bindU64_isOk_iff.2 houtput
    obtain ⟨cached, hcached⟩ := bindU64_isOk_iff.2 hcached
    obtain ⟨ttft, httft⟩ := bindU64_isOk_iff.2 httft
    exact ⟨⟨input, output, cached, ttft⟩, by
      simp only [bindFigures, hinput, houtput, hcached, httft, Result.ok_bind, Result.pure_eq]⟩

/-- Every row carries a timestamp the ledger wrote. -/
def Ledger.Stamped (ledger : Ledger) : Prop := ∀ row ∈ ledger.records, row.Stamped

theorem Ledger.find_some {ledger : Ledger} {requestId : String} {row : UsageRow}
    (h : ledger.find requestId = some row) : row ∈ ledger.records ∧ row.requestId = requestId :=
  ⟨List.mem_of_find?_eq_some h, by simpa using List.find?_some h⟩

theorem Ledger.find_none {ledger : Ledger} {requestId : String}
    (h : ledger.find requestId = none) : ∀ row ∈ ledger.records, row.requestId ≠ requestId := by
  simpa [Ledger.find] using h

/-- A finalize succeeds exactly when its figures fit the columns. -/
theorem finalizeRecord_isOk_iff {iso : Iso8601} {instanceId : Option String}
    {record : RequestRecord} {ledger : Ledger} (hstamped : ledger.Stamped) :
    (∃ written, finalizeRecord iso instanceId record ledger = .ok written) ↔ record.Storable := by
  rw [← bindFigures_isOk_iff]
  unfold finalizeRecord
  cases hfind : ledger.find record.requestId with
  | some existing =>
    obtain ⟨stored, hstored⟩ :=
      (hstamped existing (Ledger.find_some hfind).1).storedRow_isOk iso
    simp only [hstored, Except.mapError, Result.ok_bind, orSqlite]
    cases bindFigures record <;> simp
  | none =>
    simp only [Except.mapError, orSqlite]
    cases bindFigures record <;> simp

/-- Figures that cannot be bound are an error of the database. -/
theorem orSqlite_error {α : Type} {result : Except SqliteError α} {e : LedgerError}
    (h : orSqlite result = .error e) : ∃ failure, e = .sqlite failure := by
  cases result with
  | ok a => cases h
  | error failure => exact ⟨failure, (Except.error.inj h).symm⟩

/-- On rows with the ledger's own timestamps a finalize never panics. -/
theorem finalizeRecord_error {iso : Iso8601} {instanceId : Option String} {record : RequestRecord}
    {ledger : Ledger} (hstamped : ledger.Stamped) {e : LedgerError}
    (h : finalizeRecord iso instanceId record ledger = .error e) :
    ∃ failure, e = .sqlite failure := by
  unfold finalizeRecord at h
  cases hfind : ledger.find record.requestId with
  | some existing =>
    obtain ⟨stored, hstored⟩ :=
      (hstamped existing (Ledger.find_some hfind).1).storedRow_isOk iso
    simp only [hfind, hstored, Except.mapError, Result.ok_bind] at h
    rcases Result.bind_error_iff.1 h with h | ⟨figures, -, h⟩
    · exact orSqlite_error h
    · cases h
  | none =>
    simp only [hfind] at h
    rcases Result.bind_error_iff.1 h with h | ⟨figures, -, h⟩
    · exact orSqlite_error h
    · cases h

/-! ## What a write does to the rows -/

/-- What a finalize that succeeded did. -/
inductive Finalized (iso : Iso8601) (instanceId : Option String) (record : RequestRecord)
    (figures : Figures) (ledger : Ledger) : Ledger → Prop
  | updated {existing : UsageRow} {stored : StoredRow}
      (hfind : ledger.find record.requestId = some existing)
      (hstored : storedRow iso existing = .ok stored) :
      Finalized iso instanceId record figures ledger
        (((ledger.update record.requestId fun row =>
          updatedRow row record figures).retractStored stored).add
            (Contribution.terminal record (BucketKey.fromRecord record)))
  | inserted (hfind : ledger.find record.requestId = none) :
      Finalized iso instanceId record figures ledger
        ((ledger.insert (insertedRow ledger.nextRecordId record instanceId figures)).add
          (Contribution.terminal record (BucketKey.fromRecord record)))

theorem finalizeRecord_ok {iso : Iso8601} {instanceId : Option String} {record : RequestRecord}
    {ledger written : Ledger} (h : finalizeRecord iso instanceId record ledger = .ok written) :
    ∃ figures, bindFigures record = .ok figures ∧
      Finalized iso instanceId record figures ledger written := by
  unfold finalizeRecord at h
  cases hfind : ledger.find record.requestId with
  | some existing =>
    simp only [hfind] at h
    obtain ⟨stored, hstored, h⟩ := Result.bind_ok_iff.1 h
    obtain ⟨figures, hfigures, h⟩ := Result.bind_ok_iff.1 h
    cases h
    exact ⟨figures, Result.mapError_ok_iff.1 hfigures, .updated hfind (Result.mapError_ok_iff.1 hstored)⟩
  | none =>
    simp only [hfind] at h
    obtain ⟨figures, hfigures, h⟩ := Result.bind_ok_iff.1 h
    cases h
    exact ⟨figures, Result.mapError_ok_iff.1 hfigures, .inserted hfind⟩

@[simp] theorem Ledger.records_add (ledger : Ledger) (x : Contribution) :
    (ledger.add x).records = ledger.records := rfl

@[simp] theorem Ledger.records_retractStored (ledger : Ledger) (stored : StoredRow) :
    (ledger.retractStored stored).records = ledger.records := by
  unfold Ledger.retractStored
  split <;> rfl

@[simp] theorem Ledger.records_insert (ledger : Ledger) (row : UsageRow) :
    (ledger.insert row).records = ledger.records ++ [row] := rfl

theorem Ledger.mem_update {ledger : Ledger} {requestId : String} {change : UsageRow → UsageRow}
    {row : UsageRow} (h : row ∈ (ledger.update requestId change).records) :
    (row ∈ ledger.records ∧ row.requestId ≠ requestId) ∨
      ∃ old ∈ ledger.records, old.requestId = requestId ∧ row = change old := by
  obtain ⟨old, hold, heq⟩ := List.mem_map.1 h
  by_cases hid : old.requestId = requestId
  · rw [if_pos hid] at heq
    exact Or.inr ⟨old, hold, hid, heq.symm⟩
  · rw [if_neg hid] at heq
    exact Or.inl ⟨heq ▸ hold, heq ▸ hid⟩

/-- The rows of a finalized request and of the others, after a finalize. -/
theorem Finalized.mem {iso : Iso8601} {instanceId : Option String} {record : RequestRecord}
    {figures : Figures} {ledger written : Ledger}
    (h : Finalized iso instanceId record figures ledger written) {row : UsageRow}
    (hrow : row ∈ written.records) :
    (row ∈ ledger.records ∧ row.requestId ≠ record.requestId) ∨
      (row.requestId = record.requestId ∧ row.requestStatus = record.requestStatus ∧
        ((∃ old ∈ ledger.records, row.createdAt = old.createdAt) ∨
          row.createdAt = formatInstant record.createdAt)) := by
  cases h with
  | updated hfind hstored =>
    rw [Ledger.records_add, Ledger.records_retractStored] at hrow
    rcases Ledger.mem_update hrow with hother | ⟨old, hold, hid, rfl⟩
    · exact Or.inl hother
    · exact Or.inr ⟨hid, rfl, Or.inl ⟨old, hold, rfl⟩⟩
  | inserted hfind =>
    rw [Ledger.records_add, Ledger.records_insert] at hrow
    rcases List.mem_append.1 hrow with hrow | hrow
    · exact Or.inl ⟨hrow, Ledger.find_none hfind row hrow⟩
    · rw [List.mem_singleton.1 hrow]
      exact Or.inr ⟨rfl, rfl, Or.inr rfl⟩

theorem Finalized.stamped {iso : Iso8601} {instanceId : Option String} {record : RequestRecord}
    {figures : Figures} {ledger written : Ledger}
    (h : Finalized iso instanceId record figures ledger written) (hstamped : ledger.Stamped) :
    written.Stamped := by
  intro row hrow
  rcases h.mem hrow with ⟨hold, -⟩ | ⟨-, -, ⟨old, hold, heq⟩ | heq⟩
  · exact hstamped row hold
  · obtain ⟨t, ht⟩ := hstamped old hold
    exact ⟨t, heq.trans ht⟩
  · exact ⟨record.createdAt, heq⟩

/-- The ids a ledger has rows for stay, and the finalized one is among them. -/
theorem Finalized.hasRow {iso : Iso8601} {instanceId : Option String} {record : RequestRecord}
    {figures : Figures} {ledger written : Ledger}
    (h : Finalized iso instanceId record figures ledger written) {requestId : String}
    (hid : requestId = record.requestId ∨ ∃ row ∈ ledger.records, row.requestId = requestId) :
    ∃ row ∈ written.records, row.requestId = requestId := by
  cases h with
  | @updated existing stored hfind hstored =>
    simp only [Ledger.records_add, Ledger.records_retractStored, Ledger.update]
    have hid' : ∃ row ∈ ledger.records, row.requestId = requestId :=
      hid.elim (fun heq => ⟨existing, (Ledger.find_some hfind).1,
        (Ledger.find_some hfind).2.trans heq.symm⟩) id
    obtain ⟨row, hrow, hrowId⟩ := hid'
    refine ⟨_, List.mem_map_of_mem hrow, ?_⟩
    split
    · exact hrowId
    · exact hrowId
  | inserted hfind =>
    rw [Ledger.records_add, Ledger.records_insert]
    rcases hid with heq | ⟨row, hrow, hrowId⟩
    · exact ⟨_, List.mem_append_right _ List.mem_cons_self, heq.symm⟩
    · exact ⟨row, List.mem_append_left _ hrow, hrowId⟩

theorem insertAccept_cases (instanceId : Option String) (record : RequestRecord)
    (ledger : Ledger) :
    (insertAccept instanceId record ledger = ledger ∧
      ∃ row ∈ ledger.records, row.requestId = record.requestId) ∨
    (ledger.find record.requestId = none ∧ insertAccept instanceId record ledger =
      ledger.insert (acceptedRow ledger.nextRecordId record instanceId)) := by
  unfold insertAccept
  cases hfind : ledger.find record.requestId with
  | some row => exact Or.inl ⟨rfl, row, Ledger.find_some hfind⟩
  | none => exact Or.inr ⟨rfl, rfl⟩

/-! ## A batch -/

/-- A pending write reached its row: an accepted request has one, and every row of a finalized
request is terminal. -/
def Recorded (ledger : Ledger) : PendingWrite → Prop
  | .accept record => ∃ row ∈ ledger.records, row.requestId = record.requestId
  | .finalize record => (∃ row ∈ ledger.records, row.requestId = record.requestId) ∧
    ∀ row ∈ ledger.records, row.requestId = record.requestId → row.requestStatus.isTerminal
  | .barrier => True

theorem insertAccept_stamped {instanceId : Option String} {record : RequestRecord}
    {ledger : Ledger} (h : ledger.Stamped) : (insertAccept instanceId record ledger).Stamped := by
  rcases insertAccept_cases instanceId record ledger with ⟨heq, -⟩ | ⟨-, heq⟩
  · rw [heq]
    exact h
  · rw [heq]
    intro row hrow
    rcases List.mem_append.1 hrow with hrow | hrow
    · exact h row hrow
    · rw [List.mem_singleton.1 hrow]
      exact ⟨record.createdAt, rfl⟩

theorem insertAccept_recorded (instanceId : Option String) (record : RequestRecord)
    (ledger : Ledger) : Recorded (insertAccept instanceId record ledger) (.accept record) := by
  rcases insertAccept_cases instanceId record ledger with ⟨heq, hrow⟩ | ⟨-, heq⟩
  · rw [heq]
    exact hrow
  · rw [heq]
    exact ⟨_, List.mem_append_right _ List.mem_cons_self, rfl⟩

/-- An accept takes no row away, and adds none to a request that has one. -/
theorem insertAccept_keeps {instanceId : Option String} {record : RequestRecord} {ledger : Ledger}
    {pending : PendingWrite} (h : Recorded ledger pending) :
    Recorded (insertAccept instanceId record ledger) pending := by
  rcases insertAccept_cases instanceId record ledger with ⟨heq, -⟩ | ⟨hfind, heq⟩
  · rw [heq]
    exact h
  · rw [heq]
    cases pending with
    | accept other =>
      obtain ⟨row, hrow, hid⟩ := h
      exact ⟨row, List.mem_append_left _ hrow, hid⟩
    | finalize other =>
      obtain ⟨⟨row, hrow, hid⟩, hall⟩ := h
      refine ⟨⟨row, List.mem_append_left _ hrow, hid⟩, fun row' hrow' hid' => ?_⟩
      rcases List.mem_append.1 hrow' with hrow' | hrow'
      · exact hall row' hrow' hid'
      · rw [List.mem_singleton.1 hrow'] at hid'
        exact absurd (hid.trans hid'.symm) (Ledger.find_none hfind row hrow)
    | barrier => trivial

theorem Finalized.recorded {iso : Iso8601} {instanceId : Option String} {record : RequestRecord}
    {figures : Figures} {ledger written : Ledger}
    (h : Finalized iso instanceId record figures ledger written)
    (hterminal : record.requestStatus.isTerminal) : Recorded written (.finalize record) := by
  refine ⟨h.hasRow (Or.inl rfl), fun row hrow hid => ?_⟩
  rcases h.mem hrow with ⟨-, hne⟩ | ⟨-, hstatus, -⟩
  · exact absurd hid hne
  · rw [hstatus]
    exact hterminal

theorem Finalized.keeps {iso : Iso8601} {instanceId : Option String} {record : RequestRecord}
    {figures : Figures} {ledger written : Ledger}
    (h : Finalized iso instanceId record figures ledger written)
    (hterminal : record.requestStatus.isTerminal) {pending : PendingWrite}
    (hpending : Recorded ledger pending) : Recorded written pending := by
  cases pending with
  | accept other => exact h.hasRow (Or.inr hpending)
  | finalize other =>
    refine ⟨h.hasRow (Or.inr hpending.1), fun row hrow hid => ?_⟩
    rcases h.mem hrow with ⟨hold, -⟩ | ⟨-, hstatus, -⟩
    · exact hpending.2 row hold hid
    · rw [hstatus]
      exact hterminal
  | barrier => trivial

/-- Every finalize of a batch carries a terminal record, as the writer asserts. -/
def TerminalBatch (batch : List PendingWrite) : Prop :=
  ∀ record, .finalize record ∈ batch → record.requestStatus.isTerminal

section Flush

variable {iso : Iso8601} {instanceId : Option String} {batch : List PendingWrite}
  {finalized : List String}

theorem flushOne_stamped {pending : PendingWrite} {state next : Ledger × Nat}
    (h : state.1.Stamped) (hnext : flushOne iso instanceId finalized state pending = .ok next) :
    next.1.Stamped := by
  cases pending with
  | barrier =>
    cases hnext
    exact h
  | accept record =>
    simp only [flushOne] at hnext
    split at hnext
    · cases hnext
      exact h
    · cases hnext
      exact insertAccept_stamped h
  | finalize record =>
    obtain ⟨written, hwritten, hnext⟩ := Result.bind_ok_iff.1 hnext
    cases hnext
    obtain ⟨figures, -, hfinalized⟩ := finalizeRecord_ok hwritten
    exact hfinalized.stamped h

theorem flushOne_error {pending : PendingWrite} {state : Ledger × Nat} {e : LedgerError}
    (h : state.1.Stamped) (hfail : flushOne iso instanceId finalized state pending = .error e) :
    ∃ failure, e = .sqlite failure := by
  cases pending with
  | barrier => cases hfail
  | accept record =>
    simp only [flushOne] at hfail
    split at hfail <;> cases hfail
  | finalize record =>
    rcases Result.bind_error_iff.1 hfail with hfail | ⟨written, -, hfail⟩
    · exact finalizeRecord_error h hfail
    · cases hfail

/-- On rows with the ledger's own timestamps an attempt commits, and keeps them so, or the database
fails it. -/
theorem tryFlush_ends {fault : Option SqliteError} {ledger : Ledger} (hstamped : ledger.Stamped) :
    (∃ result, tryFlush iso instanceId fault batch ledger = .ok result ∧ result.1.Stamped) ∨
      ∃ failure, tryFlush iso instanceId fault batch ledger = .error (.sqlite failure) := by
  cases fault with
  | some e => exact Or.inr ⟨e, rfl⟩
  | none =>
    rcases @Result.foldlM_ends LedgerError (Ledger × Nat) PendingWrite
      (flushOne iso instanceId (finalizedIds batch)) batch (fun state => state.1.Stamped)
      (fun e => ∃ failure, e = .sqlite failure)
      (fun pending _ state next hstate hnext => flushOne_stamped hstate hnext)
      (fun pending _ state e hstate hfail => flushOne_error hstate hfail)
      (ledger, 0) hstamped with hok | ⟨e, he, failure, rfl⟩
    · exact Or.inl hok
    · exact Or.inr ⟨failure, he⟩

/-- A write of a batch keeps what earlier ones recorded. -/
theorem flushOne_keeps {pending : PendingWrite} {state next : Ledger × Nat}
    (hterminal : ∀ record, pending = .finalize record → record.requestStatus.isTerminal)
    (hnext : flushOne iso instanceId finalized state pending = .ok next) {other : PendingWrite}
    (hother : Recorded state.1 other) : Recorded next.1 other := by
  cases pending with
  | barrier =>
    cases hnext
    exact hother
  | accept record =>
    simp only [flushOne] at hnext
    split at hnext
    · cases hnext
      exact hother
    · cases hnext
      exact insertAccept_keeps hother
  | finalize record =>
    obtain ⟨written, hwritten, hnext⟩ := Result.bind_ok_iff.1 hnext
    cases hnext
    obtain ⟨figures, -, hfinalized⟩ := finalizeRecord_ok hwritten
    exact hfinalized.keeps (hterminal record rfl) hother

/-- A write of a batch reaches its row, unless the batch finalizes its request anyway. -/
theorem flushOne_recorded {pending : PendingWrite} {state next : Ledger × Nat}
    (hterminal : ∀ record, pending = .finalize record → record.requestStatus.isTerminal)
    (hnext : flushOne iso instanceId finalized state pending = .ok next) :
    (∃ record, pending = .accept record ∧ record.requestId ∈ finalized) ∨
      Recorded next.1 pending := by
  cases pending with
  | barrier => exact Or.inr trivial
  | accept record =>
    simp only [flushOne] at hnext
    split at hnext
    · rename_i hin
      exact Or.inl ⟨record, rfl, hin⟩
    · cases hnext
      exact Or.inr (insertAccept_recorded instanceId record state.1)
  | finalize record =>
    obtain ⟨written, hwritten, hnext⟩ := Result.bind_ok_iff.1 hnext
    cases hnext
    obtain ⟨figures, -, hfinalized⟩ := finalizeRecord_ok hwritten
    exact Or.inr (hfinalized.recorded (hterminal record rfl))

/-- One attempt without a database failure succeeds exactly when every finalize's figures fit. -/
theorem tryFlush_isOk_iff {ledger : Ledger} (hstamped : ledger.Stamped) :
    (∃ result, tryFlush iso instanceId none batch ledger = .ok result) ↔
      ∀ record, .finalize record ∈ batch → record.Storable := by
  have hfold := @Result.foldlM_isOk_iff LedgerError (Ledger × Nat) PendingWrite
    (flushOne iso instanceId (finalizedIds batch)) batch (fun state => state.1.Stamped)
    (fun pending => ∀ record, pending = .finalize record → record.Storable)
    (fun pending _ state next hstate hnext => flushOne_stamped hstate hnext)
    (fun pending _ state hstate => by
      cases pending with
      | barrier => simp [flushOne]
      | accept record =>
        simp only [flushOne]
        split <;> simp
      | finalize record =>
        simp only [flushOne, PendingWrite.finalize.injEq, forall_eq']
        rw [← finalizeRecord_isOk_iff hstate]
        exact Result.isOk_map_iff)
    (ledger, 0) hstamped
  rw [tryFlush, hfold]
  exact ⟨fun h record hmem => h _ hmem record rfl,
    fun h pending hmem record heq => h record (heq ▸ hmem)⟩

/-- A batch that was committed recorded every write in it. -/
theorem tryFlush_recorded {fault : Option SqliteError} {ledger : Ledger}
    {result : Ledger × Nat} (hterminal : TerminalBatch batch)
    (h : tryFlush iso instanceId fault batch ledger = .ok result) :
    ∀ pending ∈ batch, Recorded result.1 pending := by
  unfold tryFlush at h
  split at h
  · cases h
  have hrecorded := (Result.foldlM_visits
    (fun (pending : PendingWrite) (state : Ledger × Nat) =>
      (∃ record, pending = .accept record ∧ record.requestId ∈ finalizedIds batch) ∨
        Recorded state.1 pending)
    (fun pending hmem _ _ hnext =>
      flushOne_recorded (fun record heq => hterminal record (heq ▸ hmem)) hnext)
    (fun pending hmem _ _ _ hnext hother => hother.imp_right
      (flushOne_keeps (fun record heq => hterminal record (heq ▸ hmem)) hnext)) h).1
  intro pending hmem
  rcases hrecorded pending hmem with ⟨record, rfl, hin⟩ | hpending
  · -- a skipped accept has the row of the finalize that superseded it
    obtain ⟨other, hother, hid⟩ := List.mem_filterMap.1 hin
    cases other with
    | finalize finalizedRecord =>
      have hrow := (hrecorded _ hother).resolve_left (by simp)
      obtain ⟨row, hrow, hrowId⟩ := hrow.1
      exact ⟨row, hrow, hrowId.trans (Option.some.inj hid)⟩
    | accept _ => cases hid
    | barrier => cases hid
  · exact hpending

/-- A batch that cannot be committed for a reason of its own fails on every attempt. -/
theorem flushAttempts_error {ledger : Ledger} {e : LedgerError}
    (h : tryFlush iso instanceId none batch ledger = .error e) (retries attempt : Nat) :
    (flushAttempts iso instanceId (fun _ => none) batch ledger retries attempt).ack = .error e := by
  induction retries generalizing attempt with
  | zero => rw [flushAttempts, h]
  | succ retries ih =>
    rw [flushAttempts, h]
    simp only
    split
    · exact ih (attempt + 1)
    · rfl

/-- Without a database failure a flush answers every waiter with success, keeps the writer healthy
and records every write exactly when the figures of every finalize in the batch fit their
columns. -/
theorem flush_commits_iff_storable {ledger : Ledger} (hstamped : ledger.Stamped)
    (hterminal : TerminalBatch batch) :
    ((flushWithRetry iso instanceId (fun _ => none) batch ledger).ack = .ok () ∧
      (flushWithRetry iso instanceId (fun _ => none) batch ledger).healthy = true ∧
      ∀ pending ∈ batch,
        Recorded (flushWithRetry iso instanceId (fun _ => none) batch ledger).ledger pending) ↔
      ∀ record, .finalize record ∈ batch → record.Storable := by
  rw [← @tryFlush_isOk_iff iso instanceId batch ledger hstamped]
  by_cases hempty : batch = []
  · subst hempty
    simp [flushWithRetry, tryFlush, pure, Except.pure]
  · simp only [flushWithRetry, if_neg hempty]
    cases htry : tryFlush iso instanceId none batch ledger with
    | error e =>
      rw [flushAttempts_error htry]
      simp
    | ok result =>
      have hrecorded := tryFlush_recorded hterminal htry
      simp only [busyRetries, flushAttempts, htry, Except.ok.injEq, exists_eq', iff_true, true_and]
      exact hrecorded

end Flush

namespace Sample

/-- A record of a request that ended, with some reported input count. -/
def record (requestId : String) (input : Option UInt64) : RequestRecord where
  requestId := requestId
  createdAt := noon
  consumerId := "acme"
  model := "gpt"
  endpoint := .chatCompletions
  streaming := false
  httpStatus := some 200
  requestStatus := .completed
  usage := { inputTokens := input, outputTokens := some 1 }
  ttftMs := none
  durationMs := 5
  errorMessage := none
  errorBody := none
  pricing := none

def emptyLedger : Ledger where
  records := []
  hourly := []
  nextRecordId := 1
  instances := []

/-- The finalize of one request and the accept of another. -/
def batch (input : UInt64) : List PendingWrite :=
  [.finalize (record "r1" (some input)), .accept (record "r2" none)]

theorem batch_terminal (input : UInt64) : TerminalBatch (batch input) := by
  intro r hr
  simp only [batch, List.mem_cons, PendingWrite.finalize.injEq, reduceCtorEq, List.not_mem_nil,
    or_false] at hr
  rw [hr]
  rfl

end Sample

theorem flush_commits_sample :
    ((flushWithRetry Sample.iso none (fun _ => none) (Sample.batch 7)
        Sample.emptyLedger).ack = .ok () ∧
      (flushWithRetry Sample.iso none (fun _ => none) (Sample.batch 7)
        Sample.emptyLedger).healthy = true ∧
      ∀ pending ∈ Sample.batch 7, Recorded (flushWithRetry Sample.iso none
        (fun _ => none) (Sample.batch 7) Sample.emptyLedger).ledger pending) ↔
      ∀ record, .finalize record ∈ Sample.batch 7 → record.Storable :=
  flush_commits_iff_storable (fun _ h => absurd h List.not_mem_nil) (Sample.batch_terminal 7)

/-- A reported count of 2^63 fails the whole batch: the other request gets no row, every waiter an
error, and the writer is marked unhealthy. -/
theorem flush_lost_to_one_count :
    (flushWithRetry Sample.iso none (fun _ => none) (Sample.batch 9223372036854775808)
        Sample.emptyLedger).ack = .error (.sqlite .toSqlConversionFailure) ∧
      (flushWithRetry Sample.iso none (fun _ => none)
        (Sample.batch 9223372036854775808) Sample.emptyLedger).healthy = false ∧
      (flushWithRetry Sample.iso none (fun _ => none)
        (Sample.batch 9223372036854775808) Sample.emptyLedger).ledger.records = [] := by
  decide +kernel

end PartnerPortal
