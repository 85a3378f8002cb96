import PartnerPortal.Ledger.Writer

/-!
# Recovery of stranded requests

A pass resolves every request in flight whose owner is known to be gone, or too old where the owner
cannot be probed, to `interrupted`, and rolls it up as a failure without tokens.

Results:
- `isStranded_iff` — the predicate a pass selects by is the rule `Recoverable`;
- `recoverInTx_ok_iff` — when a pass succeeds, and the ledger it leaves;
- `recoverInTx_ok` — the rows a pass resolves and the contributions it adds are the same ones;
- `recoverInTx_isOk` — over rows the ledger wrote, a pass whose grace is on the calendar succeeds;
- `recovery_pass` — a pass resolves exactly the rows it should, and a second one finds nothing;
- `running_spared` — an instance that runs loses no registration, and no row that is not old.
-/

namespace PartnerPortal

open MachineInt

inductive Liveness where
  | alive
  | dead
  | unknown
deriving Repr, DecidableEq

/-- Everything recovery needs to know about the instance running it.  The probe of a lock file is
the operating system's answer. -/
structure RecoveryContext where
  instanceId : String
  probe : String → Liveness
  unknownOwnerGraceSecs : UInt64
  now : Instant

/-- What opening the lock file of an instance and then locking it came to. -/
inductive LockAttempt where
  | notFound
  | openFailed
  | acquired
  /-- somebody holds the lock -/
  | held
  | lockFailed
deriving Repr, DecidableEq

/-- Whether the instance behind a lock file is still running. -/
def probe : LockAttempt → Liveness
  | .notFound => .dead
  | .openFailed => .unknown
  | .acquired => .dead
  | .held => .alive
  | .lockFailed => .unknown

/-- The instant before which a row of an owner that cannot be probed is old enough. -/
def RecoveryContext.oldBefore (ctx : RecoveryContext) : Except Panic String := do
  let t ← ctx.now.utc.add
    ⟨-(asI64 (ctx.unknownOwnerGraceSecs.toNat : Int) * nanosPerSecond)⟩
  formatTs t

def interruptReason : String := "owning process is gone; request was in flight"

/-- Candidate owners of rows in flight, split by liveness. -/
structure DeadInstances where
  confirmed : List String
  unknown : List String
deriving DecidableEq

/-- The registered instances, and the owners of rows in flight. -/
def candidates (ctx : RecoveryContext) (ledger : Ledger) : List String :=
  (ledger.instances ++ (ledger.records.filter fun row =>
    row.requestStatus = .inFlight).filterMap UsageRow.instanceId).dedup.filter fun id =>
      id ≠ ctx.instanceId

def classifyCandidates (ctx : RecoveryContext) (ledger : Ledger) : DeadInstances where
  confirmed := (candidates ctx ledger).filter fun id => ctx.probe id = .dead
  unknown := (candidates ctx ledger).filter fun id => ctx.probe id = .unknown

/-- The rows a pass may recover. -/
def isStranded (dead : DeadInstances) (oldBefore : String) (row : UsageRow) : Bool :=
  row.requestStatus = .inFlight && match row.instanceId with
    | some id => id ∈ dead.confirmed || (id ∈ dead.unknown && row.createdAt < oldBefore)
    | none => row.createdAt < oldBefore

/-- The `UPDATE` of a recovered row. -/
def recoveredRow (row : UsageRow) : UsageRow :=
  { row with
    requestStatus := .interrupted
    usageStatus := .unavailable
    errorMessage := some interruptReason
    errorBody := none }

/-- What a stranded row is rolled up as. -/
def strandedContribution (row : UsageRow) (hour : String) : Contribution where
  key := (StoredRow.ofColumns row hour).key
  metrics := Contribution.interrupted row.durationMs

/-- Roll one stranded row up. -/
def rollStranded (iso : Iso8601) (hourly : List Bucket) (row : UsageRow) :
    Except LedgerError (List Bucket) := do
  let hour ← (formatHourStr iso row.createdAt).mapError LedgerError.panicked
  return (strandedContribution row hour).add hourly

structure RecoveryReport where
  recovered : Nat
  instancesSwept : Nat
deriving Repr, DecidableEq

/-- The body of a recovery pass, with the ids of the instances it swept. -/
def recoverInTx (iso : Iso8601) (ctx : RecoveryContext) (ledger : Ledger) :
    Except LedgerError (Ledger × RecoveryReport × List String) := do
  let dead := classifyCandidates ctx ledger
  let oldBefore ← ctx.oldBefore.mapError LedgerError.panicked
  let stranded := ledger.records.filter (isStranded dead oldBefore)
  let hourly ← stranded.foldlM (rollStranded iso) ledger.hourly
  let written : Ledger := {
    records := ledger.records.map fun row =>
      if isStranded dead oldBefore row then recoveredRow row else row
    hourly := hourly
    nextRecordId := ledger.nextRecordId
    instances := ledger.instances.filter fun id => !(id ∈ dead.confirmed) }
  return (written, {
    recovered := stranded.length
    instancesSwept := ledger.instances.countP fun id => id ∈ dead.confirmed }, dead.confirmed)

/-- One pass, in a transaction the database may fail under. -/
def recoverInFlight (iso : Iso8601) (ctx : RecoveryContext) (fault : Option SqliteError)
    (ledger : Ledger) : Except LedgerError (Ledger × RecoveryReport) :=
  match fault with
  | some e => .error (.sqlite e)
  | none => do
    let (written, report, _) ← recoverInTx iso ctx ledger
    return (written, report)

/-- The ledger after a pass, and what the pass returned.  A failed transaction is rolled back. -/
def recoveryPass (iso : Iso8601) (ctx : RecoveryContext) (fault : Option SqliteError)
    (ledger : Ledger) : Ledger × Except LedgerError RecoveryReport :=
  match recoverInFlight iso ctx fault ledger with
  | .ok (written, report) => (written, .ok report)
  | .error e => (ledger, .error e)

/-! ## What a pass does -/

/-- A pass probes every instance but its own. -/
def RecoveryContext.Probed (ctx : RecoveryContext) (id : String) (verdict : Liveness) : Prop :=
  id ≠ ctx.instanceId ∧ ctx.probe id = verdict

instance RecoveryContext.decidableProbed (ctx : RecoveryContext) (id : String)
    (verdict : Liveness) : Decidable (ctx.Probed id verdict) :=
  inferInstanceAs (Decidable (_ ∧ _))

/-- The rule for one row: its owner is dead, or it is old and no owner of it can be probed. -/
def Recoverable (ctx : RecoveryContext) (cutoff : String) (row : UsageRow) : Prop :=
  row.requestStatus = .inFlight ∧
    ((∃ id ∈ row.instanceId, ctx.Probed id .dead) ∨
      row.createdAt < cutoff ∧ ∀ id ∈ row.instanceId, ctx.Probed id .unknown)

instance decidableRecoverable (ctx : RecoveryContext) (cutoff : String) (row : UsageRow) :
    Decidable (Recoverable ctx cutoff row) :=
  inferInstanceAs (Decidable (_ ∧ _))

section Classification

variable {ctx : RecoveryContext} {ledger : Ledger} {id cutoff : String} {row : UsageRow}

theorem mem_candidates : id ∈ candidates ctx ledger ↔
    (id ∈ ledger.instances ∨ ∃ row ∈ ledger.records, row.requestStatus = .inFlight ∧
      row.instanceId = some id) ∧ id ≠ ctx.instanceId := by
  simp only [candidates, List.mem_filter, List.mem_dedup, List.mem_append, List.mem_filterMap,
    decide_eq_true_eq, and_assoc]

theorem mem_confirmed : id ∈ (classifyCandidates ctx ledger).confirmed ↔
    id ∈ candidates ctx ledger ∧ ctx.probe id = .dead := by
  simp only [classifyCandidates, List.mem_filter, decide_eq_true_eq]

theorem mem_unknown : id ∈ (classifyCandidates ctx ledger).unknown ↔
    id ∈ candidates ctx ledger ∧ ctx.probe id = .unknown := by
  simp only [classifyCandidates, List.mem_filter, decide_eq_true_eq]

/-- The registrations a pass sweeps are those of the dead. -/
theorem mem_confirmed_of_registered (hid : id ∈ ledger.instances) :
    id ∈ (classifyCandidates ctx ledger).confirmed ↔ ctx.Probed id .dead := by
  rw [mem_confirmed, mem_candidates, and_iff_right (Or.inl hid)]
  rfl

/-- The predicate a pass selects by is the rule, on the rows of the ledger it classified. -/
theorem isStranded_iff (hrow : row ∈ ledger.records) :
    isStranded (classifyCandidates ctx ledger) cutoff row ↔ Recoverable ctx cutoff row := by
  unfold isStranded Recoverable
  rw [Bool.and_eq_true_iff, decide_eq_true_eq]
  refine and_congr_right fun hflight => ?_
  rcases hid : row.instanceId with _ | id
  · simp
  · -- an owner of a row in flight is a candidate, registered or not
    have hcandidate : id ∈ candidates ctx ledger ↔ id ≠ ctx.instanceId := by
      rw [mem_candidates, and_iff_right (Or.inr ⟨row, hrow, hflight, hid⟩)]
    simp only [Bool.or_eq_true, Bool.and_eq_true, decide_eq_true_eq, mem_confirmed, mem_unknown,
      hcandidate, RecoveryContext.Probed, Option.mem_def, Option.some.injEq, exists_eq_left',
      forall_eq']
    exact or_congr_right and_comm

end Classification

/-- The contributions of stranded rows, each in the bucket of its own hour. -/
def strandedItem (iso : Iso8601) (row : UsageRow) : RunningSum.Item BucketKey Counter :=
  match formatHourStr iso row.createdAt with
  | .ok hour => (strandedContribution row hour).item
  | .error _ => (strandedContribution row "").item

theorem rollStranded_ok_iff {iso : Iso8601} {row : UsageRow} {hourly written : List Bucket} :
    rollStranded iso hourly row = .ok written ↔
      (∃ hour, formatHourStr iso row.createdAt = .ok hour) ∧
        written = RunningSum.add hourly (strandedItem iso row) := by
  unfold rollStranded strandedItem
  cases formatHourStr iso row.createdAt with
  | error e => simp [Except.mapError]
  | ok hour =>
    simp only [Except.mapError, Result.ok_bind, Result.pure_eq, Except.ok.injEq, exists_eq',
      true_and]
    exact eq_comm

/-- A pass adds one contribution for each row it resolves, and fails where a row has no hour. -/
theorem rollStranded_foldlM_ok_iff {iso : Iso8601} {rows : List UsageRow}
    {hourly written : List Bucket} :
    rows.foldlM (rollStranded iso) hourly = .ok written ↔
      (∀ row ∈ rows, ∃ hour, formatHourStr iso row.createdAt = .ok hour) ∧
        written = (rows.map (strandedItem iso)).foldl RunningSum.add hourly := by
  induction rows generalizing hourly with
  | nil =>
    rw [List.foldlM_nil, Result.pure_eq, Except.ok.injEq]
    simp [eq_comm]
  | cons row rows ih =>
    rw [List.foldlM_cons, Result.bind_ok_iff, List.forall_mem_cons]
    constructor
    · rintro ⟨next, hnext, hrest⟩
      obtain ⟨hhour, rfl⟩ := rollStranded_ok_iff.1 hnext
      obtain ⟨hhours, hwritten⟩ := ih.1 hrest
      exact ⟨⟨hhour, hhours⟩, hwritten⟩
    · rintro ⟨⟨hhour, hhours⟩, hwritten⟩
      exact ⟨_, rollStranded_ok_iff.2 ⟨hhour, rfl⟩, ih.2 ⟨hhours, hwritten⟩⟩

/-- The rows of a ledger that a pass resolves. -/
def Ledger.recoverable (ledger : Ledger) (ctx : RecoveryContext) (cutoff : String) :
    List UsageRow :=
  ledger.records.filter fun row => Recoverable ctx cutoff row

/-- The ledger a pass leaves. -/
def Ledger.recovered (ledger : Ledger) (iso : Iso8601) (ctx : RecoveryContext) (cutoff : String) :
    Ledger where
  records := ledger.records.map fun row =>
    if Recoverable ctx cutoff row then recoveredRow row else row
  hourly := ((ledger.recoverable ctx cutoff).map (strandedItem iso)).foldl RunningSum.add
    ledger.hourly
  nextRecordId := ledger.nextRecordId
  instances := ledger.instances.filter fun id => ¬ctx.Probed id .dead

section Pass

variable {iso : Iso8601} {ctx : RecoveryContext} {ledger written : Ledger}
  {report : RecoveryReport} {swept : List String} {cutoff : String}

/-- When a pass succeeds, and what it leaves. -/
theorem recoverInTx_ok_iff :
    recoverInTx iso ctx ledger = .ok (written, report, swept) ↔
      ∃ cutoff, ctx.oldBefore = .ok cutoff ∧
        (∀ row ∈ ledger.recoverable ctx cutoff, ∃ hour,
          formatHourStr iso row.createdAt = .ok hour) ∧
        written = ledger.recovered iso ctx cutoff ∧
        report = ⟨(ledger.recoverable ctx cutoff).length,
          ledger.instances.countP fun id => ctx.Probed id .dead⟩ ∧
        swept = (classifyCandidates ctx ledger).confirmed := by
  unfold recoverInTx
  rw [Result.bind_ok_iff]
  refine exists_congr fun cutoff => and_congr Result.mapError_ok_iff ?_
  -- every row in question belongs to a candidate, so the probe decides
  have hstranded : ∀ row ∈ ledger.records,
      isStranded (classifyCandidates ctx ledger) cutoff row =
        decide (Recoverable ctx cutoff row) := fun row hrow =>
    Bool.eq_iff_iff.2 (by rw [isStranded_iff hrow, decide_eq_true_eq])
  have hrows : ledger.records.filter (isStranded (classifyCandidates ctx ledger) cutoff) =
      ledger.recoverable ctx cutoff := List.filter_congr hstranded
  have hrecords : (ledger.records.map fun row =>
      if isStranded (classifyCandidates ctx ledger) cutoff row then recoveredRow row else row) =
        (ledger.recovered iso ctx cutoff).records :=
    List.map_congr_left fun row hrow => by simp only [hstranded row hrow, decide_eq_true_eq]
  have hdead : ∀ id ∈ ledger.instances,
      decide (id ∈ (classifyCandidates ctx ledger).confirmed) = decide (ctx.Probed id .dead) :=
    fun id hid => decide_eq_decide.2 (mem_confirmed_of_registered hid)
  have hinstances : (ledger.instances.filter fun id =>
      !decide (id ∈ (classifyCandidates ctx ledger).confirmed)) =
        (ledger.recovered iso ctx cutoff).instances :=
    List.filter_congr fun id hid => by rw [hdead id hid, decide_not]
  have hcount : (ledger.instances.countP fun id =>
      id ∈ (classifyCandidates ctx ledger).confirmed) =
        ledger.instances.countP fun id => ctx.Probed id .dead :=
    List.countP_congr fun id hid => by rw [hdead id hid]
  dsimp only
  rw [hrows, hrecords, hinstances, hcount, Result.bind_ok_iff]
  constructor
  · rintro ⟨hourly, hroll, h⟩
    obtain ⟨hhours, rfl⟩ := rollStranded_foldlM_ok_iff.1 hroll
    cases h
    exact ⟨hhours, rfl, rfl, rfl⟩
  · rintro ⟨hhours, rfl, rfl, rfl⟩
    exact ⟨_, rollStranded_foldlM_ok_iff.2 ⟨hhours, rfl⟩, rfl⟩

/-- The rows a pass resolves and the contributions it adds are the same ones. -/
theorem recoverInTx_ok (h : recoverInTx iso ctx ledger = .ok (written, report, swept)) :
    ∃ stranded : UsageRow → Bool, (∀ row, stranded row → row.requestStatus = .inFlight) ∧
      written.records = ledger.records.map (fun row =>
        if stranded row then recoveredRow row else row) ∧
      written.hourly = ((ledger.records.filter stranded).map (strandedItem iso)).foldl
        RunningSum.add ledger.hourly := by
  obtain ⟨cutoff, -, -, rfl, -, -⟩ := recoverInTx_ok_iff.1 h
  refine ⟨fun row => Recoverable ctx cutoff row, fun row hrow => (of_decide_eq_true hrow).1, ?_,
    rfl⟩
  simp only [Ledger.recovered, decide_eq_true_eq]

/-- Over rows the ledger wrote, a pass whose grace period is on the calendar succeeds. -/
theorem recoverInTx_isOk (hstamped : ledger.Stamped) (hold : ctx.oldBefore = .ok cutoff) :
    ∃ result, recoverInTx iso ctx ledger = .ok result := by
  refine ⟨(_, _, _), recoverInTx_ok_iff.2 ⟨cutoff, hold, fun row hrow => ?_, rfl, rfl, rfl⟩⟩
  obtain ⟨t, ht⟩ := hstamped row (List.mem_filter.1 hrow).1
  rw [ht, formatHourStr_formatInstant]
  exact ⟨_, rfl⟩

/-! ## A second pass -/

theorem recoveredRow_not_recoverable {row : UsageRow} :
    ¬Recoverable ctx cutoff (recoveredRow row) := by
  rintro ⟨hflight, -⟩
  cases hflight

/-- A pass leaves nothing for another one to resolve. -/
theorem recovered_recoverable :
    (ledger.recovered iso ctx cutoff).recoverable ctx cutoff = [] := by
  refine List.filter_eq_nil_iff.2 fun row hrow => ?_
  rw [decide_eq_true_eq]
  obtain ⟨before, -, rfl⟩ := List.mem_map.1 hrow
  split
  · exact recoveredRow_not_recoverable
  · assumption

/-- Where nothing is to be resolved or swept, a pass leaves the ledger as it is. -/
theorem recovered_eq_self (hrecoverable : ledger.recoverable ctx cutoff = [])
    (hdead : ∀ id ∈ ledger.instances, ¬ctx.Probed id .dead) :
    ledger.recovered iso ctx cutoff = ledger := by
  have hrows : ∀ row ∈ ledger.records, ¬Recoverable ctx cutoff row := fun row hrow h =>
    List.filter_eq_nil_iff.1 hrecoverable row hrow (decide_eq_true h)
  have hrecords : (ledger.records.map fun row =>
      if Recoverable ctx cutoff row then recoveredRow row else row) = ledger.records := by
    conv_rhs => rw [← List.map_id ledger.records]
    exact List.map_congr_left fun row hrow => if_neg (hrows row hrow)
  have hinstances : (ledger.instances.filter fun id => ¬ctx.Probed id .dead) = ledger.instances :=
    List.filter_eq_self.2 fun id hid => decide_eq_true (hdead id hid)
  unfold Ledger.recovered
  rw [hrecords, hrecoverable, hinstances]
  rfl

/-- After a pass, the same pass over again succeeds and changes nothing. -/
theorem recoverInTx_again (hold : ctx.oldBefore = .ok cutoff) :
    ∃ swept, recoverInTx iso ctx (ledger.recovered iso ctx cutoff) =
      .ok (ledger.recovered iso ctx cutoff, ⟨0, 0⟩, swept) := by
  have hdead : ∀ id ∈ (ledger.recovered iso ctx cutoff).instances, ¬ctx.Probed id .dead :=
    fun id hid => of_decide_eq_true (List.mem_filter.1 hid).2
  have hnone : (ledger.recovered iso ctx cutoff).instances.countP
      (fun id => ctx.Probed id .dead) = 0 :=
    List.countP_eq_zero.2 fun id hid => by simpa using hdead id hid
  refine ⟨_, recoverInTx_ok_iff.2 ⟨cutoff, hold, fun row hrow => ?_,
    (recovered_eq_self recovered_recoverable hdead).symm, ?_, rfl⟩⟩
  · rw [recovered_recoverable] at hrow
    exact absurd hrow List.not_mem_nil
  · rw [recovered_recoverable, hnone]
    rfl

/-- What a pass that returns a report did. -/
theorem recoveryPass_ok {fault : Option SqliteError}
    (h : (recoveryPass iso ctx fault ledger).2 = .ok report) :
    ∃ cutoff, ctx.oldBefore = .ok cutoff ∧
      (∀ row ∈ ledger.recoverable ctx cutoff, ∃ hour,
        formatHourStr iso row.createdAt = .ok hour) ∧
      (recoveryPass iso ctx fault ledger).1 = ledger.recovered iso ctx cutoff ∧
      report = ⟨(ledger.recoverable ctx cutoff).length,
        ledger.instances.countP fun id => ctx.Probed id .dead⟩ := by
  unfold recoveryPass at h ⊢
  rcases hpass : recoverInFlight iso ctx fault ledger with e | ⟨written, found⟩
  · rw [hpass] at h
    cases h
  · rw [hpass] at h
    cases h
    rcases fault with _ | e
    · obtain ⟨⟨written', report', swept⟩, htx, hpass⟩ := Result.bind_ok_iff.1 hpass
      cases hpass
      obtain ⟨cutoff, hold, hhours, hwritten, hreport, -⟩ := recoverInTx_ok_iff.1 htx
      exact ⟨cutoff, hold, hhours, hwritten, hreport⟩
    · cases hpass

/-- Whatever the database does, a pass after a pass leaves the ledger as it is. -/
theorem recoveryPass_again (hold : ctx.oldBefore = .ok cutoff) (fault : Option SqliteError) :
    (recoveryPass iso ctx fault (ledger.recovered iso ctx cutoff)).1 =
      ledger.recovered iso ctx cutoff := by
  obtain ⟨swept, hagain⟩ := @recoverInTx_again iso ctx ledger cutoff hold
  rcases fault with _ | e
  · unfold recoveryPass recoverInFlight
    rw [hagain]
    rfl
  · rfl

end Pass

/-- The rows of a ledger a pass owes a resolution, and those it owes to leave. -/
structure Resolves (ctx : RecoveryContext) (cutoff : String) (ledger : Ledger)
    (moved : UsageRow → Bool) : Prop where
  terminal : ∀ row ∈ ledger.records, row.requestStatus ≠ .inFlight → moved row = false
  own : ∀ row ∈ ledger.records, row.instanceId = some ctx.instanceId → moved row = false
  alive : ∀ row ∈ ledger.records, ∀ id, row.instanceId = some id → ctx.Probed id .alive →
    moved row = false
  dead : ∀ row ∈ ledger.records, row.requestStatus = .inFlight → ∀ id, row.instanceId = some id →
    ctx.Probed id .dead → moved row = true
  unknown : ∀ row ∈ ledger.records, row.requestStatus = .inFlight → ∀ id,
    row.instanceId = some id → ctx.Probed id .unknown → (moved row = true ↔ row.createdAt < cutoff)
  unowned : ∀ row ∈ ledger.records, row.requestStatus = .inFlight → row.instanceId = none →
    (moved row = true ↔ row.createdAt < cutoff)

section Rule

variable {ctx : RecoveryContext} {cutoff id : String} {row : UsageRow}

theorem recoverable_owned (hid : row.instanceId = some id) :
    Recoverable ctx cutoff row ↔ row.requestStatus = .inFlight ∧
      (ctx.Probed id .dead ∨ row.createdAt < cutoff ∧ ctx.Probed id .unknown) := by
  simp only [Recoverable, hid, Option.mem_def, Option.some.injEq, exists_eq_left', forall_eq']

theorem recoverable_unowned (hid : row.instanceId = none) :
    Recoverable ctx cutoff row ↔ row.requestStatus = .inFlight ∧ row.createdAt < cutoff := by
  simp [Recoverable, hid]

/-- An instance has one verdict. -/
theorem RecoveryContext.Probed.eq {verdict verdict' : Liveness} (h : ctx.Probed id verdict)
    (h' : ctx.Probed id verdict') : verdict = verdict' :=
  h.2.symm.trans h'.2

theorem recoverable_resolves (ledger : Ledger) :
    Resolves ctx cutoff ledger fun row => Recoverable ctx cutoff row where
  terminal row _ hterminal := decide_eq_false fun h => hterminal h.1
  own row _ hid := by
    refine decide_eq_false fun h => ?_
    rcases ((recoverable_owned hid).1 h).2 with hdead | ⟨-, hunknown⟩
    · exact hdead.1 rfl
    · exact hunknown.1 rfl
  alive row _ id hid halive := by
    refine decide_eq_false fun h => ?_
    rcases ((recoverable_owned hid).1 h).2 with hdead | ⟨-, hunknown⟩
    · cases halive.eq hdead
    · cases halive.eq hunknown
  dead row _ hflight id hid hdead :=
    decide_eq_true ((recoverable_owned hid).2 ⟨hflight, .inl hdead⟩)
  unknown row _ hflight id hid hunknown := by
    rw [decide_eq_true_eq, recoverable_owned hid, and_iff_right hflight, and_iff_left hunknown]
    exact or_iff_right fun hdead => nomatch hunknown.eq hdead
  unowned row _ hflight hid := by
    rw [decide_eq_true_eq, recoverable_unowned hid, and_iff_right hflight]

end Rule

/-- A pass that fails changes nothing, and over rows the ledger wrote none fails on its own.  One
that succeeds resolves exactly the rows it should, adds one interrupted contribution for each of
them, sweeps exactly the registrations of the dead, and leaves nothing for a second pass under the
same verdicts and clock. -/
theorem recovery_pass (iso : Iso8601) (ctx : RecoveryContext) (fault : Option SqliteError)
    (ledger : Ledger) :
    (∀ e, (recoveryPass iso ctx fault ledger).2 = .error e →
      (recoveryPass iso ctx fault ledger).1 = ledger) ∧
    (ledger.Stamped → ∀ cutoff, ctx.oldBefore = .ok cutoff →
      ∃ report, (recoveryPass iso ctx none ledger).2 = .ok report) ∧
    ∀ report, (recoveryPass iso ctx fault ledger).2 = .ok report →
      ∃ cutoff, ctx.oldBefore = .ok cutoff ∧ ∃ moved, Resolves ctx cutoff ledger moved ∧
        let written := (recoveryPass iso ctx fault ledger).1
        written.records = (ledger.records.map fun row =>
          if moved row then recoveredRow row else row) ∧
        (∃ items, List.Forall₂ (fun row item => ∃ hour,
            formatHourStr iso row.createdAt = .ok hour ∧
            item = ((StoredRow.ofColumns row hour).key,
              (Contribution.interrupted row.durationMs).amount))
            (ledger.records.filter moved) items ∧
          written.hourly = items.foldl RunningSum.add ledger.hourly) ∧
        written.instances = (ledger.instances.filter fun id => ¬ctx.Probed id .dead) ∧
        written.nextRecordId = ledger.nextRecordId ∧
        report = ⟨(ledger.records.filter moved).length,
          ledger.instances.countP fun id => ctx.Probed id .dead⟩ ∧
        (recoveryPass iso ctx none written).2 = .ok ⟨0, 0⟩ ∧
        ∀ fault, (recoveryPass iso ctx fault written).1 = written := by
  refine ⟨fun e h => ?_, fun hstamped cutoff hold => ?_, fun report h => ?_⟩
  · unfold recoveryPass at h ⊢
    split at h
    · cases h
    · rfl
  · obtain ⟨⟨written, report, swept⟩, hpass⟩ :=
      @recoverInTx_isOk iso ctx ledger cutoff hstamped hold
    refine ⟨report, ?_⟩
    unfold recoveryPass recoverInFlight
    rw [hpass]
    rfl
  · obtain ⟨cutoff, hold, hhours, hwritten, rfl⟩ := recoveryPass_ok h
    refine ⟨cutoff, hold, fun row => Recoverable ctx cutoff row, recoverable_resolves ledger, ?_⟩
    dsimp only
    rw [hwritten]
    refine ⟨?_, ⟨(ledger.recoverable ctx cutoff).map (strandedItem iso), ?_, rfl⟩, rfl, rfl, rfl,
      ?_, recoveryPass_again hold⟩
    · simp only [Ledger.recovered, decide_eq_true_eq]
    · refine List.forall₂_map_right_iff.2 (List.forall₂_same.2 fun row hrow => ?_)
      obtain ⟨hour, hhour⟩ := hhours row hrow
      refine ⟨hour, hhour, ?_⟩
      rw [strandedItem, hhour]
      rfl
    · -- the pass left nothing that a second one would move
      obtain ⟨swept, hagain⟩ := @recoverInTx_again iso ctx ledger cutoff hold
      unfold recoveryPass recoverInFlight
      rw [hagain]
      rfl

/-- An instance's lock file is there, and held, while it runs. -/
structure LocksHeld (running : String → Prop) (attempt : String → LockAttempt) : Prop where
  found : ∀ id, running id → attempt id ≠ .notFound
  held : ∀ id, running id → attempt id ≠ .acquired

/-- An instance that runs loses no registration to a pass of another, and a request of it is
resolved only where its lock file could not be read and the request is old. -/
theorem running_spared {running : String → Prop} {attempt : String → LockAttempt}
    {ctx : RecoveryContext} (hlocks : LocksHeld running attempt)
    (hprobe : ∀ id, ctx.probe id = probe (attempt id)) {id : String} (hrunning : running id) :
    ¬ctx.Probed id .dead ∧ ∀ cutoff row, row.instanceId = some id → Recoverable ctx cutoff row →
      (attempt id = .openFailed ∨ attempt id = .lockFailed) ∧ row.createdAt < cutoff := by
  have hverdict := hprobe id
  have hspared : ¬ctx.Probed id .dead := by
    rintro ⟨-, hdead⟩
    rw [hverdict] at hdead
    cases hattempt : attempt id with
    | notFound => exact hlocks.found id hrunning hattempt
    | acquired => exact hlocks.held id hrunning hattempt
    | openFailed | held | lockFailed => rw [hattempt] at hdead; cases hdead
  refine ⟨hspared, fun cutoff row hid h => ?_⟩
  obtain ⟨hold, -, hunknown⟩ := (((recoverable_owned hid).1 h).2).resolve_left hspared
  refine ⟨?_, hold⟩
  rw [hverdict] at hunknown
  cases hattempt : attempt id with
  | openFailed => exact .inl rfl
  | lockFailed => exact .inr rfl
  | notFound | acquired | held => rw [hattempt] at hunknown; cases hunknown

end PartnerPortal
