import PartnerPortal.Ledger.Recovery
import PartnerPortal.Lib.Duty
import PartnerPortal.Lib.FileLock

/-!
# Instances and their lock files

Any number of instances over one database.  Each holds a lock on a file of its own beside the
database from before its registration to its end, however it ends.  A recovery pass probes the lock
files of the other instances one after another inside its transaction, and removes those of the dead
after its commit.  Opening a file, locking it, closing it and removing it are steps of their own, so
that everything an instance does may fall between two steps of a pass.

Results:
- `lockPathFor_injective` — no two instances share a lock file;
- `tryFlush_owner` — a flush leaves rows of known owners and of the instance that flushes.
-/

namespace PartnerPortal

open FileLock

def lockPrefix : String := ".partner-portal-instance-"

/-- The lock file of an instance, in the directory of the database. -/
def lockPathFor (instanceId : String) : String := lockPrefix ++ instanceId ++ ".lock"

theorem lockPathFor_injective {id id' : String} (h : lockPathFor id = lockPathFor id') : id = id' := by
  have hlists := congrArg String.toList h
  simp only [lockPathFor, String.toList_append, List.append_cancel_right_eq,
    List.append_cancel_left_eq] at hlists
  exact String.toList_injective hlists

/-- Who has a lock file open: the instance whose it is, or the pass that probes it. -/
inductive Descriptor where
  | own (instanceId : String)
  | probe
deriving DecidableEq

/-- How far an instance has come from its start to its end.  An instance whose attempt at its own
lock failed goes on without one. -/
inductive Stage where
  | absent
  /-- its lock file is open -/
  | opened
  /-- its lock was attempted -/
  | claimed (locked : Bool)
  /-- it is registered and serves -/
  | running (locked : Bool)
  /-- its registration was to be removed -/
  | released (locked : Bool)
  /-- its guard is being dropped: the lock file was to be removed, and is still open -/
  | removed
  | gone
deriving DecidableEq

namespace Stage

/-- It holds the lock of its file. -/
def holds : Stage → Bool
  | claimed locked | running locked | released locked => locked
  | absent | opened | removed | gone => false

/-- It was registered once. -/
def settled : Stage → Bool
  | running _ | released _ | removed | gone => true
  | absent | opened | claimed _ => false

end Stage

/-- A recovery pass in its transaction. -/
structure RecoveryRun where
  instanceId : String
  graceSecs : UInt64
  now : Instant
  /-- the candidates still to be probed -/
  todo : List String
  /-- whose lock file is open, and whether the probe holds it -/
  probing : Option (String × Bool)
  attempts : List (String × LockAttempt)
deriving DecidableEq

/-- What the pass found out. -/
def RecoveryRun.ctx (run : RecoveryRun) : RecoveryContext where
  instanceId := run.instanceId
  probe := fun id => ((run.attempts.lookup id).map probe).getD .alive
  unknownOwnerGraceSecs := run.graceSecs
  now := run.now

def RecoveryRun.record (run : RecoveryRun) (id : String) (attempt : LockAttempt) : RecoveryRun :=
  { run with attempts := run.attempts ++ [(id, attempt)] }

/-- A verdict of a pass other than that somebody lives is that of an attempt. -/
theorem RecoveryRun.exists_attempt {run : RecoveryRun} {id : String} {verdict : Liveness}
    (hverdict : verdict ≠ .alive) (h : run.ctx.probe id = verdict) :
    ∃ attempt, (id, attempt) ∈ run.attempts ∧ probe attempt = verdict := by
  simp only [RecoveryRun.ctx] at h
  cases hlookup : run.attempts.lookup id with
  | none =>
    rw [hlookup] at h
    exact absurd h.symm hverdict
  | some attempt =>
    rw [hlookup] at h
    obtain ⟨front, back, hsplit, -⟩ := List.lookup_eq_some_iff.1 hlookup
    exact ⟨attempt, by rw [hsplit]; exact List.mem_append_right front List.mem_cons_self, h⟩

/-- Where an instance was attempted, the verdict on it is that of one of the attempts. -/
theorem RecoveryRun.exists_verdict {run : RecoveryRun} {id : String} {attempt : LockAttempt}
    (h : (id, attempt) ∈ run.attempts) :
    ∃ first, (id, first) ∈ run.attempts ∧ run.ctx.probe id = probe first := by
  simp only [RecoveryRun.ctx]
  cases hlookup : run.attempts.lookup id with
  | none => simpa using List.lookup_eq_none_iff.1 hlookup _ h
  | some first =>
    obtain ⟨front, back, hsplit, -⟩ := List.lookup_eq_some_iff.1 hlookup
    exact ⟨first, by rw [hsplit]; exact List.mem_append_right front List.mem_cons_self, rfl⟩

structure Cluster where
  files : Files String Descriptor
  ledger : Ledger
  stage : String → Stage
  /-- the pass whose transaction holds the database's write lock -/
  recovery : Option RecoveryRun
  /-- the lock files an instance has still to remove after a pass -/
  swept : String → List String

inductive ClusterEvent where
  /-- an instance opens its lock file, under an id that was never used -/
  | boot (id : String)
  /-- and attempts its lock, which the platform may fail -/
  | claim (id : String) (fault : Bool)
  | register (id : String)
  /-- its writer flushes a batch -/
  | flush (id : String) (fault : Option SqliteError) (batch : List PendingWrite)
  /-- it removes its registration, which the database may refuse -/
  | release (id : String) (fault : Bool)
  /-- its guard is dropped: it removes its lock file -/
  | drop (id : String) (fault : Bool)
  /-- and closes it -/
  | exit (id : String)
  /-- it is killed, or it could not register -/
  | crash (id : String)
  /-- a pass of the instance begins its transaction -/
  | begin (id : String) (graceSecs : UInt64) (now : Instant)
  /-- the pass opens the next lock file -/
  | openNext (fault : Bool)
  /-- and attempts its lock -/
  | attempt (fault : Bool)
  /-- and releases the lock it got -/
  | unlock
  | commit (fault : Option SqliteError)
  | rollback
  /-- after the commit, the lock file of an instance found dead is removed -/
  | removeLockFile (id : String) (fault : Bool)

namespace Cluster

/-- The transaction of a pass is rolled back. -/
def rolledBack (c : Cluster) : Cluster :=
  { c with files := c.files.close .probe, recovery := none }

/-- The process of an instance ends, with the pass it may be in. -/
def ended (c : Cluster) (id : String) : Cluster :=
  let c := if c.recovery.any fun run => run.instanceId = id then c.rolledBack else c
  { c with
    files := c.files.close (.own id)
    stage := Function.update c.stage id .gone
    swept := Function.update c.swept id [] }

/-- The next candidate of a pass is probed, up to its lock. -/
def openNext (c : Cluster) (run : RecoveryRun) (id : String) (rest : List String) (fault : Bool) :
    Cluster :=
  let run := { run with todo := rest }
  if fault then { c with recovery := some (run.record id .openFailed) }
  else match c.files.entry (lockPathFor id) with
    | none => { c with recovery := some (run.record id .notFound) }
    | some _ =>
      { c with
        files := c.files.openAt (lockPathFor id) .probe
        recovery := some { run with probing := some (id, false) } }

/-- The lock of the open file is attempted.  A lock that was not got leaves nothing to release. -/
def attempt (c : Cluster) (run : RecoveryRun) (id : String) (fault : Bool) : Cluster :=
  let closed := { run with probing := none }
  if fault then
    { c with files := c.files.close .probe, recovery := some (closed.record id .lockFailed) }
  else if c.files.lockable .probe then
    { c with
      files := c.files.lock .probe
      recovery := some ({ run with probing := some (id, true) }.record id .acquired) }
  else { c with files := c.files.close .probe, recovery := some (closed.record id .held) }

/-- The pass commits what it found out, or fails. -/
def commit (iso : Iso8601) (c : Cluster) (run : RecoveryRun) (fault : Option SqliteError) : Cluster :=
  match fault with
  | some _ => c.rolledBack
  | none => match recoverInTx iso run.ctx c.ledger with
    | .error _ => c.rolledBack
    | .ok (written, _, swept) =>
      { c with
        ledger := written
        recovery := none
        swept := Function.update c.swept run.instanceId swept }

/-- While a pass is in its transaction nobody else writes to the database. -/
def step (iso : Iso8601) (c : Cluster) : ClusterEvent → Option Cluster
  | .boot id =>
    if c.stage id = .absent then
      some { c with
        files := c.files.create (lockPathFor id) (.own id)
        stage := Function.update c.stage id .opened }
    else none
  | .claim id fault =>
    if c.stage id = .opened then
      if fault then some { c with stage := Function.update c.stage id (.claimed false) }
      else some { c with
        files := c.files.lock (.own id)
        stage := Function.update c.stage id (.claimed (c.files.lockable (.own id))) }
    else none
  | .register id =>
    match c.stage id, c.recovery with
    | .claimed locked, none =>
      some { c with
        ledger := { c.ledger with
          instances := if id ∈ c.ledger.instances then c.ledger.instances
            else c.ledger.instances ++ [id] }
        stage := Function.update c.stage id (.running locked) }
    | _, _ => none
  | .flush id fault batch =>
    match c.stage id, c.recovery with
    | .running _, none =>
      match tryFlush iso (some id) fault batch c.ledger with
      | .ok (written, _) => some { c with ledger := written }
      | .error _ => some c
    | _, _ => none
  | .release id fault =>
    match c.stage id, c.recovery with
    | .running locked, none =>
      some { c with
        ledger := if fault then c.ledger
          else { c.ledger with instances := c.ledger.instances.filter fun other => other ≠ id }
        stage := Function.update c.stage id (.released locked) }
    | _, _ => none
  | .drop id fault =>
    match c.stage id with
    | .running _ | .released _ =>
      some { c with
        files := if fault then c.files else c.files.unlink (lockPathFor id)
        stage := Function.update c.stage id .removed }
    | _ => none
  | .exit id => if c.stage id = .removed then some (c.ended id) else none
  | .crash id =>
    if c.stage id = .absent ∨ c.stage id = .gone then none else some (c.ended id)
  | .begin id graceSecs now =>
    match c.stage id, c.recovery, c.swept id with
    | .running _, none, [] =>
      let run : RecoveryRun := ⟨id, graceSecs, now, [], none, []⟩
      some { c with recovery := some { run with todo := candidates run.ctx c.ledger } }
    | _, _, _ => none
  | .openNext fault => do
    let run ← c.recovery
    match run.todo, run.probing with
    | id :: rest, none => some (c.openNext run id rest fault)
    | _, _ => none
  | .attempt fault => do
    let run ← c.recovery
    match run.probing with
    | some (id, false) => some (c.attempt run id fault)
    | _ => none
  | .unlock => do
    let run ← c.recovery
    match run.probing with
    | some (_, true) =>
      some { c with
        files := c.files.close .probe
        recovery := some { run with probing := none } }
    | _ => none
  | .commit fault => do
    let run ← c.recovery
    match run.todo, run.probing with
    | [], none => some (commit iso c run fault)
    | _, _ => none
  | .rollback => do
    let _ ← c.recovery
    some c.rolledBack
  | .removeLockFile id fault =>
    match c.swept id with
    | dead :: rest =>
      some { c with
        files := if fault then c.files else c.files.unlink (lockPathFor dead)
        swept := Function.update c.swept id rest }
    | [] => none

/-- Before any of the instances of a run starts: no lock file is open, and what the database names
are instances of earlier runs. -/
structure Start (c : Cluster) : Prop where
  stages : ∀ id, c.stage id = .absent ∨ c.stage id = .gone
  absent : ∀ id, c.stage id = .absent → c.files.entry (lockPathFor id) = none
  entries : ∀ name file, c.files.entry name = some file → file < c.files.next
  closed : ∀ d, c.files.opened d = none
  unlocked : ∀ file, c.files.locked file = none
  registered : ∀ id ∈ c.ledger.instances, c.stage id = .gone
  owners : ∀ row ∈ c.ledger.records, ∀ id ∈ row.instanceId, c.stage id = .gone
  recovery : c.recovery = none
  swept : ∀ id, c.swept id = []

end Cluster

/-! ## What the database operations do to owners -/

section Owners

variable {iso : Iso8601} {instanceId : Option String}

/-- A row of a ledger that was there under its owner, or belongs to the instance that writes. -/
def OwnedAs (instanceId : Option String) (ledger : Ledger) (row : UsageRow) : Prop :=
  row.instanceId = instanceId ∨ ∃ old ∈ ledger.records, old.instanceId = row.instanceId

/-- What a write of a flush leaves of owners and registrations. -/
structure KeepsOwners (instanceId : Option String) (ledger written : Ledger) : Prop where
  rows : ∀ row ∈ written.records, OwnedAs instanceId ledger row
  instances : written.instances = ledger.instances

theorem KeepsOwners.refl (instanceId : Option String) (ledger : Ledger) :
    KeepsOwners instanceId ledger ledger :=
  ⟨fun row hrow => .inr ⟨row, hrow, rfl⟩, rfl⟩

theorem KeepsOwners.trans {ledger middle written : Ledger} (h : KeepsOwners instanceId ledger middle)
    (h' : KeepsOwners instanceId middle written) : KeepsOwners instanceId ledger written where
  rows := by
    intro row hrow
    rcases h'.rows row hrow with hown | ⟨old, hold, heq⟩
    · exact .inl hown
    · rcases h.rows old hold with hown | ⟨older, holder, heq'⟩
      · exact .inl (heq.symm.trans hown)
      · exact .inr ⟨older, holder, heq'.trans heq⟩
  instances := h'.instances.trans h.instances

theorem insertAccept_owners (record : RequestRecord) (ledger : Ledger) :
    KeepsOwners instanceId ledger (insertAccept instanceId record ledger) := by
  unfold insertAccept
  split
  · exact .refl instanceId ledger
  · refine ⟨fun row hrow => ?_, rfl⟩
    rcases List.mem_append.1 hrow with hold | hnew
    · exact .inr ⟨row, hold, rfl⟩
    · rw [List.mem_singleton.1 hnew]
      exact .inl rfl

theorem Finalized.owners {record : RequestRecord} {figures : Figures} {ledger written : Ledger}
    (h : Finalized iso instanceId record figures ledger written) :
    KeepsOwners instanceId ledger written := by
  cases h with
  | updated hfind hstored =>
    refine ⟨fun row hrow => ?_, ?_⟩
    · rw [Ledger.records_add, Ledger.records_retractStored] at hrow
      obtain ⟨old, hold, rfl⟩ := List.mem_map.1 hrow
      refine .inr ⟨old, hold, ?_⟩
      split <;> rfl
    · unfold Ledger.retractStored
      split <;> rfl
  | inserted hfind =>
    refine ⟨fun row hrow => ?_, rfl⟩
    rcases List.mem_append.1 hrow with hold | hnew
    · exact .inr ⟨row, hold, rfl⟩
    · rw [List.mem_singleton.1 hnew]
      exact .inl rfl

theorem flushOne_owners {finalized : List String} {pending : PendingWrite}
    {state next : Ledger × Nat} (h : flushOne iso instanceId finalized state pending = .ok next) :
    KeepsOwners instanceId state.1 next.1 := by
  cases pending with
  | barrier =>
    cases h
    exact .refl instanceId _
  | accept record =>
    simp only [flushOne] at h
    split at h
    · cases h
      exact .refl instanceId _
    · cases h
      exact insertAccept_owners record state.1
  | finalize record =>
    obtain ⟨written, hwritten, h⟩ := Result.bind_ok_iff.1 h
    cases h
    obtain ⟨figures, -, hfinalized⟩ := finalizeRecord_ok hwritten
    exact hfinalized.owners

/-- A flush leaves rows of known owners and of the instance that flushes. -/
theorem tryFlush_owner {fault : Option SqliteError} {batch : List PendingWrite}
    {ledger written : Ledger} {n : Nat}
    (h : tryFlush iso instanceId fault batch ledger = .ok (written, n)) :
    KeepsOwners instanceId ledger written := by
  cases fault with
  | some e => cases h
  | none =>
    unfold tryFlush at h
    have hfold : ∀ (pendings : List PendingWrite) (state next : Ledger × Nat),
        pendings.foldlM (flushOne iso instanceId (finalizedIds batch)) state = .ok next →
        KeepsOwners instanceId state.1 next.1 := by
      intro pendings
      induction pendings with
      | nil =>
        intro state next hnext
        cases hnext
        exact .refl instanceId _
      | cons pending pendings ih =>
        intro state next hnext
        obtain ⟨middle, hmiddle, hrest⟩ := Result.bind_ok_iff.1 hnext
        exact (flushOne_owners hmiddle).trans (ih middle next hrest)
    exact hfold batch _ _ h

end Owners

end PartnerPortal
