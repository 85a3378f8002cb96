import PartnerPortal.Ledger.Writer

/-!
# The writer task

The bounded channel into the ledger writer, the calls that hand it their writes, the task that
gathers them into batches, and its shutdown.  Every event is one step: a call takes or lets go of a
sender, the channel takes a write, the task receives one, its timer fires, or it makes one attempt
at writing its batch.

`entered`, `acks` and `commits` are what an observer has seen: the writes the channel took, the
acknowledgements sent, and the transactions committed.
-/

namespace PartnerPortal

/-- How the writer is set up.  Times are in nanoseconds. -/
structure LedgerWriterConfig where
  queueSize : Nat
  batchSize : Nat
  batchTimeout : Nat
  instanceId : Option String

/-- A zero would panic the channel. -/
def LedgerWriterConfig.queueCapacity (config : LedgerWriterConfig) : Nat := max config.queueSize 1

/-- A zero would make the batched receive unreachable. -/
def LedgerWriterConfig.maxBatch (config : LedgerWriterConfig) : Nat := max config.batchSize 1

def idleTick : Nat := 250000000

def oneMilli : Nat := 1000000

/-- What the calls assert of a record before they hand it over. -/
def PendingWrite.asserted : PendingWrite → Bool
  | .accept record => record.requestStatus = .inFlight
  | .finalize record => record.isTerminal
  | .barrier => true

/-- A write that some call owns, and the call. -/
structure Entry where
  ticket : Nat
  write : PendingWrite

/-- What a call was told about its write. -/
structure Ack where
  entry : Entry
  result : Except LedgerError Unit

/-- A transaction that was committed. -/
structure Commit where
  entries : List Entry
  before : Ledger
  after : Ledger

inductive WriterPhase where
  /-- awaiting a write or the timer, armed at that time -/
  | selecting (since : Nat)
  /-- writing the batch, after so many attempts that found the database busy -/
  | flushing (attempt : Nat)
  /-- writing what was left in the channel -/
  | leftover (entries : List Entry) (attempt : Nat)
  | exited
  | panicked

structure WriterTask where
  /-- the producer handle, until shutdown takes it -/
  handle : Bool
  shuttingDown : Bool
  /-- calls that await room in the channel, each with a sender of its own -/
  sending : List Entry
  /-- `flush_now` calls whose barrier is queued; they keep their sender until they are answered -/
  waiting : List Nat
  queue : List Entry
  batch : List Entry
  closed : Bool
  phase : WriterPhase
  lastFlush : Nat
  commitsAreHealthy : Bool
  healthy : Bool
  ready : Bool
  committed : UInt64
  now : Nat
  ledger : Ledger
  nextTicket : Nat
  entered : List Entry
  acks : List Ack
  commits : List Commit

inductive WriterEvent where
  /-- `accept`, `finalize` or `flush_now` is called -/
  | called (write : PendingWrite)
  /-- the channel takes the write of a call -/
  | sent (ticket : Nat)
  /-- `flush_now` returns -/
  | returned (ticket : Nat)
  /-- the future of a call is dropped -/
  | cancelled (ticket : Nat)
  /-- shutdown starts to refuse calls -/
  | refused
  /-- shutdown takes the producer handle -/
  | handleTaken
  | received (now : Nat)
  | ticked (now : Nat)
  | attempted (now : Nat) (fault : Option SqliteError)
  /-- another connection commits; whoever writes a row formats its timestamp the same way -/
  | elsewhere (ledger : { ledger : Ledger // ledger.Stamped })

namespace WriterTask

/-- A writer that was just spawned. -/
def spawned (ledger : Ledger) (now : Nat) : WriterTask where
  handle := true
  shuttingDown := false
  sending := []
  waiting := []
  queue := []
  batch := []
  closed := false
  phase := .selecting now
  lastFlush := now
  commitsAreHealthy := true
  healthy := true
  ready := true
  committed := 0
  now := now
  ledger := ledger
  nextTicket := 0
  entered := []
  acks := []
  commits := []

/-! ## One attempt at a batch -/

/-- How one attempt ends. -/
inductive Attempt where
  | committed (ledger : Ledger) (n : Nat)
  | retried
  | failed (error : LedgerError)
  | panicked

/-- One round of the retry loop. -/
def attempt (iso : Iso8601) (config : LedgerWriterConfig) (fault : Option SqliteError)
    (entries : List Entry) (tries : Nat) (ledger : Ledger) : Attempt :=
  match tryFlush iso config.instanceId fault (entries.map Entry.write) ledger with
  | .ok (written, n) => .committed written n
  | .error (.panicked _) => .panicked
  | .error (.sqlite e) =>
    if (LedgerError.sqlite e).isBusy ∧ tries < busyRetries then .retried else .failed (.sqlite e)

/-- Every waiter of a batch gets the same answer. -/
def answer (task : WriterTask) (entries : List Entry) (result : Except LedgerError Unit) :
    WriterTask :=
  { task with acks := task.acks ++ entries.map fun entry => ⟨entry, result⟩ }

/-- A batch is committed and answered. -/
def commit (task : WriterTask) (entries : List Entry) (written : Ledger) (n : Nat) : WriterTask :=
  { task.answer entries (.ok ()) with
    ledger := written
    committed := task.committed + UInt64.ofNat n
    commits := task.commits ++ [⟨entries, task.ledger, written⟩] }

/-- A panic unwinds the task: the channel and the batch go with it, and their waiters learn that the
writer is gone. -/
def unwind (task : WriterTask) : WriterTask :=
  { task with phase := .panicked, queue := [], batch := [] }

/-! ## The loop -/

/-- No sender is left. -/
def disconnected (task : WriterTask) : Bool :=
  !task.handle && task.sending.isEmpty && task.waiting.isEmpty

/-- The task is over, and its receiver gone. -/
def stopped (task : WriterTask) : Bool :=
  match task.phase with
  | .exited | .panicked => true
  | _ => false

def exit (task : WriterTask) : WriterTask := { task with phase := .exited, ready := false }

/-- When the timer of the `select!` fires. -/
def deadline (config : LedgerWriterConfig) (task : WriterTask) (since : Nat) : Nat :=
  since + if task.batch = [] then idleTick
    else max (config.batchTimeout - (since - task.lastFlush)) oneMilli

/-- Take everything still buffered, up to a full batch. -/
def drain (config : LedgerWriterConfig) (task : WriterTask) : WriterTask :=
  { task with
    batch := task.batch ++ task.queue.take (config.maxBatch - task.batch.length)
    queue := task.queue.drop (config.maxBatch - task.batch.length) }

/-- The end of a round: readiness, and whether there is another. -/
def endRound (config : LedgerWriterConfig) (task : WriterTask) : WriterTask :=
  let task :=
    { task with
      ready := task.commitsAreHealthy &&
        decide ((task.queue.length + task.batch.length) * 2 < config.queueCapacity) }
  if task.closed ∧ task.batch = [] then
    -- whatever raced in after the last receive
    if task.queue = [] then task.exit
    else { task with phase := .leftover task.queue 0, queue := [] }
  else { task with phase := .selecting task.now }

/-- The batch is written now: the channel is closed, the batch full or the window over. -/
def due (config : LedgerWriterConfig) (task : WriterTask) : Prop :=
  task.batch ≠ [] ∧ (task.closed = true ∨ config.maxBatch ≤ task.batch.length ∨
    config.batchTimeout ≤ task.now - task.lastFlush)

instance (config : LedgerWriterConfig) (task : WriterTask) : Decidable (task.due config) :=
  decidable_of_iff (¬ task.batch.isEmpty ∧ (task.closed = true ∨
      config.maxBatch ≤ task.batch.length ∨ config.batchTimeout ≤ task.now - task.lastFlush))
    (by simp [due])

/-- The rest of a round, after the `select!`. -/
def afterSelect (config : LedgerWriterConfig) (task : WriterTask) : WriterTask :=
  let task := if task.closed then task.drain config else task
  if task.due config then { task with phase := .flushing 0 } else task.endRound config

/-- A write or the end of the channel is received.  The timer may win against a write that is
ready, as a task that used up its budget yields. -/
def receive (config : LedgerWriterConfig) (task : WriterTask) (now : Nat) : Option WriterTask :=
  match task.phase with
  | .selecting _ =>
    if task.now ≤ now ∧ task.batch.length < config.maxBatch then
      match task.queue with
      | entry :: rest => some (afterSelect config
          { task with now := now, queue := rest, batch := task.batch ++ [entry] })
      | [] =>
        if task.disconnected then some (afterSelect config { task with now := now, closed := true })
        else none
    else none
  | _ => none

def tick (config : LedgerWriterConfig) (task : WriterTask) (now : Nat) : Option WriterTask :=
  match task.phase with
  | .selecting since =>
    if task.now ≤ now ∧ task.deadline config since ≤ now then
      some (afterSelect config { task with now := now })
    else none
  | _ => none

/-- The batch after one attempt.  A batch that could not be written marks the writer. -/
def afterFlush (config : LedgerWriterConfig) (task : WriterTask) (tries : Nat) :
    Attempt → WriterTask
  | .committed written n => endRound config
      { task.commit task.batch written n with
        batch := [], commitsAreHealthy := true, lastFlush := task.now }
  | .retried => { task with phase := .flushing (tries + 1) }
  | .failed e => endRound config
      { task.answer task.batch (.error e) with
        batch := [], commitsAreHealthy := false, healthy := false, lastFlush := task.now }
  | .panicked => task.unwind

/-- What was left in the channel after one attempt; its outcome marks nothing. -/
def afterLeftover (task : WriterTask) (entries : List Entry) (tries : Nat) : Attempt → WriterTask
  | .committed written n => (task.commit entries written n).exit
  | .retried => { task with phase := .leftover entries (tries + 1) }
  | .failed e => (task.answer entries (.error e)).exit
  | .panicked => task.unwind

def flush (iso : Iso8601) (config : LedgerWriterConfig) (task : WriterTask) (now : Nat)
    (fault : Option SqliteError) : Option WriterTask :=
  if task.now ≤ now then
    match task.phase with
    | .flushing tries => some (afterFlush config { task with now := now } tries
        (attempt iso config fault task.batch tries task.ledger))
    | .leftover entries tries => some (afterLeftover { task with now := now } entries tries
        (attempt iso config fault entries tries task.ledger))
    | _ => none
  else none

/-! ## The calls -/

/-- A call that fails its assertion, or finds no sender, hands nothing over. -/
def call (task : WriterTask) (write : PendingWrite) : WriterTask :=
  if write.asserted ∧ ¬ task.shuttingDown ∧ task.handle then
    { task with
      sending := task.sending ++ [⟨task.nextTicket, write⟩]
      nextTicket := task.nextTicket + 1 }
  else task

/-- The channel takes a write once it has room, and `enqueue` then lets go of its sender. -/
def send (config : LedgerWriterConfig) (task : WriterTask) (ticket : Nat) : Option WriterTask :=
  match task.sending.find? fun entry => entry.ticket = ticket with
  | none => none
  | some entry =>
    let released := { task with
      sending := task.sending.filter fun other => other.ticket ≠ ticket }
    if task.stopped then some released
    else if task.queue.length < config.queueCapacity then
      some { released with
        queue := task.queue ++ [entry]
        entered := task.entered ++ [entry]
        waiting := if entry.write = .barrier then task.waiting ++ [ticket] else task.waiting }
    else none

def letGo (task : WriterTask) (ticket : Nat) : WriterTask :=
  { task with
    sending := task.sending.filter fun entry => entry.ticket ≠ ticket
    waiting := task.waiting.filter fun other => other ≠ ticket }

/-- The call was told about its write, or the acknowledgement went with the task. -/
def answered (task : WriterTask) (ticket : Nat) : Bool :=
  task.stopped || task.acks.any fun ack => ack.entry.ticket = ticket

def step (iso : Iso8601) (config : LedgerWriterConfig) (task : WriterTask) :
    WriterEvent → Option WriterTask
  | .called write => some (task.call write)
  | .sent ticket => task.send config ticket
  | .returned ticket =>
    if ticket ∈ task.waiting ∧ task.answered ticket then
      some { task with waiting := task.waiting.filter fun other => other ≠ ticket }
    else none
  | .cancelled ticket => some (task.letGo ticket)
  | .refused => some { task with shuttingDown := true }
  | .handleTaken => if task.shuttingDown then some { task with handle := false } else none
  | .received now => task.receive config now
  | .ticked now => task.tick config now
  | .attempted now fault => task.flush iso config now fault
  | .elsewhere ledger => some { task with ledger := ledger.1 }

/-! ## What an attempt does -/

/-- On rows with the ledger's own timestamps an attempt never panics, and it is put off only so
often. -/
inductive Attempted (iso : Iso8601) (config : LedgerWriterConfig) (fault : Option SqliteError)
    (entries : List Entry) (tries : Nat) (ledger : Ledger) : Attempt → Prop
  | committed {written : Ledger} {n : Nat}
      (h : tryFlush iso config.instanceId fault (entries.map Entry.write) ledger =
        .ok (written, n))
      (hstamped : written.Stamped) :
      Attempted iso config fault entries tries ledger (.committed written n)
  | retried (h : tries < busyRetries) :
      Attempted iso config fault entries tries ledger .retried
  | failed (e : LedgerError) : Attempted iso config fault entries tries ledger (.failed e)

theorem attempt_attempted {iso : Iso8601} {config : LedgerWriterConfig}
    {fault : Option SqliteError} {entries : List Entry} {tries : Nat} {ledger : Ledger}
    (hstamped : ledger.Stamped) :
    Attempted iso config fault entries tries ledger
      (attempt iso config fault entries tries ledger) := by
  unfold attempt
  rcases @tryFlush_ends iso config.instanceId (entries.map Entry.write) fault ledger hstamped with
    ⟨⟨written, n⟩, hok, hwritten⟩ | ⟨failure, herror⟩
  · rw [hok]
    exact .committed hok hwritten
  · rw [herror]
    dsimp only
    split
    · rename_i hbusy
      exact .retried hbusy.2
    · exact .failed _

/-- The attempts of the retry loop, one after another. -/
theorem flushAttempts_attempt {iso : Iso8601} {config : LedgerWriterConfig}
    {faults : Nat → Option SqliteError} {entries : List Entry} {tries : Nat} {ledger : Ledger}
    (hstamped : ledger.Stamped) (htries : tries ≤ busyRetries) :
    flushAttempts iso config.instanceId faults (entries.map Entry.write) ledger
        (busyRetries - tries) tries =
      match attempt iso config (faults tries) entries tries ledger with
      | .committed written n =>
        { ledger := written, ack := .ok (), committed := n, healthy := true }
      | .retried => flushAttempts iso config.instanceId faults (entries.map Entry.write) ledger
          (busyRetries - (tries + 1)) (tries + 1)
      | .failed e => { ledger := ledger, ack := .error e, committed := 0, healthy := false }
      | .panicked => { ledger := ledger, ack := .ok (), committed := 0, healthy := false } := by
  rw [flushAttempts, attempt]
  rcases @tryFlush_ends iso config.instanceId (entries.map Entry.write) (faults tries) ledger
    hstamped with ⟨⟨written, n⟩, hok, -⟩ | ⟨failure, herror⟩
  · rw [hok]
  · rw [herror]
    rcases Nat.eq_or_lt_of_le htries with rfl | hlt
    · simp
    · obtain ⟨left, hleft⟩ := Nat.exists_eq_add_of_lt hlt
      have hsub : busyRetries - tries = left + 1 := by omega
      have hsub' : busyRetries - (tries + 1) = left := by omega
      rw [hsub, hsub']
      by_cases hbusy : (LedgerError.sqlite failure).isBusy = true
      · simp [hbusy, hlt]
      · simp [hbusy]

end WriterTask

end PartnerPortal
