import PartnerPortal.Ledger.WriterTask

/-!
# The books of the writer task

The writes the channel took are those answered, those in the batch and those still queued, in this
order, and the ones answered with success are those of the transactions committed.  Every event
keeps the books.

Results:
- `step_coherent` — every event keeps the books and the batch its phase expects;
- `step_writes` — no event changes the tables but another connection's commit and the one commit of
  a batch, whose calls are told so in the same step.
-/

namespace PartnerPortal

namespace Ack

/-- The writer reported success. -/
def succeeded (ack : Ack) : Bool := ack.result.toBool

end Ack

namespace WriterTask

/-! ## The books -/

/-- What the task, the channel and the observer agree on. -/
structure Accounts (task : WriterTask) : Prop where
  order : task.entered = task.acks.map Ack.entry ++ task.batch ++ task.queue
  once : (task.entered.map Entry.ticket).Nodup
  unsent : ∀ entry ∈ task.sending, ∀ other ∈ task.entered, entry.ticket ≠ other.ticket
  fresh : ∀ entry ∈ task.sending ++ task.entered, entry.ticket < task.nextTicket
  asserted : ∀ entry ∈ task.sending ++ task.entered, entry.write.asserted = true
  decided : task.commits.flatMap Commit.entries =
    (task.acks.filter Ack.succeeded).map Ack.entry
  recorded : ∀ commit ∈ task.commits, ∀ entry ∈ commit.entries, Recorded commit.after entry.write
  stamped : task.ledger.Stamped
  held : ∀ ticket ∈ task.waiting, ∃ entry ∈ task.entered, entry.ticket = ticket
  gone : task.closed = true → task.disconnected = true ∧ task.queue = []
  flushed : task.lastFlush ≤ task.now

/-- What a phase says of the batch.  Nothing is ever left in a channel that was closed, as the end
of the channel is received after everything in it. -/
def Fits (config : LedgerWriterConfig) (task : WriterTask) : Prop :=
  match task.phase with
  | .selecting since => task.batch.length < config.maxBatch ∧ task.lastFlush ≤ since
  | .flushing _ => task.batch ≠ []
  | .exited => task.batch = [] ∧ task.closed = true
  | .leftover _ _ | .panicked => False

structure Coherent (config : LedgerWriterConfig) (task : WriterTask) : Prop where
  accounts : task.Accounts
  fits : task.Fits config

theorem spawned_coherent {config : LedgerWriterConfig} {ledger : Ledger} (hstamped : ledger.Stamped)
    (now : Nat) : (spawned ledger now).Coherent config where
  accounts :=
    { order := rfl
      once := List.nodup_nil
      unsent := fun _ h => absurd h List.not_mem_nil
      fresh := fun _ h => absurd h List.not_mem_nil
      asserted := fun _ h => absurd h List.not_mem_nil
      decided := rfl
      recorded := fun _ h => absurd h List.not_mem_nil
      stamped := hstamped
      held := fun _ h => absurd h List.not_mem_nil
      gone := fun h => absurd h Bool.false_ne_true
      flushed := Nat.le_refl _ }
  fits := ⟨Nat.lt_of_lt_of_le Nat.zero_lt_one (Nat.le_max_right _ _), Nat.le_refl _⟩

/-- The books do not depend on the phase of the task, on the time or on its health. -/
theorem Accounts.turn {task : WriterTask} (h : task.Accounts) (phase : WriterPhase)
    (ready healthy commitsAreHealthy : Bool) {lastFlush now : Nat} (htime : lastFlush ≤ now) :
    Accounts { task with
      phase := phase, ready := ready, healthy := healthy, lastFlush := lastFlush, now := now
      commitsAreHealthy := commitsAreHealthy } :=
  ⟨h.order, h.once, h.unsent, h.fresh, h.asserted, h.decided, h.recorded, h.stamped, h.held, h.gone,
    htime⟩

/-! ## The loop -/

section Loop

variable {iso : Iso8601} {config : LedgerWriterConfig} {task : WriterTask}

theorem maxBatch_pos (config : LedgerWriterConfig) : 0 < config.maxBatch :=
  Nat.lt_of_lt_of_le Nat.zero_lt_one (Nat.le_max_right _ _)

theorem endRound_coherent (h : task.Accounts) (hroom : task.batch.length < config.maxBatch) :
    (task.endRound config).Coherent config := by
  unfold endRound
  dsimp only
  split
  · rename_i hend
    rw [if_pos (h.gone hend.1).2]
    exact ⟨h.turn .exited false task.healthy task.commitsAreHealthy h.flushed, hend.2, hend.1⟩
  · exact ⟨h.turn (.selecting task.now) _ task.healthy task.commitsAreHealthy h.flushed, hroom,
      h.flushed⟩

theorem Accounts.drain (h : task.Accounts) : (task.drain config).Accounts where
  order := by
    show task.entered = _
    rw [h.order]
    simp [WriterTask.drain, List.append_assoc]
  once := h.once
  unsent := h.unsent
  fresh := h.fresh
  asserted := h.asserted
  decided := h.decided
  recorded := h.recorded
  stamped := h.stamped
  held := h.held
  gone := fun hclosed => ⟨(h.gone hclosed).1, by simp [WriterTask.drain, (h.gone hclosed).2]⟩
  flushed := h.flushed

theorem afterSelect_coherent (h : task.Accounts) : (task.afterSelect config).Coherent config := by
  unfold afterSelect
  dsimp only
  have hdrained : Accounts (if task.closed then task.drain config else task) := by
    split
    · exact h.drain
    · exact h
  generalize (if task.closed then task.drain config else task) = drained at hdrained
  split
  · rename_i hdue
    exact ⟨hdrained.turn (.flushing 0) drained.ready drained.healthy drained.commitsAreHealthy
      hdrained.flushed, hdue.1⟩
  · rename_i hdue
    refine endRound_coherent hdrained ?_
    -- a batch that is not due is empty or not full
    by_cases hempty : drained.batch = []
    · rw [hempty]
      exact maxBatch_pos config
    · by_contra hfull
      exact hdue ⟨hempty, Or.inr (Or.inl (Nat.le_of_not_lt hfull))⟩

/-! ## The answers -/

/-- A batch the channel took is one its calls asserted. -/
theorem Accounts.terminalBatch (h : task.Accounts) :
    TerminalBatch (task.batch.map Entry.write) := by
  intro record hrecord
  obtain ⟨entry, hentry, heq⟩ := List.mem_map.1 hrecord
  have hentered : entry ∈ task.entered := by
    rw [h.order]
    exact List.mem_append_left _ (List.mem_append_right _ hentry)
  have hasserted := h.asserted entry (List.mem_append_right _ hentered)
  rw [heq] at hasserted
  exact hasserted

theorem succeeded_answers (entries : List Entry) (result : Except LedgerError Unit) :
    ((entries.map fun entry => (⟨entry, result⟩ : Ack)).filter Ack.succeeded).map Ack.entry =
      if result.toBool then entries else [] := by
  induction entries with
  | nil => simp
  | cons entry entries ih =>
    cases hresult : result.toBool with
    | false => simp [Ack.succeeded, hresult]
    | true =>
      rw [hresult, if_pos rfl] at ih
      simp [Ack.succeeded, hresult, ih]

/-- The task is left with no batch once every call of it was told that it failed. -/
theorem Accounts.failed (h : task.Accounts) (e : LedgerError) :
    Accounts { task.answer task.batch (.error e) with
      batch := [], commitsAreHealthy := false, healthy := false, lastFlush := task.now } where
  order := by
    show task.entered = _
    rw [h.order]
    simp [answer, Function.comp_def]
  once := h.once
  unsent := h.unsent
  fresh := h.fresh
  asserted := h.asserted
  decided := by
    show task.commits.flatMap Commit.entries = _
    simp only [answer, List.filter_append, List.map_append]
    rw [h.decided, succeeded_answers]
    simp [Except.toBool]
  recorded := h.recorded
  stamped := h.stamped
  held := h.held
  gone := h.gone
  flushed := Nat.le_refl _

/-- The task is left with no batch once it was committed and every call of it was told so. -/
theorem Accounts.committed (h : task.Accounts) {fault : Option SqliteError} {written : Ledger}
    {n : Nat} (hflush : tryFlush iso config.instanceId fault (task.batch.map Entry.write)
      task.ledger = .ok (written, n)) (hstamped : written.Stamped) :
    Accounts { task.commit task.batch written n with
      batch := [], commitsAreHealthy := true, lastFlush := task.now } where
  order := by
    show task.entered = _
    rw [h.order]
    simp [commit, answer, Function.comp_def]
  once := h.once
  unsent := h.unsent
  fresh := h.fresh
  asserted := h.asserted
  decided := by
    simp only [commit, answer, List.flatMap_append, List.filter_append, List.map_append]
    rw [h.decided, succeeded_answers]
    simp [Except.toBool]
  recorded := by
    intro commit hcommit entry hentry
    rcases List.mem_append.1 hcommit with hold | hnew
    · exact h.recorded commit hold entry hentry
    · rw [List.mem_singleton.1 hnew] at hentry ⊢
      exact tryFlush_recorded h.terminalBatch hflush entry.write (List.mem_map_of_mem hentry)
  stamped := hstamped
  held := h.held
  gone := h.gone
  flushed := Nat.le_refl _

/-! ## The calls -/

theorem Accounts.disconnected_iff :
    task.disconnected = true ↔ task.handle = false ∧ task.sending = [] ∧ task.waiting = [] := by
  simp [disconnected, and_assoc]

theorem call_accounts (h : task.Accounts) (write : PendingWrite) :
    (task.call write).Accounts := by
  unfold call
  split
  case isFalse => exact h
  rename_i hguard
  have hopen : task.closed = true → False := fun hclosed => by
    have hgone := Accounts.disconnected_iff.1 (h.gone hclosed).1
    rw [hgone.1] at hguard
    exact absurd hguard.2.2 Bool.false_ne_true
  refine ⟨h.order, h.once, ?_, ?_, ?_, h.decided, h.recorded, h.stamped, h.held,
    fun hclosed => (hopen hclosed).elim, h.flushed⟩
  · intro entry hentry other hother
    rcases List.mem_append.1 hentry with hentry | hentry
    · exact h.unsent entry hentry other hother
    · rw [List.mem_singleton.1 hentry]
      exact (Nat.ne_of_lt (h.fresh other (List.mem_append_right _ hother))).symm
  · intro entry hentry
    rcases List.mem_append.1 hentry with hentry | hentry
    · rcases List.mem_append.1 hentry with hentry | hentry
      · exact Nat.lt_succ_of_lt (h.fresh entry (List.mem_append_left _ hentry))
      · rw [List.mem_singleton.1 hentry]
        exact Nat.lt_succ_self _
    · exact Nat.lt_succ_of_lt (h.fresh entry (List.mem_append_right _ hentry))
  · intro entry hentry
    rcases List.mem_append.1 hentry with hentry | hentry
    · rcases List.mem_append.1 hentry with hentry | hentry
      · exact h.asserted entry (List.mem_append_left _ hentry)
      · rw [List.mem_singleton.1 hentry]
        exact hguard.1
    · exact h.asserted entry (List.mem_append_right _ hentry)

/-- Calls that let go of their senders leave the books as they are. -/
theorem Accounts.release (h : task.Accounts) {sending : List Entry} {waiting : List Nat}
    (hsending : sending ⊆ task.sending) (hwaiting : waiting ⊆ task.waiting) :
    Accounts { task with sending := sending, waiting := waiting } where
  order := h.order
  once := h.once
  unsent := fun entry hentry => h.unsent entry (hsending hentry)
  fresh := fun entry hentry => h.fresh entry <| by
    rcases List.mem_append.1 hentry with hentry | hentry
    · exact List.mem_append_left _ (hsending hentry)
    · exact List.mem_append_right _ hentry
  asserted := fun entry hentry => h.asserted entry <| by
    rcases List.mem_append.1 hentry with hentry | hentry
    · exact List.mem_append_left _ (hsending hentry)
    · exact List.mem_append_right _ hentry
  decided := h.decided
  recorded := h.recorded
  stamped := h.stamped
  held := fun ticket hticket => h.held ticket (hwaiting hticket)
  gone := fun hclosed => by
    obtain ⟨hgone, hqueue⟩ := h.gone hclosed
    obtain ⟨hhandle, hsent, hwaited⟩ := Accounts.disconnected_iff.1 hgone
    rw [hsent] at hsending
    rw [hwaited] at hwaiting
    exact ⟨Accounts.disconnected_iff.2 ⟨hhandle, List.subset_nil.1 hsending,
      List.subset_nil.1 hwaiting⟩, hqueue⟩
  flushed := h.flushed

theorem mem_of_entered {entry other : Entry} {sending entered : List Entry}
    (hentry : entry ∈ sending)
    (h : other ∈ sending.filter (fun held => held.ticket ≠ entry.ticket) ++ (entered ++ [entry])) :
    other ∈ sending ++ entered := by
  rcases List.mem_append.1 h with h | h
  · exact List.mem_append_left _ (List.mem_of_mem_filter h)
  · rcases List.mem_append.1 h with h | h
    · exact List.mem_append_right _ h
    · rw [List.mem_singleton.1 h]
      exact List.mem_append_left _ hentry

/-- The channel takes a write that some call was holding. -/
theorem Accounts.enter (h : task.Accounts) {entry : Entry} (hentry : entry ∈ task.sending)
    {waiting : List Nat} (hwaiting : ∀ ticket ∈ waiting, ticket ∈ task.waiting ∨
      ticket = entry.ticket) :
    Accounts { task with
      sending := task.sending.filter fun other => other.ticket ≠ entry.ticket
      queue := task.queue ++ [entry], entered := task.entered ++ [entry], waiting := waiting } where
  order := by
    show task.entered ++ [entry] = _
    rw [h.order]
    simp only [List.append_assoc]
  once := by
    exact Tables.nodup_insert h.once fun old hold hsame => h.unsent entry hentry old hold hsame.symm
  unsent := by
    intro first hfirst other hother
    obtain ⟨hold, hne⟩ := List.mem_filter.1 hfirst
    rcases List.mem_append.1 hother with hother | hother
    · exact h.unsent first hold other hother
    · rw [List.mem_singleton.1 hother]
      exact of_decide_eq_true hne
  fresh := fun other hother => h.fresh other (mem_of_entered hentry hother)
  asserted := fun other hother => h.asserted other (mem_of_entered hentry hother)
  decided := h.decided
  recorded := h.recorded
  stamped := h.stamped
  held := by
    intro ticket hticket
    rcases hwaiting ticket hticket with hold | rfl
    · obtain ⟨old, hold, heq⟩ := h.held ticket hold
      exact ⟨old, List.mem_append_left _ hold, heq⟩
    · exact ⟨entry, List.mem_append_right _ List.mem_cons_self, rfl⟩
  gone := fun hclosed => by
    rw [(Accounts.disconnected_iff.1 (h.gone hclosed).1).2.1] at hentry
    cases hentry
  flushed := h.flushed

/-! ## One event -/

/-- What one event does to a task whose books are kept. -/
inductive Stepped (iso : Iso8601) (config : LedgerWriterConfig) (task : WriterTask) :
    WriterEvent → WriterTask → Prop
  | called (write : PendingWrite) : Stepped iso config task (.called write) (task.call write)
  | sent {entry : Entry} (hentry : entry ∈ task.sending)
      (hroom : task.queue.length < config.queueCapacity) :
      Stepped iso config task (.sent entry.ticket)
        { task with
          sending := task.sending.filter fun other => other.ticket ≠ entry.ticket
          queue := task.queue ++ [entry]
          entered := task.entered ++ [entry]
          waiting := if entry.write = .barrier then task.waiting ++ [entry.ticket]
            else task.waiting }
  | returned {ticket : Nat} (hticket : ticket ∈ task.waiting) :
      Stepped iso config task (.returned ticket)
        { task with waiting := task.waiting.filter fun other => other ≠ ticket }
  | cancelled (ticket : Nat) : Stepped iso config task (.cancelled ticket) (task.letGo ticket)
  | refused : Stepped iso config task .refused { task with shuttingDown := true }
  | handleTaken : Stepped iso config task .handleTaken { task with handle := false }
  | received {since now : Nat} {entry : Entry} {rest : List Entry}
      (hphase : task.phase = .selecting since) (htime : task.now ≤ now)
      (hroom : task.batch.length < config.maxBatch) (hqueue : task.queue = entry :: rest) :
      Stepped iso config task (.received now) (afterSelect config
        { task with now := now, queue := rest, batch := task.batch ++ [entry] })
  | ended {since now : Nat} (hphase : task.phase = .selecting since) (htime : task.now ≤ now)
      (hqueue : task.queue = []) (hgone : task.disconnected = true) :
      Stepped iso config task (.received now)
        (afterSelect config { task with now := now, closed := true })
  | ticked {since now : Nat} (hphase : task.phase = .selecting since) (htime : task.now ≤ now)
      (hdeadline : task.deadline config since ≤ now) :
      Stepped iso config task (.ticked now) (afterSelect config { task with now := now })
  | attempted {tries now : Nat} {fault : Option SqliteError} {outcome : Attempt}
      (hphase : task.phase = .flushing tries) (htime : task.now ≤ now)
      (houtcome : Attempted iso config fault task.batch tries task.ledger outcome) :
      Stepped iso config task (.attempted now fault)
        (afterFlush config { task with now := now } tries outcome)
  | elsewhere (ledger : { ledger : Ledger // ledger.Stamped }) :
      Stepped iso config task (.elsewhere ledger) { task with ledger := ledger.1 }

/-- A task that is over left no call with a sender. -/
theorem Coherent.over (hc : task.Coherent config) (hstopped : task.stopped = true) :
    task.batch = [] ∧ task.queue = [] ∧ task.sending = [] := by
  obtain ⟨hbooks, hfits⟩ := hc
  unfold Fits at hfits
  unfold stopped at hstopped
  cases hphase : task.phase with
  | exited =>
    rw [hphase] at hfits
    obtain ⟨hgone, hqueue⟩ := hbooks.gone hfits.2
    exact ⟨hfits.1, hqueue, (Accounts.disconnected_iff.1 hgone).2.1⟩
  | panicked =>
    rw [hphase] at hfits
    exact hfits.elim
  | selecting | flushing | leftover =>
    rw [hphase] at hstopped
    cases hstopped

theorem send_stepped (hc : task.Coherent config) {ticket : Nat} {next : WriterTask}
    (h : task.send config ticket = some next) : Stepped iso config task (.sent ticket) next := by
  unfold send at h
  split at h
  case h_1 => cases h
  rename_i entry hfind
  have hentry := List.mem_of_find?_eq_some hfind
  have hticket : entry.ticket = ticket := by simpa using List.find?_some hfind
  subst hticket
  dsimp only at h
  split at h
  · rename_i hstopped
    rw [(hc.over hstopped).2.2] at hentry
    cases hentry
  · split at h <;> cases h
    exact .sent hentry ‹_›

theorem receive_stepped {now : Nat} {next : WriterTask} (h : task.receive config now = some next) :
    Stepped iso config task (.received now) next := by
  unfold receive at h
  split at h
  case h_2 => cases h
  rename_i since hphase
  split at h
  case isFalse => cases h
  rename_i hguard
  split at h
  · rename_i entry rest hqueue
    cases h
    exact .received hphase hguard.1 hguard.2 hqueue
  · rename_i hqueue
    split at h <;> cases h
    exact .ended hphase hguard.1 hqueue ‹_›

theorem tick_stepped {now : Nat} {next : WriterTask} (h : task.tick config now = some next) :
    Stepped iso config task (.ticked now) next := by
  unfold tick at h
  split at h
  case h_2 => cases h
  rename_i since hphase
  split at h <;> cases h
  rename_i hguard
  exact .ticked hphase hguard.1 hguard.2

theorem flush_stepped (hc : task.Coherent config) {now : Nat} {fault : Option SqliteError}
    {next : WriterTask} (h : task.flush iso config now fault = some next) :
    Stepped iso config task (.attempted now fault) next := by
  unfold flush at h
  split at h
  case isFalse => cases h
  rename_i htime
  split at h
  · rename_i tries hphase
    cases h
    exact .attempted hphase htime (attempt_attempted hc.accounts.stamped)
  · rename_i entries tries hphase
    have hfits := hc.fits
    unfold Fits at hfits
    rw [hphase] at hfits
    exact hfits.elim
  · cases h

theorem step_stepped (hc : task.Coherent config) {event : WriterEvent} {next : WriterTask}
    (h : task.step iso config event = some next) : Stepped iso config task event next := by
  cases event with
  | called write =>
    cases h
    exact .called write
  | sent ticket => exact send_stepped hc h
  | returned ticket =>
    simp only [step] at h
    split at h <;> cases h
    rename_i hguard
    exact .returned hguard.1
  | cancelled ticket =>
    cases h
    exact .cancelled ticket
  | refused =>
    cases h
    exact .refused
  | handleTaken =>
    simp only [step] at h
    split at h <;> cases h
    exact .handleTaken
  | received now => exact receive_stepped h
  | ticked now => exact tick_stepped h
  | attempted now fault => exact flush_stepped hc h
  | elsewhere ledger =>
    cases h
    exact .elsewhere ledger

/-! ## The books are kept -/

theorem afterFlush_coherent (hc : task.Coherent config) {tries now : Nat}
    {fault : Option SqliteError} {outcome : Attempt} (hphase : task.phase = .flushing tries)
    (htime : task.now ≤ now)
    (houtcome : Attempted iso config fault task.batch tries task.ledger outcome) :
    (afterFlush config { task with now := now } tries outcome).Coherent config := by
  obtain ⟨hbooks, hfits⟩ := hc
  have hbooks' := hbooks.turn task.phase task.ready task.healthy task.commitsAreHealthy
    (Nat.le_trans hbooks.flushed htime)
  unfold Fits at hfits
  rw [hphase] at hfits
  cases houtcome with
  | committed hflush hstamped =>
    exact endRound_coherent (hbooks'.committed hflush hstamped) (maxBatch_pos config)
  | retried => exact ⟨hbooks'.turn (.flushing _) _ _ _ hbooks'.flushed, hfits⟩
  | failed e => exact endRound_coherent (hbooks'.failed e) (maxBatch_pos config)

/-- Every event keeps the books, and the batch its phase expects. -/
theorem step_coherent (hc : task.Coherent config) {event : WriterEvent} {next : WriterTask}
    (hstep : task.step iso config event = some next) : next.Coherent config := by
  have hbooks := hc.accounts
  cases step_stepped hc hstep with
  | called write =>
    refine ⟨call_accounts hbooks write, ?_⟩
    unfold call
    split <;> exact hc.fits
  | sent hentry hroom =>
    refine ⟨hbooks.enter hentry fun ticket hticket => ?_, hc.fits⟩
    split at hticket
    · rcases List.mem_append.1 hticket with hticket | hticket
      · exact Or.inl hticket
      · exact Or.inr (List.mem_singleton.1 hticket)
    · exact Or.inl hticket
  | returned hticket =>
    exact ⟨hbooks.release (List.Subset.refl _) (List.filter_subset_self _), hc.fits⟩
  | cancelled ticket =>
    exact ⟨hbooks.release (List.filter_subset_self _) (List.filter_subset_self _), hc.fits⟩
  | refused =>
    exact ⟨⟨hbooks.order, hbooks.once, hbooks.unsent, hbooks.fresh, hbooks.asserted,
      hbooks.decided, hbooks.recorded, hbooks.stamped, hbooks.held, hbooks.gone, hbooks.flushed⟩,
      hc.fits⟩
  | handleTaken =>
    refine ⟨⟨hbooks.order, hbooks.once, hbooks.unsent, hbooks.fresh, hbooks.asserted,
      hbooks.decided, hbooks.recorded, hbooks.stamped, hbooks.held, fun hclosed => ?_,
      hbooks.flushed⟩, hc.fits⟩
    obtain ⟨hgone, hqueue⟩ := hbooks.gone hclosed
    exact ⟨Accounts.disconnected_iff.2 ⟨rfl, (Accounts.disconnected_iff.1 hgone).2⟩, hqueue⟩
  | received hphase htime hroom hqueue =>
    refine afterSelect_coherent ⟨?_, hbooks.once, hbooks.unsent, hbooks.fresh, hbooks.asserted,
      hbooks.decided, hbooks.recorded, hbooks.stamped, hbooks.held, fun hclosed => ?_,
      Nat.le_trans hbooks.flushed htime⟩
    · show task.entered = _
      rw [hbooks.order, hqueue]
      simp [List.append_assoc]
    · -- nothing follows the end of the channel
      rw [(hbooks.gone hclosed).2] at hqueue
      cases hqueue
  | ended hphase htime hqueue hgone =>
    exact afterSelect_coherent ⟨hbooks.order, hbooks.once, hbooks.unsent, hbooks.fresh,
      hbooks.asserted, hbooks.decided, hbooks.recorded, hbooks.stamped, hbooks.held,
      fun _ => ⟨hgone, hqueue⟩, Nat.le_trans hbooks.flushed htime⟩
  | ticked hphase htime hdeadline =>
    exact afterSelect_coherent (hbooks.turn task.phase task.ready task.healthy
      task.commitsAreHealthy (Nat.le_trans hbooks.flushed htime))
  | attempted hphase htime houtcome => exact afterFlush_coherent hc hphase htime houtcome
  | elsewhere ledger =>
    exact ⟨⟨hbooks.order, hbooks.once, hbooks.unsent, hbooks.fresh, hbooks.asserted,
      hbooks.decided, hbooks.recorded, ledger.2, hbooks.held, hbooks.gone, hbooks.flushed⟩,
      hc.fits⟩

/-! ## The tables -/

/-- A round of the loop leaves the tables, the producer handle and what an observer has seen. -/
structure Leaves (task after : WriterTask) : Prop where
  ledger : after.ledger = task.ledger
  commits : after.commits = task.commits
  acks : after.acks = task.acks
  entered : after.entered = task.entered
  handle : after.handle = task.handle

theorem Leaves.trans {middle after : WriterTask} (h : task.Leaves middle)
    (h' : middle.Leaves after) : task.Leaves after :=
  ⟨h'.ledger.trans h.ledger, h'.commits.trans h.commits, h'.acks.trans h.acks,
    h'.entered.trans h.entered, h'.handle.trans h.handle⟩

theorem endRound_leaves (task : WriterTask) : task.Leaves (task.endRound config) := by
  unfold endRound
  dsimp only
  split
  · split <;> exact ⟨rfl, rfl, rfl, rfl, rfl⟩
  · exact ⟨rfl, rfl, rfl, rfl, rfl⟩

theorem afterSelect_leaves (task : WriterTask) : task.Leaves (task.afterSelect config) := by
  unfold afterSelect
  dsimp only
  have hdrained : task.Leaves (if task.closed then task.drain config else task) := by
    split <;> exact ⟨rfl, rfl, rfl, rfl, rfl⟩
  generalize (if task.closed then task.drain config else task) = drained at hdrained
  refine hdrained.trans ?_
  split
  · exact ⟨rfl, rfl, rfl, rfl, rfl⟩
  · exact endRound_leaves drained

/-- What an event does to the tables. -/
inductive Writes (iso : Iso8601) (config : LedgerWriterConfig) (task : WriterTask)
    (event : WriterEvent) (next : WriterTask) : Prop
  | elsewhere (ledger : { ledger : Ledger // ledger.Stamped }) (hevent : event = .elsewhere ledger)
  | kept (hledger : next.ledger = task.ledger) (hcommits : next.commits = task.commits)
  | committed (fault : Option SqliteError) (n : Nat)
      (hflush : tryFlush iso config.instanceId fault (task.batch.map Entry.write) task.ledger =
        .ok (next.ledger, n))
      (hcommits : next.commits = task.commits ++ [⟨task.batch, task.ledger, next.ledger⟩])
      (hacks : next.acks = task.acks ++ task.batch.map fun entry => ⟨entry, .ok ()⟩)

theorem afterFlush_writes {event : WriterEvent} {fault : Option SqliteError} {tries now : Nat}
    {outcome : Attempt}
    (houtcome : Attempted iso config fault task.batch tries task.ledger outcome) :
    task.Writes iso config event (afterFlush config { task with now := now } tries outcome) := by
  cases houtcome with
  | retried => exact .kept rfl rfl
  | failed e =>
    have hround := @endRound_leaves config
      { { task with now := now }.answer task.batch (.error e) with
        batch := [], commitsAreHealthy := false, healthy := false, lastFlush := now }
    exact .kept hround.ledger hround.commits
  | @committed written n hflush _ =>
    have hround := @endRound_leaves config
      { { task with now := now }.commit task.batch written n with
        batch := [], commitsAreHealthy := true, lastFlush := now }
    have hwritten : (afterFlush config { task with now := now } tries
      (.committed written n)).ledger = written := hround.ledger
    refine .committed fault n ?_ ?_ hround.acks
    · rw [hwritten]
      exact hflush
    · rw [hwritten]
      exact hround.commits

/-- No event changes the tables but another connection's commit and the one commit of a batch. -/
theorem step_writes (hc : task.Coherent config) {event : WriterEvent} {next : WriterTask}
    (hstep : task.step iso config event = some next) : task.Writes iso config event next := by
  cases step_stepped hc hstep with
  | called write =>
    unfold call
    split <;> exact .kept rfl rfl
  | sent | returned | cancelled | refused | handleTaken => exact .kept rfl rfl
  | received | ended | ticked =>
    exact .kept (afterSelect_leaves _).ledger (afterSelect_leaves _).commits
  | attempted hphase htime houtcome => exact afterFlush_writes houtcome
  | elsewhere ledger => exact .elsewhere ledger rfl

/-- What the channel took stays, in its order. -/
theorem step_entered (hc : task.Coherent config) {event : WriterEvent} {next : WriterTask}
    (hstep : task.step iso config event = some next) : task.entered <+: next.entered := by
  have hsame : ∀ {after : List Entry}, after = task.entered → task.entered <+: after := by
    rintro _ rfl
    exact List.prefix_rfl
  cases step_stepped hc hstep with
  | called write =>
    unfold call
    split <;> exact hsame rfl
  | sent => exact List.prefix_append _ _
  | returned | cancelled | refused | handleTaken | elsewhere => exact hsame rfl
  | received | ended | ticked => exact hsame (afterSelect_leaves _).entered
  | attempted hphase htime houtcome =>
    cases houtcome with
    | retried => exact hsame rfl
    | failed | committed => exact hsame (endRound_leaves _).entered

/-- The producer handle does not come back. -/
theorem step_handle (hc : task.Coherent config) {event : WriterEvent} {next : WriterTask}
    (hstep : task.step iso config event = some next) (hhandle : task.handle = false) :
    next.handle = false := by
  cases step_stepped hc hstep with
  | called write =>
    unfold call
    split <;> exact hhandle
  | sent | returned | cancelled | refused | elsewhere => exact hhandle
  | handleTaken => rfl
  | received | ended | ticked => exact (afterSelect_leaves _).handle.trans hhandle
  | attempted hphase htime houtcome =>
    cases houtcome with
    | retried => exact hhandle
    | failed | committed => exact (endRound_leaves _).handle.trans hhandle

end Loop

end WriterTask

end PartnerPortal
