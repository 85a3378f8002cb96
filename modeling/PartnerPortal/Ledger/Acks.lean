import PartnerPortal.Ledger.WriterBooks
import PartnerPortal.Lib.Fair

/-!
# Truthful acknowledgements

What every call of the writer is told is what happened to its write: one answer each, in the order
of the channel, a success after the commit that wrote its row and a failure after none.  Every write
the channel took is answered, and after shutdown the task ends.

Results:
- `Coherent.truthful` — what the acknowledgements sent so far say is so;
- `answers_leads`, `shutdown_leads` — the steps of the task, of the channel and of the calls that
  were answered lead to the answer of any write the channel took, and after shutdown to the end of the
  task;
- `writer_acks_truthful` — both, for every run.
-/

namespace PartnerPortal

/-! ## How far a task is -/

/-- What a task has still before it. -/
structure Counts where
  sending : Nat
  queue : Nat
  batch : Nat
  waiting : Nat
  acks : Nat
  phase : Nat

/-- How many rounds and attempts a phase can still take before the batch is answered. -/
def WriterPhase.stepsLeft : WriterPhase → Nat
  | .selecting _ => busyRetries + 3
  | .flushing attempt => busyRetries + 2 - attempt
  | .leftover _ attempt => busyRetries + 2 - attempt
  | .exited | .panicked => 0

namespace WriterTask

def counts (task : WriterTask) : Counts where
  sending := task.sending.length
  queue := task.queue.length
  batch := task.batch.length
  waiting := task.waiting.length
  acks := task.acks.length
  phase := task.phase.stepsLeft

/-- Events that the task, the channel and the answered calls bring about by themselves.  A timer
that finds no batch only reports readiness. -/
def Urgent (task : WriterTask) : WriterEvent → Prop
  | .sent _ | .returned _ | .received _ | .attempted _ _ => True
  | .ticked _ => task.batch ≠ []
  | .called _ | .cancelled _ | .refused | .handleTaken | .elsewhere _ => False

/-- What an event does to the counts. -/
inductive Moves (config : LedgerWriterConfig) (handle : Bool) (urgent : Prop) (c : Counts) :
    Counts → Prop
  | called (hopen : handle = true) (hidle : ¬ urgent) :
      Moves config handle urgent c { c with sending := c.sending + 1 }
  | sent {sending waiting : Nat} (hsending : sending < c.sending)
      (hroom : c.queue < config.queueCapacity) (hwaiting : waiting ≤ c.waiting + 1) :
      Moves config handle urgent c
        { c with sending := sending, queue := c.queue + 1, waiting := waiting }
  | released {sending waiting : Nat} (hsending : sending ≤ c.sending)
      (hwaiting : waiting ≤ c.waiting) (hless : urgent → waiting < c.waiting) :
      Moves config handle urgent c { c with sending := sending, waiting := waiting }
  | received {queue phase : Nat} (hqueue : c.queue = queue + 1) (hroom : c.batch < config.maxBatch)
      (hphase : c.phase = busyRetries + 3) (hnext : phase ≤ busyRetries + 3) :
      Moves config handle urgent c { c with queue := queue, batch := c.batch + 1, phase := phase }
  | selected {phase : Nat} (hphase : c.phase = busyRetries + 3) (hnext : phase ≤ busyRetries + 3)
      (hless : urgent → phase ≤ busyRetries + 2) :
      Moves config handle urgent c { c with phase := phase }
  | retried {phase : Nat} (hphase : phase < c.phase) :
      Moves config handle urgent c { c with phase := phase }
  | answered {phase : Nat} (hbatch : 0 < c.batch) (hnext : phase ≤ busyRetries + 3) :
      Moves config handle urgent c
        { c with batch := 0, acks := c.acks + c.batch, phase := phase }

section Steps

variable {iso : Iso8601} {config : LedgerWriterConfig} {task : WriterTask}

/-- The end of a round, in a channel that holds nothing once it is closed. -/
theorem endRound_counts (hgone : task.closed = true → task.queue = []) :
    (task.endRound config).counts = { task.counts with
      phase := if task.closed ∧ task.batch = [] then 0 else busyRetries + 3 } := by
  unfold endRound
  dsimp only
  split
  · rename_i hend
    rw [if_pos (hgone hend.1)]
    rfl
  · rfl

/-- After a `select!` the batch is written now, or another round begins or the task ends; the latter
is not so when the channel has ended or the window of a batch is over. -/
theorem afterSelect_counts (hgone : task.closed = true → task.queue = []) :
    ∃ phase, (task.afterSelect config).counts = { task.counts with phase := phase } ∧
      phase ≤ busyRetries + 3 ∧
      (task.closed = true ∨
        (task.batch ≠ [] ∧ config.batchTimeout ≤ task.now - task.lastFlush) →
          phase ≤ busyRetries + 2) := by
  -- a closed channel holds nothing that a drain could take
  have hdrain : task.closed = true → task.drain config = task := fun hclosed => by
    unfold drain
    rw [hgone hclosed, List.take_nil, List.drop_nil, List.append_nil, ← hgone hclosed]
  have hround : task.afterSelect config =
      if task.due config then { task with phase := .flushing 0 } else task.endRound config := by
    unfold afterSelect
    dsimp only
    split
    · rename_i hclosed
      rw [hdrain hclosed]
    · rfl
  rw [hround]
  split
  · exact ⟨busyRetries + 2, rfl, Nat.le_succ _, fun _ => Nat.le_refl _⟩
  · rename_i hdue
    refine ⟨_, endRound_counts hgone, ?_, fun hurgent => ?_⟩
    · split
      · exact Nat.zero_le _
      · exact Nat.le_refl _
    · rcases hurgent with hclosed | ⟨hbatch, htimeout⟩
      · by_cases hbatch : task.batch = []
        · rw [if_pos ⟨hclosed, hbatch⟩]
          exact Nat.zero_le _
        · exact absurd ⟨hbatch, Or.inl hclosed⟩ hdue
      · exact absurd ⟨hbatch, Or.inr (Or.inr htimeout)⟩ hdue

/-- The window of a batch is over when the timer of its `select!` fires. -/
theorem window_over {since now : Nat} (hsince : task.lastFlush ≤ since)
    (hdeadline : task.deadline config since ≤ now) (hbatch : task.batch ≠ []) :
    config.batchTimeout ≤ now - task.lastFlush := by
  unfold deadline at hdeadline
  rw [if_neg hbatch] at hdeadline
  have hmax := Nat.le_max_left (config.batchTimeout - (since - task.lastFlush)) oneMilli
  omega

theorem filter_length_lt {α : Type} (key : α → Nat) {list : List α} {a : α} (ha : a ∈ list) :
    (list.filter fun other => key other ≠ key a).length < list.length :=
  List.length_filter_lt_length_iff_exists.2 ⟨a, ha, by simp⟩

theorem afterFlush_moves (hc : task.Coherent config) {handle : Bool} {urgent : Prop}
    {tries now : Nat} {fault : Option SqliteError} {outcome : Attempt}
    (hphase : task.phase = .flushing tries)
    (houtcome : Attempted iso config fault task.batch tries task.ledger outcome) :
    Moves config handle urgent task.counts
      (afterFlush config { task with now := now } tries outcome).counts := by
  have hfits := hc.fits
  unfold Fits at hfits
  rw [hphase] at hfits
  have hbatch : 0 < task.batch.length := List.length_pos_iff.2 hfits
  have hanswered : ∀ done : WriterTask, done.sending = task.sending → done.queue = task.queue →
      done.waiting = task.waiting → done.closed = task.closed → done.batch = [] →
      done.acks.length = task.acks.length + task.batch.length →
      Moves config handle urgent task.counts (done.endRound config).counts := by
    intro done hsending hqueue hwaiting hclosed hdone hacks
    rw [endRound_counts fun h => hqueue.trans (hc.accounts.gone (hclosed ▸ h)).2]
    simp only [counts, hsending, hqueue, hwaiting, hdone, hacks]
    refine .answered hbatch ?_
    split
    · exact Nat.zero_le _
    · exact Nat.le_refl _
  cases houtcome with
  | retried hlt =>
    refine .retried ?_
    show busyRetries + 2 - (tries + 1) < task.phase.stepsLeft
    rw [hphase]
    show busyRetries + 2 - (tries + 1) < busyRetries + 2 - tries
    omega
  | failed e => exact hanswered _ rfl rfl rfl rfl rfl (by simp [answer])
  | committed hflush _ => exact hanswered _ rfl rfl rfl rfl rfl (by simp [commit, answer])

theorem selecting_stepsLeft {since : Nat} (h : task.phase = .selecting since) :
    task.counts.phase = busyRetries + 3 := by
  show task.phase.stepsLeft = _
  rw [h]
  rfl

/-- What an event does to the counts. -/
theorem step_moves (hc : task.Coherent config) {event : WriterEvent} {next : WriterTask}
    (hstep : task.step iso config event = some next) :
    Moves config task.handle (task.Urgent event) task.counts next.counts := by
  have hgone : task.closed = true → task.queue = [] := fun h => (hc.accounts.gone h).2
  -- a step that leaves the counts alone is not one that an urgent task takes
  have hidle : ∀ event, ¬ task.Urgent event →
      Moves config task.handle (task.Urgent event) task.counts task.counts := fun _ hidle =>
    .released (Nat.le_refl _) (Nat.le_refl _) fun hurgent => absurd hurgent hidle
  cases step_stepped hc hstep with
  | called write =>
    unfold call
    split
    · rename_i hguard
      have hone := @Moves.called config task.handle (task.Urgent (.called write)) task.counts
        hguard.2.2 id
      simpa [counts] using hone
    · exact hidle (.called write) id
  | @sent entry hentry hroom =>
    have hless := filter_length_lt Entry.ticket hentry
    have hsent := @Moves.sent config task.handle (task.Urgent (.sent entry.ticket)) task.counts _
      (if entry.write = .barrier then task.waiting ++ [entry.ticket] else task.waiting).length
      hless hroom <| by
        split
        · exact Nat.le_of_eq List.length_append
        · exact Nat.le_succ _
    simpa [counts] using hsent
  | returned hticket =>
    have hless := filter_length_lt id hticket
    exact .released (Nat.le_refl _) hless.le fun _ => hless
  | cancelled ticket =>
    exact .released (List.length_filter_le _ _) (List.length_filter_le _ _) False.elim
  | refused => exact hidle .refused id
  | handleTaken => exact hidle .handleTaken id
  | @received since now entry rest hphase htime hroom hqueue =>
    obtain ⟨phase, hcounts, hnext, -⟩ := @afterSelect_counts config
      { task with now := now, queue := rest, batch := task.batch ++ [entry] }
      (fun hclosed => by rw [hgone hclosed] at hqueue; cases hqueue)
    rw [hcounts]
    have hreceived := @Moves.received config task.handle (task.Urgent (.received now)) task.counts
      rest.length phase (congrArg List.length hqueue) hroom (selecting_stepsLeft hphase) hnext
    simpa [counts] using hreceived
  | @ended since now hphase htime hqueue hdisconnected =>
    obtain ⟨phase, hcounts, hnext, hless⟩ := @afterSelect_counts config
      { task with now := now, closed := true } (fun _ => hqueue)
    rw [hcounts]
    exact .selected (selecting_stepsLeft hphase) hnext fun _ => hless (Or.inl rfl)
  | @ticked since now hphase htime hdeadline =>
    obtain ⟨phase, hcounts, hnext, hless⟩ := @afterSelect_counts config
      { task with now := now } hgone
    have hfits := hc.fits
    unfold Fits at hfits
    rw [hphase] at hfits
    rw [hcounts]
    refine .selected (selecting_stepsLeft hphase) hnext fun hurgent => hless (Or.inr ⟨hurgent, ?_⟩)
    exact window_over hfits.2 hdeadline hurgent
  | attempted hphase htime houtcome => exact afterFlush_moves hc hphase houtcome
  | elsewhere ledger => exact hidle (.elsewhere ledger) id

/-! ## Nothing is stuck -/

/-- As long as a write that was taken is not answered, the task can go on by itself. -/
theorem pending_possible (iso : Iso8601) (hc : task.Coherent config)
    (hpending : task.queue ≠ [] ∨ task.batch ≠ []) :
    ∃ event, task.Urgent event ∧ (task.step iso config event).isSome = true := by
  have hfits := hc.fits
  unfold Fits at hfits
  cases hphase : task.phase with
  | selecting since =>
    rw [hphase] at hfits
    cases hqueue : task.queue with
    | cons entry rest =>
      refine ⟨.received task.now, trivial, ?_⟩
      simp only [step, receive, hphase, hqueue]
      rw [if_pos ⟨Nat.le_refl _, hfits.1⟩]
      rfl
    | nil =>
      refine ⟨.ticked (max task.now (task.deadline config since)), ?_, ?_⟩
      · exact hpending.resolve_left (not_not_intro hqueue)
      · simp only [step, tick, hphase]
        rw [if_pos ⟨Nat.le_max_left _ _, Nat.le_max_right _ _⟩]
        rfl
  | flushing tries =>
    refine ⟨.attempted task.now none, trivial, ?_⟩
    simp only [step, flush, hphase]
    rw [if_pos (Nat.le_refl _)]
    rfl
  | exited =>
    have hover := hc.over (by rw [stopped, hphase])
    exact absurd hpending (not_or.2 ⟨not_not_intro hover.2.1, not_not_intro hover.1⟩)
  | leftover | panicked =>
    rw [hphase] at hfits
    exact hfits.elim

/-- Without a producer handle something can happen by itself until the task is over. -/
theorem shutdown_possible (iso : Iso8601) (hc : task.Coherent config)
    (hhandle : task.handle = false) (hrunning : task.phase ≠ .exited) :
    ∃ event, task.Urgent event ∧ (task.step iso config event).isSome = true := by
  by_cases hpending : task.queue ≠ [] ∨ task.batch ≠ []
  · exact pending_possible iso hc hpending
  obtain ⟨hqueue, hbatch⟩ := not_or.1 hpending
  rw [not_not] at hqueue hbatch
  have hbooks := hc.accounts
  have hfits := hc.fits
  unfold Fits at hfits
  cases hphase : task.phase with
  | selecting since =>
    rw [hphase] at hfits
    cases hsending : task.sending with
    | cons entry rest =>
      refine ⟨.sent entry.ticket, trivial, ?_⟩
      have hroom : ([] : List Entry).length < config.queueCapacity :=
        Nat.lt_of_lt_of_le Nat.zero_lt_one (Nat.le_max_right _ _)
      simp only [step, send, hsending, List.find?_cons, decide_true, stopped, hphase, hqueue]
      rw [if_neg Bool.false_ne_true, if_pos hroom]
      rfl
    | nil =>
      cases hwaiting : task.waiting with
      | cons ticket rest =>
        -- the barrier of a call that waits was answered, as nothing is queued
        have hticket : ticket ∈ task.waiting := hwaiting ▸ List.mem_cons_self
        obtain ⟨entry, hentry, hheld⟩ := hbooks.held ticket hticket
        rw [hbooks.order, hqueue, hbatch, List.append_nil, List.append_nil] at hentry
        obtain ⟨ack, hack, rfl⟩ := List.mem_map.1 hentry
        have hanswered : task.answered ticket = true := by
          rw [answered, Bool.or_eq_true]
          exact Or.inr (List.any_eq_true.2 ⟨ack, hack, decide_eq_true hheld⟩)
        refine ⟨.returned ticket, trivial, ?_⟩
        simp only [step]
        rw [if_pos ⟨hticket, hanswered⟩]
        rfl
      | nil =>
        have hgone : task.disconnected = true :=
          Accounts.disconnected_iff.2 ⟨hhandle, hsending, hwaiting⟩
        refine ⟨.received task.now, trivial, ?_⟩
        simp only [step, receive, hphase, hqueue, hgone]
        rw [if_pos ⟨Nat.le_refl _, hfits.1⟩]
        rfl
  | flushing tries =>
    rw [hphase] at hfits
    exact absurd hbatch hfits
  | exited => exact absurd hphase hrunning
  | leftover | panicked =>
    rw [hphase] at hfits
    exact hfits.elim

/-! ## Every write is answered, and the task ends -/

/-- How far the write in some place of the order is from its answer. -/
def answerRank (config : LedgerWriterConfig) (place : Nat) (c : Counts) : Nat :=
  (3 * config.maxBatch + busyRetries + 4) * (place + 1 - c.acks) + 3 * (config.maxBatch - c.batch) +
    2 * (config.queueCapacity - c.queue) + c.waiting + c.phase

/-- How far a task without a producer handle is from its end. -/
def shutdownRank (c : Counts) : Nat :=
  (busyRetries + 7) * c.sending + (busyRetries + 5) * c.queue + (busyRetries + 4) * c.batch +
    c.waiting + c.phase

/-- An answer moves the order on by at least one place. -/
theorem answerRank_answered {place : Nat} {c : Counts} {phase : Nat} (hbatch : 0 < c.batch)
    (hplace : c.acks ≤ place) (hphase : phase ≤ busyRetries + 3) :
    answerRank config place { c with batch := 0, acks := c.acks + c.batch, phase := phase } <
      answerRank config place c := by
  have hplaces : place + 1 - (c.acks + c.batch) + 1 ≤ place + 1 - c.acks := by omega
  have hless := Nat.mul_le_mul_left (3 * config.maxBatch + busyRetries + 4) hplaces
  rw [Nat.mul_add, Nat.mul_one] at hless
  unfold answerRank
  dsimp only
  omega

theorem Moves.answerRank_le {handle : Bool} {urgent : Prop} {c d : Counts} {place : Nat}
    (h : Moves config handle urgent c d) (hplace : c.acks ≤ place) :
    answerRank config place d ≤ answerRank config place c ∧
      (urgent → answerRank config place d < answerRank config place c) := by
  cases h with
  | answered hbatch hnext =>
    have hless := @answerRank_answered config place c _ hbatch hplace hnext
    exact ⟨hless.le, fun _ => hless⟩
  | called hopen hidle => exact ⟨Nat.le_refl _, fun hurgent => absurd hurgent hidle⟩
  | sent hsending hroom hwaiting =>
    unfold answerRank
    dsimp only
    omega
  | released hsending hwaiting hless =>
    unfold answerRank
    dsimp only
    exact ⟨by omega, fun hurgent => by have := hless hurgent; omega⟩
  | received hqueue hroom hphase hnext =>
    unfold answerRank
    dsimp only
    omega
  | selected hphase hnext hless =>
    unfold answerRank
    dsimp only
    exact ⟨by omega, fun hurgent => by have := hless hurgent; omega⟩
  | retried hphase =>
    unfold answerRank
    dsimp only
    omega

theorem Moves.shutdownRank_le {urgent : Prop} {c d : Counts} (h : Moves config false urgent c d) :
    shutdownRank d ≤ shutdownRank c ∧ (urgent → shutdownRank d < shutdownRank c) := by
  unfold shutdownRank busyRetries
  cases h with
  | called hopen hidle => cases hopen
  | sent hsending hroom hwaiting =>
    dsimp only
    omega
  | released hsending hwaiting hless =>
    dsimp only
    exact ⟨by omega, fun hurgent => by have := hless hurgent; omega⟩
  | received hqueue hroom hphase hnext =>
    dsimp only [busyRetries] at hphase hnext ⊢
    omega
  | selected hphase hnext hless =>
    dsimp only [busyRetries] at hphase hnext hless ⊢
    exact ⟨by omega, fun hurgent => by have := hless hurgent; omega⟩
  | retried hphase =>
    dsimp only
    omega
  | answered hbatch hnext =>
    dsimp only [busyRetries] at hnext ⊢
    omega

/-- Every write the channel took comes closer to its answer. -/
theorem answers_leads (iso : Iso8601) (config : LedgerWriterConfig) (before : List Entry)
    (entry : Entry) :
    Fair.Leads (step iso config)
      (fun task => task.Coherent config ∧ before ++ [entry] <+: task.entered)
      (fun task => before.length < task.acks.length) Urgent
      (fun task => answerRank config before.length task.counts) where
  keeps := fun _ _ _ hstep h =>
    ⟨step_coherent h.1 hstep, h.2.trans (step_entered h.1 hstep)⟩
  falls := fun _ _ _ hstep h hwaits =>
    ((step_moves h.1 hstep).answerRank_le (Nat.le_of_not_lt hwaits)).2
  rises := fun _ _ _ hstep h hwaits =>
    ((step_moves h.1 hstep).answerRank_le (Nat.le_of_not_lt hwaits)).1
  possible := by
    rintro task ⟨hc, hentered⟩ hwaits
    refine pending_possible iso hc ?_
    by_contra hnone
    obtain ⟨hqueue, hbatch⟩ := not_or.1 hnone
    rw [not_not] at hqueue hbatch
    have hlength := hentered.length_le
    rw [hc.accounts.order, hqueue, hbatch, List.append_nil, List.append_nil, List.length_map,
      List.length_append] at hlength
    exact hwaits hlength

/-- After shutdown the task comes closer to its end. -/
theorem shutdown_leads (iso : Iso8601) (config : LedgerWriterConfig) :
    Fair.Leads (step iso config) (fun task => task.Coherent config ∧ task.handle = false)
      (fun task => task.phase = .exited) Urgent (fun task => shutdownRank task.counts) where
  keeps := fun _ _ _ hstep h =>
    ⟨step_coherent h.1 hstep, step_handle h.1 hstep h.2⟩
  falls := fun _ _ _ hstep h _ =>
    (h.2 ▸ step_moves h.1 hstep).shutdownRank_le.2
  rises := fun _ _ _ hstep h _ =>
    (h.2 ▸ step_moves h.1 hstep).shutdownRank_le.1
  possible := fun _ h hrunning => shutdown_possible iso h.1 h.2 hrunning

end Steps

/-! ## What an acknowledgement says -/

/-- The acknowledgements sent so far are truthful. -/
structure Truthful (task : WriterTask) : Prop where
  /-- one for each write, in the order of the channel -/
  once : (task.acks.map fun ack => ack.entry.ticket).Nodup
  inOrder : task.acks.map Ack.entry <+: task.entered
  success : ∀ ack ∈ task.acks, ack.result = .ok () →
    ∃ commit ∈ task.commits, ack.entry ∈ commit.entries ∧ Recorded commit.after ack.entry.write
  failure : ∀ ack ∈ task.acks, ∀ e, ack.result = .error e →
    ∀ commit ∈ task.commits, ack.entry ∉ commit.entries
  /-- whatever was queued before an answered barrier is answered too -/
  barrier : ∀ before barrier later, task.entered = before ++ barrier :: later →
    (∃ ack ∈ task.acks, ack.entry = barrier) →
      ∀ entry ∈ before, ∃ ack ∈ task.acks, ack.entry = entry
  /-- a task that is over answered everything -/
  drained : task.stopped = true → task.acks.map Ack.entry = task.entered

theorem Accounts.acks_prefix {task : WriterTask} (h : task.Accounts) :
    task.acks.map Ack.entry <+: task.entered := by
  rw [h.order, List.append_assoc]
  exact List.prefix_append _ _

theorem Accounts.acks_once {task : WriterTask} (h : task.Accounts) :
    (task.acks.map fun ack => ack.entry.ticket).Nodup := by
  have hsub := (h.acks_prefix.sublist.map Entry.ticket).nodup h.once
  rwa [List.map_map] at hsub

/-- A failure names no write of a transaction that was committed. -/
theorem Accounts.failure {task : WriterTask} (h : task.Accounts) {ack : Ack}
    (hack : ack ∈ task.acks) {e : LedgerError} (hresult : ack.result = .error e) :
    ack.entry ∉ task.commits.flatMap Commit.entries := by
  rw [h.decided]
  intro hentry
  obtain ⟨other, hother, heq⟩ := List.mem_map.1 hentry
  obtain ⟨hother, hsucceeded⟩ := List.mem_filter.1 hother
  -- tickets are answered once, so the success is the same acknowledgement
  have hsame : other = ack :=
    List.inj_on_of_nodup_map h.acks_once hother hack (congrArg Entry.ticket heq)
  rw [hsame, Ack.succeeded, hresult] at hsucceeded
  cases hsucceeded

theorem Accounts.barrier {task : WriterTask} (h : task.Accounts) {before later : List Entry}
    {barrier : Entry} (hentered : task.entered = before ++ barrier :: later)
    (hack : ∃ ack ∈ task.acks, ack.entry = barrier) {entry : Entry} (hentry : entry ∈ before) :
    ∃ ack ∈ task.acks, ack.entry = entry := by
  obtain ⟨rest, hrest⟩ := h.acks_prefix
  have hbarrier : barrier ∈ task.acks.map Ack.entry := List.mem_map.2 hack
  have hnodup : task.entered.Nodup := List.Nodup.of_map Entry.ticket h.once
  suffices hacked : entry ∈ task.acks.map Ack.entry from List.mem_map.1 hacked
  rw [hentered] at hrest hnodup
  rcases List.append_eq_append_iff.1 hrest with ⟨middle, hbefore, -⟩ | ⟨middle, hacks, -⟩
  · -- the barrier would come twice, as it was answered before all of `before` was
    have htwice : barrier ∈ before := hbefore ▸ List.mem_append_left _ hbarrier
    exact absurd rfl ((List.nodup_append.1 hnodup).2.2 barrier htwice barrier List.mem_cons_self)
  · rw [hacks]
    exact List.mem_append_left _ hentry

/-- What the acknowledgements sent so far say is so. -/
theorem Coherent.truthful {config : LedgerWriterConfig} {task : WriterTask}
    (hc : task.Coherent config) : task.Truthful where
  once := hc.accounts.acks_once
  inOrder := hc.accounts.acks_prefix
  success := by
    intro ack hack hresult
    have hentry : ack.entry ∈ task.commits.flatMap Commit.entries := by
      rw [hc.accounts.decided]
      refine List.mem_map_of_mem (List.mem_filter.2 ⟨hack, ?_⟩)
      rw [Ack.succeeded, hresult]
      rfl
    obtain ⟨commit, hcommit, hentry⟩ := List.mem_flatMap.1 hentry
    exact ⟨commit, hcommit, hentry, hc.accounts.recorded commit hcommit ack.entry hentry⟩
  failure := fun ack hack e hresult commit hcommit hentry =>
    hc.accounts.failure hack hresult (List.mem_flatMap.2 ⟨commit, hcommit, hentry⟩)
  barrier := fun _ _ _ hentered hack _ hentry => hc.accounts.barrier hentered hack hentry
  drained := by
    intro hstopped
    obtain ⟨hbatch, hqueue, -⟩ := hc.over hstopped
    rw [hc.accounts.order, hbatch, hqueue, List.append_nil, List.append_nil]

end WriterTask

/-- Whatever is called, cancelled and committed elsewhere, in whatever order, and whenever the
database fails: the acknowledgements of the writer are truthful, and no event changes the tables but
the one commit that answers a batch.  Every write the channel took is answered, and a writer that
was shut down ends, in every run in which the task, the channel and the answered calls go on. -/
theorem writer_acks_truthful {iso : Iso8601} {config : LedgerWriterConfig} {ledger : Ledger}
    {now : Nat} {events : List WriterEvent} {task : WriterTask} (hstamped : ledger.Stamped)
    (hrun : Duty.run (WriterTask.step iso config) (.spawned ledger now) events = some task) :
    task.Truthful ∧
      (∀ event next, task.step iso config event = some next →
        task.Writes iso config event next) ∧
      (∀ entry ∈ task.entered, ∀ run : Fair.Run (WriterTask.step iso config),
        run.state 0 = task → run.IsFair WriterTask.Urgent →
          ∃ n, ∃ ack ∈ (run.state n).acks, ack.entry = entry) ∧
      (task.handle = false →
        (∃ later last, Duty.run (WriterTask.step iso config) task later = some last ∧
          last.phase = .exited) ∧
        ∀ run : Fair.Run (WriterTask.step iso config), run.state 0 = task →
          run.IsFair WriterTask.Urgent → ∃ n, (run.state n).phase = .exited) := by
  have hc : task.Coherent config :=
    Duty.run_keeps (fun _ _ _ hstep h => WriterTask.step_coherent h hstep) hrun
      (WriterTask.spawned_coherent hstamped now)
  refine ⟨hc.truthful, fun event next hstep => WriterTask.step_writes hc hstep, ?_, ?_⟩
  · rintro entry hentry run rfl hfair
    obtain ⟨before, later, hentered⟩ := List.append_of_mem hentry
    have hplace : before ++ [entry] <+: (run.state 0).entered :=
      ⟨later, by rw [hentered, List.append_assoc, List.singleton_append]⟩
    have hleads := WriterTask.answers_leads iso config before entry
    obtain ⟨n, hn⟩ := hleads.rests run hfair ⟨hc, hplace⟩
    obtain ⟨hcoherent, hprefix⟩ := hleads.inv run ⟨hc, hplace⟩ n
    -- the answers reach past the place of the write
    have hacked : before ++ [entry] <+: (run.state n).acks.map Ack.entry := by
      refine List.prefix_of_prefix_length_le hprefix hcoherent.accounts.acks_prefix ?_
      rw [List.length_map, List.length_append]
      exact hn
    exact ⟨n, List.mem_map.1 (hacked.subset (List.mem_append_right _ List.mem_cons_self))⟩
  · intro hhandle
    have hleads := WriterTask.shutdown_leads iso config
    refine ⟨hleads.exists_rest task ⟨hc, hhandle⟩, ?_⟩
    rintro run rfl hfair
    exact hleads.rests run hfair ⟨hc, hhandle⟩

namespace Sample

def writerConfig : LedgerWriterConfig where
  queueSize := 4
  batchSize := 2
  batchTimeout := 10000000
  instanceId := some "a"

/-- A request is accepted and finalized and a barrier sent, the database is busy once, the writer
is shut down, and the database fails under the barrier. -/
def writerEvents : List WriterEvent :=
  [.called (.accept { record "r1" none with requestStatus := .inFlight }), .sent 0, .received 5,
    .called (.finalize (record "r1" (some 7))), .sent 1, .called .barrier, .sent 2, .received 9,
    .attempted 10 (some .busy), .attempted 20 none, .refused, .handleTaken, .received 21,
    .ticked 10000021, .attempted 10000022 (some .other), .returned 2, .received 10000023]

def writerRun : Option WriterTask :=
  Duty.run (WriterTask.step iso writerConfig) (.spawned emptyLedger 0) writerEvents

end Sample

/-- Two successes and a failure, from a writer that ended by itself. -/
theorem writer_acks_truthful_sample :
    ∃ task, Sample.writerRun = some task ∧ task.Truthful ∧
      (task.acks.map fun ack => (ack.entry.ticket, ack.succeeded)) =
        [(0, true), (1, true), (2, false)] ∧ task.stopped = true := by
  have hsome : Sample.writerRun.isSome = true := by decide +kernel
  have hacks : Sample.writerRun.map (fun task =>
      (task.acks.map fun ack => (ack.entry.ticket, ack.succeeded), task.stopped)) =
        some ([(0, true), (1, true), (2, false)], true) := by decide +kernel
  obtain ⟨task, htask⟩ := Option.isSome_iff_exists.1 hsome
  have htruthful := (writer_acks_truthful (fun _ h => absurd h List.not_mem_nil) htask).1
  rw [htask] at hacks
  obtain ⟨hacks, hstopped⟩ := Prod.mk.inj (Option.some.inj hacks)
  exact ⟨task, htask, htruthful, hacks, hstopped⟩

end PartnerPortal
