import PartnerPortal.Ledger.Acks

/-!
# What a call may rely on

A call of the ledger writer holds a ticket for its write.  As long as it is not cancelled its write
stays with the writer, and what the call is told is what became of that write.

Results:
- `step_owns` — a write stays with the writer;
- `outcome_true` — a call that returns success has its write in a committed transaction;
- `outcome_false` — one that returns an error finds the writer unhealthy.
-/

namespace PartnerPortal

namespace WriterTask

/-- `sender` has one to give. -/
def accepts (task : WriterTask) : Bool := !task.shuttingDown && task.handle

/-- How the call with that ticket returns, once it does: with success or with an error. -/
def outcome (task : WriterTask) (ticket : Nat) : Option Bool :=
  match task.acks.find? fun ack => ack.entry.ticket = ticket with
  | some ack => some ack.succeeded
  | none => if task.stopped then some false else none

/-- `mark_unhealthy`. -/
def markUnhealthy (task : WriterTask) : WriterTask := { task with healthy := false }

/-- The writer has the write of a call, or will take it. -/
def Owns (task : WriterTask) (entry : Entry) : Prop := entry ∈ task.sending ∨ entry ∈ task.entered

/-- A writer that answered with an error is unhealthy. -/
def Marked (task : WriterTask) : Prop :=
  ∀ ack ∈ task.acks, ack.succeeded = false → task.healthy = false

/-- What only grows: the transactions, what was sent, the tickets given out, and the ill health. -/
structure Grows (task next : WriterTask) : Prop where
  commits : task.commits <+: next.commits
  entered : task.entered <+: next.entered
  nextTicket : task.nextTicket ≤ next.nextTicket
  unhealthy : task.healthy = false → next.healthy = false

variable {iso : Iso8601} {config : LedgerWriterConfig} {task next : WriterTask} {entry : Entry}

/-- A round of the loop leaves the calls that await room, their tickets, and the health. -/
structure Spares (task after : WriterTask) : Prop where
  sending : after.sending = task.sending
  healthy : after.healthy = task.healthy
  nextTicket : after.nextTicket = task.nextTicket

theorem endRound_spares (task : WriterTask) : task.Spares (task.endRound config) := by
  unfold endRound
  dsimp only
  split
  · split <;> exact ⟨rfl, rfl, rfl⟩
  · exact ⟨rfl, rfl, rfl⟩

theorem afterSelect_spares (task : WriterTask) : task.Spares (task.afterSelect config) := by
  unfold afterSelect
  dsimp only
  have hdrained : task.Spares (if task.closed then task.drain config else task) := by
    split <;> exact ⟨rfl, rfl, rfl⟩
  generalize (if task.closed then task.drain config else task) = drained at hdrained
  split
  · exact ⟨hdrained.sending, hdrained.healthy, hdrained.nextTicket⟩
  · have hround := @endRound_spares config drained
    exact ⟨hround.sending.trans hdrained.sending, hround.healthy.trans hdrained.healthy,
      hround.nextTicket.trans hdrained.nextTicket⟩

/-! ## One event -/

theorem Grows.trans {middle : WriterTask} (h : task.Grows middle) (h' : middle.Grows next) :
    task.Grows next :=
  ⟨h.commits.trans h'.commits, h.entered.trans h'.entered, h.nextTicket.trans h'.nextTicket,
    fun hill => h'.unhealthy (h.unhealthy hill)⟩

theorem call_grows (task : WriterTask) (write : PendingWrite) : task.Grows (task.call write) := by
  unfold call
  split
  · exact ⟨List.prefix_rfl, List.prefix_rfl, Nat.le_succ _, id⟩
  · exact ⟨List.prefix_rfl, List.prefix_rfl, Nat.le_refl _, id⟩

theorem step_grows (hc : task.Coherent config) {event : WriterEvent}
    (hstep : task.step iso config event = some next) : task.Grows next := by
  have hentered := step_entered hc hstep
  cases step_stepped hc hstep with
  | called write => exact call_grows task write
  | sent | returned | cancelled | refused | handleTaken | elsewhere =>
    exact ⟨List.prefix_rfl, hentered, Nat.le_refl _, id⟩
  | received | ended | ticked =>
    refine ⟨?_, hentered, ?_, fun h => ?_⟩
    · rw [(afterSelect_leaves _).commits]
    · rw [(afterSelect_spares _).nextTicket]
    · rw [(afterSelect_spares _).healthy]
      exact h
  | attempted hphase htime houtcome =>
    cases houtcome with
    | retried => exact ⟨List.prefix_rfl, hentered, Nat.le_refl _, id⟩
    | failed e =>
      refine ⟨?_, hentered, ?_, fun _ => (endRound_spares _).healthy⟩
      · rw [afterFlush, (endRound_leaves _).commits]
        exact List.prefix_rfl
      · rw [afterFlush, (endRound_spares _).nextTicket]
        exact Nat.le_refl _
    | committed hflush =>
      refine ⟨?_, hentered, ?_, fun h => (endRound_spares _).healthy.trans h⟩
      · rw [afterFlush, (endRound_leaves _).commits]
        exact List.prefix_append _ _
      · rw [afterFlush, (endRound_spares _).nextTicket]
        exact Nat.le_refl _

/-- The tickets of the calls that await room differ. -/
def Distinct (task : WriterTask) : Prop := (task.sending.map Entry.ticket).Nodup

theorem call_distinct (hc : task.Coherent config) (h : task.Distinct) (write : PendingWrite) :
    (task.call write).Distinct := by
  unfold call
  split
  · unfold Distinct
    rw [List.map_append, List.nodup_append]
    refine ⟨h, List.nodup_singleton _, fun ticket hticket other hother => ?_⟩
    obtain ⟨entry, hentry, rfl⟩ := List.mem_map.1 hticket
    rw [List.map_singleton, List.mem_singleton] at hother
    rw [hother]
    exact (hc.accounts.fresh entry (List.mem_append_left _ hentry)).ne
  · exact h

theorem step_distinct (hc : task.Coherent config) {event : WriterEvent}
    (hstep : task.step iso config event = some next) (h : task.Distinct) : next.Distinct := by
  cases step_stepped hc hstep with
  | called write => exact call_distinct hc h write
  | sent | cancelled => exact (List.filter_sublist.map Entry.ticket).nodup h
  | returned | refused | handleTaken | elsewhere => exact h
  | received | ended | ticked =>
    unfold Distinct
    rw [(afterSelect_spares _).sending]
    exact h
  | attempted hphase htime houtcome =>
    cases houtcome with
    | retried => exact h
    | failed | committed =>
      unfold Distinct
      rw [afterFlush, (endRound_spares _).sending]
      exact h

theorem step_marked (hc : task.Coherent config) {event : WriterEvent}
    (hstep : task.step iso config event = some next) (h : task.Marked) : next.Marked := by
  cases step_stepped hc hstep with
  | called write =>
    unfold call
    split <;> exact h
  | sent | returned | cancelled | refused | handleTaken | elsewhere => exact h
  | received | ended | ticked =>
    unfold Marked
    rw [(afterSelect_leaves _).acks, (afterSelect_spares _).healthy]
    exact h
  | attempted hphase htime houtcome =>
    cases houtcome with
    | retried => exact h
    | failed e => exact fun _ _ _ => (endRound_spares _).healthy
    | committed hflush =>
      unfold Marked
      rw [afterFlush, (endRound_leaves _).acks, (endRound_spares _).healthy]
      intro ack hack hfailed
      rcases List.mem_append.1 hack with hack | hack
      · exact h ack hack hfailed
      · -- a commit answers with success
        obtain ⟨entry, -, rfl⟩ := List.mem_map.1 hack
        cases hfailed

/-- A write stays with the writer unless its call is cancelled. -/
theorem step_owns (hc : task.Coherent config) (hdistinct : task.Distinct) {event : WriterEvent}
    (hstep : task.step iso config event = some next) (hkept : event ≠ .cancelled entry.ticket)
    (h : task.Owns entry) : next.Owns entry := by
  cases step_stepped hc hstep with
  | called write =>
    unfold call
    split
    · exact h.imp_left (List.mem_append_left _)
    · exact h
  | @sent sent hentry hroom =>
    rcases h with h | h
    · by_cases hticket : entry.ticket = sent.ticket
      · right
        rw [List.inj_on_of_nodup_map hdistinct h hentry hticket]
        exact List.mem_append_right _ (List.mem_singleton_self _)
      · exact Or.inl (List.mem_filter.2 ⟨h, by simpa using hticket⟩)
    · exact Or.inr (List.mem_append_left _ h)
  | returned | refused | handleTaken | elsewhere => exact h
  | cancelled ticket =>
    refine h.imp_left fun hmem => List.mem_filter.2 ⟨hmem, ?_⟩
    have hne : entry.ticket ≠ ticket := fun heq => hkept (by rw [heq])
    simpa using hne
  | received | ended | ticked =>
    unfold Owns
    rw [(afterSelect_spares _).sending, (afterSelect_leaves _).entered]
    exact h
  | attempted hphase htime houtcome =>
    cases houtcome with
    | retried => exact h
    | failed | committed =>
      unfold Owns
      rw [afterFlush, (endRound_spares _).sending, (endRound_leaves _).entered]
      exact h

/-! ## What a call is told -/

/-- The writer as its callers find it. -/
structure Served (config : LedgerWriterConfig) (task : WriterTask) : Prop where
  coherent : task.Coherent config
  distinct : task.Distinct
  marked : task.Marked

theorem spawned_served {ledger : Ledger} (hstamped : ledger.Stamped) (now : Nat) :
    (spawned ledger now).Served config :=
  ⟨spawned_coherent hstamped now, List.nodup_nil, fun _ hack => by cases hack⟩

theorem step_served (h : task.Served config) {event : WriterEvent}
    (hstep : task.step iso config event = some next) : next.Served config :=
  ⟨step_coherent h.coherent hstep, step_distinct h.coherent hstep h.distinct,
    step_marked h.coherent hstep h.marked⟩

theorem markUnhealthy_served (h : task.Served config) : task.markUnhealthy.Served config :=
  ⟨⟨h.coherent.accounts.turn task.phase task.ready false task.commitsAreHealthy
    h.coherent.accounts.flushed, h.coherent.fits⟩, h.distinct, fun _ _ _ => rfl⟩

/-- A call that finds a sender has its write with the writer. -/
theorem call_owns {write : PendingWrite} (hwrite : write.asserted = true)
    (haccepts : task.accepts = true) : (task.call write).Owns ⟨task.nextTicket, write⟩ := by
  have hsender : task.shuttingDown = false ∧ task.handle = true := by
    simpa [accepts] using haccepts
  unfold call
  rw [if_pos ⟨hwrite, by simp [hsender.1], hsender.2⟩]
  exact Or.inl (List.mem_append_right _ (List.mem_singleton_self _))

/-- An answer to the ticket of a write is the answer to that write. -/
theorem Owns.ack_entry (h : task.Owns entry) (hc : task.Coherent config) {ack : Ack}
    (hack : ack ∈ task.acks) (hticket : ack.entry.ticket = entry.ticket) : ack.entry = entry := by
  have hentered : ack.entry ∈ task.entered :=
    hc.accounts.acks_prefix.subset (List.mem_map_of_mem hack)
  rcases h with h | h
  · exact absurd hticket.symm (hc.accounts.unsent entry h ack.entry hentered)
  · exact List.inj_on_of_nodup_map hc.accounts.once hentered h hticket

/-- Whoever is told of success has its write in a committed transaction. -/
theorem Owns.outcome_true (h : task.Owns entry) (hserved : task.Served config)
    (houtcome : task.outcome entry.ticket = some true) :
    ∃ commit ∈ task.commits, Recorded commit.after entry.write := by
  unfold outcome at houtcome
  split at houtcome
  · rename_i ack hfind
    have hack := List.mem_of_find?_eq_some hfind
    have hticket : ack.entry.ticket = entry.ticket := by simpa using List.find?_some hfind
    have hresult : ack.result = .ok () := by
      have hsucceeded := Option.some.inj houtcome
      unfold Ack.succeeded at hsucceeded
      cases hresult : ack.result with
      | ok => rfl
      | error => rw [hresult] at hsucceeded; cases hsucceeded
    obtain ⟨commit, hcommit, -, hrecorded⟩ := hserved.coherent.truthful.success ack hack hresult
    rw [h.ack_entry hserved.coherent hack hticket] at hrecorded
    exact ⟨commit, hcommit, hrecorded⟩
  · split at houtcome <;> cases houtcome

/-- Whoever is told of an error finds the writer unhealthy. -/
theorem Owns.outcome_false (h : task.Owns entry) (hserved : task.Served config)
    (houtcome : task.outcome entry.ticket = some false) : task.healthy = false := by
  unfold outcome at houtcome
  split at houtcome
  · rename_i ack hfind
    exact hserved.marked ack (List.mem_of_find?_eq_some hfind) (Option.some.inj houtcome)
  · rename_i hfind
    split at houtcome
    · -- a writer that is over has answered every write it had
      rename_i hstopped
      obtain ⟨-, -, hsending⟩ := hserved.coherent.over hstopped
      rcases h with h | h
      · rw [hsending] at h
        cases h
      · rw [← hserved.coherent.truthful.drained hstopped] at h
        obtain ⟨ack, hack, hentry⟩ := List.mem_map.1 h
        exact absurd (congrArg Entry.ticket hentry) (by simpa using List.find?_eq_none.1 hfind ack hack)
    · cases houtcome

end WriterTask

end PartnerPortal
