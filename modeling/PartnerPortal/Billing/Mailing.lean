import PartnerPortal.Billing.Operations
import PartnerPortal.Billing.Suspension
import PartnerPortal.Lib.Duty
import PartnerPortal.Lib.Lease

/-!
# The email lease

Any number of workers claim statements of one store, send them one after another and record each outcome.
A claim has an end, which is compared with the clock when the next worker claims and at no other time.

Results:
- `Mailers.step_keeps` — what a step keeps that is taken before the end of its worker's lease;
- `leases_exclude_run` — along runs of such steps no two workers send one statement, each sends under its
  own lease and records nothing of another's, and nothing that was recorded as sent is sent again.
-/

namespace PartnerPortal

/-! ## The workers -/

/-- How far a worker is with the first statement of its batch. -/
inductive SendPhase where
  | waiting
  | sending
  | ended (outcome : EmailOutcome)
deriving DecidableEq

/-- What a worker has claimed and not gone through yet. -/
structure MailBatch where
  /-- the end of the claim, which the worker does not look at -/
  lease : String
  phase : SendPhase := .waiting
  first : Statement
  rest : List Statement

namespace MailBatch

def claimed : List Statement → Option MailBatch
  | [] => none
  | first :: rest => some { lease := first.emailClaimedUntil.getD "", first := first, rest := rest }

/-- The batch without its first statement. -/
def next (batch : MailBatch) : Option MailBatch :=
  match batch.rest with
  | [] => none
  | first :: rest => some { lease := batch.lease, first := first, rest := rest }

def statements (batch : MailBatch) : List Statement := batch.first :: batch.rest

def sends (batch : MailBatch) (id : Nat) : Bool := batch.phase = .sending && batch.first.id = id

end MailBatch

/-- The workers over their store, with the ids that were recorded as sent. -/
structure Mailers where
  clock : Instant
  store : Store
  workers : String → Option MailBatch
  recorded : List Nat

inductive MailEvent where
  | advance (later : Instant)
  /-- a claim at the instant its tick was made at -/
  | claim (worker : String) (now : Instant) (limit ttlMinutes : Int) (fault : CallFault)
  /-- the partner or the lines cannot be read -/
  | skip (worker : String)
  /-- the partner is gone -/
  | orphan (worker : String) (retryAt : OffsetDateTime)
  | start (worker : String)
  | finish (worker : String) (outcome : EmailOutcome)
  | record (worker : String) (fault : CallFault)
  | crash (worker : String)

namespace Mailers

def withWorker (sys : Mailers) (worker : String) (batch : Option MailBatch) : Mailers :=
  { sys with workers := Function.update sys.workers worker batch }

/-- The recorded ids after an outcome was written. -/
def recordedAfter (sys : Mailers) (id : Nat) : EmailOutcome → List Nat
  | .sent => id :: sys.recorded
  | .failed _ _ => sys.recorded

/-- A worker between two statements moves its batch on, or starts with the first one. -/
def atFirst (sys : Mailers) (worker : String) (phase : SendPhase)
    (change : MailBatch → Option MailBatch) : Option Mailers :=
  match sys.workers worker with
  | none => none
  | some batch => if batch.phase = phase then some (sys.withWorker worker (change batch)) else none

/-- `claim_emails`, at an instant that has passed.  A panic ends the tick. -/
def claim (sys : Mailers) (worker : String) (now : Instant) (limit ttlMinutes : Int)
    (fault : CallFault) : Mailers :=
  match claimEmails fault now worker limit ttlMinutes sys.store with
  | .error _ => sys
  | .ok (written, .error _) => { sys with store := written }
  | .ok (written, .ok claimed) =>
    { sys with store := written }.withWorker worker (MailBatch.claimed claimed)

/-- `record_email_attempt`, at the time it is called. -/
def record (sys : Mailers) (worker : String) (batch : MailBatch) (outcome : EmailOutcome)
    (fault : CallFault) : Mailers :=
  match recordEmailAttempt fault sys.clock batch.first.id outcome sys.store with
  | .error _ => sys.withWorker worker none
  | .ok (written, .error _) => { sys with store := written }.withWorker worker batch.next
  | .ok (written, .ok ()) =>
    { sys with store := written, recorded := sys.recordedAfter batch.first.id outcome }.withWorker
      worker batch.next

def step (sys : Mailers) : MailEvent → Option Mailers
  | .advance later => if sys.clock.nanos ≤ later.nanos then some { sys with clock := later } else none
  | .claim worker now limit ttlMinutes fault =>
    if now.nanos ≤ sys.clock.nanos ∧ (sys.workers worker).isNone then
      some (sys.claim worker now limit ttlMinutes fault)
    else none
  | .skip worker => sys.atFirst worker .waiting MailBatch.next
  | .orphan worker retryAt =>
    sys.atFirst worker .waiting fun batch =>
      some { batch with phase := .ended (.failed "no partner row for this statement" retryAt) }
  | .start worker => sys.atFirst worker .waiting fun batch => some { batch with phase := .sending }
  | .finish worker outcome =>
    sys.atFirst worker .sending fun batch => some { batch with phase := .ended outcome }
  | .record worker fault =>
    match sys.workers worker with
    | none => none
    | some batch =>
      match batch.phase with
      | .ended outcome => some (sys.record worker batch outcome fault)
      | _ => none
  | .crash worker => some (sys.withWorker worker none)

end Mailers

/-! ## What leases are for -/

/-- The claim on a row. -/
def Statement.lease (s : Statement) : Option (String × String) :=
  match s.emailClaimInstance, s.emailClaimedUntil with
  | some instanceId, some claimedUntil => some (instanceId, claimedUntil)
  | _, _ => none

def leaseOf (store : Store) (id : Nat) : Option (String × String) :=
  (store.statements.find? fun s => s.id = id).bind Statement.lease

namespace Mailers

variable (sys : Mailers)

def now : String := formatInstant sys.clock

def Sends (worker : String) (id : Nat) : Prop :=
  (sys.workers worker).any (fun batch => batch.sends id) = true

/-- No two workers send one statement, each sends under a lease of its own that has not ended, and none
sends what was recorded as sent. -/
structure Excludes : Prop where
  exclusive : ∀ i j id, sys.Sends i id → sys.Sends j id → i = j
  leased : ∀ i id, sys.Sends i id → ∃ till, leaseOf sys.store id = some (i, till) ∧ sys.now < till
  once : ∀ i id, sys.Sends i id → id ∉ sys.recorded

/-- An outcome is recorded, and the claim of another worker is released before its end. -/
def Releases (event : MailEvent) : Prop :=
  ∃ worker fault, event = .record worker fault ∧ ∃ t, sys.step event = some t ∧
    ∃ id other till, other ≠ worker ∧ leaseOf sys.store id = some (other, till) ∧ sys.now < till ∧
      leaseOf t.store id ≠ some (other, till)

/-- A worker starts a send after the end of its claim, is still at it then, or records its outcome then on a
row that another worker has claimed. -/
def Late : MailEvent → Prop
  | .advance later => ∃ worker batch, sys.workers worker = some batch ∧ batch.phase = .sending ∧
      ¬formatInstant later < batch.lease
  | .start worker => ∃ batch, sys.workers worker = some batch ∧ ¬sys.now < batch.lease
  | .record worker _ => ∃ batch, sys.workers worker = some batch ∧ ¬sys.now < batch.lease ∧
      ∃ other till, other ≠ worker ∧ leaseOf sys.store batch.first.id = some (other, till)
  | _ => False

/-- The workers when none of them has claimed anything. -/
structure Start : Prop where
  ids : (sys.store.statements.map Statement.id).Nodup
  idle : ∀ worker, sys.workers worker = none
  recorded : sys.recorded = []

end Mailers

/-! ## The store -/

section Store

variable {store written : Store} {id : Nat} {s : Statement}

theorem find_eq_some (h : (store.statements.find? fun row => row.id = id) = some s) :
    s ∈ store.statements ∧ s.id = id := by
  have hid := List.find?_some h
  exact ⟨List.mem_of_find?_eq_some h, of_decide_eq_true hid⟩

variable {selects : Statement → Bool} {change : Statement → Statement}

theorem find_updateStatements (hkeep : ∀ s, (change s).id = s.id) :
    ((store.updateStatements selects change).statements.find? fun row => row.id = id) =
      (store.statements.find? fun row => row.id = id).map fun s => if selects s then change s else s := by
  rw [Store.updateStatements, List.find?_map]
  congr 2
  funext s
  rw [Function.comp_apply]
  split
  · rw [hkeep]
  · rfl

theorem leaseOf_updateStatements (hkeep : ∀ s, (change s).id = s.id) :
    leaseOf (store.updateStatements selects change) id =
      (store.statements.find? fun row => row.id = id).bind fun s =>
        (if selects s then change s else s).lease := by
  rw [leaseOf, find_updateStatements hkeep, Option.bind_map]
  rfl

theorem ids_updateStatements (hkeep : ∀ s, (change s).id = s.id) :
    (store.updateStatements selects change).statements.map Statement.id =
      store.statements.map Statement.id := by
  rw [Store.updateStatements, List.map_map]
  refine List.map_congr_left fun s _ => ?_
  rw [Function.comp_apply]
  split
  · exact hkeep s
  · rfl

/-- A row that is not selected keeps its claim. -/
theorem leaseOf_unselected (hkeep : ∀ s, (change s).id = s.id)
    (h : ∀ s, s.id = id → selects s = false) :
    leaseOf (store.updateStatements selects change) id = leaseOf store id := by
  rw [leaseOf_updateStatements hkeep, leaseOf]
  cases hfound : store.statements.find? fun row => row.id = id with
  | none => rfl
  | some s => rw [Option.bind_some, Option.bind_some, h s (find_eq_some hfound).2, if_neg Bool.false_ne_true]

/-! ### Claims -/

variable {fault : CallFault} {now : Instant} {instanceId : String} {limit ttlMinutes : Int}
  {claimed : List Statement}

theorem mem_claimedIds {nowText : String} (h : id ∈ claimedIds store nowText limit) :
    ∃ s ∈ store.statements, s.id = id ∧ s.claimable store.partners nowText = true := by
  obtain ⟨s, hs, rfl⟩ := List.mem_map.1 h
  have hsorted : s ∈ (store.statements.filter
      (Statement.claimable store.partners nowText)).insertionSort fun a b =>
        a.dueAt.getD "" < b.dueAt.getD "" || (a.dueAt = b.dueAt && a.id ≤ b.id) := by
    unfold limitRows at hs
    split at hs
    · exact hs
    · exact List.mem_of_mem_take hs
  obtain ⟨hstored, hclaimable⟩ := List.mem_filter.1 ((List.mem_insertionSort _).1 hsorted)
  exact ⟨s, hstored, rfl, hclaimable⟩

theorem claim_id (instanceId till : String) (s : Statement) : (s.claim instanceId till).id = s.id := rfl

theorem claimEmails_ok
    (h : claimEmails fault now instanceId limit ttlMinutes store = .ok (written, .ok claimed)) :
    ∃ till, written = store.updateStatements
        (fun s => s.id ∈ claimedIds store (formatInstant now) limit) (Statement.claim instanceId till) ∧
      claimed = written.statements.filter fun s => s.id ∈ claimedIds store (formatInstant now) limit := by
  obtain ⟨ttl, -, h⟩ := Result.bind_ok_iff.1 h
  obtain ⟨lapses, -, h⟩ := Result.bind_ok_iff.1 h
  obtain ⟨till, -, h⟩ := Result.bind_ok_iff.1 h
  split at h
  · cases h
  · cases h
    exact ⟨till, rfl, rfl⟩

theorem claimEmails_error {e : BillingError}
    (h : claimEmails fault now instanceId limit ttlMinutes store = .ok (written, .error e)) :
    written = store := by
  obtain ⟨ttl, -, h⟩ := Result.bind_ok_iff.1 h
  obtain ⟨lapses, -, h⟩ := Result.bind_ok_iff.1 h
  obtain ⟨till, -, h⟩ := Result.bind_ok_iff.1 h
  split at h <;> cases h
  rfl

/-! ### Outcomes -/

variable {outcome : EmailOutcome}

/-- What an outcome writes keeps the id, and never takes back that a message was sent. -/
theorem change_spec (h : outcome.change now = .ok change) :
    (∀ s, (change s).id = s.id) ∧ (∀ s, (change s).emailSentAt = none → s.emailSentAt = none) ∧
      (outcome = .sent → ∀ s, (change s).emailSentAt ≠ none) := by
  cases outcome with
  | sent =>
    cases h
    exact ⟨fun _ => rfl, fun _ hnone => (by cases hnone), fun _ _ hnone => by cases hnone⟩
  | failed error retryAt =>
    obtain ⟨retryText, -, h⟩ := Result.bind_ok_iff.1 h
    cases h
    exact ⟨fun _ => rfl, fun _ hnone => hnone, fun hsent => by cases hsent⟩

theorem recordEmailAttempt_cases {answer : Except BillingError Unit}
    (h : recordEmailAttempt fault now id outcome store = .ok (written, answer)) :
    (written = store ∧ ∃ e, answer = .error e) ∨
      answer = .ok () ∧ ∃ change, outcome.change now = .ok change ∧
        written = store.updateStatements (fun s => s.id = id) change := by
  obtain ⟨change, hchange, h⟩ := Result.bind_ok_iff.1 h
  split at h
  · cases h
    exact .inl ⟨rfl, _, rfl⟩
  · cases h
    refine .inr ⟨rfl, change, hchange, ?_⟩
    exact congrArg (store.updateStatements · change)
      (funext fun s => decide_eq_decide.2 Int.natCast_inj)

end Store

/-! ## Steps in time -/

namespace MailBatch

theorem next_cases {batch after : MailBatch} (h : batch.next = some after) :
    after.lease = batch.lease ∧ after.phase = .waiting ∧ after.statements = batch.rest := by
  unfold next at h
  split at h
  · cases h
  · rename_i hrest
    cases h
    exact ⟨rfl, rfl, hrest.symm⟩

theorem claimed_cases {statements : List Statement} {batch : MailBatch} (h : claimed statements = some batch) :
    batch.statements = statements ∧ batch.phase = .waiting ∧
      ∃ s ∈ statements, batch.lease = s.emailClaimedUntil.getD "" := by
  unfold claimed at h
  split at h
  · cases h
  · cases h
    exact ⟨rfl, rfl, _, List.mem_cons_self, rfl⟩

end MailBatch

namespace Mailers

/-- A statement is in a worker's batch, under the claim the worker took. -/
def Taken (sys : Mailers) (worker : String) (id : Nat) (till : String) : Prop :=
  ∃ batch, sys.workers worker = some batch ∧ batch.lease = till ∧ ∃ s ∈ batch.statements, s.id = id

/-- What holds between steps that are taken in time. -/
structure Inv (sys : Mailers) : Prop where
  ids : (sys.store.statements.map Statement.id).Nodup
  distinct : ∀ worker batch, sys.workers worker = some batch →
    (batch.statements.map Statement.id).Nodup
  coherent : Lease.Coherent sys.now (leaseOf sys.store) sys.Taken
  fresh : ∀ worker id till, sys.Taken worker id till → sys.now < till →
    ∀ row ∈ sys.store.statements, row.id = id → row.emailSentAt = none
  marked : ∀ id ∈ sys.recorded, ∀ row ∈ sys.store.statements, row.id = id → row.emailSentAt ≠ none
  sending : ∀ worker batch, sys.workers worker = some batch → batch.phase = .sending →
    sys.now < batch.lease

section Steps

variable {sys : Mailers} {worker other : String} {batch after : MailBatch} {left : Option MailBatch}
  {id : Nat} {till : String}

theorem workers_withWorker (h : (sys.withWorker worker left).workers other = some batch) :
    (other = worker ∧ left = some batch) ∨ (other ≠ worker ∧ sys.workers other = some batch) := by
  change Function.update sys.workers worker left other = some batch at h
  by_cases hother : other = worker
  · subst hother
    exact .inl ⟨rfl, by rwa [Function.update_self] at h⟩
  · exact .inr ⟨hother, by rwa [Function.update_of_ne hother] at h⟩

theorem Start.inv (h : sys.Start) : sys.Inv where
  ids := h.ids
  distinct worker batch hbatch := by
    rw [h.idle] at hbatch
    cases hbatch
  coherent := by
    rintro worker id till ⟨batch, hbatch, -⟩
    rw [h.idle] at hbatch
    cases hbatch
  fresh := by
    rintro worker id till ⟨batch, hbatch, -⟩
    rw [h.idle] at hbatch
    cases hbatch
  marked id hid := by
    rw [h.recorded] at hid
    cases hid
  sending worker batch hbatch := by
    rw [h.idle] at hbatch
    cases hbatch

/-- What one worker still has to do gets less, and it starts sending in time. -/
theorem Inv.move (h : sys.Inv) (hleft : ∀ after, left = some after → ∃ batch,
      sys.workers worker = some batch ∧ after.lease = batch.lease ∧
        after.statements.Sublist batch.statements ∧ (after.phase = .sending → sys.now < after.lease)) :
    (sys.withWorker worker left).Inv := by
  have htaken : ∀ other id till, (sys.withWorker worker left).Taken other id till →
      sys.Taken other id till := by
    rintro other id till ⟨after, hafter, rfl, s, hs, rfl⟩
    rcases workers_withWorker hafter with ⟨rfl, hnew⟩ | ⟨-, hbatch⟩
    · obtain ⟨batch, hbatch, hlease, hsub, -⟩ := hleft after hnew
      exact ⟨batch, hbatch, hlease.symm, s, hsub.subset hs, rfl⟩
    · exact ⟨after, hbatch, rfl, s, hs, rfl⟩
  refine ⟨h.ids, ?_, h.coherent.forget htaken, ?_, h.marked, ?_⟩
  · intro other after hafter
    rcases workers_withWorker hafter with ⟨rfl, hnew⟩ | ⟨-, hbatch⟩
    · obtain ⟨batch, hbatch, -, hsub, -⟩ := hleft after hnew
      exact (h.distinct _ batch hbatch).sublist (hsub.map Statement.id)
    · exact h.distinct other after hbatch
  · exact fun other id till hother => h.fresh other id till (htaken other id till hother)
  · intro other after hafter hphase
    rcases workers_withWorker hafter with ⟨rfl, hnew⟩ | ⟨-, hbatch⟩
    · obtain ⟨-, -, -, -, hsending⟩ := hleft after hnew
      exact hsending hphase
    · exact h.sending other after hbatch hphase

/-- A worker goes on with its batch. -/
theorem Inv.next (h : sys.Inv) (hbatch : sys.workers worker = some batch) :
    (sys.withWorker worker batch.next).Inv := by
  refine h.move fun after hafter => ⟨batch, hbatch, ?_⟩
  obtain ⟨hlease, hphase, hstatements⟩ := MailBatch.next_cases hafter
  refine ⟨hlease, ?_, fun hsending => ?_⟩
  · rw [hstatements]
    exact List.sublist_cons_self batch.first batch.rest
  · rw [hphase] at hsending
    cases hsending

/-- A worker is at another point of its first statement. -/
theorem Inv.phase (h : sys.Inv) (hbatch : sys.workers worker = some batch) {phase : SendPhase}
    (hsending : phase = .sending → sys.now < batch.lease) :
    (sys.withWorker worker (some { batch with phase := phase })).Inv := by
  refine h.move fun after hafter => ⟨batch, hbatch, ?_⟩
  cases hafter
  exact ⟨rfl, List.Sublist.refl _, hsending⟩

theorem Inv.stop (h : sys.Inv) : (sys.withWorker worker none).Inv :=
  h.move fun _ hafter => by cases hafter

theorem Inv.pass (h : sys.Inv) {later : Instant} (hle : sys.clock.nanos ≤ later.nanos)
    (hsending : ∀ worker batch, sys.workers worker = some batch → batch.phase = .sending →
      formatInstant later < batch.lease) : Inv { sys with clock := later } := by
  have htext : sys.now ≤ formatInstant later :=
    not_lt.1 fun hlt => absurd ((formatInstant_lt_iff _ _).1 hlt) (not_lt.2 hle)
  refine ⟨h.ids, h.distinct, h.coherent.pass htext, ?_, h.marked, hsending⟩
  exact fun worker id till htaken hlt => h.fresh worker id till htaken (lt_of_le_of_lt htext hlt)

/-! ### Claims in time -/

/-- What a claim does: it takes rows that were not sent and whose claim has ended. -/
structure Grant (sys : Mailers) (worker : String) (ids : List Nat) (till : String) (written : Store)
    (claimed : List Statement) : Prop where
  free : ∀ id ∈ ids, ∃ s ∈ sys.store.statements, s.id = id ∧ s.emailSentAt = none ∧
    ∀ other till', s.lease = some (other, till') → ¬sys.now < till'
  store_eq : written = sys.store.updateStatements (fun s => s.id ∈ ids) (Statement.claim worker till)
  rows_eq : claimed = written.statements.filter fun s => s.id ∈ ids

section Claim

variable {now : Instant} {limit ttlMinutes : Int} {fault : CallFault} {written : Store}
  {claimed : List Statement} {ids : List Nat}

theorem free_of_claimable {s : Statement} (hnow : now.nanos ≤ sys.clock.nanos)
    (h : s.claimable sys.store.partners (formatInstant now) = true) :
    s.emailSentAt = none ∧ ∀ other till', s.lease = some (other, till') → ¬sys.now < till' := by
  simp only [Statement.claimable, Bool.and_eq_true] at h
  refine ⟨Option.isNone_iff_eq_none.1 h.1.1.1.1.1.1, fun other till' hlease hlt => ?_⟩
  have huntil : s.emailClaimedUntil = some till' := by
    unfold Statement.lease at hlease
    split at hlease
    · rename_i huntil
      rw [huntil, (Prod.mk.inj (Option.some.inj hlease)).2]
    · cases hlease
  have hended : ¬formatInstant now < till' := by simpa [huntil] using h.2
  have hle : formatInstant now ≤ sys.now :=
    not_lt.1 fun hlt => absurd ((formatInstant_lt_iff _ _).1 hlt) (not_lt.2 hnow)
  exact hended (lt_of_le_of_lt hle hlt)

theorem grant_of_claim (hnow : now.nanos ≤ sys.clock.nanos)
    (h : claimEmails fault now worker limit ttlMinutes sys.store = .ok (written, .ok claimed)) :
    ∃ ids till, sys.Grant worker ids till written claimed := by
  obtain ⟨till, hwritten, hclaimed⟩ := claimEmails_ok h
  refine ⟨claimedIds sys.store (formatInstant now) limit, till, fun id hid => ?_, hwritten, hclaimed⟩
  obtain ⟨s, hs, hsid, hclaimable⟩ := mem_claimedIds hid
  exact ⟨s, hs, hsid, free_of_claimable hnow hclaimable⟩

namespace Grant

/-- A claim changes no id, and not whether a message was sent. -/
theorem rows (h : sys.Grant worker ids till written claimed) {row : Statement}
    (hrow : row ∈ written.statements) :
    ∃ old ∈ sys.store.statements, row.id = old.id ∧ row.emailSentAt = old.emailSentAt := by
  rw [h.store_eq] at hrow
  obtain ⟨old, hold, rfl⟩ := List.mem_map.1 hrow
  refine ⟨old, hold, ?_⟩
  split
  · exact ⟨rfl, rfl⟩
  · exact ⟨rfl, rfl⟩

theorem nodup (h : sys.Grant worker ids till written claimed)
    (hids : (sys.store.statements.map Statement.id).Nodup) :
    (written.statements.map Statement.id).Nodup := by
  rw [h.store_eq, ids_updateStatements (claim_id worker till)]
  exact hids

/-- The rows a claim returns have its ids and its end. -/
theorem mem_claimed (h : sys.Grant worker ids till written claimed) {s : Statement}
    (hs : s ∈ claimed) : s.id ∈ ids ∧ s.emailClaimedUntil = some till := by
  rw [h.rows_eq] at hs
  obtain ⟨hs, hid⟩ := List.mem_filter.1 hs
  have hid : s.id ∈ ids := of_decide_eq_true hid
  rw [h.store_eq] at hs
  obtain ⟨row, -, hrow⟩ := List.mem_map.1 hs
  refine ⟨hid, ?_⟩
  by_cases hselected : row.id ∈ ids
  · rw [if_pos (decide_eq_true hselected)] at hrow
    rw [← hrow]
    rfl
  · rw [if_neg (by simpa using hselected)] at hrow
    exact absurd (hrow ▸ hid) hselected

theorem of_batch (h : sys.Grant worker ids till written claimed)
    (hbatch : MailBatch.claimed claimed = some batch) :
    batch.lease = till ∧ batch.phase = .waiting ∧ batch.statements = claimed := by
  obtain ⟨hstatements, hphase, first, hfirst, hlease⟩ := MailBatch.claimed_cases hbatch
  refine ⟨?_, hphase, hstatements⟩
  rw [hlease, (h.mem_claimed hfirst).2]
  rfl

theorem taken (h : sys.Grant worker ids till written claimed) {till' : String}
    (htaken : ({ sys with store := written }.withWorker worker
      (MailBatch.claimed claimed)).Taken other id till') :
    sys.Taken other id till' ∨ other = worker ∧ id ∈ ids ∧ till' = till := by
  obtain ⟨batch, hother, rfl, s, hs, rfl⟩ := htaken
  rcases workers_withWorker hother with ⟨rfl, hnew⟩ | ⟨-, hold⟩
  · obtain ⟨hlease, -, hstatements⟩ := h.of_batch hnew
    exact .inr ⟨rfl, (h.mem_claimed (hstatements ▸ hs)).1, hlease⟩
  · exact .inl ⟨batch, hold, rfl, s, hs, rfl⟩

/-- The register has the worker and the end for each claimed id. -/
theorem leaseOf_claimed (h : sys.Grant worker ids till written claimed)
    (hnodup : (sys.store.statements.map Statement.id).Nodup) (hid : id ∈ ids) :
    leaseOf written id = some (worker, till) := by
  obtain ⟨s, hs, rfl, -⟩ := h.free id hid
  rw [h.store_eq, leaseOf_updateStatements (claim_id worker till), Tables.find?_key hnodup hs,
    Option.bind_some, if_pos (decide_eq_true hid)]
  rfl

theorem coherent (h : sys.Grant worker ids till written claimed) (hinv : sys.Inv) :
    Lease.Coherent sys.now (leaseOf written) ({ sys with store := written }.withWorker worker
      (MailBatch.claimed claimed)).Taken := by
  refine hinv.coherent.grant (fun id hid => h.leaseOf_claimed hinv.ids hid) ?_ ?_
    fun _ _ _ htaken => h.taken htaken
  · intro id hid
    rw [h.store_eq, leaseOf_unselected (claim_id worker till) fun s hs => decide_eq_false (hs ▸ hid)]
  · intro id hid other till' hlease
    obtain ⟨s, hs, rfl, -, hended⟩ := h.free id hid
    rw [leaseOf, Tables.find?_key hinv.ids hs, Option.bind_some] at hlease
    exact hended other till' hlease

end Grant

theorem Inv.granted (h : sys.Inv) (hgrant : sys.Grant worker ids till written claimed) :
    Inv ({ sys with store := written }.withWorker worker (MailBatch.claimed claimed)) := by
  refine ⟨hgrant.nodup h.ids, ?_, hgrant.coherent h, ?_, ?_, ?_⟩
  · intro other batch hother
    rcases workers_withWorker hother with ⟨rfl, hnew⟩ | ⟨-, hold⟩
    · rw [(hgrant.of_batch hnew).2.2, hgrant.rows_eq]
      exact (hgrant.nodup h.ids).sublist (List.filter_sublist.map Statement.id)
    · exact h.distinct other batch hold
  · intro other id till' htaken hlt row hrow hid
    obtain ⟨old, hold, hsame, hsent⟩ := hgrant.rows hrow
    rw [hsent]
    rcases hgrant.taken htaken with htaken | ⟨-, hclaimed, -⟩
    · exact h.fresh other id till' htaken hlt old hold (hsame.symm.trans hid)
    · -- the one row with the id is the one that was free
      obtain ⟨s, hs, hsid, hunsent, -⟩ := hgrant.free id hclaimed
      rwa [List.inj_on_of_nodup_map h.ids hold hs (hsame.symm.trans (hid.trans hsid.symm))]
  · intro id hid row hrow hrowid
    obtain ⟨old, hold, hsame, hsent⟩ := hgrant.rows hrow
    rw [hsent]
    exact h.marked id hid old hold (hsame.symm.trans hrowid)
  · intro other batch hother hphase
    rcases workers_withWorker hother with ⟨rfl, hnew⟩ | ⟨-, hold⟩
    · rw [(hgrant.of_batch hnew).2.1] at hphase
      cases hphase
    · exact h.sending other batch hold hphase

theorem Inv.claim (h : sys.Inv) (hnow : now.nanos ≤ sys.clock.nanos) :
    (sys.claim worker now limit ttlMinutes fault).Inv := by
  unfold Mailers.claim
  split
  · exact h
  · rename_i hclaim
    rw [claimEmails_error hclaim]
    exact h
  · rename_i hclaim
    obtain ⟨ids, till, hgrant⟩ := grant_of_claim hnow hclaim
    exact h.granted hgrant

end Claim

/-! ### Outcomes in time -/

section Record

variable {fault : CallFault} {outcome : EmailOutcome} {written : Store} {change : Statement → Statement}

theorem Inv.leaseOf_taken (h : sys.Inv) (htaken : sys.Taken worker id till) (hlt : sys.now < till) :
    leaseOf sys.store id = some (worker, till) :=
  h.coherent worker id till htaken hlt

/-- A worker that is not late finds no claim but its own on its first statement. -/
theorem Inv.own_first (h : sys.Inv) (hbatch : sys.workers worker = some batch)
    (hlate : ¬sys.Late (.record worker fault))
    (hlease : leaseOf sys.store batch.first.id = some (other, till)) : other = worker := by
  by_contra hother
  by_cases hlt : sys.now < batch.lease
  · have htaken : sys.Taken worker batch.first.id batch.lease :=
      ⟨batch, hbatch, rfl, batch.first, List.mem_cons_self, rfl⟩
    rw [h.leaseOf_taken htaken hlt] at hlease
    cases hlease
    exact hother rfl
  · exact hlate ⟨batch, hbatch, hlt, other, till, hother, hlease⟩

/-- What a worker has left after its first statement is not that statement. -/
theorem Inv.taken_next (h : sys.Inv) (hbatch : sys.workers worker = some batch)
    (htaken : (sys.withWorker worker batch.next).Taken other id till) :
    sys.Taken other id till ∧ ¬(other = worker ∧ id = batch.first.id) := by
  obtain ⟨after, hafter, rfl, s, hs, rfl⟩ := htaken
  rcases workers_withWorker hafter with ⟨rfl, hnext⟩ | ⟨hne, hold⟩
  · obtain ⟨hlease, -, hrest⟩ := MailBatch.next_cases hnext
    rw [hrest] at hs
    refine ⟨⟨batch, hbatch, hlease.symm, s, List.mem_cons_of_mem _ hs, rfl⟩, fun hsame => ?_⟩
    have hnodup := h.distinct other batch hbatch
    exact (List.nodup_cons.1 hnodup).1 (hsame.2 ▸ List.mem_map_of_mem hs)
  · exact ⟨⟨after, hold, rfl, s, hs, rfl⟩, fun hsame => hne hsame.1⟩

/-- The rows after an outcome was written: the one row is changed. -/
theorem mem_updated {row : Statement} {first : Nat}
    (hrow : row ∈ (sys.store.updateStatements (fun s => s.id = first) change).statements) :
    ∃ old ∈ sys.store.statements,
      (old.id ≠ first ∧ row = old) ∨ (old.id = first ∧ row = change old) := by
  obtain ⟨old, hold, rfl⟩ := List.mem_map.1 hrow
  refine ⟨old, hold, ?_⟩
  by_cases hfirst : old.id = first
  · exact .inr ⟨hfirst, if_pos (decide_eq_true hfirst)⟩
  · exact .inl ⟨hfirst, if_neg fun hsame => hfirst (of_decide_eq_true hsame)⟩

/-- Another row keeps its claim. -/
theorem leaseOf_updated (hkeep : ∀ s, (change s).id = s.id) {first : Nat} (hne : id ≠ first) :
    leaseOf (sys.store.updateStatements (fun s => s.id = first) change) id =
      leaseOf sys.store id :=
  leaseOf_unselected hkeep fun _ hid =>
    decide_eq_false fun hsame => hne (hid.symm.trans hsame)

theorem Inv.recorded (h : sys.Inv) (hbatch : sys.workers worker = some batch)
    (hlate : ¬sys.Late (.record worker fault)) (hchange : outcome.change sys.clock = .ok change)
    (hstore : written = sys.store.updateStatements (fun s => s.id = batch.first.id) change) :
    Inv ({ sys with store := written, recorded := sys.recordedAfter batch.first.id outcome }.withWorker
      worker batch.next) := by
  obtain ⟨hkeep, hunsent, hsent⟩ := change_spec hchange
  have hnext := h.next hbatch
  have hcoherent : Lease.Coherent sys.now (leaseOf written) (sys.withWorker worker batch.next).Taken := by
    refine h.coherent.release (fun other till hlease => h.own_first hbatch hlate hlease) ?_
      fun _ _ _ htaken => h.taken_next hbatch htaken
    intro id hid
    rw [hstore]
    exact leaseOf_updated hkeep hid
  refine ⟨?_, hnext.distinct, hcoherent, ?_, ?_, hnext.sending⟩
  · show (written.statements.map Statement.id).Nodup
    rw [hstore, ids_updateStatements hkeep]
    exact h.ids
  · intro other id till htaken hlt row hrow hid
    obtain ⟨hold, hne⟩ := h.taken_next hbatch htaken
    obtain ⟨old, hmem, ⟨-, rfl⟩ | ⟨hfirst, rfl⟩⟩ := mem_updated (hstore ▸ hrow)
    · exact h.fresh other id till hold hlt row hmem hid
    · -- a claim that goes on and is on this row would be the worker's own, which is given up here
      have hsame : id = batch.first.id := hid.symm.trans ((hkeep old).trans hfirst)
      have hother := h.own_first hbatch hlate (hsame ▸ h.leaseOf_taken hold hlt)
      exact absurd ⟨hother, hsame⟩ hne
  · intro id hrecorded row hrow hid
    obtain ⟨old, hmem, hcases⟩ := mem_updated (hstore ▸ hrow)
    have hid' : row.id = old.id := by
      rcases hcases with ⟨-, rfl⟩ | ⟨-, rfl⟩
      · rfl
      · exact hkeep old
    cases outcome with
    | failed error retryAt =>
      have hmarked := h.marked id hrecorded old hmem (hid'.symm.trans hid)
      rcases hcases with ⟨-, rfl⟩ | ⟨-, rfl⟩
      · exact hmarked
      · exact fun hnone => hmarked (hunsent old hnone)
    | sent =>
      rcases hcases with ⟨hother, rfl⟩ | ⟨-, rfl⟩
      · rcases List.mem_cons.1 hrecorded with rfl | hrecorded
        · exact absurd hid hother
        · exact h.marked id hrecorded row hmem hid
      · exact hsent rfl old

theorem Inv.record (h : sys.Inv) (hbatch : sys.workers worker = some batch)
    (hlate : ¬sys.Late (.record worker fault)) : (sys.record worker batch outcome fault).Inv := by
  unfold Mailers.record
  split
  · exact h.stop
  · rename_i hanswer
    obtain ⟨rfl, -⟩ | ⟨hok, -⟩ := recordEmailAttempt_cases hanswer
    · exact h.next hbatch
    · cases hok
  · rename_i hanswer
    obtain ⟨-, e, herror⟩ | ⟨-, change, hchange, hstore⟩ := recordEmailAttempt_cases hanswer
    · cases herror
    · exact h.recorded hbatch hlate hchange hstore

/-- A record writes the one row of its statement, or nothing. -/
theorem record_store (sys : Mailers) (worker : String) (batch : MailBatch) (outcome : EmailOutcome)
    (fault : CallFault) : (sys.record worker batch outcome fault).store = sys.store ∨
    ∃ change, outcome.change sys.clock = .ok change ∧ (sys.record worker batch outcome fault).store =
      sys.store.updateStatements (fun s => s.id = batch.first.id) change := by
  unfold Mailers.record
  split
  · exact .inl rfl
  · rename_i hanswer
    obtain ⟨rfl, -⟩ | ⟨hok, -⟩ := recordEmailAttempt_cases hanswer
    · exact .inl rfl
    · cases hok
  · rename_i hanswer
    obtain ⟨-, e, herror⟩ | ⟨-, change, hchange, hstore⟩ := recordEmailAttempt_cases hanswer
    · cases herror
    · exact .inr ⟨change, hchange, hstore⟩

end Record

/-! ## Runs in time -/

variable {t : Mailers} {event : MailEvent} {phase : SendPhase} {change : MailBatch → Option MailBatch}

theorem atFirst_eq_some (h : sys.atFirst worker phase change = some t) :
    ∃ batch, sys.workers worker = some batch ∧ batch.phase = phase ∧
      t = sys.withWorker worker (change batch) := by
  unfold atFirst at h
  split at h
  · cases h
  · rename_i batch hbatch
    split at h
    · rename_i hphase
      cases h
      exact ⟨batch, hbatch, hphase, rfl⟩
    · cases h

theorem step_record {fault : CallFault} (h : sys.step (.record worker fault) = some t) :
    ∃ batch outcome, sys.workers worker = some batch ∧ batch.phase = .ended outcome ∧
      t = sys.record worker batch outcome fault := by
  simp only [step] at h
  split at h
  · cases h
  · rename_i batch hbatch
    split at h
    · rename_i outcome hphase
      cases h
      exact ⟨batch, outcome, hbatch, hphase, rfl⟩
    · cases h

/-- A step in time keeps memory and store in agreement. -/
theorem step_keeps (hinv : sys.Inv) (hstep : sys.step event = some t) (hlate : ¬sys.Late event) : t.Inv := by
  cases event with
  | advance later =>
    simp only [step] at hstep
    split at hstep
    · rename_i hle
      cases hstep
      refine hinv.pass hle fun worker batch hbatch hphase => ?_
      by_contra hended
      exact hlate ⟨worker, batch, hbatch, hphase, hended⟩
    · cases hstep
  | claim worker now limit ttlMinutes fault =>
    simp only [step] at hstep
    split at hstep
    · rename_i hready
      cases hstep
      exact hinv.claim hready.1
    · cases hstep
  | skip worker =>
    obtain ⟨batch, hbatch, -, rfl⟩ := atFirst_eq_some hstep
    exact hinv.next hbatch
  | orphan worker retryAt =>
    obtain ⟨batch, hbatch, -, rfl⟩ := atFirst_eq_some hstep
    exact hinv.phase hbatch fun hsending => by cases hsending
  | start worker =>
    obtain ⟨batch, hbatch, -, rfl⟩ := atFirst_eq_some hstep
    refine hinv.phase hbatch fun _ => ?_
    by_contra hended
    exact hlate ⟨batch, hbatch, hended⟩
  | finish worker outcome =>
    obtain ⟨batch, hbatch, -, rfl⟩ := atFirst_eq_some hstep
    exact hinv.phase hbatch fun hsending => by cases hsending
  | record worker fault =>
    obtain ⟨batch, outcome, hbatch, -, rfl⟩ := step_record hstep
    exact hinv.record hbatch hlate
  | crash worker =>
    cases hstep
    exact hinv.stop

/-- A record in time leaves every claim of another worker. -/
theorem not_releases (hlate : ¬sys.Late event) (hinv : sys.Inv) : ¬sys.Releases event := by
  rintro ⟨worker, fault, rfl, t, hstep, id, other, till, hne, hlease, -, hreleased⟩
  obtain ⟨batch, outcome, hbatch, -, rfl⟩ := step_record hstep
  refine hreleased ?_
  rcases record_store sys worker batch outcome fault with hstore | ⟨change, hchange, hstore⟩
  · rw [hstore, hlease]
  · rw [hstore]
    by_cases hid : id = batch.first.id
    · subst hid
      exact absurd (hinv.own_first hbatch hlate hlease) hne
    · rw [leaseOf_updated (change_spec hchange).1 hid, hlease]

theorem Sends.taken (h : sys.Sends worker id) :
    ∃ till, sys.Taken worker id till ∧ (sys.Inv → sys.now < till) := by
  obtain ⟨batch, hbatch, hsends⟩ := (Option.any_eq_true _ _).1 h
  rw [MailBatch.sends, Bool.and_eq_true] at hsends
  have hphase : batch.phase = .sending := of_decide_eq_true hsends.1
  have hfirst : batch.first.id = id := of_decide_eq_true hsends.2
  exact ⟨batch.lease, ⟨batch, hbatch, rfl, batch.first, List.mem_cons_self, hfirst⟩,
    fun hinv => hinv.sending worker batch hbatch hphase⟩

/-- What holds between steps that are taken in time excludes a second send. -/
theorem Inv.excludes (h : sys.Inv) : sys.Excludes where
  exclusive i j id hi hj := by
    obtain ⟨till, hi, hlt⟩ := hi.taken
    obtain ⟨till', hj, hlt'⟩ := hj.taken
    exact h.coherent.exclusive hi hj (hlt h) (hlt' h)
  leased i id hi := by
    obtain ⟨till, hi, hlt⟩ := hi.taken
    exact ⟨till, h.leaseOf_taken hi (hlt h), hlt h⟩
  once i id hi hrecorded := by
    obtain ⟨till, hi, hlt⟩ := hi.taken
    have hlease := h.leaseOf_taken hi (hlt h)
    obtain ⟨row, hrow, -⟩ := Option.bind_eq_some_iff.1 hlease
    obtain ⟨hmem, hid⟩ := find_eq_some hrow
    exact h.marked id hrecorded row hmem hid (h.fresh i id till hi (hlt h) row hmem hid)

end Steps

/-- The clock stands, and a send is started and recorded before the end of its claim. -/
def inTime (sys : Mailers) : MailEvent → Bool
  | .advance _ => false
  | .start worker | .record worker _ => (sys.workers worker).all fun batch => sys.now < batch.lease
  | _ => true

theorem not_late_of_inTime {sys : Mailers} {event : MailEvent} (h : sys.inTime event = true) :
    ¬sys.Late event := by
  intro hlate
  cases event with
  | advance later => cases h
  | start worker =>
    obtain ⟨batch, hbatch, hended⟩ := hlate
    rw [inTime, hbatch, Option.all_some] at h
    exact hended (of_decide_eq_true h)
  | record worker fault =>
    obtain ⟨batch, hbatch, hended, -⟩ := hlate
    rw [inTime, hbatch, Option.all_some] at h
    exact hended (of_decide_eq_true h)
  | claim | skip | orphan | finish | crash => exact hlate

def promptly : Mailers → List MailEvent → Bool
  | _, [] => true
  | sys, event :: events => sys.inTime event && (sys.step event).all fun t => promptly t events

theorem timely_of_promptly {sys : Mailers} {events : List MailEvent} (h : sys.promptly events = true) :
    Duty.Undisturbed Mailers.step Late sys events := by
  induction events generalizing sys with
  | nil => trivial
  | cons event events ih =>
    obtain ⟨hevent, hrest⟩ := Bool.and_eq_true_iff.1 h
    refine ⟨not_late_of_inTime hevent, fun t ht => ih ?_⟩
    rw [Option.mem_def.1 ht, Option.all_some] at hrest
    exact hrest

end Mailers

namespace Sample

def mailed : Statement := { invoice 1 now with totalAmountMicroUsd := count 5 }

def mailers : Mailers where
  clock := noon
  store := { store { partner .invoice (count 720) with billingEmail := "billing@acme.test" } [] with
    statements := [mailed] }
  workers _ := none
  recorded := []

def quarterPast : Instant := ⟨noon.nanos + 960000000000, by decide⟩

def claims (worker : String) (now : Instant) : List MailEvent :=
  [.claim worker now 50 15 {}, .start worker]

/-- A worker is still at a send when its claim has ended. -/
def overlap : List MailEvent := claims "a" noon ++ .advance quarterPast :: claims "b" quarterPast

theorem mailers_start : mailers.Start := ⟨by decide, fun _ => rfl, rfl⟩

def tenPast : Instant := ⟨noon.nanos + 600000000000, by decide⟩

/-- The end of a send that is to be tried again at five past. -/
def retried : EmailOutcome := .failed "421 busy" ⟨noon.nanos + 300000000000, 0, by decide⟩

/-- A worker records a failure ten minutes into its tick, and another tries again. -/
def handover : List MailEvent :=
  claims "a" noon ++ [.finish "a" retried, .record "a" {}] ++ claims "b" tenPast

end Sample

namespace Mailers

/-- Along a run of steps in time no two workers send one statement, each sends under its own lease, nothing
recorded as sent is sent again and no record releases another worker's claim. -/
theorem leases_exclude_run (sys t : Mailers) (events : List MailEvent) (hstart : sys.Start)
    (hrun : Duty.run Mailers.step sys events = some t)
    (htimely : Duty.Undisturbed Mailers.step Late sys events) :
    t.Excludes ∧ Duty.Undisturbed Mailers.step Releases sys events := by
  have hkeeps : ∀ s event t, step s event = some t → ¬Late s event → Inv s → Inv t :=
    fun _ _ _ hstep hlate hinv => step_keeps hinv hstep hlate
  have hend := Duty.run_keeps_undisturbed hkeeps hrun htimely hstart.inv
  have hkept := Duty.undisturbed_of_keeps hkeeps (fun _ _ hlate hinv => not_releases hlate hinv)
    htimely hstart.inv
  exact ⟨hend.excludes, hkept⟩

theorem leases_exclude_run_handover :
    ∃ t, Duty.run Mailers.step Sample.mailers (.advance Sample.tenPast :: Sample.handover) = some t ∧
      t.Sends "b" 1 ∧ t.Excludes ∧
      Duty.Undisturbed Mailers.step Releases Sample.mailers
        (.advance Sample.tenPast :: Sample.handover) := by
  have hends : (Duty.run Mailers.step Sample.mailers (.advance Sample.tenPast :: Sample.handover)).any
      (fun t => (t.workers "b").any (·.sends 1)) = true := by decide +kernel
  obtain ⟨t, hrun, hsends⟩ := (Option.any_eq_true _ _).1 hends
  have hprompt : (Sample.mailers.step (.advance Sample.tenPast)).all (·.promptly Sample.handover) =
      true := by decide +kernel
  have htimely : Duty.Undisturbed Mailers.step Late Sample.mailers
      (.advance Sample.tenPast :: Sample.handover) := by
    refine ⟨?_, fun middle hmiddle => timely_of_promptly ?_⟩
    · rintro ⟨worker, batch, hbatch, -⟩
      cases hbatch
    · rw [Option.mem_def.1 hmiddle, Option.all_some] at hprompt
      exact hprompt
  exact ⟨t, hrun, hsends, leases_exclude_run Sample.mailers t _ Sample.mailers_start hrun htimely⟩

/-- Two workers send one statement when the first is slower than its claim lasts. -/
theorem slow_send_overlaps : ¬∀ (sys t : Mailers) (events : List MailEvent), sys.Start →
    Duty.run Mailers.step sys events = some t →
      t.Excludes ∧ Duty.Undisturbed Mailers.step Releases sys events := by
  intro h
  have hends : (Duty.run Mailers.step Sample.mailers Sample.overlap).any (fun t =>
      (t.workers "a").any (·.sends 1) && (t.workers "b").any (·.sends 1)) = true := by
    decide +kernel
  obtain ⟨t, hrun, hsends⟩ := (Option.any_eq_true _ _).1 hends
  obtain ⟨ha, hb⟩ := Bool.and_eq_true_iff.1 hsends
  have hexcludes := (h Sample.mailers t Sample.overlap Sample.mailers_start hrun).1
  exact absurd (hexcludes.exclusive "a" "b" 1 ha hb) (by decide)

end Mailers

end PartnerPortal
