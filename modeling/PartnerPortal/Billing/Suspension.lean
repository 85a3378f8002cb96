import Mathlib.Data.Prod.Lex
import PartnerPortal.ApiKeys.Refresher
import PartnerPortal.Auth.Scope
import PartnerPortal.Billing.Worker
import PartnerPortal.Lib.OrderBy
import PartnerPortal.Lib.Tables

/-!
# Suspension

The three readers of the suspension rule: the key snapshot, the status view and the worker's log.
The snapshot asks SQL for the one statement a suspension is about.  The other two read every overdue
statement and leave the rest of the rule to `statusFor`.

Results:
- `Overdue.decided` — a list of overdue statements in order decides a status as the rule does;
- `loadActive_decided`, `statusesInScope_decided`, `observeStatus_decided` — each reader's status;
- `one_suspension_decision` — the three statuses are one.
-/

namespace PartnerPortal

open MachineInt FixedWidth

/-! ## Reading overdue statements -/

/-- Statements past their due date and still owed, oldest first, of one partner or of all. -/
def overdueStatements (store : Store) (now : Instant) (consumerId : Option String) :
    List Statement :=
  (store.statements.filter fun s =>
      s.billingMode = .invoice && s.paidAt.isNone &&
        (s.dueAt.any fun dueAt => !(formatInstant now < dueAt)) &&
        consumerId.all fun id => s.consumerId = id).insertionSort fun a b =>
    a.dueAt.getD "" < b.dueAt.getD "" ||
      (a.dueAt = b.dueAt && a.id ≤ b.id)

/-- A missing deadline becomes the empty text, which is no instant. -/
def Statement.toOverdueRow (s : Statement) : OverdueRow where
  billingMode := s.billingMode.asStr
  id := s.id
  billingDate := s.billingDate
  dueAt := s.dueAt.getD ""
  totalAmountMicroUsd := s.totalAmountMicroUsd
  incompleteUsageCount := s.incompleteUsageCount

/-! ## The status view -/

/-- Whether a query in this scope may read a consumer. -/
def Scope.Contains : Scope → String → Prop
  | .one id, consumerId => id = consumerId
  | .list ids, consumerId => consumerId ∈ ids
  | .all, _ => True

/-- A micro-dollar amount as a decimal number of dollars. -/
def formatMicros (micros : Int) : String :=
  (if micros < 0 then "-" else "") ++ toString (micros.natAbs / 1000000) ++ "." ++
    String.ofList (pad 6 (micros.natAbs % 1000000))

/-- An amount with its unit, as `$0.095000`. -/
def amountText (amount : MicroUsd) : String := "$" ++ formatMicros amount.value

structure SuspensionReasonView where
  code : String
  statementId : Nat
  billingDate : String
  dueAt : String
  amountMicroUsd : MicroUsd
  amount : String
deriving DecidableEq

/-- A partner's derived service status. -/
structure ServiceStatusView where
  consumerId : String
  status : String
  suspended : Bool
  message : Option String
  reason : Option SuspensionReasonView
  overdueStatements : Nat
  overdueAmountMicroUsd : MicroUsd
  overdueAmount : String
deriving DecidableEq

/-- The reason of a status, rendered. -/
def viewReason : ServiceStatus → Except Panic (Option SuspensionReasonView)
  | .active => .ok none
  | .suspended overdue => do
    let dueAt ← formatTs overdue.dueAt
    return some {
      code := "invoice_overdue"
      statementId := overdue.id
      billingDate := overdue.billingDate
      dueAt := dueAt
      amountMicroUsd := overdue.amount
      amount := amountText overdue.amount }

/-- The sum of some rows.  A row that would overflow it is left out. -/
def overdueAmount (rows : List OverdueRow) : MicroUsd :=
  rows.foldl (fun sum row => (sum.checkedAdd row.totalAmountMicroUsd).getD sum) Count.zero

/-- Render a derived status and the rows behind it. -/
def viewStatus (consumerId : String) (status : ServiceStatus) (rows : List OverdueRow) :
    Except Panic ServiceStatusView := do
  let reason ← viewReason status
  return {
    consumerId := consumerId
    status := if status.isSuspended then "suspended" else "active"
    suspended := status.isSuspended
    message := status.suspensionMessage
    reason := reason
    overdueStatements := rows.length
    overdueAmountMicroUsd := overdueAmount rows
    overdueAmount := amountText (overdueAmount rows) }

/-- The partners of a scope. -/
def partnersInScope (store : Store) : Scope → List Partner
  | .one id => (store.partners.find? fun p => p.consumerId = id).toList
  | .list ids => (listPartners store).filter fun p => p.consumerId ∈ ids
  | .all => listPartners store

/-- Only a scope of one consumer narrows the read of overdue statements. -/
def Scope.overdueFor : Scope → Option String
  | .one id => some id
  | _ => none

/-- The view of each partner.  The rows of a consumer are taken out as they are used. -/
def viewStatuses (iso : Iso8601) (now : Instant) :
    List Statement → List Partner → Except Panic (List ServiceStatusView)
  | _, [] => .ok []
  | overdue, partner :: rest => do
    let (own, others) := overdue.partition fun s => s.consumerId = partner.consumerId
    let rows := own.map Statement.toOverdueRow
    let status ← statusFor iso partner.billingMode.asStr now.utc rows
    let view ← viewStatus partner.consumerId status rows
    let views ← viewStatuses iso now others rest
    return view :: views

/-- The derived status of every consumer in scope. -/
def statusesInScope (iso : Iso8601) (store : Store) (scope : Scope) (now : Instant) :
    Except Panic (List ServiceStatusView) :=
  viewStatuses iso now (overdueStatements store now scope.overdueFor) (partnersInScope store scope)

/-! ## The worker's log -/

/-- What the worker logs about a partner. -/
inductive Transition where
  | partnerSuspended (consumerId : String) (status : ServiceStatus)
  | partnerResumed (consumerId : String)
deriving DecidableEq

/-- The statuses the worker saw last, and what it has logged. -/
structure Observed where
  suspended : String → Option Bool
  logged : List Transition

/-- The status of one partner, as the worker derives it. -/
def derivedStatus (iso : Iso8601) (store : Store) (now : Instant) (partner : Partner) :
    Except Panic ServiceStatus :=
  statusFor iso partner.billingMode.asStr now.utc
    ((overdueStatements store now (some partner.consumerId)).map Statement.toOverdueRow)

/-- A first observation is not a transition. -/
def transition (consumerId : String) (previous : Option Bool) (status : ServiceStatus) :
    List Transition :=
  match previous, status.isSuspended with
  | some false, true => [.partnerSuspended consumerId status]
  | some true, false => [.partnerResumed consumerId]
  | _, _ => []

def observePartner (iso : Iso8601) (store : Store) (now : Instant) (observed : Observed)
    (partner : Partner) : Except Panic Observed := do
  let status ← derivedStatus iso store now partner
  return {
    suspended := Function.update observed.suspended partner.consumerId (some status.isSuspended)
    logged := observed.logged ++
      transition partner.consumerId (observed.suspended partner.consumerId) status }

/-- Log the partners whose derived status changed since the last tick. -/
def observeStatus (iso : Iso8601) (store : Store) (now : Instant) (observed : Observed) :
    Except Panic Observed :=
  (listPartners store).foldlM (observePartner iso store now) observed

/-! ## The rule -/

/-- The instant a statement's deadline names. -/
def Statement.Due (s : Statement) (due : OffsetDateTime) : Prop :=
  ∃ text, s.dueAt = some text ∧ CanonicalTs text due

/-- A statement that suspends the partner it is billed to. -/
structure Statement.Suspending (s : Statement) (consumerId : String) (now : Instant)
    (due : OffsetDateTime) : Prop where
  billed : s.consumerId = consumerId
  invoice : s.billingMode = .invoice
  unpaid : s.paidAt = none
  complete : s.incompleteUsageCount = 0
  owed : 0 < s.totalAmountMicroUsd.value
  dueAt : s.Due due
  past : due.nanos ≤ now.nanos

/-- What the reason of a suspension says of its statement. -/
def Statement.overdue (s : Statement) (due : OffsetDateTime) : OverdueStatement :=
  ⟨s.id, s.billingDate, due, s.totalAmountMicroUsd⟩

/-- The status of a consumer on its terms: suspended over the first statement that suspends it. -/
inductive Decided (store : Store) (consumerId : String) (mode : BillingMode) (now : Instant) :
    ServiceStatus → Prop
  | active (h : mode = .invoice → ∀ s ∈ store.statements, ∀ due,
      ¬s.Suspending consumerId now due) : Decided store consumerId mode now .active
  | suspended (hmode : mode = .invoice) {s : Statement} {due : OffsetDateTime}
      (hs : s ∈ store.statements) (hsuspending : s.Suspending consumerId now due)
      (hleast : ∀ s' ∈ store.statements, ∀ due', s'.Suspending consumerId now due' →
        due.nanos < due'.nanos ∨ due.nanos = due'.nanos ∧ s.id ≤ s'.id) :
      Decided store consumerId mode now (.suspended (s.overdue due))

/-- What the schema says of the tables a status is read from, deadlines in the one form they are
written in. -/
structure Store.Schema (store : Store) : Prop where
  partners : (store.partners.map Partner.consumerId).Nodup
  statements : (store.statements.map Statement.id).Nodup
  deadlines : ∀ s ∈ store.statements, ∀ dueAt ∈ s.dueAt, ∃ due, CanonicalTs dueAt due

section Rule

variable {store : Store} {consumerId : String} {mode : BillingMode} {now : Instant}
  {s : Statement} {due : OffsetDateTime} {status : ServiceStatus}

/-- A statement has one deadline. -/
theorem Statement.Due.unique {due' : OffsetDateTime} (h : s.Due due) (h' : s.Due due') :
    due = due' := by
  obtain ⟨text, hdue, hts⟩ := h
  obtain ⟨text', hdue', hts'⟩ := h'
  obtain rfl := Option.some.inj (hdue.symm.trans hdue')
  exact hts.unique hts'

/-- The rule gives one status. -/
theorem Decided.unique (hids : (store.statements.map Statement.id).Nodup)
    {status' : ServiceStatus} (h : Decided store consumerId mode now status)
    (h' : Decided store consumerId mode now status') : status = status' := by
  cases h with
  | active hnone =>
    cases h' with
    | active => rfl
    | suspended hmode hs hsuspending => exact absurd hsuspending (hnone hmode _ hs _)
  | @suspended hmode s due hs hsuspending hleast =>
    cases h' with
    | active hnone => exact absurd hsuspending (hnone hmode _ hs _)
    | @suspended _ s' due' hs' hsuspending' hleast' =>
      have hbefore := hleast s' hs' due' hsuspending'
      have hafter := hleast' s hs due hsuspending
      have hid : s.id = s'.id := by omega
      obtain rfl := List.inj_on_of_nodup_map hids hs hs' hid
      rw [hsuspending.dueAt.unique hsuspending'.dueAt]

theorem Decided.isSuspended_iff (h : Decided store consumerId mode now status) :
    status.isSuspended = true ↔ mode = .invoice ∧
      ∃ s ∈ store.statements, ∃ due, s.Suspending consumerId now due := by
  cases h with
  | active hnone =>
    simp only [ServiceStatus.isSuspended, Bool.false_eq_true, false_iff]
    rintro ⟨hmode, s, hs, due, hsuspending⟩
    exact hnone hmode s hs due hsuspending
  | @suspended hmode s due hs hsuspending hleast =>
    simp only [ServiceStatus.isSuspended, true_iff]
    exact ⟨hmode, s, hs, due, hsuspending⟩

end Rule

/-! ## One reader's statements -/

/-- The order overdue statements are read in. -/
def Statement.dueKey (s : Statement) : String ×ₗ Nat := toLex (s.dueAt.getD "", s.id)

theorem dueKey_le_iff {s s' : Statement} {due due' : OffsetDateTime} (h : s.Due due)
    (h' : s'.Due due') :
    s.dueKey ≤ s'.dueKey ↔ due.nanos < due'.nanos ∨ due.nanos = due'.nanos ∧ s.id ≤ s'.id := by
  obtain ⟨text, hdue, hts⟩ := h
  obtain ⟨text', hdue', hts'⟩ := h'
  have heq : text = text' ↔ due.nanos = due'.nanos := by
    constructor
    · rintro rfl
      rw [hts.unique hts']
    · intro h
      rw [hts.text, hts'.text, h]
  rw [Statement.dueKey, Statement.dueKey, Prod.Lex.toLex_le_toLex, hdue, hdue', Option.getD_some,
    Option.getD_some, hts.lt_iff hts', heq]

/-- The order of the queries is the order of the keys, on statements that have a deadline. -/
theorem order_iff {s s' : Statement} (h : s.dueAt.isSome) (h' : s'.dueAt.isSome) :
    (decide (s.dueAt.getD "" < s'.dueAt.getD "") || (s.dueAt = s'.dueAt && s.id ≤ s'.id)) = true ↔
      s.dueKey ≤ s'.dueKey := by
  obtain ⟨dueAt, hdue⟩ := Option.isSome_iff_exists.1 h
  obtain ⟨dueAt', hdue'⟩ := Option.isSome_iff_exists.1 h'
  rw [Statement.dueKey, Statement.dueKey, Prod.Lex.toLex_le_toLex, hdue, hdue']
  simp

/-- The statements a reader hands over for one partner: overdue ones of the partner, and the first
enforceable one before every statement that suspends. -/
structure Overdue (store : Store) (consumerId : String) (now : Instant) (rows : List Statement) :
    Prop where
  stored : ∀ s ∈ rows, s ∈ store.statements ∧ s.consumerId = consumerId ∧
    s.billingMode = .invoice ∧ s.paidAt = none ∧
    ∃ due, s.Due due ∧ due.nanos ≤ now.nanos
  first : ∀ s ∈ store.statements, ∀ due, s.Suspending consumerId now due →
    ∃ first, rows.find? (fun s => (overdueRow s).enforceable) = some first ∧
      first.dueKey ≤ s.dueKey

section Readers

variable {iso : Iso8601} {store : Store} {consumerId : String} {now : Instant}
  {rows : List Statement}

/-- The first row of a list whose deadline has passed decides. -/
theorem firstOverdue_cons {row : OverdueRow} {rest : List OverdueRow} {due : OffsetDateTime}
    (hdue : CanonicalTs row.dueAt due) (hpast : due.nanos ≤ now.nanos) :
    firstOverdue iso now.utc (row :: rest) =
      .ok (.suspended ⟨row.id, row.billingDate, due, row.totalAmountMicroUsd⟩) := by
  have hnot : ¬now.utc < due := Int.not_lt.2 hpast
  unfold firstOverdue
  rw [hdue.parseTs, Result.ok_bind]
  dsimp only
  rw [if_neg hnot]
  rfl

/-- The first enforceable statement of a reader's list decides. -/
theorem firstOverdue_find? (h : Overdue store consumerId now rows) :
    (rows.find? (fun s => (overdueRow s).enforceable) = none ∧
      firstOverdue iso now.utc ((rows.map overdueRow).filter OverdueRow.enforceable) =
        .ok .active) ∨
    ∃ s due, rows.find? (fun s => (overdueRow s).enforceable) = some s ∧
      s ∈ store.statements ∧ s.Suspending consumerId now due ∧
      firstOverdue iso now.utc ((rows.map overdueRow).filter OverdueRow.enforceable) =
        .ok (.suspended (s.overdue due)) := by
  rw [List.filter_map]
  rcases hfirst : (rows.filter (OverdueRow.enforceable ∘ overdueRow)) with _ | ⟨s, rest⟩
  · exact .inl ⟨by rw [← List.head?_filter]; exact congrArg List.head? hfirst, rfl⟩
  · have hfind : rows.find? (fun s => (overdueRow s).enforceable) = some s := by
      rw [← List.head?_filter]
      exact congrArg List.head? hfirst
    have henforceable := List.find?_some hfind
    obtain ⟨hs, hconsumer, hinvoice, hunpaid, due, hdue, hpast⟩ :=
      h.stored s (List.mem_of_find?_eq_some hfind)
    obtain ⟨hcomplete, howed⟩ := Bool.and_eq_true_iff.1 henforceable
    have hrow : CanonicalTs (overdueRow s).dueAt due := by
      obtain ⟨text, htext, hts⟩ := hdue
      show CanonicalTs (s.dueAt.getD "") due
      rwa [htext, Option.getD_some]
    refine .inr ⟨s, due, hfind, hs, ⟨hconsumer, hinvoice, hunpaid, of_decide_eq_true hcomplete,
      of_decide_eq_true howed, hdue, hpast⟩, ?_⟩
    rw [List.map_cons, firstOverdue_cons hrow hpast]
    rfl

/-- A reader's list decides a status as the rule does. -/
theorem Overdue.decided (h : Overdue store consumerId now rows) (mode : BillingMode) :
    ∃ status, statusFor iso mode.asStr now.utc (rows.map overdueRow) = .ok status ∧
      Decided store consumerId mode now status := by
  unfold statusFor
  cases mode with
  | reconciliation => exact ⟨.active, if_pos (by decide), .active fun hinvoice => nomatch hinvoice⟩
  | invoice =>
    rw [if_neg (by decide)]
    rcases @firstOverdue_find? iso _ _ _ _ h with
      ⟨hnone, hactive⟩ | ⟨s, due, hfind, hs, hsuspending, hstatus⟩
    · refine ⟨_, hactive, .active fun _ s hs due hsuspending => ?_⟩
      obtain ⟨first, hfirst, -⟩ := h.first s hs due hsuspending
      rw [hnone] at hfirst
      cases hfirst
    · refine ⟨_, hstatus, .suspended rfl hs hsuspending fun s' hs' due' hsuspending' => ?_⟩
      obtain ⟨first, hfirst, hle⟩ := h.first s' hs' due' hsuspending'
      obtain rfl : s = first := Option.some.inj (hfind.symm.trans hfirst)
      exact (dueKey_le_iff hsuspending.dueAt hsuspending'.dueAt).1 hle

/-- A deadline that `due_at <= ?1` selects. -/
theorem dueAt_any_iff {s : Statement} {due : OffsetDateTime} (hdue : s.Due due) :
    (s.dueAt.any fun dueAt => !decide (formatInstant now < dueAt)) = true ↔
      due.nanos ≤ now.nanos := by
  obtain ⟨text, htext, hts⟩ := hdue
  rw [htext, Option.any_some, Bool.not_eq_true', decide_eq_false_iff_not,
    (canonicalTs_formatInstant now).lt_iff hts, Int.not_lt]
  rfl

/-- The deadline of a statement that has passed. -/
theorem exists_due (hschema : store.Schema) {s : Statement} (hs : s ∈ store.statements)
    (hany : (s.dueAt.any fun dueAt => !decide (formatInstant now < dueAt)) = true) :
    ∃ due, s.Due due ∧ due.nanos ≤ now.nanos := by
  rcases hdue : s.dueAt with _ | dueAt
  · rw [hdue] at hany
    cases hany
  · obtain ⟨due, hts⟩ := hschema.deadlines s hs dueAt hdue
    have hsdue : s.Due due := ⟨dueAt, hdue, hts⟩
    exact ⟨due, hsdue, (dueAt_any_iff hsdue).1 hany⟩

/-- A part of an ordered query is a reader's list, when it selects overdue statements of the partner
and every one that suspends. -/
theorem Overdue.of_query {base : List Statement} {r : Statement → Statement → Prop}
    [DecidableRel r] {p : Statement → Bool}
    (hr : ∀ s s', s.dueAt.isSome → s'.dueAt.isSome → (r s s' ↔ s.dueKey ≤ s'.dueKey))
    (hsome : ∀ s ∈ base, s.dueAt.isSome)
    (hstored : ∀ s ∈ base, p s = true → s ∈ store.statements ∧ s.consumerId = consumerId ∧
      s.billingMode = .invoice ∧ s.paidAt = none ∧
      ∃ due, s.Due due ∧ due.nanos ≤ now.nanos)
    (hfirst : ∀ s ∈ store.statements, ∀ due, s.Suspending consumerId now due →
      s ∈ base ∧ p s = true) :
    Overdue store consumerId now ((base.insertionSort r).filter p) where
  stored s hs := by
    obtain ⟨hbase, hp⟩ := List.mem_filter.1 hs
    exact hstored s ((List.mem_insertionSort _).1 hbase) hp
  first s hs due hsuspending := by
    obtain ⟨hbase, hp⟩ := hfirst s hs due hsuspending
    have henforceable : (overdueRow s).enforceable = true := by
      unfold OverdueRow.enforceable overdueRow
      simp [hsuspending.complete, hsuspending.owed]
    rw [List.find?_filter]
    have hfound : ((base.insertionSort r).find? fun s =>
        decide (p s = true ∧ (overdueRow s).enforceable = true)).isSome :=
      OrderBy.find?_isSome_iff.2 ⟨s, hbase, decide_eq_true ⟨hp, henforceable⟩⟩
    obtain ⟨first, hfound⟩ := Option.isSome_iff_exists.1 hfound
    obtain ⟨-, -, hle⟩ := @OrderBy.find?_some _ _ _ Statement.dueKey _ _ _ _ _
      (fun a ha b hb => hr a b (hsome a ha) (hsome b hb)) hfound
    exact ⟨first, hfound, hle s hbase (decide_eq_true ⟨hp, henforceable⟩)⟩

/-- Of enforceable statements only the first is needed. -/
theorem Overdue.head (h : Overdue store consumerId now rows)
    (hall : ∀ s ∈ rows, (overdueRow s).enforceable = true) :
    Overdue store consumerId now rows.head?.toList := by
  cases rows with
  | nil => exact h
  | cons first rest =>
    have hfind : ∀ rest, (first :: rest).find? (fun s => (overdueRow s).enforceable) = some first :=
      fun rest => by rw [List.find?_cons, hall first List.mem_cons_self]
    refine ⟨fun s hs => ?_, fun s hs due hsuspending => ?_⟩
    · obtain rfl : s = first := List.mem_singleton.1 hs
      exact h.stored s List.mem_cons_self
    · obtain ⟨found, hfound, hle⟩ := h.first s hs due hsuspending
      rw [hfind] at hfound
      cases hfound
      exact ⟨first, hfind [], hle⟩

/-- The statement the snapshot selects in SQL. -/
theorem overdueStatement_overdue (hschema : store.Schema) :
    Overdue store consumerId now
      (overdueStatement store consumerId (formatInstant now)).toList := by
  refine Overdue.head ?_ fun s hs => ?_
  · rw [← List.filter_true (List.insertionSort _ _)]
    refine Overdue.of_query (fun s s' => order_iff) (fun s hs => ?_) (fun s hs _ => ?_)
      fun s hs due h => ⟨List.mem_filter.2 ⟨hs, ?_⟩, rfl⟩
    · obtain ⟨-, h⟩ := List.mem_filter.1 hs
      simp only [Bool.and_eq_true] at h
      obtain ⟨dueAt, hdue, -⟩ := (Option.any_eq_true _ _).1 h.2
      rw [hdue]
      rfl
    · obtain ⟨hs, h⟩ := List.mem_filter.1 hs
      simp only [Bool.and_eq_true, decide_eq_true_eq, Option.isNone_iff_eq_none] at h
      exact ⟨hs, h.1.1.1.1.1, h.1.1.1.1.2, h.1.1.1.2, exists_due hschema hs h.2⟩
    · simp only [Bool.and_eq_true, decide_eq_true_eq, Option.isNone_iff_eq_none]
      exact ⟨⟨⟨⟨⟨h.billed, h.invoice⟩, h.unpaid⟩, h.complete⟩, h.owed⟩,
        (dueAt_any_iff h.dueAt).2 h.past⟩
  · obtain ⟨-, h⟩ := List.mem_filter.1 ((List.mem_insertionSort _).1 hs)
    simp only [Bool.and_eq_true, decide_eq_true_eq] at h
    unfold OverdueRow.enforceable overdueRow
    simp [h.1.1.2, h.1.2]

/-- The part of the wide or the narrow read that is about one partner. -/
theorem overdueStatements_overdue (hschema : store.Schema) {narrow : Option String}
    (hnarrow : ∀ id ∈ narrow, id = consumerId) :
    Overdue store consumerId now
      ((overdueStatements store now narrow).filter fun s => s.consumerId = consumerId) := by
  refine Overdue.of_query (fun s s' => order_iff) (fun s hs => ?_) (fun s hs hconsumer => ?_)
    fun s hs due h => ?_
  · obtain ⟨-, h⟩ := List.mem_filter.1 hs
    simp only [Bool.and_eq_true] at h
    obtain ⟨dueAt, hdue, -⟩ := (Option.any_eq_true _ _).1 h.1.2
    rw [hdue]
    rfl
  · obtain ⟨hs, h⟩ := List.mem_filter.1 hs
    simp only [Bool.and_eq_true, decide_eq_true_eq, Option.isNone_iff_eq_none] at h hconsumer
    exact ⟨hs, hconsumer, h.1.1.1, h.1.1.2, exists_due hschema hs h.1.2⟩
  · refine ⟨List.mem_filter.2 ⟨hs, ?_⟩, decide_eq_true h.billed⟩
    simp only [Bool.and_eq_true, decide_eq_true_eq, Option.isNone_iff_eq_none]
    refine ⟨⟨⟨h.invoice, h.unpaid⟩, (dueAt_any_iff h.dueAt).2 h.past⟩, ?_⟩
    rw [Option.all_eq_true]
    intro id hid
    exact decide_eq_true (h.billed.trans (hnarrow id hid).symm)

end Readers

/-! ## The key snapshot -/

section Snapshot

variable {iso : Iso8601} {db : Database} {now : Instant}

/-- What a row of the snapshot says of the consumer of its key. -/
structure LoadedKey (db : Database) (now : Instant) (key : KeyRecord)
    (config : PartnerRuntimeConfig) : Prop where
  consumer : config.consumerId = key.row.consumerId
  terms : ∀ partner ∈ db.billing.partners, partner.consumerId = key.row.consumerId →
    config.billingMode = partner.billingMode
  decided : Decided db.billing key.row.consumerId config.billingMode now config.serviceStatus

theorem loadKey_decided (hschema : db.billing.Schema) (models : List PartnerModel)
    (key : KeyRecord) : ∃ config, loadKey iso db now models key = .ok (key.keyHash, config) ∧
      LoadedKey db now key config := by
  have hoverdue := @overdueStatement_overdue db.billing key.row.consumerId now hschema
  obtain ⟨status, hstatus, hdecided⟩ := @Overdue.decided iso _ _ _ _ hoverdue
    (((db.billing.partners.find? fun p => p.consumerId = key.row.consumerId).map
      Partner.billingMode).getD .invoice)
  rw [← Option.toList_map] at hstatus
  refine ⟨_, Result.bind_ok_iff.2 ⟨status, hstatus, rfl⟩, rfl, fun partner hpartner heq => ?_,
    hdecided⟩
  have hfind := Tables.find?_key hschema.partners hpartner
  simp only [heq] at hfind
  rw [hfind]
  rfl

theorem loadKeys_decided (hschema : db.billing.Schema) (models : List PartnerModel)
    (keys : List KeyRecord) : ∃ rows, loadKeys iso db now models keys = .ok rows ∧
      ∀ key ∈ keys, ∃ config, (key.keyHash, config) ∈ rows ∧ LoadedKey db now key config := by
  induction keys generalizing models with
  | nil => exact ⟨[], rfl, by simp⟩
  | cons key rest ih =>
    obtain ⟨config, hloaded, hconfig⟩ := @loadKey_decided iso db now hschema
      (models.partition fun m => m.consumerId = key.row.consumerId).1 key
    obtain ⟨rows, hrows, hall⟩ :=
      ih (models.partition fun m => m.consumerId = key.row.consumerId).2
    refine ⟨(key.keyHash, config) :: rows,
      Result.bind_ok_iff.2 ⟨_, hloaded, Result.bind_ok_iff.2 ⟨rows, hrows, rfl⟩⟩, ?_⟩
    refine List.forall_mem_cons.2 ⟨⟨config, List.mem_cons_self, hconfig⟩, fun key' hkey' => ?_⟩
    obtain ⟨config', hmem, hconfig'⟩ := hall key' hkey'
    exact ⟨config', List.mem_cons_of_mem _ hmem, hconfig'⟩

/-- The snapshot has every usable key, with the status of its consumer. -/
theorem loadActive_decided (hschema : db.billing.Schema)
    (hhashes : (db.keys.map KeyRecord.keyHash).Nodup) :
    ∃ rows, loadActive iso db now = .ok rows ∧
      ∀ key ∈ db.keys, key.usable (formatInstant now) = true →
        ∃ config, (PartnerSnapshot.fromRows rows).get key.keyHash = some config ∧
          LoadedKey db now key config := by
  obtain ⟨rows, hrows, hall⟩ := @loadKeys_decided iso db now hschema db.models
    ((db.keys.filter (KeyRecord.usable (formatInstant now))).insertionSort fun a b =>
      !(b.row.consumerId < a.row.consumerId))
  have hnodup : (rows.reverse.map Prod.fst).Nodup := by
    rw [List.map_reverse, List.nodup_reverse, loadKeys_hashes hrows,
      ((List.perm_insertionSort _ _).map _).nodup_iff]
    exact (List.filter_sublist.map KeyRecord.keyHash).nodup hhashes
  refine ⟨rows, hrows, fun key hkey husable => ?_⟩
  obtain ⟨config, hmem, hconfig⟩ :=
    hall key ((List.mem_insertionSort _).2 (List.mem_filter.2 ⟨hkey, husable⟩))
  exact ⟨config, Tables.lookup_of_mem hnodup (List.mem_reverse.2 hmem), hconfig⟩

end Snapshot

/-! ## The status view and the worker -/

section Views

variable {iso : Iso8601} {store : Store} {now : Instant}

/-- Over the statements a reader hands on, the two conversions agree. -/
theorem Overdue.map_toOverdueRow {consumerId : String} {rows : List Statement}
    (h : Overdue store consumerId now rows) :
    rows.map Statement.toOverdueRow = rows.map overdueRow := by
  refine List.map_congr_left fun s hs => ?_
  obtain ⟨-, -, hinvoice, -⟩ := h.stored s hs
  unfold Statement.toOverdueRow overdueRow
  rw [hinvoice]

/-- A view that shows the status the rule gives a partner. -/
def Shows (store : Store) (now : Instant) (partner : Partner) (view : ServiceStatusView) : Prop :=
  ∃ status rows, Decided store partner.consumerId partner.billingMode now status ∧
    viewStatus partner.consumerId status rows = .ok view

theorem viewStatus_consumerId {consumerId : String} {status : ServiceStatus}
    {rows : List OverdueRow} {view : ServiceStatusView}
    (h : viewStatus consumerId status rows = .ok view) : view.consumerId = consumerId := by
  obtain ⟨reason, -, h⟩ := Result.bind_ok_iff.1 h
  rw [← Except.ok.inj h]

/-- The deadline of a statement can be rendered. -/
theorem viewStatus_isOk {consumerId : String} {mode : BillingMode} {status : ServiceStatus}
    (h : Decided store consumerId mode now status) (rows : List OverdueRow) :
    ∃ view, viewStatus consumerId status rows = .ok view := by
  cases h with
  | active => exact ⟨_, rfl⟩
  | @suspended hmode s due _ hsuspending =>
    obtain ⟨text, -, hts⟩ := hsuspending.dueAt
    have hreason : viewReason (.suspended (s.overdue due)) = .ok (some _) :=
      Result.bind_ok_iff.2 ⟨_, hts.formatTs, rfl⟩
    exact ⟨_, Result.bind_ok_iff.2 ⟨_, hreason, rfl⟩⟩

/-- Taking the rows of one consumer out leaves those of another. -/
theorem filter_others {overdue : List Statement} {consumerId other : String}
    (hne : other ≠ consumerId) :
    ((overdue.partition fun s => s.consumerId = consumerId).2.filter fun s =>
      s.consumerId = other) = overdue.filter fun s => s.consumerId = other := by
  rw [List.partition_eq_filter_filter, List.filter_filter]
  refine List.filter_congr fun s _ => ?_
  by_cases hs : s.consumerId = other
  · have hother : s.consumerId ≠ consumerId := fun h => hne (hs.symm.trans h)
    simp [hs, hs ▸ hother]
  · simp [hs]

theorem viewStatuses_shows {partners : List Partner}
    (hnodup : (partners.map Partner.consumerId).Nodup) {overdue : List Statement}
    (h : ∀ partner ∈ partners, Overdue store partner.consumerId now
      (overdue.filter fun s => s.consumerId = partner.consumerId)) :
    ∃ views, viewStatuses iso now overdue partners = .ok views ∧
      (∀ partner ∈ partners, ∃ view ∈ views, Shows store now partner view) ∧
      ∀ view ∈ views, ∃ partner ∈ partners, Shows store now partner view := by
  induction partners generalizing overdue with
  | nil => exact ⟨[], rfl, by simp, by simp⟩
  | cons partner rest ih =>
    obtain ⟨hnew, hnodup⟩ := List.nodup_cons.1 hnodup
    have hown : Overdue store partner.consumerId now
        (overdue.partition fun s => s.consumerId = partner.consumerId).1 := by
      rw [List.partition_eq_filter_filter]
      exact h partner List.mem_cons_self
    obtain ⟨status, hstatus, hdecided⟩ := @Overdue.decided iso _ _ _ _ hown partner.billingMode
    rw [← hown.map_toOverdueRow] at hstatus
    obtain ⟨view, hview⟩ := viewStatus_isOk hdecided
      ((overdue.partition fun s => s.consumerId = partner.consumerId).1.map Statement.toOverdueRow)
    obtain ⟨views, hviews, hshown, hfrom⟩ := @ih hnodup
      (overdue.partition fun s => s.consumerId = partner.consumerId).2 fun other hother => by
        have hne : other.consumerId ≠ partner.consumerId := fun heq =>
          hnew (heq ▸ List.mem_map_of_mem hother)
        rw [filter_others hne]
        exact h other (List.mem_cons_of_mem _ hother)
    have hshows : Shows store now partner view := ⟨_, _, hdecided, hview⟩
    refine ⟨view :: views, Result.bind_ok_iff.2 ⟨status, hstatus, Result.bind_ok_iff.2
      ⟨view, hview, Result.bind_ok_iff.2 ⟨views, hviews, rfl⟩⟩⟩, ?_, ?_⟩
    · refine List.forall_mem_cons.2 ⟨⟨view, List.mem_cons_self, hshows⟩, fun other hother => ?_⟩
      obtain ⟨view', hview', hshows'⟩ := hshown other hother
      exact ⟨view', List.mem_cons_of_mem _ hview', hshows'⟩
    · refine List.forall_mem_cons.2 ⟨⟨partner, List.mem_cons_self, hshows⟩, fun view' hview' => ?_⟩
      obtain ⟨other, hother, hshows'⟩ := hfrom view' hview'
      exact ⟨other, List.mem_cons_of_mem _ hother, hshows'⟩

/-- The partners of a scope are partners of the store, one row each. -/
theorem partnersInScope_spec (hschema : store.Schema) (scope : Scope) :
    ((partnersInScope store scope).map Partner.consumerId).Nodup ∧
      ∀ partner, partner ∈ partnersInScope store scope ↔
        partner ∈ store.partners ∧ scope.Contains partner.consumerId := by
  have hlist : ((listPartners store).map Partner.consumerId).Nodup :=
    (((List.perm_insertionSort _ _).map _).nodup_iff).2 hschema.partners
  cases scope with
  | all => exact ⟨hlist, fun partner => by simp [partnersInScope, Scope.Contains, mem_listPartners]⟩
  | list ids =>
    refine ⟨(List.filter_sublist.map _).nodup hlist, fun partner => ?_⟩
    rw [partnersInScope, List.mem_filter, mem_listPartners, decide_eq_true_eq]
    rfl
  | one id =>
    refine ⟨?_, fun partner => ?_⟩
    · rw [partnersInScope]
      cases store.partners.find? _ <;> simp
    · rw [partnersInScope, Option.mem_toList]
      constructor
      · intro hfind
        have hid : partner.consumerId = id := by simpa using List.find?_some hfind
        exact ⟨List.mem_of_find?_eq_some hfind, hid.symm⟩
      · rintro ⟨hpartner, rfl⟩
        exact Tables.find?_key hschema.partners hpartner

/-- Every partner in scope is shown, once, with the status the rule gives it. -/
theorem statusesInScope_decided (hschema : store.Schema) (scope : Scope) :
    ∃ views, statusesInScope iso store scope now = .ok views ∧
      ∀ partner ∈ store.partners, scope.Contains partner.consumerId →
        (∃ view ∈ views, view.consumerId = partner.consumerId) ∧
          ∀ view ∈ views, view.consumerId = partner.consumerId → Shows store now partner view := by
  obtain ⟨hnodup, hmem⟩ := partnersInScope_spec hschema scope
  obtain ⟨views, hviews, hshown, hfrom⟩ := @viewStatuses_shows iso store now _ hnodup
    (overdueStatements store now scope.overdueFor) fun partner hpartner => by
      refine overdueStatements_overdue hschema fun id hid => ?_
      cases scope with
      | one id' =>
        cases hid
        exact ((hmem partner).1 hpartner).2
      | list | all => cases hid
  refine ⟨views, hviews, fun partner hpartner hcontains => ⟨?_, fun view hview hconsumer => ?_⟩⟩
  · obtain ⟨view, hview, status, rows, -, hstatus⟩ :=
      hshown partner ((hmem partner).2 ⟨hpartner, hcontains⟩)
    exact ⟨view, hview, viewStatus_consumerId hstatus⟩
  · obtain ⟨other, hother, status, rows, hdecided, hstatus⟩ := hfrom view hview
    obtain rfl : other = partner := List.inj_on_of_nodup_map hschema.partners
      ((hmem other).1 hother).1 hpartner ((viewStatus_consumerId hstatus).symm.trans hconsumer)
    exact ⟨status, rows, hdecided, hstatus⟩

theorem derivedStatus_decided (hschema : store.Schema) (partner : Partner) :
    ∃ status, derivedStatus iso store now partner = .ok status ∧
      Decided store partner.consumerId partner.billingMode now status := by
  have hoverdue := @overdueStatements_overdue store partner.consumerId now hschema
    (some partner.consumerId) fun id hid => (Option.some.inj hid).symm
  have hall : ((overdueStatements store now (some partner.consumerId)).filter fun s =>
      s.consumerId = partner.consumerId) =
        overdueStatements store now (some partner.consumerId) := by
    refine List.filter_eq_self.2 fun s hs => ?_
    obtain ⟨-, h⟩ := List.mem_filter.1 ((List.mem_insertionSort _).1 hs)
    exact (Bool.and_eq_true_iff.1 h).2
  rw [hall] at hoverdue
  obtain ⟨status, hstatus, hdecided⟩ := @Overdue.decided iso _ _ _ _ hoverdue partner.billingMode
  rw [← hoverdue.map_toOverdueRow] at hstatus
  exact ⟨status, hstatus, hdecided⟩

/-- The worker has seen every partner's status, and it is the one the rule gives. -/
theorem observeStatus_decided (hschema : store.Schema) (observed : Observed) :
    ∃ after, observeStatus iso store now observed = .ok after ∧
      ∀ partner ∈ store.partners, ∃ status, derivedStatus iso store now partner = .ok status ∧
        Decided store partner.consumerId partner.billingMode now status ∧
        after.suspended partner.consumerId = some status.isSuspended := by
  have hstep : ∀ partner state, ∃ state', observePartner iso store now state partner = .ok state' :=
    fun partner state => by
      obtain ⟨status, hstatus, -⟩ := @derivedStatus_decided iso store now hschema partner
      exact ⟨_, Result.bind_ok_iff.2 ⟨status, hstatus, rfl⟩⟩
  obtain ⟨after, hafter⟩ := (@Result.foldlM_isOk_iff _ _ _ (observePartner iso store now)
    (listPartners store) (fun _ => True) (fun _ => True) (fun _ _ _ _ _ _ => trivial)
    (fun partner _ state _ => iff_of_true (hstep partner state) trivial) observed trivial).2
    fun _ _ => trivial
  refine ⟨after, hafter, fun partner hpartner => ?_⟩
  obtain ⟨status, hstatus, hdecided⟩ := @derivedStatus_decided iso store now hschema partner
  refine ⟨status, hstatus, hdecided, ?_⟩
  have hvisits := Result.foldlM_visits (fun (other : Partner) (state : Observed) =>
    other ∈ store.partners → ∀ status, derivedStatus iso store now other = .ok status →
      state.suspended other.consumerId = some status.isSuspended) ?_ ?_ hafter
  · exact hvisits.1 partner (mem_listPartners.2 hpartner) hpartner status hstatus
  · rintro other - state state' hobserve - status hstatus
    obtain ⟨status', hstatus', hstate⟩ := Result.bind_ok_iff.1 hobserve
    cases hstatus.symm.trans hstatus'
    rw [← Except.ok.inj hstate]
    exact Function.update_self _ _ _
  · rintro seen hseen other state state' hobserve hkept hother status hstatus
    obtain ⟨status', hstatus', hstate⟩ := Result.bind_ok_iff.1 hobserve
    rw [← Except.ok.inj hstate]
    show Function.update state.suspended seen.consumerId _ other.consumerId = _
    by_cases hsame : other.consumerId = seen.consumerId
    · -- one row a consumer: the partner seen now is the one seen before
      obtain rfl : other = seen := List.inj_on_of_nodup_map hschema.partners hother
        (mem_listPartners.1 hseen) hsame
      cases hstatus.symm.trans hstatus'
      exact Function.update_self _ _ _
    · rw [Function.update_of_ne hsame]
      exact hkept hother status hstatus

end Views

/-- The three readers give a partner one status.  It is a suspension exactly when the partner is on
invoice terms and a statement suspends it, and it is about the first of those. -/
structure OneDecision (iso : Iso8601) (db : Database) (now : Instant) (partner : Partner)
    (key : KeyRecord) (status : ServiceStatus) : Prop where
  snapshot : ∃ rows config, loadActive iso db now = .ok rows ∧
    (PartnerSnapshot.fromRows rows).get key.keyHash = some config ∧
    config.consumerId = partner.consumerId ∧ config.serviceStatus = status
  views : ∀ scope : Scope, scope.Contains partner.consumerId →
    ∃ views, statusesInScope iso db.billing scope now = .ok views ∧
      (∃ view ∈ views, view.consumerId = partner.consumerId) ∧
      ∀ view ∈ views, view.consumerId = partner.consumerId →
        ∃ rows, viewStatus partner.consumerId status rows = .ok view
  derived : derivedStatus iso db.billing now partner = .ok status
  observed : ∀ observed, ∃ after, observeStatus iso db.billing now observed = .ok after ∧
    after.suspended partner.consumerId = some status.isSuspended
  suspended_iff : status.isSuspended = true ↔ partner.billingMode = .invoice ∧
    ∃ s ∈ db.billing.statements, ∃ due, s.Suspending partner.consumerId now due
  statement : ∀ overdue, status = .suspended overdue →
    ∃ s ∈ db.billing.statements, ∃ due, s.Suspending partner.consumerId now due ∧
      overdue = s.overdue due ∧
      ∀ s' ∈ db.billing.statements, ∀ due', s'.Suspending partner.consumerId now due' →
        due.nanos < due'.nanos ∨ due.nanos = due'.nanos ∧ s.id ≤ s'.id

/-- For a partner with a usable key the snapshot, every status view whose scope has the partner, and
the worker make one decision. -/
theorem one_suspension_decision (iso : Iso8601) {db : Database} {now : Instant}
    (hschema : db.billing.Schema) (hhashes : (db.keys.map KeyRecord.keyHash).Nodup)
    {partner : Partner} (hpartner : partner ∈ db.billing.partners) {key : KeyRecord}
    (hkey : key ∈ db.keys) (hconsumer : key.row.consumerId = partner.consumerId)
    (husable : key.usable (formatInstant now) = true) :
    ∃ status, OneDecision iso db now partner key status := by
  obtain ⟨status, hstatus, hdecided⟩ := @derivedStatus_decided iso db.billing now hschema partner
  have hunique : ∀ {status'},
      Decided db.billing partner.consumerId partner.billingMode now status' → status' = status :=
    fun h => h.unique hschema.statements hdecided
  refine ⟨status, ?_, fun scope hscope => ?_, hstatus, fun observed => ?_,
    hdecided.isSuspended_iff, fun overdue hoverdue => ?_⟩
  · obtain ⟨rows, hrows, hall⟩ := @loadActive_decided iso db now hschema hhashes
    obtain ⟨config, hget, hconfig⟩ := hall key hkey husable
    refine ⟨rows, config, hrows, hget, hconfig.consumer.trans hconsumer, hunique ?_⟩
    rw [← hconsumer, ← hconfig.terms partner hpartner hconsumer.symm]
    exact hconfig.decided
  · obtain ⟨views, hviews, hall⟩ := @statusesInScope_decided iso db.billing now hschema scope
    obtain ⟨hshown, hviewed⟩ := hall partner hpartner hscope
    refine ⟨views, hviews, hshown, fun view hview heq => ?_⟩
    obtain ⟨status', rows, hdecided', hrendered⟩ := hviewed view hview heq
    rw [hunique hdecided'] at hrendered
    exact ⟨rows, hrendered⟩
  · obtain ⟨after, hafter, hall⟩ := @observeStatus_decided iso db.billing now hschema observed
    obtain ⟨status', -, hdecided', hseen⟩ := hall partner hpartner
    exact ⟨after, hafter, by rw [hseen, hunique hdecided']⟩
  · subst hoverdue
    cases hdecided with
    | @suspended hmode s due hs hsuspending hleast =>
      exact ⟨s, hs, due, hsuspending, rfl, hleast⟩

namespace Sample

/-- A complete invoice statement of a day's usage, due at an instant. -/
def invoice (id : Nat) (due : Instant) : Statement :=
  { statementOf id draft (count 3000000) (some (formatInstant due)) (formatInstant now) with
    billingMode := .invoice
    incompleteUsageCount := 0 }

/-- A partner with a key and two overdue invoices, the later one written first. -/
def overdueDatabase : Database :=
  { keyDatabase with
    billing :=
      { store (partner .invoice (count 720)) [] with
        statements := [invoice 1 now, invoice 2 noon] } }

theorem overdueDatabase_schema : overdueDatabase.billing.Schema where
  partners := List.nodup_singleton _
  statements := show [1, 2].Nodup by decide
  deadlines s hs dueAt hdue := by
    rcases List.mem_cons.1 hs with rfl | hs
    · exact ⟨now.utc, Option.some.inj hdue ▸ canonicalTs_formatInstant now⟩
    · rw [List.mem_singleton.1 hs] at hdue
      exact ⟨noon.utc, Option.some.inj hdue ▸ canonicalTs_formatInstant noon⟩

end Sample

/-- A partner with two overdue invoices. -/
theorem one_suspension_decision_sample :
    ∃ status, OneDecision Sample.iso Sample.overdueDatabase Sample.now
      (Sample.partner .invoice (Sample.count 720)) Sample.keyRecord status :=
  one_suspension_decision Sample.iso Sample.overdueDatabase_schema (List.nodup_singleton _)
    (List.mem_singleton_self _) (List.mem_singleton_self _) rfl rfl

end PartnerPortal
