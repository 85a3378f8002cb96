import PartnerPortal.Billing.Store

/-!
# Service status

Whether a partner may be served, derived from the overdue statements read for it.

Results:
- `statusFor_suspended_iff` — a partner is suspended exactly when it is on invoice terms and one of
  the statements is complete, not zero and past its due date.
-/

namespace PartnerPortal

/-- The oldest statement that can suspend a partner. -/
structure OverdueStatement where
  id : Nat
  billingDate : String
  dueAt : OffsetDateTime
  amount : MicroUsd
deriving DecidableEq

/-- Whether a partner may be served. -/
inductive ServiceStatus where
  | active
  | suspended (invoiceOverdue : OverdueStatement)
deriving DecidableEq

def ServiceStatus.isSuspended : ServiceStatus → Bool
  | .active => false
  | .suspended _ => true

/-- The message a suspended request is refused with. -/
def ServiceStatus.suspensionMessage : ServiceStatus → Option String
  | .active => none
  | .suspended _ => some "Service is suspended because an invoice is overdue"

/-- One row of the overdue-statement lookup. -/
structure OverdueRow where
  billingMode : String
  id : Nat
  billingDate : String
  dueAt : String
  totalAmountMicroUsd : MicroUsd
  incompleteUsageCount : Nat
deriving DecidableEq

/-- The value stored in `partners.billing_mode`. -/
def BillingMode.asStr : BillingMode → String
  | .invoice => "invoice"
  | .reconciliation => "reconciliation"

/-- A statement the product can defend and enforce. -/
def OverdueRow.enforceable (row : OverdueRow) : Bool :=
  row.incompleteUsageCount = 0 && 0 < row.totalAmountMicroUsd.value

/-- The first row whose due date has passed.  A due date that cannot be read is passed over. -/
def firstOverdue (iso : Iso8601) (now : OffsetDateTime) :
    List OverdueRow → Except Panic ServiceStatus
  | [] => .ok .active
  | row :: rest => do
    match ← parseTs iso row.dueAt with
    | none => firstOverdue iso now rest
    | some dueAt =>
      if now < dueAt then firstOverdue iso now rest
      else return .suspended ⟨row.id, row.billingDate, dueAt, row.totalAmountMicroUsd⟩

/-- Decide a partner's service status. -/
def statusFor (iso : Iso8601) (billingMode : String) (now : OffsetDateTime)
    (overdue : List OverdueRow) : Except Panic ServiceStatus :=
  if billingMode ≠ "invoice" then .ok .active
  else firstOverdue iso now (overdue.filter OverdueRow.enforceable)

/-- A statement that suspends. -/
structure OverdueRow.Suspends (iso : Iso8601) (now : OffsetDateTime) (row : OverdueRow) : Prop where
  enforceable : row.enforceable = true
  past : ∃ dueAt, parseTs iso row.dueAt = .ok (some dueAt) ∧ dueAt ≤ now

theorem firstOverdue_suspended_iff {iso : Iso8601} {now : OffsetDateTime}
    {rows : List OverdueRow} {status : ServiceStatus} (h : firstOverdue iso now rows = .ok status) :
    status.isSuspended = true ↔
      ∃ row ∈ rows, ∃ dueAt, parseTs iso row.dueAt = .ok (some dueAt) ∧ dueAt ≤ now := by
  induction rows with
  | nil =>
    cases h
    simp [ServiceStatus.isSuspended]
  | cons row rest ih =>
    obtain ⟨parsed, hparsed, h⟩ := Result.bind_ok_iff.1 h
    simp only [List.exists_mem_cons_iff, hparsed, Except.ok.injEq]
    cases parsed with
    | none =>
      simp only [reduceCtorEq, false_and, exists_false, false_or]
      exact ih h
    | some dueAt =>
      simp only [Option.some.injEq, exists_eq_left'] at h ⊢
      split at h
      · rename_i hlater
        rw [OffsetDateTime.le_iff, iff_false_intro (not_le.2 hlater), false_or]
        exact ih h
      · rename_i hpast
        cases h
        simp only [ServiceStatus.isSuspended, true_iff]
        exact Or.inl (Int.not_lt.1 hpast)

/-- A partner is suspended exactly when it is on invoice terms and one of the rows suspends. -/
theorem statusFor_suspended_iff {iso : Iso8601} {billingMode : String} {now : OffsetDateTime}
    {overdue : List OverdueRow} {status : ServiceStatus}
    (h : statusFor iso billingMode now overdue = .ok status) :
    status.isSuspended = true ↔
      billingMode = "invoice" ∧ ∃ row ∈ overdue, row.Suspends iso now := by
  unfold statusFor at h
  split at h
  · rename_i hmode
    cases h
    simp [ServiceStatus.isSuspended, hmode]
  · rename_i hmode
    rw [firstOverdue_suspended_iff h]
    simp only [not_not.1 hmode, true_and, List.mem_filter]
    constructor
    · rintro ⟨row, ⟨hrow, henforceable⟩, hpast⟩
      exact ⟨row, hrow, henforceable, hpast⟩
    · rintro ⟨row, hrow, henforceable, hpast⟩
      exact ⟨row, ⟨hrow, henforceable⟩, hpast⟩

end PartnerPortal
