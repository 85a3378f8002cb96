import PartnerPortal.Billing.Period

/-!
# Partners

The durable row of a partner and the due date its terms give a period.
-/

namespace PartnerPortal

open MachineInt

/-- How a partner settles what they owe. -/
inductive BillingMode where
  | invoice
  | reconciliation
deriving Repr, DecidableEq

/-- Whether the mode carries a payment obligation. -/
def BillingMode.owesPayment : BillingMode → Bool
  | .invoice => true
  | .reconciliation => false

/-- A row of `partners`.  The payment terms are not negative, as the table checks. -/
structure Partner where
  consumerId : String
  name : String
  billingEmail : String
  billingMode : BillingMode
  paymentTermsMinutes : Count
  createdAt : String
  updatedAt : String
deriving DecidableEq

namespace Partner

/-- The instant payment for a period falls due: its exclusive end plus the terms, for an invoice
partner. -/
def dueAtFor (partner : Partner) (periodEnd : OffsetDateTime) :
    Except Panic (Option OffsetDateTime) :=
  if partner.billingMode.owesPayment then do
    let terms ← Duration.minutes partner.paymentTermsMinutes.value
    return periodEnd.checkedAdd terms
  else .ok none

theorem dueAtFor_reconciliation {partner : Partner} (h : partner.billingMode = .reconciliation)
    (periodEnd : OffsetDateTime) : partner.dueAtFor periodEnd = .ok none := by
  simp [dueAtFor, h, BillingMode.owesPayment]

/-- The due date of an invoice partner exists exactly when the terms are a duration and the sum is
on the calendar. -/
theorem dueAtFor_isSome_iff {partner : Partner} (h : partner.billingMode = .invoice)
    (periodEnd : OffsetDateTime) :
    (∃ due, partner.dueAtFor periodEnd = .ok (some due)) ↔
      FitsI64 (partner.paymentTermsMinutes.value * 60) ∧
        periodEnd.wall + partner.paymentTermsMinutes.value * 60 * nanosPerSecond <
          (maxDay + 1) * nanosPerDay := by
  have hterms := partner.paymentTermsMinutes.nonneg
  have hrange := periodEnd.inRange
  simp only [dueAtFor, h, BillingMode.owesPayment, if_true]
  cases hd : Duration.minutes partner.paymentTermsMinutes.value with
  | error e =>
    have hfits : ¬ FitsI64 (partner.paymentTermsMinutes.value * 60) := by
      intro hfits
      rw [Duration.minutes_ok_iff.2 ⟨hfits, rfl⟩] at hd
      cases hd
    simp [hfits]
  | ok d =>
    obtain ⟨hfits, hnanos⟩ := Duration.minutes_ok_iff.1 hd
    have hsome := @OffsetDateTime.checkedAdd_isSome_iff periodEnd d
    rw [hnanos, Option.isSome_iff_exists] at hsome
    simp only [Result.ok_bind, Result.pure_eq, Except.ok.injEq, hsome, hfits, true_and]
    unfold OffsetDateTime.wall nanosPerSecond at *
    omega

end Partner

end PartnerPortal
