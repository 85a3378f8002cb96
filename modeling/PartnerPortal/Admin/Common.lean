import PartnerPortal.ApiKeys.Store

/-!
# How an admin request fails

What every `/api/admin` route shares.  A manager is the only caller, so a handler starts after that
check.
-/

namespace PartnerPortal

inductive AdminError where
  | badRequest (message : Text.Formatted)
  | keyNotFound (id : Int)
  | partnerNotFound (consumerId : String)
  | partnerExists (consumerId : String)
  | statementNotFound (id : Int)
  | statementNotPayable (id : Int) (billingMode : String)
  | key (error : ApiKeyError)
  | billing (error : BillingError)
  /-- the blocking task did not finish -/
  | join
deriving DecidableEq

/-- `From<BillingError>` -/
def AdminError.ofBilling : BillingError → AdminError
  | .partnerNotFound consumerId => .partnerNotFound consumerId
  | .partnerExists consumerId => .partnerExists consumerId
  | .statementNotPayable id billingMode => .statementNotPayable id billingMode
  | .invalid message => .badRequest message
  | .database error => .billing (.database error)

end PartnerPortal
