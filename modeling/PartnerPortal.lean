import PartnerPortal.Ledger.Acks
import PartnerPortal.Ledger.Collapse
import PartnerPortal.Ledger.Liveness
import PartnerPortal.Ledger.Prices
import PartnerPortal.Ledger.StoredHours
import PartnerPortal.Ledger.Upgrade
import PartnerPortal.ApiKeys.Lifecycle
import PartnerPortal.ApiKeys.Propagation
import PartnerPortal.Proxy.Credentials
import PartnerPortal.Proxy.Headers
import PartnerPortal.Proxy.SseReference
import PartnerPortal.Proxy.HeldBytes
import PartnerPortal.Proxy.StoredTexts
import PartnerPortal.Proxy.Counts
import PartnerPortal.Proxy.Metered
import PartnerPortal.Proxy.Drained
import PartnerPortal.Billing.CalendarDays
import PartnerPortal.Billing.Catchup
import PartnerPortal.Billing.CatchupWalk
import PartnerPortal.Billing.Closable
import PartnerPortal.Billing.Immutable
import PartnerPortal.Billing.Overlap
import PartnerPortal.Billing.Rechecked
import PartnerPortal.Billing.Unbilled
import PartnerPortal.Billing.Mailing
import PartnerPortal.Billing.SmtpCredential
import PartnerPortal.Billing.Delivered
import PartnerPortal.Billing.Capabilities
import PartnerPortal.Dashboard.HourWindows
import PartnerPortal.Dashboard.ClientTimestamps
import PartnerPortal.Dashboard.Invalidation
import PartnerPortal.Dashboard.StreamBody
import PartnerPortal.Dashboard.RequestList
import PartnerPortal.Dashboard.Trail
import PartnerPortal.Admin.PriceForm
import PartnerPortal.Keygen.Run
import PartnerPortal.Config.HotReload
