import PartnerPortal.Billing.Generator
import PartnerPortal.Lib.Text

/-!
# The configuration and its checks

The fields of the configuration that the loader checks or the modelled jobs read, and the loader's
checks in their order.  What the `http` crate's parser makes of a URL is the parameter `ParseUri`.

Results:
- `validate_generator` — an accepted configuration has a billing calendar and a delay that is not
  negative.
-/

namespace PartnerPortal

open MachineInt

/-! ## Types -/

structure UpstreamConfig where
  baseUrl : String
  apiKey : String

structure ManagerConfig where
  password : String

structure DatabaseConfig where
  retentionDays : UInt32 := 60
  queueSize : UInt64 := 10000
  batchSize : UInt64 := 100
  retentionBatchSize : UInt64 := 2000

structure EmailConfig where
  enabled : Bool := false
  smtpHost : String := ""
  fromAddress : String := ""

structure BillingConfig where
  timezoneOffsetMinutes : Int32 := 0
  closeDelayMinutes : Int64 := 5
  email : EmailConfig := {}

structure Config where
  upstream : UpstreamConfig
  manager : Option ManagerConfig := none
  database : DatabaseConfig := {}
  billing : BillingConfig := {}

inductive ConfigError where
  | invalidUpstreamUrl (message : String)
  | invalid (message : String)
deriving Repr, DecidableEq

/-- The parts of a parsed URI that are looked at. -/
structure Uri where
  scheme : Option String
  /-- the authority's text and its host -/
  authority : Option (String × String)

abbrev ParseUri := String → Option Uri

/-! ## Checks -/

/-- Refuse unless a condition holds. -/
def ensure {ε : Type} (condition : Prop) [Decidable condition] (error : ε) : Except ε Unit :=
  if condition then .ok () else .error error

theorem ensure_ok_iff {ε : Type} {condition : Prop} [Decidable condition] {error : ε}
    {u : Unit} : ensure condition error = .ok u ↔ condition := by
  unfold ensure
  split <;> rename_i h <;> simp [h]

def invalidUrl (baseUrl reason : String) : ConfigError :=
  .invalidUpstreamUrl ("upstream.base_url " ++ reason ++ ": '" ++ baseUrl ++ "'")

/-- The scheme of the upstream is http or https. -/
def validateScheme (baseUrl : String) : Option String → Except ConfigError Unit
  | some scheme => ensure (scheme = "http" ∨ scheme = "https")
      (invalidUrl baseUrl ("must use http or https, not '" ++ scheme ++ "'"))
  | none => .error (invalidUrl baseUrl "has no scheme (expected http:// or https://)")

/-- The upstream's URL is a prefix with a host and no credentials. -/
def validateBaseUrl (parseUri : ParseUri) (baseUrl : String) : Except ConfigError Unit := do
  match parseUri baseUrl with
  | none =>
    .error (invalidUrl baseUrl "is not a valid URL (expected http://host or https://host)")
  | some uri => do
    validateScheme baseUrl uri.scheme
    ensure (∀ authority ∈ uri.authority, '@' ∉ authority.1.toList)
      (.invalidUpstreamUrl ("upstream.base_url must not embed credentials: the userinfo is " ++
        "discarded before the request is sent, so it would leak the value " ++
        "without authenticating anything. Use upstream.api_key"))
    ensure (∃ authority ∈ uri.authority, authority.2 ≠ "") (invalidUrl baseUrl "has no host")

def validateBilling (billing : BillingConfig) : Except ConfigError Unit := do
  ensure (BillingTimezone.fromOffsetMinutes billing.timezoneOffsetMinutes.toInt).isOk
    (.invalid ("billing.timezone_offset_minutes is " ++
      toString billing.timezoneOffsetMinutes.toInt ++ "; it must be a whole number of minutes " ++
      "between " ++ toString BillingTimezone.minOffsetMinutes ++ " and " ++
      toString BillingTimezone.maxOffsetMinutes))
  ensure (0 ≤ billing.closeDelayMinutes.toInt)
    (.invalid ("billing.close_delay_minutes is " ++ toString billing.closeDelayMinutes.toInt ++
      "; it cannot be negative, because a day closed before it ends loses the requests at its " ++
      "boundary"))
  ensure (billing.email.enabled = true → Text.trim billing.email.smtpHost ≠ "")
    (.invalid ("billing.email.enabled is true but billing.email.smtp_host is empty; " ++
      "there is no relay to send through"))
  ensure (billing.email.enabled = true → Text.trim billing.email.fromAddress ≠ "")
    (.invalid ("billing.email.enabled is true but billing.email.from_address is empty; " ++
      "a statement needs a sender a reply could reach"))

/-- `ConfigLoader::validate` -/
def validate (parseUri : ParseUri) (config : Config) : Except ConfigError Unit := do
  validateBaseUrl parseUri config.upstream.baseUrl
  ensure (config.upstream.apiKey ≠ "") (.invalid "upstream.api_key cannot be empty")
  ensure (∀ manager ∈ config.manager, manager.password ≠ "")
    (.invalid "manager.password cannot be empty when the manager block is present")
  ensure (config.database.queueSize ≠ 0)
    (.invalid ("database.queue_size must be at least 1; a zero-capacity metering queue " ++
      "cannot be built"))
  ensure (config.database.batchSize ≠ 0)
    (.invalid ("database.batch_size must be at least 1; a zero batch never arms the writer's " ++
      "receive, so metering would stall while readiness stayed green"))
  validateBilling config.billing

/-! ## What an accepted configuration gives the jobs -/

theorem fitsI64_toInt (n : Int64) : FitsI64 n.toInt := by
  have hlow := n.le_toInt
  have hhigh := n.toInt_lt
  unfold FitsI64 i64Max i64Min
  omega

/-- The generator the billing worker is built with. -/
def BillingConfig.generator (billing : BillingConfig) : Except TimezoneError Generator := do
  let timezone ← BillingTimezone.fromOffsetMinutes billing.timezoneOffsetMinutes.toInt
  return Generator.new timezone billing.closeDelayMinutes.toInt (fitsI64_toInt _)

/-- An accepted configuration has a billing calendar, and its delay is not raised to zero. -/
theorem validate_generator {parseUri : ParseUri} {config : Config}
    (h : validate parseUri config = .ok ()) :
    ∃ gen, config.billing.generator = .ok gen ∧
      gen.closeDelayMinutes = config.billing.closeDelayMinutes.toInt := by
  obtain ⟨-, -, h⟩ := Result.bind_ok_iff.1 h
  obtain ⟨-, -, h⟩ := Result.bind_ok_iff.1 h
  obtain ⟨-, -, h⟩ := Result.bind_ok_iff.1 h
  obtain ⟨-, -, h⟩ := Result.bind_ok_iff.1 h
  obtain ⟨-, -, h⟩ := Result.bind_ok_iff.1 h
  obtain ⟨_, htimezone, h⟩ := Result.bind_ok_iff.1 h
  obtain ⟨_, hdelay, -⟩ := Result.bind_ok_iff.1 h
  rw [ensure_ok_iff] at htimezone hdelay
  cases htz : BillingTimezone.fromOffsetMinutes config.billing.timezoneOffsetMinutes.toInt with
  | error e =>
    rw [htz] at htimezone
    cases htimezone
  | ok timezone =>
    refine ⟨_, by rw [BillingConfig.generator, htz]; rfl, ?_⟩
    simp only [Generator.new]
    omega

end PartnerPortal
