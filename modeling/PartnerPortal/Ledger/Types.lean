import PartnerPortal.Billing.Pricing
import PartnerPortal.Timefmt

/-!
# Ledger types

The record of one request as the proxy carries it, and the row of `usage_records` it is stored in.
A row's token and price columns are absent or not negative, as the table checks.
-/

namespace PartnerPortal

open MachineInt

inductive Endpoint where
  | chatCompletions
  | responses
  | models
deriving Repr, DecidableEq

/-- Classify a request target.  Its query is not part of the path. -/
def Endpoint.fromPath (path : String) : Option Endpoint :=
  let path := String.ofList (path.toList.takeWhile fun c => c ≠ '?' && c ≠ '#')
  if path = "/v1/chat/completions" then some .chatCompletions
  else if path = "/v1/responses" then some .responses
  else if path = "/v1/models" then some .models
  else none

/-- A request is `inFlight` until it reaches one of the three terminal states. -/
inductive RequestStatus where
  | inFlight
  | completed
  | failed
  | interrupted
deriving Repr, DecidableEq

def RequestStatus.isTerminal : RequestStatus → Bool
  | .inFlight => false
  | _ => true

inductive UsageStatus where
  | available
  | unavailable
  | partialUsage
deriving Repr, DecidableEq

/-- Token counts as the upstream reported them. -/
structure Usage where
  inputTokens : Option UInt64 := none
  outputTokens : Option UInt64 := none
  cachedTokens : Option UInt64 := none
deriving DecidableEq

def Usage.status (usage : Usage) : UsageStatus :=
  if usage.inputTokens.isSome && usage.outputTokens.isSome then .available
  else if usage.inputTokens.isSome || usage.outputTokens.isSome then .partialUsage
  else .unavailable

/-- One request, as the proxy hands it to the ledger. -/
structure RequestRecord where
  requestId : String
  createdAt : Instant
  consumerId : String
  model : String
  endpoint : Endpoint
  streaming : Bool
  httpStatus : Option UInt16
  requestStatus : RequestStatus
  usage : Usage
  ttftMs : Option UInt64
  durationMs : UInt64
  errorMessage : Option String
  errorBody : Option String
  pricing : Option PricingSnapshot
deriving DecidableEq

namespace RequestRecord

/-- A request that was just accepted. -/
def new (requestId : String) (now : Instant) (consumerId model : String) (endpoint : Endpoint)
    (streaming : Bool) : RequestRecord where
  requestId := requestId
  createdAt := now
  consumerId := consumerId
  model := model
  endpoint := endpoint
  streaming := streaming
  httpStatus := none
  requestStatus := .inFlight
  usage := {}
  ttftMs := none
  durationMs := 0
  errorMessage := none
  errorBody := none
  pricing := none

def withPricing (record : RequestRecord) (prices : PricingSnapshot) : RequestRecord :=
  { record with pricing := some prices }

def complete (record : RequestRecord) (httpStatus : UInt16) (usage : Usage) (durationMs : UInt64) :
    RequestRecord :=
  { record with
    httpStatus := some httpStatus
    requestStatus := .completed
    usage := usage
    durationMs := durationMs }

def fail (record : RequestRecord) (httpStatus : Option UInt16) (error : String)
    (durationMs : UInt64) : RequestRecord :=
  { record with
    httpStatus := httpStatus
    requestStatus := .failed
    errorMessage := some error
    durationMs := durationMs }

/-- The first reason is kept. -/
def interrupt (record : RequestRecord) (reason : String) (durationMs : UInt64) : RequestRecord :=
  { record with
    requestStatus := .interrupted
    durationMs := durationMs
    errorMessage := some (record.errorMessage.getD reason) }

def isTerminal (record : RequestRecord) : Bool := record.requestStatus.isTerminal

def setTtft (record : RequestRecord) (ttftMs : UInt64) : RequestRecord :=
  { record with ttftMs := some ttftMs }

def usageStatus (record : RequestRecord) : UsageStatus :=
  record.usage.status

def setUsage (record : RequestRecord) (usage : Usage) : RequestRecord :=
  { record with usage := usage }

end RequestRecord

/-- A row of `usage_records`. -/
structure UsageRow where
  id : Nat
  requestId : String
  createdAt : String
  consumerId : String
  model : String
  endpoint : Endpoint
  streaming : Bool
  httpStatus : Option UInt16
  requestStatus : RequestStatus
  instanceId : Option String
  inputTokens : Option Count
  outputTokens : Option Count
  cachedTokens : Option Count
  ttftMs : Option Count
  durationMs : Int
  usageStatus : UsageStatus
  errorMessage : Option String
  errorBody : Option String
  inputPriceSnapshot : Option Count
  cachedInputPriceSnapshot : Option Count
  outputPriceSnapshot : Option Count
deriving DecidableEq

/-- What a database call can fail with. -/
inductive SqliteError where
  /-- another connection holds the lock -/
  | busy
  /-- `SUM` left the range of an integer -/
  | integerOverflow
  /-- a bound value has no SQLite representation -/
  | toSqlConversionFailure
  | constraintUnique
  | constraintPrimaryKey
  | constraintForeignKey
  | constraintCheck
  /-- I/O, corruption and the rest -/
  | other
deriving Repr, DecidableEq

/-- 2026-09-27, at noon -/
def Sample.noon : Instant := ⟨1790510400000000000, by decide⟩

end PartnerPortal
