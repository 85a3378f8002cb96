import PartnerPortal.Auth.Scope
import PartnerPortal.Ledger.Retention

/-!
# Dashboard queries

The query parameters of the dashboard's endpoints, the time window they resolve to, and the filters.
-/

namespace PartnerPortal.Dashboard

open Prepared

inductive DashboardError where
  | badRequest (message : String)
  | notFound (message : String)
  | database (error : SqliteError)
  | internal (message : String)
deriving Repr, DecidableEq

/-- The cast `as u64`. -/
def asU64 (n : Int) : Nat := (n % 18446744073709551616).toNat

/-- How a handler ends without an answer. -/
inductive Failure where
  | panicked (panic : Panic)
  | error (error : DashboardError)
deriving Repr, DecidableEq

/-- What a handler answers. -/
abbrev Answer (α : Type) : Type := Except Failure α

def refuse {α : Type} (message : String) : Answer α := .error (.error (.badRequest message))

def orPanic {α : Type} (result : Except Panic α) : Answer α := result.mapError .panicked

def orDatabase {α : Type} (result : Except SqliteError α) : Answer α :=
  result.mapError fun e => .error (.database e)

def defaultLimit : Nat := 50

def maxLimit : Nat := 200

/-- `end` is `finish` here. -/
structure DashboardQuery where
  range : String := "24h"
  start : Option String := none
  finish : Option String := none
  model : String := "all"
  status : String := "all"
  cursor : Option String := none
  limit : Nat := defaultLimit
  consumers : String := ""
deriving Repr, DecidableEq

/-- How texts are shown in a message, and `time`'s second parser. -/
structure Texts where
  /-- `{:?}` of a text -/
  quoted : String → String
  iso : Iso8601

structure TimeWindow where
  startTs : String
  endTs : String
  startHour : String
  endHour : String
deriving Repr, DecidableEq

section Window

variable (texts : Texts) (now : Instant)

def daysAgo (days : Int) : Answer OffsetDateTime := do
  let span ← orPanic (Duration.days days)
  orPanic (now.utc.sub span)

/-- A bound of a custom range. -/
def customBound (name raw : String) : Answer OffsetDateTime := do
  let parsed ← orPanic (parseTs texts.iso raw)
  match parsed with
  | some ts => return ts
  | none => refuse ("`" ++ name ++ "` is not a valid ISO 8601 timestamp: " ++ texts.quoted raw)

def customRange (query : DashboardQuery) : Answer (OffsetDateTime × OffsetDateTime) :=
  match query.start, query.finish with
  | none, _ => refuse "`start` is required when range=custom"
  | some _, none => refuse "`end` is required when range=custom"
  | some startRaw, some endRaw => do
    let start ← customBound texts "start" startRaw
    let finish ← customBound texts "end" endRaw
    if finish ≤ start then refuse "`start` must be earlier than `end`" else return (start, finish)

/-- The start of a range that ends now.  A range that is not known is 24 hours. -/
def rangeStart (range : String) : Answer OffsetDateTime :=
  if range = "today" then return OffsetDateTime.midnight now.utc.date 0
  else if range = "7d" then daysAgo now 7
  else if range = "14d" then daysAgo now 14
  else if range = "30d" then daysAgo now 30
  else daysAgo now 1

def rangeBounds (query : DashboardQuery) : Answer (OffsetDateTime × OffsetDateTime) :=
  if query.range = "custom" then customRange texts query
  else do
    let start ← rangeStart now query.range
    return (start, now.utc)

def predates (retentionDays : UInt32) (earliest : String) : String :=
  "`start` predates the " ++ toString retentionDays.toNat ++ "-day retention window (earliest: " ++
    earliest ++ ")"

/-- The texts of a window's bounds. -/
def windowOf (start finish : OffsetDateTime) : Answer TimeWindow := do
  let startTs ← orPanic (formatTs start)
  let endTs ← orPanic (formatTs finish)
  let startHour ← orPanic (formatHour start)
  let endHour ← orPanic (formatHour finish)
  return { startTs, endTs, startHour, endHour }

/-- `TimeWindow::resolve` -/
def TimeWindow.resolve (retentionDays : UInt32) (query : DashboardQuery) : Answer TimeWindow := do
  let (start, finish) ← rangeBounds texts now query
  let earliest ← daysAgo now (Retention.keptDays retentionDays)
  if start < earliest then do
    let text ← orPanic (formatTs earliest)
    refuse (predates retentionDays text)
  -- an end in the future is now
  else windowOf start (if finish ≤ now.utc then finish else now.utc)

end Window

/-! ## Filters -/

/-- `eq_ignore_ascii_case` -/
def eqIgnoreAsciiCase (a b : String) : Bool := a.toList.map Char.toLower = b.toList.map Char.toLower

def modelFilter (query : DashboardQuery) : Option String :=
  let m := Text.trim query.model
  if m = "" || eqIgnoreAsciiCase m "all" then none else some m

def statusFilter (query : DashboardQuery) : Option String :=
  let status := String.ofList ((Text.trim query.status).toList.map Char.toLower)
  if status = "completed" || status = "failed" || status = "interrupted" || status = "in_flight"
  then some status else none

end PartnerPortal.Dashboard

namespace PartnerPortal

/-- `RequestStatus::as_str` -/
def RequestStatus.asStr : RequestStatus → String
  | .inFlight => "in_flight"
  | .completed => "completed"
  | .failed => "failed"
  | .interrupted => "interrupted"

end PartnerPortal
