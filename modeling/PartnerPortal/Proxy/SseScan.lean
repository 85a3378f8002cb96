import PartnerPortal.Lib.Lines
import PartnerPortal.Lib.Text
import PartnerPortal.Lib.Utf8
import PartnerPortal.Proxy.Meter
import PartnerPortal.Proxy.Usage

/-!
# The scanner of a streamed response

It is fed every chunk as it passes through, keeps no more than the event in progress, and gives up
on an event that is too large.
-/

namespace PartnerPortal

/-- Maximum bytes held for a single event that is not complete. -/
def maxEventBytes : Nat := 256 * 1024

def usizeMax : Nat := 18446744073709551615

/-- What the scanner observed over the life of a stream. -/
structure ScanOutcome where
  usage : Option Usage := none
  jsonEvents : Nat := 0
  truncated : Bool := false
  unparsableEvents : Nat := 0
deriving DecidableEq

structure SseUsageScanner where
  endpoint : Endpoint
  /-- bytes of the current line, received without a terminator yet -/
  lineBuf : Bytes := []
  /-- data of the event being read -/
  pendingData : String := ""
  /-- bytes of the event being read, terminators included -/
  eventBytes : Nat := 0
  /-- the previous byte was a CR that ended a line -/
  afterCr : Bool := false
  outcome : ScanOutcome := {}

/-- The first terminator of some bytes, between what is before and what is after it. -/
def memchr2 : Bytes → Option (Bytes × UInt8 × Bytes)
  | [] => none
  | b :: rest =>
    if b = Lines.lf ∨ b = Lines.cr then some ([], b, rest)
    else (memchr2 rest).map fun found => (b :: found.1, found.2)

theorem memchr2_length {bytes line after : Bytes} {terminator : UInt8}
    (h : memchr2 bytes = some (line, terminator, after)) : after.length < bytes.length := by
  induction bytes generalizing line with
  | nil => cases h
  | cons b rest ih =>
    rw [memchr2] at h
    split at h
    · cases h
      exact Nat.lt_succ_self _
    · obtain ⟨⟨line, terminator, after⟩, hfound, heq⟩ := Option.map_eq_some_iff.1 h
      cases heq
      exact Nat.lt_succ_of_lt (ih hfound)

/-- The data of a line that carries any, without the optional space after the colon. -/
def dataValue (line : Bytes) : Option String :=
  match line with
  | 0x64 :: 0x61 :: 0x74 :: 0x61 :: 0x3A :: rest =>
    some (Utf8.fromUtf8Lossy (match rest with
      | 0x20 :: value => value
      | value => value))
  | _ => none

/-- The values of an event's data lines are joined again. -/
def pushData (pending value : String) : String :=
  (if pending = "" then pending else pending.push '\n') ++ value

namespace SseUsageScanner

/-- Abandon scanning, dropping what was buffered and any usage already seen. -/
def truncate (scanner : SseUsageScanner) : SseUsageScanner :=
  { scanner with
    outcome := { scanner.outcome with usage := none, truncated := true }
    lineBuf := []
    pendingData := ""
    afterCr := false
    eventBytes := 0 }

/-- Account more bytes to the event being read.  Nothing is left of a scanner that would exceed the
cap but its truncation. -/
def reserve (scanner : SseUsageScanner) (n : Nat) : Option SseUsageScanner :=
  let eventBytes := min (scanner.eventBytes + n) usizeMax
  if maxEventBytes < eventBytes then none else some { scanner with eventBytes := eventBytes }

section Parsing

variable (parseJson : String → Option JsonValue)

def flushEvent (scanner : SseUsageScanner) : SseUsageScanner :=
  if scanner.pendingData = "" then scanner
  else
    let data := scanner.pendingData
    let scanner := { scanner with pendingData := "" }
    -- a sentinel, not JSON
    if Text.trim data = "[DONE]" then scanner
    else
      match parseJson data with
      | none =>
        { scanner with
          outcome := { scanner.outcome with
            unparsableEvents := scanner.outcome.unparsableEvents + 1 } }
      | some value =>
        let outcome := { scanner.outcome with jsonEvents := scanner.outcome.jsonEvents + 1 }
        match streamUsage scanner.endpoint value with
        | some usage => { scanner with outcome := { outcome with usage := some usage } }
        | none => { scanner with outcome := outcome }

/-- Apply one complete line.  A blank one ends the event, and the next counts from zero. -/
def absorbLine (scanner : SseUsageScanner) (line : Bytes) : SseUsageScanner :=
  if line = [] then { scanner.flushEvent parseJson with eventBytes := 0 }
  else
    match dataValue line with
    | some value => { scanner with pendingData := pushData scanner.pendingData value }
    | none => scanner

/-- What is left of a chunk. -/
def feedRest (scanner : SseUsageScanner) : Bytes → SseUsageScanner
  | [] => scanner
  | b :: tail =>
    -- the second half of a CRLF is no line of its own
    if scanner.afterCr = true ∧ b = Lines.lf then feedRest { scanner with afterCr := false } tail
    else
      let scanner := { scanner with afterCr := false }
      match _h : memchr2 (b :: tail) with
      | none =>
        match scanner.reserve (b :: tail).length with
        | none => scanner.truncate
        | some scanner => { scanner with lineBuf := scanner.lineBuf ++ b :: tail }
      | some (line, terminator, after) =>
        match scanner.reserve (line.length + 1) with
        | none => scanner.truncate
        | some scanner =>
          let scanner := { scanner with afterCr := decide (terminator = Lines.cr) }
          feedRest
            (if scanner.lineBuf = [] then scanner.absorbLine parseJson line
              else { scanner with lineBuf := [] }.absorbLine parseJson (scanner.lineBuf ++ line))
            after
termination_by rest => rest.length
decreasing_by
  · exact Nat.lt_succ_self _
  · exact memchr2_length _h

/-- Feed one chunk. -/
def feed (scanner : SseUsageScanner) (chunk : Bytes) : SseUsageScanner :=
  if scanner.outcome.truncated then scanner else scanner.feedRest parseJson chunk

/-- Parse whatever is left over at the end of the stream. -/
def finished (scanner : SseUsageScanner) : SseUsageScanner :=
  let scanner :=
    if scanner.outcome.truncated then scanner
    else
      (if scanner.lineBuf = [] then scanner
        else { scanner with lineBuf := [] }.absorbLine parseJson scanner.lineBuf).flushEvent
          parseJson
  let outcome :=
    if scanner.outcome.truncated then { scanner.outcome with usage := none } else scanner.outcome
  { scanner with
    outcome := outcome, lineBuf := [], pendingData := "", afterCr := false, eventBytes := 0 }

def finish (scanner : SseUsageScanner) : ScanOutcome := (scanner.finished parseJson).outcome

end Parsing

end SseUsageScanner

/-- A stream that was fed chunk by chunk. -/
def scanChunks (parseJson : String → Option JsonValue) (endpoint : Endpoint)
    (chunks : List Bytes) : ScanOutcome :=
  (chunks.foldl (SseUsageScanner.feed parseJson) { endpoint := endpoint }).finish parseJson

end PartnerPortal
