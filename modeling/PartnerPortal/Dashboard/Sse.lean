import PartnerPortal.Ledger.Writer
import PartnerPortal.Lib.Broadcast
import PartnerPortal.Lib.Latest
import PartnerPortal.Lib.Duty

/-!
# The invalidation stream

`GET /api/dashboard/events` and who listens to it: the task that polls `PRAGMA data_version` on a
connection of its own and notifies a channel, the bodies of the open streams, and the dashboards that
fetch the summary again on each change event.

A reading of the version, the comparison and the send are steps of their own.  Every write of every
other connection is one: a commit sets the ledger to anything.
-/

namespace PartnerPortal.Dashboard

open Broadcast Latest

/-- Buffered notifications per subscriber before it is considered lagged. -/
def sseBuffer : Nat := 128

/-- Client reconnect delay suggested to the browser. -/
def retryHintMs : Nat := 3000

structure SseEvent where
  event : Option String
  retry : Option Nat
  data : String
deriving DecidableEq

namespace SseEvent

def connected : SseEvent :=
  { event := some "connected", retry := some retryHintMs, data := "\x7b\"type\":\"connected\"\x7d" }

def dataChanged : SseEvent :=
  { event := none, retry := none, data := "\x7b\"type\":\"data_changed\"\x7d" }

def serverShutdown : SseEvent :=
  { event := some "server_shutdown", retry := some retryHintMs,
    data := "\x7b\"type\":\"server_shutdown\"\x7d" }

end SseEvent

/-- What `PRAGMA data_version` answers after a number of commits of other connections: a new value
after each, and never the one that stands for a failed reading. -/
structure DataVersions where
  version : Nat → Int
  injective : Function.Injective version
  ne_failed : ∀ commits, version commits ≠ -1

def getDataVersion (versions : DataVersions) (commits : Nat) (failed : Bool) : Int :=
  if failed then -1 else versions.version commits

/-! ## The broadcaster -/

/-- Where the polling task is. -/
inductive Poller where
  | starting
  | sleeping (lastVersion : Int)
  /-- it has read a version, and not compared it -/
  | comparing (lastVersion current : Int)
deriving DecidableEq

structure SseBroadcaster where
  poller : Poller
  tx : Channel Unit
  /-- how often `shutdown` was sent -/
  shutdown : Nat

namespace SseBroadcaster

def new : SseBroadcaster :=
  { poller := .starting, tx := { capacity := sseBuffer, sent := [] }, shutdown := 0 }

/-- The polling task reads the version. -/
def read (bc : SseBroadcaster) (current : Int) : Option SseBroadcaster :=
  match bc.poller with
  | .starting => some { bc with poller := .sleeping current }
  | .sleeping lastVersion => some { bc with poller := .comparing lastVersion current }
  | .comparing .. => none

/-- It compares what it read, and sends.  A send without a subscriber is lost, as is any position
before a later subscription. -/
def notify (bc : SseBroadcaster) : Option SseBroadcaster :=
  match bc.poller with
  | .comparing lastVersion current =>
    if current ≠ lastVersion then
      some { bc with poller := .sleeping current, tx := bc.tx.send () }
    else some { bc with poller := .sleeping lastVersion }
  | _ => none

end SseBroadcaster

/-! ## The body of a stream -/

inductive SseBody where
  /-- subscribed, and nothing written -/
  | opening
  | live
  | ended
deriving DecidableEq

structure SseStream where
  /-- the position of its receiver in the channel -/
  rx : Nat
  /-- how often the shutdown had been sent when it subscribed -/
  seen : Nat
  body : SseBody
  /-- what the body has yielded -/
  frames : List SseEvent

def sseResponse (bc : SseBroadcaster) : SseStream :=
  { rx := bc.tx.sent.length, seen := bc.shutdown, body := .opening, frames := [] }

namespace SseStream

def yield (stream : SseStream) (event : SseEvent) : SseStream :=
  { stream with frames := stream.frames ++ [event] }

def connect (stream : SseStream) : Option SseStream :=
  match stream.body with
  | .opening => some { stream.yield .connected with body := .live }
  | _ => none

/-- The arm of `shutdown.changed()`. -/
def close (bc : SseBroadcaster) (stream : SseStream) : Option SseStream :=
  match stream.body with
  | .live =>
    if stream.seen ≠ bc.shutdown then some { stream.yield .serverShutdown with body := .ended }
    else none
  | _ => none

/-- The arm of `rx.recv()`. -/
def recv (bc : SseBroadcaster) (stream : SseStream) : Option SseStream :=
  match stream.body with
  | .live =>
    (bc.tx.recv stream.rx).map fun (received, next) =>
      match received with
      | .message () => { stream.yield .dataChanged with rx := next }
      | .lagged _ => { stream.yield .dataChanged with rx := next }
  | _ => none

end SseStream

/-! ## The dashboards -/

structure Client where
  /-- the response it reads, and how many of its frames it has handled -/
  stream : Option (SseStream × Nat)
  /-- its calls of `fetchSummary`, each answered from the ledger it read -/
  summary : Calls Ledger Unit

inductive ClientEvent where
  | openStream
  | connect
  | close
  | recv
  /-- the dashboard handles the next frame -/
  | handleFrame
  | fetchSummary
  /-- a call is answered, or fails -/
  | answer (ticket : Nat) (failed : Bool)
  | settle (ticket : Nat)
  /-- the response is over for the dashboard -/
  | loseStream
deriving DecidableEq

namespace Client

/-- The body of its stream goes on. -/
def advance (client : Client) (next : SseStream → Option SseStream) : Option Client :=
  client.stream.bind fun (stream, handled) =>
    (next stream).map fun stream' => { client with stream := some (stream', handled) }

def step (bc : SseBroadcaster) (ledger : Ledger) (client : Client) : ClientEvent → Option Client
  | .openStream =>
    match client.stream with
    | none => some { client with stream := some (sseResponse bc, 0) }
    | some _ => none
  | .connect => client.advance SseStream.connect
  | .close => client.advance (SseStream.close bc)
  | .recv => client.advance (SseStream.recv bc)
  | .handleFrame =>
    client.stream.bind fun (stream, handled) =>
      (stream.frames[handled]?).map fun event =>
        { stream := some (stream, handled + 1)
          summary := if event = .dataChanged then client.summary.call else client.summary }
  | .fetchSummary => some { client with summary := client.summary.call }
  | .answer ticket failed =>
    (client.summary.answer ticket (if failed then .error () else .ok ledger)).map fun summary =>
      { client with summary := summary }
  | .settle ticket =>
    (client.summary.settle ticket).map fun summary => { client with summary := summary }
  | .loseStream => some { client with stream := none }

end Client

structure Dashboards where
  ledger : Ledger
  /-- the commits of all connections but the poller's -/
  commits : Nat
  broadcaster : SseBroadcaster
  client : Nat → Client

inductive DashboardEvent where
  | commit (ledger : Ledger)
  | read (failed : Bool)
  | notify
  | shutdown
  | client (k : Nat) (event : ClientEvent)

namespace Dashboards

def step (versions : DataVersions) (s : Dashboards) : DashboardEvent → Option Dashboards
  | .commit ledger => some { s with ledger := ledger, commits := s.commits + 1 }
  | .read failed =>
    (s.broadcaster.read (getDataVersion versions s.commits failed)).map fun bc =>
      { s with broadcaster := bc }
  | .notify => s.broadcaster.notify.map fun bc => { s with broadcaster := bc }
  | .shutdown =>
    some { s with broadcaster := { s.broadcaster with shutdown := s.broadcaster.shutdown + 1 } }
  | .client k event =>
    ((s.client k).step s.broadcaster s.ledger event).map fun client =>
      { s with client := Function.update s.client k client }

/-- A process that has just started, over any ledger. -/
structure Start (s : Dashboards) : Prop where
  broadcaster : s.broadcaster = .new
  client : ∀ k, s.client k = { stream := none, summary := { calls := [], shown := none } }

end Dashboards

end PartnerPortal.Dashboard
