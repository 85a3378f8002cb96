import PartnerPortal.Ledger.Tickets
import PartnerPortal.Proxy.Handoff

/-!
# The proxy and its ledger writer

The requests of one process over its ledger writer: a request is forwarded once the writer has
acknowledged its accept, and what becomes of it goes back to the writer, either from the handler, which
waits, or by a detached task.  Every wait of a request, of a detached task and of the writer is a step,
and they come in any order.
-/

namespace PartnerPortal

/-- Where a task is that `spawn_detached_finalize` counts. -/
inductive DetachedState where
  | spawned
  /-- in `finalize` -/
  | called (ticket : Nat)
  /-- left to `try_finalize`, as there was no runtime -/
  | tried (ticket : Nat)
  | ended
deriving DecidableEq

/-- What one task of the process is about. -/
inductive Activity where
  | idle
  /-- a request that was answered before it was forwarded, or was given up -/
  | closed (answer : Option Answer)
  | unmetered
  /-- a request in `accept` -/
  | accepting (record : RequestRecord) (wantsStream : Bool) (ticket : Nat)
  /-- a request whose upstream is contacted, and its call of `finalize` -/
  | forwarded (task : ProxyTask) (ticket : Option Nat)
  | detached (record : RequestRecord) (state : DetachedState)
deriving DecidableEq

/-- The call of the writer a task waits for or has made. -/
def Activity.ticket : Activity → Option Nat
  | .accepting _ _ ticket => some ticket
  | .forwarded _ ticket => ticket
  | .detached _ (.called ticket) | .detached _ (.tried ticket) => some ticket
  | _ => none

structure Service where
  writer : WriterTask
  activity : Nat → Activity
  /-- the number of the next task -/
  next : Nat

inductive ServiceEvent where
  /-- a request arrives; its body may be over the limit -/
  | requested (consumer : ConsumerContext) (request : Option IncomingRequest)
  /-- `accept` returns -/
  | accepted (i : Nat) (now : Moment)
  /-- the client goes away before it does -/
  | abandoned (i : Nat)
  /-- something happens to a request that is not the writer's doing -/
  | proxied (i : Nat) (event : Moment × ProxyEvent)
  /-- the handler calls `finalize` -/
  | finalizing (i : Nat)
  /-- the channel takes the record of that call -/
  | queued (i : Nat)
  /-- that call returns -/
  | answered (i : Nat)
  /-- a detached task calls `finalize`, or `try_finalize` when there is no runtime -/
  | polled (i : Nat)
  | tried (i : Nat)
  /-- its call returns -/
  | settled (i : Nat)
  /-- the writer goes on, is shut down, or serves another caller -/
  | writer (event : WriterEvent)

namespace Service

def meteringUnavailable : Answer :=
  errorResponse 503 "Metering unavailable; request not forwarded" "metering_error"

def set (s : Service) (i : Nat) (activity : Activity) : Service :=
  { s with activity := Function.update s.activity i activity }

/-- A new task. -/
def spawn (s : Service) (activity : Activity) : Service :=
  { s.set s.next activity with next := s.next + 1 }

def withWriter (s : Service) (writer : WriterTask) : Service := { s with writer := writer }

/-- `handle_proxy` up to its wait for the accept. -/
def request (s : Service) (consumer : ConsumerContext) (request : Option IncomingRequest) : Service :=
  match proxyHandler consumer request with
  | .refused answer => s.spawn (.closed (some answer))
  | .unmetered => s.spawn .unmetered
  | .metered record wantsStream =>
    if s.writer.accepts then
      (s.spawn (.accepting record wantsStream s.writer.nextTicket)).withWriter
        (s.writer.call (.accept record))
    else
      (s.spawn (.closed (some meteringUnavailable))).withWriter s.writer.markUnhealthy

/-- The accept is acknowledged and the upstream contacted, or the request is not served. -/
def accept (s : Service) (i : Nat) (now : Moment) : Option Service :=
  match s.activity i with
  | .accepting record wantsStream ticket =>
    (s.writer.outcome ticket).map fun
      | true => s.set i (.forwarded (.accepted record wantsStream now) none)
      | false =>
        (s.set i (.closed (some meteringUnavailable))).withWriter s.writer.markUnhealthy
  | _ => none

def abandon (s : Service) (i : Nat) : Option Service :=
  match s.activity i with
  | .accepting _ _ ticket => some ((s.set i (.closed none)).withWriter (s.writer.letGo ticket))
  | _ => none

/-- The events of a request that its calls of the writer bring about. -/
def ofWriter : ProxyEvent → Bool
  | .queued | .acknowledged | .refused => true
  | _ => false

/-- A future that is dropped lets go of its call, and a record that a body hands over gets a task of
its own. -/
def proxy (reading : Reading) (s : Service) (i : Nat) (event : Moment × ProxyEvent) :
    Option Service :=
  match s.activity i with
  | .forwarded task ticket =>
    if ofWriter event.2 then none
    else
      (task.step reading event).map fun next =>
        let writer :=
          if event.2 = .dropped then ticket.elim s.writer s.writer.letGo else s.writer
        match next.handed.drop task.handed.length with
        | [] => (s.set i (.forwarded next ticket)).withWriter writer
        | record :: _ =>
          ((s.set i (.forwarded next ticket)).spawn (.detached record .spawned)).withWriter writer
  | _ => none

def finalize (s : Service) (i : Nat) : Option Service :=
  match s.activity i with
  | .forwarded task none =>
    match task.phase with
    | .finalizing record answer =>
      if s.writer.accepts then
        some ((s.set i (.forwarded task (some s.writer.nextTicket))).withWriter
          (s.writer.call (.finalize record)))
      else
        (task.stepFinalizing record answer .refused).map fun next =>
          (s.set i (.forwarded next none)).withWriter s.writer.markUnhealthy
    | _ => none
  | _ => none

def queue (config : LedgerWriterConfig) (s : Service) (i : Nat) : Option Service :=
  match s.activity i with
  | .forwarded task (some ticket) =>
    match task.phase with
    | .finalizing record answer =>
      (s.writer.send config ticket).bind fun writer =>
        if s.writer.stopped then
          (task.stepFinalizing record answer .refused).map fun next =>
            (s.set i (.forwarded next (some ticket))).withWriter writer.markUnhealthy
        else
          (task.stepFinalizing record answer .queued).map fun next =>
            (s.set i (.forwarded next (some ticket))).withWriter writer
    | _ => none
  | _ => none

def answer (s : Service) (i : Nat) : Option Service :=
  match s.activity i with
  | .forwarded task (some ticket) =>
    match task.phase with
    | .acknowledging answer =>
      (s.writer.outcome ticket).bind fun
        | true =>
          (task.stepAcknowledging answer .acknowledged).map fun next =>
            s.set i (.forwarded next (some ticket))
        | false =>
          (task.stepAcknowledging answer .refused).map fun next =>
            (s.set i (.forwarded next (some ticket))).withWriter s.writer.markUnhealthy
    | _ => none
  | _ => none

/-- `report_detached_result` of an error. -/
def lost (s : Service) (i : Nat) (record : RequestRecord) : Service :=
  (s.set i (.detached record .ended)).withWriter s.writer.markUnhealthy

def poll (s : Service) (i : Nat) : Option Service :=
  match s.activity i with
  | .detached record .spawned =>
    if s.writer.accepts then
      some ((s.set i (.detached record (.called s.writer.nextTicket))).withWriter
        (s.writer.call (.finalize record)))
    else some (s.lost i record)
  | _ => none

/-- `try_finalize`, which does not wait for room. -/
def tryFinalize (config : LedgerWriterConfig) (s : Service) (i : Nat) : Option Service :=
  match s.activity i with
  | .detached record .spawned =>
    if s.writer.accepts && !s.writer.stopped then
      match (s.writer.call (.finalize record)).send config s.writer.nextTicket with
      | some writer =>
        some ((s.set i (.detached record (.tried s.writer.nextTicket))).withWriter writer)
      | none => some (s.lost i record)
    else some (s.lost i record)
  | _ => none

def settle (s : Service) (i : Nat) : Option Service :=
  match s.activity i with
  | .detached record (.called ticket) =>
    (s.writer.outcome ticket).map fun
      | true => s.set i (.detached record .ended)
      | false => s.lost i record
  | _ => none

/-- Whether an event of the writer is up to one of the process's tasks: it alone drops its call, and a
handler's call is sent while it waits for that. -/
def mine (s : Service) : WriterEvent → Bool
  | .cancelled ticket => (List.range s.next).any fun i => (s.activity i).ticket = some ticket
  | .sent ticket =>
    (List.range s.next).any fun i =>
      match s.activity i with
      | .forwarded _ other => other = some ticket
      | _ => false
  | _ => false

def step (reading : Reading) (iso : Iso8601) (config : LedgerWriterConfig) (s : Service) :
    ServiceEvent → Option Service
  | .requested consumer request => some (s.request consumer request)
  | .accepted i now => s.accept i now
  | .abandoned i => s.abandon i
  | .proxied i event => s.proxy reading i event
  | .finalizing i => s.finalize i
  | .queued i => s.queue config i
  | .answered i => s.answer i
  | .polled i => s.poll i
  | .tried i => s.tryFinalize config i
  | .settled i => s.settle i
  | .writer event =>
    if s.mine event then none else (s.writer.step iso config event).map s.withWriter

/-- A process whose writer was just spawned. -/
def started (ledger : Ledger) (now : Nat) : Service where
  writer := .spawned ledger now
  activity := fun _ => .idle
  next := 0

end Service

end PartnerPortal
