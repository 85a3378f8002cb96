import PartnerPortal.ApiKeys.Store
import PartnerPortal.Proxy.Meter

/-!
# The proxy handler

What the proxy does with a request: the checks before it is accepted, and from the acknowledged
accept on a task that moves at its await points.  The events are what the awaited things do: the
upstream answers, fails or stays silent, the ledger writer takes a record or refuses it, and at any
await point the task is dropped because the client went away.

Results:
- `admission_metered_iff` — which requests are metered, and the record they are accepted with;
- `ProxyTask.step_moves` — an event keeps the number of records owed and handed over unless it is one
  that `loses`, and what it hands over ends the request.
-/

namespace PartnerPortal

/-! ## Admission -/

/-- The caller a request was authenticated as. -/
inductive ConsumerContext where
  | manager
  | partner (config : PartnerRuntimeConfig)

namespace ConsumerContext

def consumerId : ConsumerContext → String
  | manager => ""
  | partner config => config.consumerId

def isManager : ConsumerContext → Bool
  | manager => true
  | partner _ => false

def pricingFor (consumer : ConsumerContext) (model : String) : Option PricingSnapshot :=
  match consumer with
  | manager => none
  | partner config => config.models.lookup model

/-- A manager is always active. -/
def serviceStatus : ConsumerContext → ServiceStatus
  | manager => .active
  | partner config => config.serviceStatus

end ConsumerContext

/-- A response to the client, apart from the headers and the request id it is tagged with. -/
inductive Answer where
  | error (status : UInt16) (message errorType : String) (code : Option String)
  | forwarded (status : UInt16) (body : Bytes)
  | streamed (status : UInt16)
deriving DecidableEq

def errorResponse (status : UInt16) (message errorType : String) : Answer :=
  .error status message errorType none

def billingSuspendedError (message : String) : Answer :=
  .error 403 message "permission_error" (some "billing_suspended")

def modelNotAllowedError (model : String) : Answer :=
  .error 404 ("The model '" ++ model ++ "' does not exist") "invalid_request_error"
    (some "model_not_found")

/-- The fields of the request's JSON document that are read, where they are a string and a bool. -/
structure RequestDocument where
  model : Option String
  stream : Option Bool

/-- A request with the id minted for it.  A body that is empty or not JSON has no document. -/
structure IncomingRequest where
  requestId : String
  now : Instant
  path : String
  document : Option RequestDocument

def IncomingRequest.model (request : IncomingRequest) : String :=
  (request.document.bind RequestDocument.model).getD "unknown"

def IncomingRequest.wantsStream (request : IncomingRequest) : Bool :=
  (request.document.bind RequestDocument.stream).getD false

inductive Admission where
  | refused (answer : Answer)
  | unmetered
  | metered (record : RequestRecord) (wantsStream : Bool)
deriving DecidableEq

/-- `handle_proxy` before the durable accept. -/
def admission (consumer : ConsumerContext) (request : IncomingRequest) : Admission :=
  match Endpoint.fromPath request.path with
  | none => .refused (errorResponse 404 "Not Found" "invalid_request_error")
  | some endpoint =>
    match consumer.serviceStatus.suspensionMessage with
    | some message => .refused (billingSuspendedError message)
    | none =>
      if endpoint = .models then .unmetered
      else
        match consumer.pricingFor request.model with
        | none => .refused (modelNotAllowedError request.model)
        | some prices =>
          .metered ((RequestRecord.new request.requestId request.now consumer.consumerId
            request.model endpoint request.wantsStream).withPricing prices) request.wantsStream

/-- `proxy_handler`: a manager cannot proxy, and a body over the limit is not read. -/
def proxyHandler (consumer : ConsumerContext) (request : Option IncomingRequest) : Admission :=
  if consumer.isManager then
    .refused (errorResponse 403
      "The manager credential is a dashboard credential and cannot be used to proxy requests"
      "invalid_request_error")
  else
    match request with
    | none => .refused (errorResponse 413 "Request body could not be read" "invalid_request_error")
    | some request => admission consumer request

/-- A request is metered exactly when it goes to an inference endpoint, its partner is not
suspended and its model has a price.  Its record is in flight and carries that price. -/
theorem admission_metered_iff {consumer : ConsumerContext} {request : IncomingRequest}
    {record : RequestRecord} {wantsStream : Bool} :
    admission consumer request = .metered record wantsStream ↔
      ∃ endpoint prices, Endpoint.fromPath request.path = some endpoint ∧ endpoint ≠ .models ∧
        consumer.serviceStatus.isSuspended = false ∧
        consumer.pricingFor request.model = some prices ∧ wantsStream = request.wantsStream ∧
        record = (RequestRecord.new request.requestId request.now consumer.consumerId
          request.model endpoint request.wantsStream).withPricing prices := by
  unfold admission
  cases hpath : Endpoint.fromPath request.path with
  | none => simp
  | some endpoint =>
    cases hstatus : consumer.serviceStatus with
    | suspended overdue => simp [ServiceStatus.suspensionMessage, ServiceStatus.isSuspended]
    | active =>
      by_cases hmodels : endpoint = .models
      · simp [ServiceStatus.suspensionMessage, hmodels]
      · cases hprices : consumer.pricingFor request.model with
        | none => simp [ServiceStatus.suspensionMessage, hmodels]
        | some prices =>
          simp only [ServiceStatus.suspensionMessage, ServiceStatus.isSuspended, hmodels, if_false,
            Admission.metered.injEq, Option.some.injEq, ne_eq]
          constructor
          · rintro ⟨rfl, rfl⟩
            exact ⟨endpoint, prices, rfl, hmodels, trivial, rfl, rfl, rfl⟩
          · rintro ⟨_, _, rfl, -, -, rfl, rfl, rfl⟩
            exact ⟨rfl, rfl⟩

theorem proxyHandler_metered {consumer : ConsumerContext} {request : Option IncomingRequest}
    {record : RequestRecord} {wantsStream : Bool}
    (h : proxyHandler consumer request = .metered record wantsStream) :
    ∃ read, request = some read ∧ admission consumer read = .metered record wantsStream := by
  unfold proxyHandler at h
  split at h
  · cases h
  · split at h
    · cases h
    · exact ⟨_, rfl, h⟩

/-! ## The task of an accepted request -/

/-- The head of an upstream's response. -/
structure UpstreamHead where
  status : UInt16
  /-- the content type, when it is text -/
  contentType : Option String
  /-- whether a response can be built from these headers -/
  buildable : Bool
deriving DecidableEq

def UpstreamHead.isSuccess (head : UpstreamHead) : Bool :=
  200 ≤ head.status && head.status < 300

def UpstreamHead.isSse (head : UpstreamHead) : Bool :=
  head.contentType.any fun value => "text/event-stream".toList <:+: value.toList.map Char.toLower

/-- How a buffered upstream body ended. -/
inductive BodyFate where
  | complete
  | capExceeded
  | broken (error : String)
deriving DecidableEq

def maxBufferedResponse : Nat := 32 * 1024 * 1024

/-- Where a task waits, or what is left of it. -/
inductive Phase where
  /-- for the headers of the upstream's response, at most so many seconds -/
  | forwarding (timeoutSecs : Nat)
  /-- for the next frame of a body that is read into memory, without a time limit -/
  | buffering (head : UpstreamHead) (acc : Bytes)
  /-- for room in the writer's queue -/
  | finalizing (record : RequestRecord) (answer : Answer)
  /-- for the commit of a queued record -/
  | acknowledging (answer : Answer)
  /-- the response was returned, and its body is being polled or not yet polled -/
  | streaming (meter : StreamMeter) (timeoutSecs : Nat)
  /-- the body has ended and still owns its meter -/
  | streamed (meter : StreamMeter)
  | over
deriving DecidableEq

/-- The handler's future for one accepted request, and the body it may have returned. -/
structure ProxyTask where
  /-- the record as it was accepted -/
  record : RequestRecord
  wantsStream : Bool
  phase : Phase
  /-- the terminal records handed to the ledger writer -/
  handed : List RequestRecord := []
  answer : Option Answer := none
  /-- the ledger was marked unhealthy -/
  unhealthy : Bool := false
deriving DecidableEq

inductive ProxyEvent where
  /-- the time limit of the wait passes -/
  | timedOut
  | connectFailed (error : String)
  | responded (head : UpstreamHead)
  | frame (data : Bytes)
  | trailers
  | ended
  | broke (error : String)
  /-- the writer's queue takes the record -/
  | queued
  /-- the commit is acknowledged -/
  | acknowledged
  /-- the writer is stopped, or the commit failed -/
  | refused
  /-- the future or the response body is dropped -/
  | dropped
deriving DecidableEq

/-- The terminal state chosen for a request that failed. -/
structure Failure where
  httpStatus : Option UInt16
  reason : String
  usage : Usage := {}
  errorBody : Option String := none

/-- The upstream's own document, or a generic error when it has none. -/
def forwardUpstreamError (head : UpstreamHead) (body : Bytes) : Answer :=
  if body.isEmpty || !head.buildable then
    errorResponse head.status "Upstream error" "upstream_error"
  else .forwarded head.status body

namespace ProxyTask

/-- The accept was acknowledged: the upstream is contacted. -/
def accepted (record : RequestRecord) (wantsStream : Bool) (now : Moment) : ProxyTask where
  record := record
  wantsStream := wantsStream
  phase := .forwarding (max now.timeoutSecs 1)

def finish (task : ProxyTask) (answer : Answer) : ProxyTask :=
  { task with phase := .over, answer := some answer }

def drop (task : ProxyTask) : ProxyTask := { task with phase := .over }

def markUnhealthy (task : ProxyTask) : ProxyTask := { task with unhealthy := true }

/-- `finalize_and_respond`, up to the queue. -/
def finalizeAndRespond (task : ProxyTask) (now : Moment) (failure : Failure) (answer : Answer) :
    ProxyTask :=
  let record := (task.record.fail failure.httpStatus failure.reason now.elapsedMs).setUsage
    failure.usage
  { task with
    phase := .finalizing { record with errorBody := failure.errorBody, streaming := false } answer }

/-- What the response body hands over is handed over without waiting. -/
def handOver (task : ProxyTask) (record : Option RequestRecord) : ProxyTask :=
  { task with handed := task.handed ++ record.toList }

section Steps

variable (reading : Reading)

/-- A body with an error status was read as far as it could be. -/
def errorRead (task : ProxyTask) (now : Moment) (head : UpstreamHead) (body : Bytes)
    (fate : BodyFate) : ProxyTask :=
  let returned := "upstream returned " ++ reading.displayStatus head.status
  let reason := match fate with
    | .complete => (reading.upstreamErrorMessage body).getD returned
    | .capExceeded =>
      returned ++ " with an error body above " ++ toString maxBufferedResponse ++ " bytes"
    | .broken error => returned ++ " and its error body broke mid-read: " ++ error
  task.finalizeAndRespond now
    { httpStatus := some head.status
      reason := reading.sanitizeReason reason now.credentials
      usage := reading.extractUsage body task.record.endpoint
      errorBody := some (reading.boundedErrorBody body) }
    (forwardUpstreamError head body)

/-- A body that did not arrive whole is not passed off as the whole body. -/
def partialRead (task : ProxyTask) (now : Moment) (reason : String) : ProxyTask :=
  task.finalizeAndRespond now { httpStatus := some 502, reason := reason }
    (errorResponse 502 "Upstream response could not be read in full" "upstream_error")

def successRead (task : ProxyTask) (now : Moment) (head : UpstreamHead) (body : Bytes)
    (fate : BodyFate) : ProxyTask :=
  match fate with
  | .complete =>
    let usage := reading.extractUsage body task.record.endpoint
    let record := { task.record with streaming := false }.complete head.status usage now.elapsedMs
    let answer :=
      if head.buildable then .forwarded head.status body
      else errorResponse 500 "Failed to build response" "proxy_error"
    { task with phase := .finalizing record answer }
  | .capExceeded =>
    task.partialRead now
      ("upstream response exceeded the " ++ toString maxBufferedResponse ++ "-byte buffering cap")
  | .broken error => task.partialRead now ("upstream response body broke mid-read: " ++ error)

/-- A body was read into memory, or as far as it could be. -/
def bodyRead (task : ProxyTask) (now : Moment) (head : UpstreamHead) (body : Bytes)
    (fate : BodyFate) : ProxyTask :=
  if head.isSuccess then task.successRead reading now head body fate
  else task.errorRead reading now head body fate

/-- A meter is built and the response returned.  When the response cannot be built, the stream is
dropped with its meter. -/
def streamResponse (task : ProxyTask) (now : Moment) (timeoutSecs : Nat) (head : UpstreamHead) :
    ProxyTask :=
  let meter : StreamMeter :=
    { record := { task.record with streaming := true }
      endpoint := task.record.endpoint
      httpStatus := head.status
      credentials := now.credentials }
  if head.buildable then
    { task with
      phase := .streaming meter timeoutSecs
      answer := some (.streamed head.status) }
  else
    (task.handOver (meter.drop reading now).2).finish
      (errorResponse 500 "Failed to build streaming response" "proxy_error")

/-- Headers arrived.  An error status is never streamed. -/
def responded (task : ProxyTask) (now : Moment) (timeoutSecs : Nat) (head : UpstreamHead) :
    ProxyTask :=
  if head.isSuccess && (task.wantsStream || head.isSse) then
    task.streamResponse reading now timeoutSecs head
  else { task with phase := .buffering head [] }

def stepForwarding (task : ProxyTask) (now : Moment) (timeoutSecs : Nat) :
    ProxyEvent → Option ProxyTask
  | .timedOut =>
    let reason := "upstream did not respond within " ++ toString timeoutSecs ++ "s"
    some (task.finalizeAndRespond now
      { httpStatus := some 504, reason := reading.sanitizeReason reason now.credentials }
      (errorResponse 504 "Upstream timeout" "upstream_timeout"))
  | .connectFailed error =>
    let reason := "upstream connection failed: " ++ error
    some (task.finalizeAndRespond now
      { httpStatus := some 502, reason := reading.sanitizeReason reason now.credentials }
      (errorResponse 502 "Upstream connection failed" "upstream_error"))
  | .responded head => some (task.responded reading now timeoutSecs head)
  | .dropped => some task.drop
  | _ => none

/-- `collect_capped`, one frame at a time. -/
def stepBuffering (task : ProxyTask) (now : Moment) (head : UpstreamHead) (acc : Bytes) :
    ProxyEvent → Option ProxyTask
  | .frame data =>
    if maxBufferedResponse < acc.length + data.length then
      let body := acc ++ data.take (maxBufferedResponse - acc.length)
      some (task.bodyRead reading now head body .capExceeded)
    else some { task with phase := .buffering head (acc ++ data) }
  | .trailers => some task
  | .ended => some (task.bodyRead reading now head acc .complete)
  | .broke error => some (task.bodyRead reading now head acc (.broken error))
  | .dropped => some task.drop
  | _ => none

/-- The send of `finalize`. -/
def stepFinalizing (task : ProxyTask) (record : RequestRecord) (answer : Answer) :
    ProxyEvent → Option ProxyTask
  | .queued => some { task.handOver (some record) with phase := .acknowledging answer }
  | .refused => some (task.markUnhealthy.finish answer)
  | .dropped => some task.drop
  | _ => none

def stepAcknowledging (task : ProxyTask) (answer : Answer) : ProxyEvent → Option ProxyTask
  | .acknowledged => some (task.finish answer)
  | .refused => some (task.markUnhealthy.finish answer)
  | .dropped => some task.drop
  | _ => none

/-- The stream ends and hands its record over. -/
def endStream (task : ProxyTask) (out : StreamMeter × Option RequestRecord) : ProxyTask :=
  { task.handOver out.2 with phase := .streamed out.1 }

/-- One frame, or the end, of a response body that is forwarded.  An empty frame is passed over. -/
def stepStreaming (task : ProxyTask) (now : Moment) (meter : StreamMeter) (timeoutSecs : Nat) :
    ProxyEvent → Option ProxyTask
  | .frame data =>
    if data.isEmpty then some task
    else some { task with phase := .streaming (meter.observe now data) timeoutSecs }
  | .trailers => some task
  | .ended => some (task.endStream (meter.finishCompleted reading now))
  | .broke error =>
    some (task.endStream (meter.finishBroken reading now ("upstream stream broke: " ++ error)))
  | .timedOut =>
    let reason := "upstream sent no data for " ++ toString timeoutSecs ++ "s mid-stream"
    some (task.endStream (meter.finishBroken reading now reason))
  | .dropped => some (task.handOver (meter.drop reading now).2).drop
  | _ => none

def stepStreamed (task : ProxyTask) (now : Moment) (meter : StreamMeter) :
    ProxyEvent → Option ProxyTask
  | .dropped => some (task.handOver (meter.drop reading now).2).drop
  | _ => none

/-- What an event does to a task, if it can happen there. -/
def step (task : ProxyTask) (event : Moment × ProxyEvent) : Option ProxyTask :=
  match task.phase with
  | .forwarding timeoutSecs => task.stepForwarding reading event.1 timeoutSecs event.2
  | .buffering head acc => task.stepBuffering reading event.1 head acc event.2
  | .finalizing record answer => task.stepFinalizing record answer event.2
  | .acknowledging answer => task.stepAcknowledging answer event.2
  | .streaming meter timeoutSecs => task.stepStreaming reading event.1 meter timeoutSecs event.2
  | .streamed meter => task.stepStreamed reading event.1 meter event.2
  | .over => none

end Steps

end ProxyTask

/-! ## What an event does -/

/-- The records a phase owes the ledger writer. -/
def Phase.owed : Phase → Nat
  | .forwarding _ | .buffering _ _ | .finalizing _ _ => 1
  | .acknowledging _ | .over => 0
  | .streaming meter _ | .streamed meter => meter.owed

/-- The record a phase carries is one of the request. -/
def Phase.Sound (requestId : String) : Phase → Prop
  | .finalizing record _ => record.Ends requestId
  | .streaming meter _ | .streamed meter => meter.record.requestId = requestId
  | _ => True

namespace ProxyTask

def owed (task : ProxyTask) : Nat := task.phase.owed

/-- The events that lose the record: the future is dropped while it waits for the upstream, reads a
body into memory or waits for room in the writer's queue, or the writer is stopped then. -/
def loses (task : ProxyTask) (event : Moment × ProxyEvent) : Bool :=
  match task.phase, event.2 with
  | .forwarding _, .dropped => true
  | .buffering _ _, .dropped => true
  | .finalizing _ _, .dropped => true
  | .finalizing _ _, .refused => true
  | _, _ => false

/-- A move of a task hands over a record or none, loses what it no longer owes, and keeps the rest
in order. -/
structure Moves (task next : ProxyTask) (lost : Bool) (given : Option RequestRecord) : Prop where
  record : next.record = task.record
  handed : next.handed = task.handed ++ given.toList
  owed : next.owed + given.toList.length + lost.toNat = task.owed
  sound : task.phase.Sound task.record.requestId →
    next.phase.Sound task.record.requestId ∧ ∀ r ∈ given, r.Ends task.record.requestId

/-- The task waits on, with what it still owes. -/
theorem Moves.wait {task : ProxyTask} {phase : Phase} (howed : phase.owed = task.phase.owed)
    (hsound : task.phase.Sound task.record.requestId → phase.Sound task.record.requestId) :
    Moves task { task with phase := phase } false none where
  record := rfl
  handed := (List.append_nil _).symm
  owed := howed
  sound := fun h => ⟨hsound h, fun _ hnone => by cases hnone⟩

theorem Moves.finalizing {task : ProxyTask} {record : RequestRecord} (answer : Answer)
    (howed : task.phase.owed = 1) (hends : record.Ends task.record.requestId) :
    Moves task { task with phase := .finalizing record answer } false none :=
  .wait howed.symm fun _ => hends

theorem finalizeAndRespond_moves {task : ProxyTask} (now : Moment) (failure : Failure)
    (answer : Answer) (howed : task.phase.owed = 1) :
    Moves task (task.finalizeAndRespond now failure answer) false none :=
  .finalizing answer howed ⟨rfl, rfl⟩

/-- Whatever became of the body, a terminal record is on its way to the queue. -/
theorem bodyRead_moves (reading : Reading) {task : ProxyTask} (now : Moment) (head : UpstreamHead)
    (body : Bytes) (fate : BodyFate) (howed : task.phase.owed = 1) :
    Moves task (task.bodyRead reading now head body fate) false none := by
  unfold bodyRead
  split
  · cases fate with
    | complete => exact .finalizing _ howed ⟨rfl, rfl⟩
    | capExceeded => exact finalizeAndRespond_moves now _ _ howed
    | broken error => exact finalizeAndRespond_moves now _ _ howed
  · exact finalizeAndRespond_moves now _ _ howed

/-- A claim on the meter a phase owns hands over what the phase owed. -/
theorem Moves.claim {task next : ProxyTask} {meter : StreamMeter}
    (build : StreamMeter → RequestRecord)
    (hends : ∀ m : StreamMeter, (build m).Ends m.record.requestId)
    (hrecord : next.record = task.record)
    (hhanded : next.handed = task.handed ++ (meter.claim build).2.toList)
    (howed : task.owed = meter.owed) (hnext : next.owed = 0)
    (hid : task.phase.Sound task.record.requestId → meter.record.requestId = task.record.requestId)
    (hsound : task.phase.Sound task.record.requestId → next.phase.Sound task.record.requestId) :
    Moves task next false (meter.claim build).2 where
  record := hrecord
  handed := hhanded
  owed := by rw [hnext, howed, ← meter.claim_conserves build, Bool.toNat_false]; omega
  sound := by
    refine fun h => ⟨hsound h, fun r hr => ?_⟩
    obtain ⟨claimed, heq, rfl⟩ := StreamMeter.claim_some hr
    rw [← hid h, ← heq]
    exact hends claimed

theorem Moves.lose {task next : ProxyTask} (hrecord : next.record = task.record)
    (hhanded : next.handed = task.handed) (hphase : next.phase = .over) (howed : task.phase.owed = 1) :
    Moves task next true none where
  record := hrecord
  handed := by rw [hhanded, Option.toList_none, List.append_nil]
  owed := by
    rw [ProxyTask.owed, ProxyTask.owed, hphase, howed]
    rfl
  sound := fun _ => ⟨hphase ▸ trivial, fun _ hnone => by cases hnone⟩

/-- A response is being streamed, or could not be built and its stream was dropped. -/
theorem streamResponse_moves (reading : Reading) {task : ProxyTask} (now : Moment)
    (timeoutSecs : Nat) (head : UpstreamHead) (howed : task.phase.owed = 1) :
    ∃ given, Moves task (task.streamResponse reading now timeoutSecs head) false given := by
  unfold streamResponse
  dsimp only
  split
  · exact ⟨none, rfl, (List.append_nil _).symm, howed.symm, fun _ => ⟨rfl, fun _ h => by cases h⟩⟩
  · exact ⟨_, .claim _ (StreamMeter.interruptedRecord_ends reading now) rfl rfl howed rfl
      (fun _ => rfl) fun _ => trivial⟩

section Steps

variable {reading : Reading} {task next : ProxyTask} {now : Moment} {event : ProxyEvent}

theorem stepForwarding_moves {timeoutSecs : Nat} (hphase : task.phase = .forwarding timeoutSecs)
    (h : task.stepForwarding reading now timeoutSecs event = some next) :
    ∃ given, Moves task next (task.loses (now, event)) given := by
  have howed : task.phase.owed = 1 := by rw [hphase, Phase.owed]
  cases event <;> simp only [loses, hphase] <;> cases h
  case timedOut => exact ⟨none, finalizeAndRespond_moves now _ _ howed⟩
  case connectFailed => exact ⟨none, finalizeAndRespond_moves now _ _ howed⟩
  case responded head =>
    unfold responded
    split
    · exact streamResponse_moves reading now timeoutSecs head howed
    · exact ⟨none, .wait howed.symm fun _ => trivial⟩
  case dropped => exact ⟨none, .lose rfl rfl rfl howed⟩

theorem stepBuffering_moves {head : UpstreamHead} {acc : Bytes}
    (hphase : task.phase = .buffering head acc)
    (h : task.stepBuffering reading now head acc event = some next) :
    ∃ given, Moves task next (task.loses (now, event)) given := by
  have howed : task.phase.owed = 1 := by rw [hphase, Phase.owed]
  cases event <;> simp only [loses, hphase]
  case frame data =>
    simp only [stepBuffering] at h
    split at h <;> cases h
    · exact ⟨none, bodyRead_moves reading now head _ .capExceeded howed⟩
    · exact ⟨none, .wait howed.symm fun _ => trivial⟩
  all_goals cases h
  case trailers => exact ⟨none, .wait rfl id⟩
  case ended => exact ⟨none, bodyRead_moves reading now head acc .complete howed⟩
  case broke error => exact ⟨none, bodyRead_moves reading now head acc (.broken error) howed⟩
  case dropped => exact ⟨none, .lose rfl rfl rfl howed⟩

theorem stepFinalizing_moves {record : RequestRecord} {answer : Answer}
    (hphase : task.phase = .finalizing record answer)
    (h : task.stepFinalizing record answer event = some next) :
    ∃ given, Moves task next (task.loses (now, event)) given := by
  have howed : task.phase.owed = 1 := by rw [hphase, Phase.owed]
  cases event <;> simp only [loses, hphase] <;> cases h
  case queued =>
    refine ⟨some record, rfl, rfl, by rw [owed, owed, howed]; rfl, fun hsound => ⟨trivial, ?_⟩⟩
    rw [hphase] at hsound
    rintro r ⟨⟩
    exact hsound
  case refused => exact ⟨none, .lose rfl rfl rfl howed⟩
  case dropped => exact ⟨none, .lose rfl rfl rfl howed⟩

/-- After the hand-off nothing is owed and nothing more handed over. -/
theorem stepAcknowledging_moves {answer : Answer} (hphase : task.phase = .acknowledging answer)
    (h : task.stepAcknowledging answer event = some next) :
    ∃ given, Moves task next (task.loses (now, event)) given := by
  have hmoves : ∀ phase : Phase, phase = .over → ∀ answer unhealthy,
      Moves task { task with phase := phase, answer := answer, unhealthy := unhealthy } false none := by
    rintro _ rfl answer unhealthy
    exact ⟨rfl, (List.append_nil _).symm, by rw [owed, owed, hphase]; rfl,
      fun _ => ⟨trivial, fun _ hnone => by cases hnone⟩⟩
  cases event <;> simp only [loses, hphase] <;> cases h <;> exact ⟨none, hmoves _ rfl _ _⟩

theorem stepStreaming_moves {meter : StreamMeter} {timeoutSecs : Nat}
    (hphase : task.phase = .streaming meter timeoutSecs)
    (h : task.stepStreaming reading now meter timeoutSecs event = some next) :
    ∃ given, Moves task next (task.loses (now, event)) given := by
  have howed : task.owed = meter.owed := by rw [owed, hphase, Phase.owed]
  have hid : task.phase.Sound task.record.requestId →
      meter.record.requestId = task.record.requestId := by
    rw [hphase]
    exact id
  have hend : ∀ build : StreamMeter → RequestRecord,
      (∀ m : StreamMeter, (build m).Ends m.record.requestId) →
        Moves task (task.endStream (meter.claim build)) false (meter.claim build).2 := by
    intro build hbuild
    refine .claim build hbuild rfl rfl howed (meter.claim_owed build) hid fun hsound => ?_
    exact (congrArg RequestRecord.requestId (meter.claim_record build)).trans (hid hsound)
  cases event <;> simp only [loses, hphase]
  case frame data =>
    simp only [stepStreaming] at h
    split at h <;> cases h
    · exact ⟨none, .wait rfl id⟩
    · exact ⟨none, .wait (by rw [hphase]; rfl) hid⟩
  all_goals cases h
  case trailers => exact ⟨none, .wait rfl id⟩
  case ended => exact ⟨_, hend _ (StreamMeter.completedRecord_ends reading now)⟩
  case broke => exact ⟨_, hend _ (StreamMeter.brokenRecord_ends reading now _)⟩
  case timedOut => exact ⟨_, hend _ (StreamMeter.brokenRecord_ends reading now _)⟩
  case dropped =>
    exact ⟨_, .claim _ (StreamMeter.interruptedRecord_ends reading now) rfl rfl howed rfl hid
      fun _ => trivial⟩

theorem stepStreamed_moves {meter : StreamMeter} (hphase : task.phase = .streamed meter)
    (h : task.stepStreamed reading now meter event = some next) :
    ∃ given, Moves task next (task.loses (now, event)) given := by
  cases event <;> simp only [loses, hphase] <;> cases h
  refine ⟨_, .claim _ (StreamMeter.interruptedRecord_ends reading now) rfl rfl ?_ rfl ?_
    fun _ => trivial⟩
  · rw [owed, hphase, Phase.owed]
  · rw [hphase]
    exact id

/-- Every step is a move that loses a record exactly at the events that do. -/
theorem step_moves {event : Moment × ProxyEvent} (h : task.step reading event = some next) :
    ∃ given, Moves task next (task.loses event) given := by
  unfold step at h
  split at h
  · exact stepForwarding_moves ‹_› h
  · exact stepBuffering_moves ‹_› h
  · exact stepFinalizing_moves ‹_› h
  · exact stepAcknowledging_moves ‹_› h
  · exact stepStreaming_moves ‹_› h
  · exact stepStreamed_moves ‹_› h
  · cases h

end Steps

end ProxyTask

end PartnerPortal
