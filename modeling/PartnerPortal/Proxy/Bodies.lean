import PartnerPortal.Proxy.Handler
import PartnerPortal.Proxy.Texts

/-!
# Bodies of upstream responses

How the body of an upstream's response reaches the proxy, and what becomes of it: it is read into
memory under a cap, or forwarded frame by frame.

Results:
- `collectCapped_eq` — what is read, and how the reading ends;
- `feed_buffering`, `feed_streaming` — the task that is fed the events of a body does the same.
-/

namespace PartnerPortal

/-- One frame of a body. -/
inductive Frame where
  | data (bytes : Bytes)
  | trailers
deriving DecidableEq

def Frame.bytes : Frame → Bytes
  | .data bytes => bytes
  | .trailers => []

/-- The payload of some frames. -/
def payload (frames : List Frame) : Bytes := frames.flatMap Frame.bytes

/-- The response of an upstream: the whole of its body, the frames that arrive, and the error the
body breaks with after them, if it does. -/
structure UpstreamResponse where
  head : UpstreamHead
  body : Bytes
  frames : List Frame
  broken : Option String
  /-- what arrives is the start of the body -/
  starts : payload frames <+: body
  /-- and all of it, unless the body breaks -/
  arrives : broken = none → payload frames = body

/-! ## Reading under the cap -/

/-- How a body ends that was not cut off by the cap. -/
def BodyFate.ofBreak : Option String → BodyFate
  | none => .complete
  | some error => .broken error

/-- Collect a body under a cap, reporting how it ended. -/
def collectCapped (broken : Option String) (acc : Bytes) : List Frame → Bytes × BodyFate
  | [] => (acc, .ofBreak broken)
  | .trailers :: frames => collectCapped broken acc frames
  | .data data :: frames =>
    if maxBufferedResponse < acc.length + data.length then
      (acc ++ data.take (maxBufferedResponse - acc.length), .capExceeded)
    else collectCapped broken (acc ++ data) frames

/-- The payload is read whole when it fits under the cap, and up to the cap otherwise. -/
theorem collectCapped_eq (broken : Option String) (acc : Bytes) (frames : List Frame)
    (hacc : acc.length ≤ maxBufferedResponse) :
    collectCapped broken acc frames =
      if maxBufferedResponse < (acc ++ payload frames).length then
        ((acc ++ payload frames).take maxBufferedResponse, .capExceeded)
      else (acc ++ payload frames, .ofBreak broken) := by
  induction frames generalizing acc with
  | nil =>
    rw [collectCapped, payload, List.flatMap_nil, List.append_nil, if_neg (Nat.not_lt.2 hacc)]
  | cons frame frames ih =>
    cases frame with
    | trailers => exact ih acc hacc
    | data data =>
      have hpayload : payload (.data data :: frames) = data ++ payload frames := rfl
      rw [collectCapped, hpayload, ← List.append_assoc]
      by_cases hcap : maxBufferedResponse < acc.length + data.length
      · have hlong : maxBufferedResponse < (acc ++ data ++ payload frames).length := by
          rw [List.length_append, List.length_append]
          omega
        have htake : (acc ++ data ++ payload frames).take maxBufferedResponse =
            acc ++ data.take (maxBufferedResponse - acc.length) := by
          rw [List.append_assoc, List.take_append, List.take_of_length_le hacc,
            List.take_append_of_le_length (by omega)]
        rw [if_pos hcap, if_pos hlong, htake]
      · rw [if_neg hcap]
        exact ih (acc ++ data) (by rw [List.length_append]; omega)

/-! ## The model listing -/

/-- What the listing needs of the JSON library. -/
structure JsonLibrary where
  Value : Type
  parse : Bytes → Option Value
  /-- a field, where the value is an object that has it -/
  get : Value → String → Option Value
  asArray : Value → Option (List Value)
  asStr : Value → Option String
  /-- the same object with another array in a field -/
  setArray : Value → String → List Value → Value
  toVec : Value → Option Bytes

/-- The listing with the allowed entries only; a body that is no listing stays as it is. -/
def filterModelsResponse (json : JsonLibrary) (body : Bytes) (allowed : List String) : Bytes :=
  match json.parse body with
  | none => body
  | some document =>
    match (json.get document "data").bind json.asArray with
    | none => body
    | some data =>
      let filtered := data.filter fun entry =>
        match (json.get entry "id").bind json.asStr with
        | some id => allowed.any fun model => model = id
        | none => false
      (json.toVec (json.setArray document "data" filtered)).getD body

/-- What comes of asking the upstream. -/
inductive UpstreamResult where
  | timedOut
  | failed (error : String)
  | responded (response : UpstreamResponse)

/-- Proxy a request without metering it. -/
def proxyUnmetered (json : JsonLibrary) (allowed : List String) : UpstreamResult → Answer
  | .timedOut => errorResponse 504 "Upstream timeout" "upstream_timeout"
  | .failed error => errorResponse 502 ("Upstream connection failed: " ++ error) "upstream_error"
  | .responded response =>
    match collectCapped response.broken [] response.frames with
    | (bytes, .complete) =>
      if response.head.buildable then
        .forwarded response.head.status (filterModelsResponse json bytes allowed)
      else errorResponse 500 "Failed to build response" "proxy_error"
    | _ => errorResponse 502 "Upstream response could not be read in full" "upstream_error"

/-! ## Feeding a task -/

/-- The task waits for the next frame. -/
def Phase.readsBody : Phase → Bool
  | .buffering _ _ | .streaming _ _ => true
  | _ => false

def Frame.event : Frame → ProxyEvent
  | .data bytes => .frame bytes
  | .trailers => .trailers

def endEvent : Option String → ProxyEvent
  | none => .ended
  | some error => .broke error

/-- What a body does to the task that reads it. -/
def bodyEvents (frames : List Frame) (broken : Option String) : List ProxyEvent :=
  frames.map Frame.event ++ [endEvent broken]

/-- How a meter is finished when its body ends. -/
def StreamMeter.finishBody (reading : Reading) (meter : StreamMeter) (now : Moment) :
    Option String → StreamMeter × Option RequestRecord
  | none => meter.finishCompleted reading now
  | some error => meter.finishBroken reading now ("upstream stream broke: " ++ error)

namespace ProxyTask

variable (reading : Reading)

/-- The task is fed the events of a body as long as it reads one. -/
def feed (task : ProxyTask) : List (Moment × ProxyEvent) → ProxyTask
  | [] => task
  | event :: events =>
    if task.phase.readsBody then feed ((task.step reading event).getD task) events else task

/-- The upstream answers a task, and its body arrives. -/
def served (task : ProxyTask) (now : Moment) (timeoutSecs : Nat) (head : UpstreamHead)
    (events : List (Moment × ProxyEvent)) : ProxyTask :=
  (task.responded reading now timeoutSecs head).feed reading events

theorem feed_of_not_readsBody {task : ProxyTask} (h : task.phase.readsBody = false)
    (events : List (Moment × ProxyEvent)) : task.feed reading events = task := by
  cases events with
  | nil => rfl
  | cons event events =>
    rw [feed, h]
    rfl

theorem bodyRead_not_readsBody (task : ProxyTask) (now : Moment) (head : UpstreamHead)
    (body : Bytes) (fate : BodyFate) :
    (task.bodyRead reading now head body fate).phase.readsBody = false := by
  unfold bodyRead
  split
  · cases fate <;> rfl
  · rfl

/-- What is made of a body does not depend on how much of it the task had read before. -/
theorem bodyRead_phase (task : ProxyTask) (phase : Phase) (now : Moment) (head : UpstreamHead)
    (body : Bytes) (fate : BodyFate) :
    ({ task with phase := phase }).bodyRead reading now head body fate =
      task.bodyRead reading now head body fate := by
  unfold bodyRead
  split
  · cases fate <;> rfl
  · rfl

/-- A task that buffers a body makes of it what `collectCapped` says. -/
theorem feed_buffering (task : ProxyTask) (head : UpstreamHead) (broken : Option String)
    (acc : Bytes) (frames : List Frame) (events : List (Moment × ProxyEvent))
    (hevents : events.map Prod.snd = bodyEvents frames broken) :
    ∃ now, ({ task with phase := .buffering head acc }).feed reading events =
      task.bodyRead reading now head (collectCapped broken acc frames).1
        (collectCapped broken acc frames).2 := by
  induction frames generalizing acc events with
  | nil =>
    obtain ⟨⟨now, event⟩, rest, rfl, rfl, hrest⟩ := List.map_eq_cons_iff.1 hevents
    refine ⟨now, ?_⟩
    cases broken with
    | none => exact (feed_of_not_readsBody reading (bodyRead_not_readsBody ..) rest).trans rfl
    | some error =>
      exact (feed_of_not_readsBody reading (bodyRead_not_readsBody ..) rest).trans rfl
  | cons frame frames ih =>
    obtain ⟨⟨now, event⟩, rest, rfl, hevent, hrest⟩ := List.map_eq_cons_iff.1 hevents
    dsimp only at hevent
    subst hevent
    cases frame with
    | trailers => exact ih acc rest hrest
    | data data =>
      by_cases hcap : maxBufferedResponse < acc.length + data.length
      · refine ⟨now, ?_⟩
        rw [collectCapped, if_pos hcap, feed]
        simp only [Phase.readsBody, if_true, Frame.event, step, stepBuffering, if_pos hcap,
          Option.getD_some]
        exact (feed_of_not_readsBody reading (bodyRead_not_readsBody ..) rest).trans
          (bodyRead_phase ..)
      · obtain ⟨now', hfeed⟩ := ih (acc ++ data) rest hrest
        refine ⟨now', ?_⟩
        rw [collectCapped, if_neg hcap, ← hfeed, feed]
        simp only [Phase.readsBody, if_true, Frame.event, step, stepBuffering, if_neg hcap,
          Option.getD_some]

/-- A task that forwards a body has passed its whole payload on when the body ends. -/
theorem feed_streaming (task : ProxyTask) (meter : StreamMeter) (timeoutSecs : Nat)
    (broken : Option String) (frames : List Frame) (events : List (Moment × ProxyEvent))
    (hevents : events.map Prod.snd = bodyEvents frames broken) :
    ∃ (now : Moment) (fed : StreamMeter), fed.record = meter.record ∧
      fed.frames.flatten = meter.frames.flatten ++ payload frames ∧
      ({ task with phase := .streaming meter timeoutSecs }).feed reading events =
        task.endStream (fed.finishBody reading now broken) := by
  induction frames generalizing meter events with
  | nil =>
    obtain ⟨⟨now, event⟩, rest, rfl, rfl, hrest⟩ := List.map_eq_cons_iff.1 hevents
    refine ⟨now, meter, rfl, (List.append_nil _).symm, ?_⟩
    cases broken with
    | none => exact (feed_of_not_readsBody reading rfl rest).trans rfl
    | some error => exact (feed_of_not_readsBody reading rfl rest).trans rfl
  | cons frame frames ih =>
    obtain ⟨⟨now, event⟩, rest, rfl, hevent, hrest⟩ := List.map_eq_cons_iff.1 hevents
    dsimp only at hevent
    subst hevent
    cases frame with
    | trailers => exact ih meter rest hrest
    | data data =>
      by_cases hempty : data.isEmpty = true
      · -- an empty frame is not yielded, and adds nothing to the payload
        obtain ⟨now', fed, hrecord, hframes, hfeed⟩ := ih meter rest hrest
        refine ⟨now', fed, hrecord, ?_, ?_⟩
        · rw [List.isEmpty_iff.1 hempty]
          exact hframes
        · rw [← hfeed, feed]
          simp only [Phase.readsBody, if_true, Frame.event, step, stepStreaming, if_pos hempty,
            Option.getD_some]
      · obtain ⟨now', fed, hrecord, hframes, hfeed⟩ := ih (meter.observe now data) rest hrest
        refine ⟨now', fed, hrecord, ?_, ?_⟩
        · rw [hframes]
          simp [StreamMeter.observe, payload, Frame.bytes]
        · rw [← hfeed, feed]
          simp only [Phase.readsBody, if_true, Frame.event, step, stepStreaming, if_neg hempty,
            Option.getD_some]

end ProxyTask

end PartnerPortal
