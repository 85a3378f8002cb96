import PartnerPortal.Proxy.Bodies
import PartnerPortal.Proxy.Handoff

/-!
# Whole bodies and partial ones

What the client of a request that did not ask for a stream is sent of the upstream's body, and what
the ledger stores of it, when the body arrives whole and when it does not.

Results:
- `proxyUnmetered_whole` — a model listing is made of a whole body or answered with an error;
- `metered_whole_iff` — on the metered path a body cut short is passed off as whole exactly where it
  has an error status, or is an event stream.
-/

namespace PartnerPortal

/-! ## What is promised -/

/-- A response is forwarded frame by frame, though the request did not ask for it. -/
def UpstreamResponse.streams (response : UpstreamResponse) : Bool :=
  response.head.isSuccess && response.head.isSse

/-- The body is read to its end: it does not break, and where it is read into memory it fits. -/
def UpstreamResponse.ReadToEnd (response : UpstreamResponse) : Prop :=
  response.broken = none ∧
    (response.streams = false → (payload response.frames).length ≤ maxBufferedResponse)

/-- The start of a body and not the whole of it. -/
def StrictPrefix (start body : Bytes) : Prop := start <+: body ∧ start ≠ body

/-- No part of the body is passed off as the whole: not to the client, who is sent `sent` as a complete
response or an error, and not in the texts that are stored. -/
structure NotPassedOff (response : UpstreamResponse) (sent : Option Bytes)
    (stored : List String) : Prop where
  whole : ∀ body, sent = some body → ¬ StrictPrefix body response.body
  unmarked : ∀ text ∈ stored, ¬ Marked text → text = Utf8.fromUtf8Lossy response.body
  cut : ¬ response.ReadToEnd → sent = none

/-- The body of an answer that forwards one. -/
def Answer.wholeBody : Answer → Option Bytes
  | .forwarded _ body => some body
  | _ => none

namespace ProxyTask

/-- What the client is sent as a complete response that is not an error of the proxy's own. -/
def sent (task : ProxyTask) : Option Bytes :=
  match task.phase with
  | .finalizing _ answer => answer.wholeBody
  | .streamed meter => some meter.frames.flatten
  | _ => none

/-- The terminal records of a task, handed over or about to be. -/
def records (task : ProxyTask) : List RequestRecord :=
  task.handed ++
    match task.phase with
    | .finalizing record _ => [record]
    | _ => []

theorem records_of_not_finalizing {task : ProxyTask}
    (h : ∀ record answer, task.phase ≠ .finalizing record answer) : task.records = task.handed := by
  unfold records
  split
  · rename_i record answer heq
    exact absurd heq (h record answer)
  · exact List.append_nil _

/-- The error bodies that go into the ledger. -/
def storedBodies (task : ProxyTask) : List String :=
  task.records.filterMap RequestRecord.errorBody

end ProxyTask

/-! ## The condition -/

/-- What is read of a body that is read into memory. -/
def UpstreamResponse.kept (response : UpstreamResponse) : Bytes :=
  (payload response.frames).take maxBufferedResponse

/-- The stored text of what was read is marked as shortened, or decodes the whole body after all. -/
def UpstreamResponse.StoredWhole (response : UpstreamResponse) : Prop :=
  errorBodyTruncated response.kept = true ∨
    truncationMark.toList <:+ Utf8.characters response.kept ∨
    Utf8.fromUtf8Lossy response.kept = Utf8.fromUtf8Lossy response.body

/-- A body cut short does no harm where it has a success status and is no event stream, or where
none of it can be forwarded and what is stored of it does not look whole. -/
def UpstreamResponse.Harmless (response : UpstreamResponse) : Prop :=
  if response.head.isSuccess then response.head.isSse = true → response.head.buildable = false
  else (response.head.buildable = true → payload response.frames = []) ∧ response.StoredWhole

/-! ## What is stored -/

theorem boundedErrorBody_standsFor_iff {read body : Bytes} :
    (¬ Marked (boundedErrorBody read) → boundedErrorBody read = Utf8.fromUtf8Lossy body) ↔
      errorBodyTruncated read = true ∨ truncationMark.toList <:+ Utf8.characters read ∨
        Utf8.fromUtf8Lossy read = Utf8.fromUtf8Lossy body := by
  cases htruncated : errorBodyTruncated read with
  | true => simp [boundedErrorBody_marked htruncated]
  | false =>
    rw [boundedErrorBody_of_fits htruncated, Marked, Utf8.fromUtf8Lossy, String.toList_ofList]
    simp only [Bool.false_eq_true, false_or]
    tauto

theorem StreamMeter.claim_errorBody {meter : StreamMeter} {build : StreamMeter → RequestRecord}
    (hbuild : ∀ m : StreamMeter, (build m).errorBody = m.record.errorBody) :
    ∀ record ∈ (meter.claim build).2.toList, record.errorBody = meter.record.errorBody := by
  intro record hrecord
  obtain ⟨claimed, hclaimed, rfl⟩ := StreamMeter.claim_some (Option.mem_toList.1 hrecord)
  rw [hbuild, hclaimed]

theorem StreamMeter.withTtft_errorBody (meter : StreamMeter) (record : RequestRecord) :
    (meter.withTtft record).errorBody = record.errorBody := by
  unfold withTtft
  split <;> rfl

theorem StreamMeter.withUsage_errorBody (reading : Reading) (meter : StreamMeter)
    (record : RequestRecord) : (meter.withUsage reading record).errorBody = record.errorBody := by
  unfold withUsage
  split <;> rfl

/-- No body of a stream is stored. -/
theorem StreamMeter.finishBody_errorBody {reading : Reading} {meter : StreamMeter} {now : Moment}
    {broken : Option String} :
    ∀ record ∈ (meter.finishBody reading now broken).2.toList,
      record.errorBody = meter.record.errorBody := by
  cases broken with
  | none => exact claim_errorBody fun m => m.withTtft_errorBody _
  | some error =>
    exact claim_errorBody fun m =>
      (m.withTtft_errorBody _).trans (m.withUsage_errorBody reading _)

theorem StreamMeter.drop_errorBody {reading : Reading} {meter : StreamMeter} {now : Moment} :
    ∀ record ∈ (meter.drop reading now).2.toList, record.errorBody = meter.record.errorBody :=
  claim_errorBody fun m => (m.withTtft_errorBody _).trans (m.withUsage_errorBody reading _)

/-! ## A body read into memory -/

namespace ProxyTask

variable {reading : Reading} {task : ProxyTask} {now : Moment} {head : UpstreamHead}
  {body : Bytes} {fate : BodyFate}

theorem sent_errorRead : (task.errorRead reading now head body fate).sent =
    if body.isEmpty || !head.buildable then none else some body := by
  change (forwardUpstreamError head body).wholeBody = _
  unfold forwardUpstreamError
  split <;> rfl

theorem storedBodies_errorRead (hhanded : task.handed = []) :
    (task.errorRead reading now head body fate).storedBodies = [reading.boundedErrorBody body] := by
  unfold storedBodies records errorRead finalizeAndRespond
  rw [hhanded]
  rfl

theorem storedBodies_successRead (hhanded : task.handed = []) (hbody : task.record.errorBody = none) :
    (task.successRead reading now head body fate).storedBodies = [] := by
  unfold storedBodies records
  cases fate with
  | complete =>
    unfold successRead
    dsimp only
    rw [hhanded, List.nil_append]
    exact List.filterMap_cons_none hbody
  | capExceeded =>
    unfold successRead partialRead finalizeAndRespond
    rw [hhanded]
    rfl
  | broken error =>
    unfold successRead partialRead finalizeAndRespond
    rw [hhanded]
    rfl

theorem sent_successRead_complete : (task.successRead reading now head body .complete).sent =
    if head.buildable then some body else none := by
  change (if head.buildable then Answer.forwarded head.status body
    else errorResponse 500 "Failed to build response" "proxy_error").wholeBody = _
  split <;> rfl

theorem sent_successRead_of_ne (h : fate ≠ .complete) :
    (task.successRead reading now head body fate).sent = none := by
  cases fate with
  | complete => exact absurd rfl h
  | capExceeded => rfl
  | broken error => rfl

end ProxyTask

/-- What a body that is read into memory comes to. -/
theorem UpstreamResponse.collect (response : UpstreamResponse) :
    (collectCapped response.broken [] response.frames).1 = response.kept ∧
      ((collectCapped response.broken [] response.frames).2 = .complete ↔
        response.broken = none ∧ (payload response.frames).length ≤ maxBufferedResponse) := by
  rw [collectCapped_eq _ _ _ (Nat.zero_le _), List.nil_append, UpstreamResponse.kept]
  by_cases hcap : maxBufferedResponse < (payload response.frames).length
  · rw [if_pos hcap]
    refine ⟨rfl, ⟨fun h => (by cases h), fun h => absurd h.2 (Nat.not_le.2 hcap)⟩⟩
  · rw [if_neg hcap, List.take_of_length_le (Nat.not_lt.1 hcap)]
    refine ⟨rfl, ?_⟩
    cases response.broken with
    | none => simp [BodyFate.ofBreak, Nat.not_lt.1 hcap]
    | some error => simp [BodyFate.ofBreak]

theorem UpstreamResponse.kept_of_arrived {response : UpstreamResponse}
    (h : response.broken = none ∧ (payload response.frames).length ≤ maxBufferedResponse) :
    response.kept = response.body := by
  rw [UpstreamResponse.kept, List.take_of_length_le h.2, response.arrives h.1]

theorem not_strictPrefix_self (body : Bytes) : ¬ StrictPrefix body body := fun h => h.2 rfl

/-- Of a body that is read into memory nothing is passed off as the whole where it was read to its
end, has a success status, or leaves nothing to forward and nothing stored that looks whole. -/
theorem buffered_whole_iff {reading : Reading} {task : ProxyTask} {response : UpstreamResponse}
    (now : Moment) (hhanded : task.handed = []) (hbody : task.record.errorBody = none)
    (hstreams : response.streams = false) :
    NotPassedOff response
        (task.bodyRead reading.withTexts now response.head
          (collectCapped response.broken [] response.frames).1
          (collectCapped response.broken [] response.frames).2).sent
        (task.bodyRead reading.withTexts now response.head
          (collectCapped response.broken [] response.frames).1
          (collectCapped response.broken [] response.frames).2).storedBodies ↔
      response.ReadToEnd ∨ response.Harmless := by
  obtain ⟨hread, hcomplete⟩ := response.collect
  have hend : response.ReadToEnd ↔
      (collectCapped response.broken [] response.frames).2 = .complete := by
    rw [hcomplete, UpstreamResponse.ReadToEnd]
    simp [hstreams]
  rw [hread, hend]
  generalize (collectCapped response.broken [] response.frames).2 = fate at *
  unfold ProxyTask.bodyRead UpstreamResponse.Harmless
  by_cases hsuccess : response.head.isSuccess = true
  · -- a success status: what did not arrive whole is answered with an error
    have hnotSse : response.head.isSse = false := by
      simpa [UpstreamResponse.streams, hsuccess] using hstreams
    rw [if_pos hsuccess, if_pos hsuccess, ProxyTask.storedBodies_successRead hhanded hbody, hnotSse]
    refine iff_of_true ?_ (Or.inr fun h => by cases h)
    by_cases hfate : fate = .complete
    · subst hfate
      refine ⟨?_, fun _ htext => absurd htext List.not_mem_nil, fun hcut => absurd (hend.2 rfl) hcut⟩
      intro body hsent
      rw [ProxyTask.sent_successRead_complete, UpstreamResponse.kept_of_arrived (hcomplete.1 rfl)]
        at hsent
      split at hsent
      · rw [← Option.some.inj hsent]
        exact not_strictPrefix_self _
      · cases hsent
    · rw [ProxyTask.sent_successRead_of_ne hfate]
      exact ⟨fun _ h => absurd h.symm (Option.some_ne_none _),
        fun _ htext => absurd htext List.not_mem_nil, fun _ => rfl⟩
  · -- an error status: what was read is forwarded and stored, whole or not
    rw [if_neg hsuccess, if_neg hsuccess, ProxyTask.sent_errorRead,
      ProxyTask.storedBodies_errorRead hhanded]
    change NotPassedOff response _ [boundedErrorBody response.kept] ↔ _
    by_cases hfate : fate = .complete
    · refine iff_of_true ?_ (Or.inl hfate)
      rw [UpstreamResponse.kept_of_arrived (hcomplete.1 hfate)]
      refine ⟨?_, ?_, fun hcut => absurd (hend.2 hfate) hcut⟩
      · intro body hsent
        split at hsent
        · cases hsent
        · rw [← Option.some.inj hsent]
          exact not_strictPrefix_self _
      · intro text htext hmark
        rw [List.mem_singleton] at htext
        subst htext
        exact boundedErrorBody_whole hmark
    · have hcut : ¬ response.ReadToEnd := fun h => hfate (hend.1 h)
      have hnothing : (if response.kept.isEmpty || !response.head.buildable then none
          else some response.kept) = none ↔
            (response.head.buildable = true → payload response.frames = []) := by
        have hkept : response.kept = [] ↔ payload response.frames = [] := by
          rw [UpstreamResponse.kept, List.take_eq_nil_iff]
          exact or_iff_right (by decide)
        rw [← hkept]
        cases response.head.buildable <;> cases response.kept <;> simp
      rw [UpstreamResponse.StoredWhole, ← boundedErrorBody_standsFor_iff, ← hnothing]
      constructor
      · intro h
        exact Or.inr ⟨h.cut hcut, fun hmark => h.unmarked _ List.mem_cons_self hmark⟩
      · rintro (hcomplete | ⟨hnone, hstored⟩)
        · exact absurd hcomplete hfate
        · refine ⟨?_, ?_, fun _ => hnone⟩
          · intro body hsent
            rw [hnone] at hsent
            cases hsent
          · intro text htext hmark
            rw [List.mem_singleton] at htext
            subst htext
            exact hstored hmark

/-! ## A body forwarded as it arrives -/

theorem StreamMeter.claim_frames (meter : StreamMeter) (build : StreamMeter → RequestRecord) :
    (meter.claim build).1.frames = meter.frames := by
  obtain ⟨-, heq⟩ | ⟨-, heq⟩ := meter.claim_cases build <;> rw [heq]

theorem StreamMeter.finishBody_frames {reading : Reading} {meter : StreamMeter} {now : Moment}
    {broken : Option String} : (meter.finishBody reading now broken).1.frames = meter.frames := by
  cases broken with
  | none => exact meter.claim_frames _
  | some error => exact meter.claim_frames _

theorem storedBodies_of_handed {task : ProxyTask} (hphase : ∀ record answer, task.phase ≠ .finalizing
    record answer) (hhanded : ∀ record ∈ task.handed, record.errorBody = none) :
    task.storedBodies = [] := by
  rw [ProxyTask.storedBodies, ProxyTask.records_of_not_finalizing hphase, List.filterMap_eq_nil_iff]
  exact hhanded

/-- Of a body that is forwarded as it arrives the client is sent all there is, and no error when it
breaks. -/
theorem streamed_whole_iff {reading : Reading} {task : ProxyTask} {response : UpstreamResponse}
    {now : Moment} {timeoutSecs : Nat} {events : List (Moment × ProxyEvent)}
    (hhanded : task.handed = []) (hbody : task.record.errorBody = none)
    (hstreams : response.streams = true)
    (hevents : events.map Prod.snd = bodyEvents response.frames response.broken) :
    NotPassedOff response
        ((task.streamResponse reading now timeoutSecs response.head).feed reading events).sent
        ((task.streamResponse reading now timeoutSecs response.head).feed reading
          events).storedBodies ↔
      response.ReadToEnd ∨ response.Harmless := by
  obtain ⟨hsuccess, hsse⟩ := Bool.and_eq_true_iff.1 hstreams
  have hharmless : response.Harmless ↔ response.head.buildable = false := by
    simp [UpstreamResponse.Harmless, hsuccess, hsse]
  have hend : response.ReadToEnd ↔ response.broken = none := by
    simp [UpstreamResponse.ReadToEnd, hstreams]
  rw [hharmless]
  unfold ProxyTask.streamResponse
  dsimp only
  cases hbuildable : response.head.buildable with
  | false =>
    -- the response cannot be built: an error is returned, and the stream is dropped unread
    rw [if_neg Bool.false_ne_true, ProxyTask.feed_of_not_readsBody reading rfl, storedBodies_of_handed]
    · exact iff_of_true ⟨fun _ h => absurd h.symm (Option.some_ne_none _),
        fun _ htext => absurd htext List.not_mem_nil, fun _ => rfl⟩ (Or.inr rfl)
    · intro record answer h
      cases h
    · intro record hrecord
      change record ∈ task.handed ++ _ at hrecord
      rw [hhanded, List.nil_append] at hrecord
      exact (StreamMeter.drop_errorBody record hrecord).trans hbody
  | true =>
    rw [if_pos rfl]
    obtain ⟨finished, fed, hrecord, hframes, hfeed⟩ := ProxyTask.feed_streaming reading
      { task with answer := some (.streamed response.head.status) }
      { record := { task.record with streaming := true }
        endpoint := task.record.endpoint
        httpStatus := response.head.status
        credentials := now.credentials } timeoutSecs response.broken response.frames events hevents
    rw [hfeed, storedBodies_of_handed]
    · change NotPassedOff response
        (some (fed.finishBody reading finished response.broken).1.frames.flatten) [] ↔ _
      rw [StreamMeter.finishBody_frames, hframes]
      change NotPassedOff response (some (payload response.frames)) [] ↔ _
      constructor
      · intro h
        refine Or.inl ?_
        by_contra hcut
        exact Option.some_ne_none _ (h.cut hcut)
      · rintro (hread | hfalse)
        · refine ⟨?_, fun _ htext => absurd htext List.not_mem_nil, fun hcut => absurd hread hcut⟩
          intro body hsent
          rw [← Option.some.inj hsent, response.arrives (hend.1 hread)]
          exact not_strictPrefix_self _
        · cases hfalse
    · intro record answer h
      cases h
    · intro record hmem
      change record ∈ task.handed ++ _ at hmem
      rw [hhanded, List.nil_append] at hmem
      rw [StreamMeter.finishBody_errorBody record hmem, hrecord]
      exact hbody

/-! ## Every response -/

theorem admission_errorBody {consumer : ConsumerContext} {request : IncomingRequest}
    {record : RequestRecord} {wantsStream : Bool}
    (h : admission consumer request = .metered record wantsStream) : record.errorBody = none := by
  obtain ⟨endpoint, prices, -, -, -, -, -, rfl⟩ := admission_metered_iff.1 h
  rfl

/-- A model listing is made of a whole body, or answered with an error. -/
theorem proxyUnmetered_whole (json : JsonLibrary) (allowed : List String)
    (response : UpstreamResponse) :
    (∀ status body, proxyUnmetered json allowed (.responded response) = .forwarded status body →
      response.broken = none ∧ (payload response.frames).length ≤ maxBufferedResponse ∧
        body = filterModelsResponse json response.body allowed) ∧
    (¬ (response.broken = none ∧ (payload response.frames).length ≤ maxBufferedResponse) →
      proxyUnmetered json allowed (.responded response) =
        errorResponse 502 "Upstream response could not be read in full" "upstream_error") := by
  obtain ⟨hread, hcomplete⟩ := response.collect
  unfold proxyUnmetered
  dsimp only
  generalize collectCapped response.broken [] response.frames = collected at *
  obtain ⟨bytes, fate⟩ := collected
  cases fate with
  | complete =>
    have harrived := hcomplete.1 rfl
    refine ⟨?_, fun hcut => absurd harrived hcut⟩
    intro status body h
    dsimp only at h hread
    split at h
    · obtain ⟨-, hfiltered⟩ := Answer.forwarded.inj h
      rw [hread, UpstreamResponse.kept_of_arrived harrived] at hfiltered
      exact ⟨harrived.1, harrived.2, hfiltered.symm⟩
    · cases h
  | capExceeded => exact ⟨fun status body h => (by cases h), fun _ => rfl⟩
  | broken error => exact ⟨fun status body h => (by cases h), fun _ => rfl⟩

/-- A body that did not arrive whole is passed off as the whole exactly where it has an error status
and something of it is forwarded or stored as if it were all, or where it is an event stream; on the
unmetered path it never is. -/
theorem metered_whole_iff (reading : Reading) (response : UpstreamResponse) :
    (∀ (consumer : ConsumerContext) (request : IncomingRequest) (record : RequestRecord)
      (accepted now : Moment) (timeoutSecs : Nat) (events : List (Moment × ProxyEvent)),
      admission consumer request = .metered record false →
      events.map Prod.snd = bodyEvents response.frames response.broken →
      (NotPassedOff response
        ((ProxyTask.accepted record false accepted).served reading.withTexts now timeoutSecs
          response.head events).sent
        ((ProxyTask.accepted record false accepted).served reading.withTexts now timeoutSecs
          response.head events).storedBodies ↔
        response.ReadToEnd ∨ response.Harmless)) ∧
    (∀ (json : JsonLibrary) (allowed : List String),
      (∀ status body, proxyUnmetered json allowed (.responded response) = .forwarded status body →
        response.broken = none ∧ (payload response.frames).length ≤ maxBufferedResponse ∧
          body = filterModelsResponse json response.body allowed) ∧
      (¬ (response.broken = none ∧ (payload response.frames).length ≤ maxBufferedResponse) →
        proxyUnmetered json allowed (.responded response) =
          errorResponse 502 "Upstream response could not be read in full" "upstream_error")) := by
  refine ⟨?_, fun json allowed => proxyUnmetered_whole json allowed response⟩
  intro consumer request record accepted now timeoutSecs events hadmission hevents
  have hbody := admission_errorBody hadmission
  unfold ProxyTask.served ProxyTask.responded
  cases hstreams : response.streams with
  | true =>
    rw [if_pos (by simpa [UpstreamResponse.streams, ProxyTask.accepted] using hstreams)]
    exact streamed_whole_iff rfl hbody hstreams hevents
  | false =>
    rw [if_neg (by simpa [UpstreamResponse.streams, ProxyTask.accepted] using hstreams)]
    obtain ⟨finished, hfeed⟩ := ProxyTask.feed_buffering reading.withTexts
      (ProxyTask.accepted record false accepted) response.head response.broken [] response.frames
      events hevents
    rw [hfeed]
    exact buffered_whole_iff finished rfl hbody hstreams

namespace Sample

def subscriber : ConsumerContext := .partner
  { consumerId := "acme"
    keyName := "prod"
    billingMode := .reconciliation
    billingEmail := "billing@acme.test"
    serviceStatus := .active
    models := [("gpt-4o", ⟨MachineInt.Count.zero, MachineInt.Count.zero, MachineInt.Count.zero⟩)] }

def question : IncomingRequest where
  requestId := "0199"
  now := proxyClock
  path := "/v1/chat/completions"
  document := some { model := some "gpt-4o", stream := none }

def questionRecord : RequestRecord :=
  (RequestRecord.new "0199" proxyClock "acme" "gpt-4o" .chatCompletions false).withPricing
    ⟨MachineInt.Count.zero, MachineInt.Count.zero, MachineInt.Count.zero⟩

/-- `{"error":…`, of which one byte arrives before the connection is reset. -/
def cutError : UpstreamResponse where
  head := errorHead
  body := [123, 34, 101, 114, 114, 111, 114, 34, 58, 123, 125, 125]
  frames := [.data [123]]
  broken := some "connection reset"
  starts := by decide
  arrives := by decide

def cutErrorEvents : List (Moment × ProxyEvent) :=
  [(moment 41, .frame [123]), (moment 42, .broke "connection reset")]

end Sample

/-- The first byte of an error document goes to the client as the whole of it. -/
theorem cut_error_body_passed_off :
    admission Sample.subscriber Sample.question = .metered Sample.questionRecord false ∧
      Sample.cutErrorEvents.map Prod.snd =
        bodyEvents Sample.cutError.frames Sample.cutError.broken ∧
      ¬ NotPassedOff Sample.cutError
        ((ProxyTask.accepted Sample.questionRecord false (Sample.moment 2)).served
          Sample.reading.withTexts (Sample.moment 40) 120 Sample.cutError.head
          Sample.cutErrorEvents).sent
        ((ProxyTask.accepted Sample.questionRecord false (Sample.moment 2)).served
          Sample.reading.withTexts (Sample.moment 40) 120 Sample.cutError.head
          Sample.cutErrorEvents).storedBodies := by
  refine ⟨by decide +kernel, by decide +kernel, fun h => ?_⟩
  have hsent : ((ProxyTask.accepted Sample.questionRecord false (Sample.moment 2)).served
      Sample.reading.withTexts (Sample.moment 40) 120 Sample.cutError.head
      Sample.cutErrorEvents).sent = some [123] := by decide +kernel
  exact h.whole [123] hsent ⟨by decide, by decide⟩

end PartnerPortal
