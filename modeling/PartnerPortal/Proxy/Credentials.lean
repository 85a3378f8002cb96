import PartnerPortal.Proxy.WholeBodies

/-!
# Credentials in the ledger

Which texts of a request go into the ledger, what is done to each on the way, and when one of them
shows a configured credential.

Results:
- `Written.reveals_iff` — a text shows a credential in the ledger exactly when it reveals it;
- `step_clean` — a step whose texts reveal none keeps the records clean;
- `step_reveals` — a step with a text that reveals one builds a record that shows it.
-/

namespace PartnerPortal

/-! ## The texts of a step -/

/-- A text that goes into a record, and what is done to it on the way. -/
inductive Written where
  /-- a reason, scrubbed, cut and rid of its control characters -/
  | scrubbed (reason : String)
  /-- a reason as it is -/
  | plain (reason : String)
  /-- an error body, decoded and cut -/
  | body (bytes : Bytes)

/-- What the ledger stores. -/
def Written.stored (credentials : List String) : Written → String
  | .scrubbed reason => sanitizeReason reason credentials
  | .plain reason => reason
  | .body bytes => boundedErrorBody bytes

/-- The text of a body as far as it is stored, with the mark of a shortened one. -/
def markedBody (bytes : Bytes) : List Char :=
  if errorBodyTruncated bytes then
    truncateUtf8 (maxStoredErrorBody - utf8Length truncationMark.toList) (decodedErrorBody bytes) ++
      truncationMark.toList
  else truncateUtf8 maxStoredErrorBody (decodedErrorBody bytes)

/-- A scrubbed reason reveals a credential that it spells once its control characters are taken out,
and any other text one that it contains. -/
def Written.Reveals (credentials : List String) (credential : String) : Written → Prop
  | .scrubbed reason => Spells credential (markedReason reason.toList credentials)
  | .plain reason => credential.toList <:+: reason.toList
  | .body bytes => credential.toList <:+: markedBody bytes

instance (credentials : List String) (credential : String) :
    (written : Written) → Decidable (written.Reveals credentials credential)
  | .scrubbed reason =>
    inferInstanceAs (Decidable (Spells credential (markedReason reason.toList credentials)))
  | .plain reason => inferInstanceAs (Decidable (credential.toList <:+: reason.toList))
  | .body bytes => inferInstanceAs (Decidable (credential.toList <:+: markedBody bytes))

/-- A text shows a credential in the ledger exactly when it reveals it. -/
theorem Written.reveals_iff {credentials : List String} {credential : String} {written : Written} :
    credential.toList <:+: (written.stored credentials).toList ↔
      written.Reveals credentials credential := by
  cases written with
  | scrubbed reason => exact credential_in_sanitizeReason_iff
  | plain reason => exact Iff.rfl
  | body bytes =>
    change credential.toList <:+: (boundedErrorBody bytes).toList ↔
      credential.toList <:+: markedBody bytes
    unfold boundedErrorBody markedBody
    split <;> rw [String.toList_ofList]

/-- The reason an error status is recorded with. -/
def errorReason (reading : Reading) (head : UpstreamHead) (body : Bytes) : BodyFate → String
  | .complete => (reading.upstreamErrorMessage body).getD
      ("upstream returned " ++ reading.displayStatus head.status)
  | .capExceeded => "upstream returned " ++ reading.displayStatus head.status ++
      " with an error body above " ++ toString maxBufferedResponse ++ " bytes"
  | .broken error => "upstream returned " ++ reading.displayStatus head.status ++
      " and its error body broke mid-read: " ++ error

/-- The texts that a body goes into the ledger with. -/
def bodyTexts (reading : Reading) (head : UpstreamHead) (body : Bytes) (fate : BodyFate) :
    List Written :=
  if head.isSuccess then
    match fate with
    | .complete => []
    | .capExceeded => [.plain ("upstream response exceeded the " ++ toString maxBufferedResponse ++
        "-byte buffering cap")]
    | .broken error => [.plain ("upstream response body broke mid-read: " ++ error)]
  else [.scrubbed (errorReason reading head body fate), .body body]

namespace StreamMeter

/-- The text of the one record a meter hands over, or none when it was handed over before. -/
def text (meter : StreamMeter) (written : Written) : List Written :=
  if meter.owed = 1 then [written] else []

def breakText (meter : StreamMeter) (reason : String) : List Written :=
  meter.text (.scrubbed (reason ++ " (after " ++ toString meter.bytes ++ " bytes)"))

end StreamMeter

/-- The texts that a step puts into the record it builds. -/
@[simp] def ProxyTask.texts (reading : Reading) (task : ProxyTask) (event : ProxyEvent) : List Written :=
  match task.phase, event with
  | .forwarding timeoutSecs, .timedOut =>
    [.scrubbed ("upstream did not respond within " ++ toString timeoutSecs ++ "s")]
  | .forwarding _, .connectFailed error => [.scrubbed ("upstream connection failed: " ++ error)]
  | .forwarding _, .responded head =>
    if head.isSuccess && (task.wantsStream || head.isSse) && !head.buildable then
      [.plain clientDisconnect]
    else []
  | .buffering head acc, .frame data =>
    if maxBufferedResponse < acc.length + data.length then
      bodyTexts reading head (acc ++ data.take (maxBufferedResponse - acc.length)) .capExceeded
    else []
  | .buffering head acc, .ended => bodyTexts reading head acc .complete
  | .buffering head acc, .broke error => bodyTexts reading head acc (.broken error)
  | .streaming meter _, .broke error => meter.breakText ("upstream stream broke: " ++ error)
  | .streaming meter timeoutSecs, .timedOut =>
    meter.breakText ("upstream sent no data for " ++ toString timeoutSecs ++ "s mid-stream")
  | .streaming meter _, .dropped => meter.text (.plain clientDisconnect)
  | .streamed meter, .dropped => meter.text (.plain clientDisconnect)
  | _, _ => []

/-! ## What a step builds -/

/-- The text columns the proxy writes. -/
def RequestRecord.texts (record : RequestRecord) : List String :=
  record.errorMessage.toList ++ record.errorBody.toList

/-- No text was put into the record yet. -/
structure RequestRecord.Blank (record : RequestRecord) : Prop where
  message : record.errorMessage = none
  body : record.errorBody = none

theorem RequestRecord.Blank.texts {record : RequestRecord} (h : record.Blank) :
    record.texts = [] := by
  rw [RequestRecord.texts, h.message, h.body]
  rfl

def Phase.meter : Phase → Option StreamMeter
  | .streaming meter _ | .streamed meter => some meter
  | _ => none

namespace ProxyTask

/-- The records a task carries have no texts yet, and a meter holds the credentials in force. -/
structure Quiet (credentials : List String) (task : ProxyTask) : Prop where
  record : task.record.Blank
  meter : ∀ meter, task.phase.meter = some meter →
    meter.credentials = credentials ∧ meter.record.Blank

/-- The step builds one record with the texts, or none when there are none. -/
structure Builds (credentials : List String) (texts : List Written) (task next : ProxyTask) :
    Prop where
  quiet : Quiet credentials next
  kept : ∀ record ∈ next.records, record ∈ task.records ∨
    record.texts = texts.map (Written.stored credentials)
  built : texts ≠ [] → ∃ record ∈ next.records,
    record.texts = texts.map (Written.stored credentials)

section Steps

variable {credentials : List String} {task next : ProxyTask} {texts : List Written}

/-- The task moves on without a record. -/
theorem Builds.none (hquiet : Quiet credentials next) (hrecords : next.records ⊆ task.records) :
    Builds credentials [] task next where
  quiet := hquiet
  kept := fun _ hrecord => Or.inl (hrecords hrecord)
  built := fun h => absurd rfl h

/-- A terminal record is on its way to the queue. -/
theorem Builds.finalizing {record : RequestRecord} {answer : Answer}
    (hquiet : Quiet credentials task)
    (htexts : record.texts = texts.map (Written.stored credentials))
    (hphase : ∀ record answer, task.phase ≠ .finalizing record answer) :
    Builds credentials texts task { task with phase := .finalizing record answer } where
  quiet := ⟨hquiet.record, fun meter h => (by cases h)⟩
  kept := by
    intro r hr
    rcases List.mem_append.1 hr with hr | hr
    · exact Or.inl (records_of_not_finalizing hphase ▸ hr)
    · rw [List.mem_singleton] at hr
      exact Or.inr (hr ▸ htexts)
  built := fun _ => ⟨_, List.mem_append_right _ List.mem_cons_self, htexts⟩

theorem fail_texts {record : RequestRecord} (h : record.Blank) (status : Option UInt16)
    (reason : String) (elapsed : UInt64) :
    (record.fail status reason elapsed).texts = [reason] := by
  change [reason] ++ record.errorBody.toList = [reason]
  rw [h.body]
  rfl

theorem builds_finalizeAndRespond {now : Moment} {failure : Failure} {answer : Answer}
    (hquiet : Quiet credentials task)
    (htexts : failure.reason :: failure.errorBody.toList =
      texts.map (Written.stored credentials))
    (hphase : ∀ record answer, task.phase ≠ .finalizing record answer) :
    Builds credentials texts task (task.finalizeAndRespond now failure answer) :=
  .finalizing hquiet htexts hphase

/-- A body read into memory goes into the ledger with its texts. -/
theorem builds_bodyRead (reading : Reading) {now : Moment} {head : UpstreamHead} {body : Bytes}
    {fate : BodyFate} (hcredentials : now.credentials = credentials)
    (hquiet : Quiet credentials task)
    (hphase : ∀ record answer, task.phase ≠ .finalizing record answer) :
    Builds credentials (bodyTexts reading head body fate) task
      (task.bodyRead reading.withTexts now head body fate) := by
  unfold bodyRead bodyTexts
  split
  · cases fate with
    | complete => exact .finalizing hquiet hquiet.record.texts hphase
    | capExceeded => exact builds_finalizeAndRespond hquiet rfl hphase
    | broken error => exact builds_finalizeAndRespond hquiet rfl hphase
  · subst hcredentials
    refine builds_finalizeAndRespond hquiet ?_ hphase
    cases fate <;> rfl

/-- A claim on the meter builds its record with the text, the first time. -/
theorem Builds.claim {meter : StreamMeter} {build : StreamMeter → RequestRecord}
    {written : List Written} (hquiet : Quiet credentials task)
    (hmeter : meter.credentials = credentials ∧ meter.record.Blank)
    (hbuild : ∀ m : StreamMeter, m.credentials = meter.credentials → m.record = meter.record →
      m.bytes = meter.bytes → (build m).texts = written.map (Written.stored credentials))
    (hrecords : task.records = task.handed) (hrecord : next.record = task.record)
    (hhanded : next.handed = task.handed ++ (meter.claim build).2.toList)
    (hphase : next.phase = .over ∨ next.phase = .streamed (meter.claim build).1) :
    Builds credentials (if meter.owed = 1 then written else []) task next := by
  have hnext : next.records = task.handed ++ (meter.claim build).2.toList := by
    rw [records_of_not_finalizing, hhanded]
    intro record answer h
    rcases hphase with hover | hstreamed
    · rw [hover] at h
      cases h
    · rw [hstreamed] at h
      cases h
  have hquiet' : Quiet credentials next := by
    refine ⟨hrecord ▸ hquiet.record, fun m hm => ?_⟩
    rcases hphase with hover | hstreamed
    · rw [hover] at hm
      cases hm
    · rw [hstreamed] at hm
      obtain ⟨-, heq⟩ | ⟨-, heq⟩ := meter.claim_cases build
      · rw [heq] at hm
        rw [← Option.some.inj hm]
        exact hmeter
      · rw [heq] at hm
        rw [← Option.some.inj hm]
        exact hmeter
  obtain ⟨howed, heq⟩ | ⟨howed, heq⟩ := meter.claim_cases build
  · have htexts := hbuild { meter with latch := .handedOff } rfl rfl rfl
    rw [heq] at hnext
    rw [if_pos howed]
    refine ⟨hquiet', ?_, fun _ => ⟨_, ?_, htexts⟩⟩
    · intro r hr
      rw [hnext] at hr
      rcases List.mem_append.1 hr with hr | hr
      · exact Or.inl (hrecords ▸ hr)
      · rw [Option.toList_some, List.mem_singleton] at hr
        exact Or.inr (hr ▸ htexts)
    · rw [hnext]
      exact List.mem_append_right _ List.mem_cons_self
  · rw [heq, Option.toList_none, List.append_nil] at hnext
    rw [if_neg (by omega)]
    exact .none hquiet' fun r hr => hrecords ▸ hnext ▸ hr

/-! ### The records of a meter -/

theorem withTtft_texts (meter : StreamMeter) (record : RequestRecord) :
    (meter.withTtft record).texts = record.texts := by
  unfold StreamMeter.withTtft
  split <;> rfl

theorem withUsage_texts (reading : Reading) (meter : StreamMeter) (record : RequestRecord) :
    (meter.withUsage reading record).texts = record.texts := by
  unfold StreamMeter.withUsage
  split <;> rfl

theorem completedRecord_texts (reading : Reading) (now : Moment) {meter : StreamMeter}
    (h : meter.record.Blank) : (meter.completedRecord reading now).texts = [] := by
  unfold StreamMeter.completedRecord
  rw [withTtft_texts]
  exact h.texts

theorem brokenRecord_texts (reading : Reading) (now : Moment) (reason : String)
    {meter : StreamMeter} (h : meter.record.Blank) :
    (meter.brokenRecord reading.withTexts now reason).texts =
      [sanitizeReason (reason ++ " (after " ++ toString meter.bytes ++ " bytes)")
        meter.credentials] := by
  unfold StreamMeter.brokenRecord
  rw [withTtft_texts, withUsage_texts, fail_texts h]
  rfl

theorem interruptedRecord_texts (reading : Reading) (now : Moment) {meter : StreamMeter}
    (h : meter.record.Blank) :
    (meter.interruptedRecord reading now).texts = [clientDisconnect] := by
  unfold StreamMeter.interruptedRecord
  rw [withTtft_texts, withUsage_texts]
  change [meter.record.errorMessage.getD clientDisconnect] ++ meter.record.errorBody.toList = _
  rw [h.message, h.body]
  rfl

/-! ### One step -/

variable {reading : Reading} {now : Moment} {event : ProxyEvent}

/-- A meter that is dropped says that the client left. -/
theorem builds_drop (reading : Reading) (now : Moment) {meter : StreamMeter} (hquiet : Quiet credentials task)
    (hmeter : meter.credentials = credentials ∧ meter.record.Blank)
    (hrecords : task.records = task.handed) (hrecord : next.record = task.record)
    (hhanded : next.handed = task.handed ++ (meter.drop reading now).2.toList)
    (hphase : next.phase = .over) :
    Builds credentials (meter.text (.plain clientDisconnect)) task next := by
  refine .claim hquiet hmeter ?_ hrecords hrecord hhanded (Or.inl hphase)
  intro m _ hmrecord _
  exact interruptedRecord_texts reading now (hmrecord ▸ hmeter.2)

theorem builds_stepForwarding {timeoutSecs : Nat} (hphase : task.phase = .forwarding timeoutSecs)
    (hcredentials : now.credentials = credentials) (hquiet : Quiet credentials task)
    (h : task.stepForwarding reading.withTexts now timeoutSecs event = some next) :
    Builds credentials (task.texts reading event) task next := by
  have hnot : ∀ record answer, task.phase ≠ .finalizing record answer := by
    intro record answer heq
    rw [hphase] at heq
    cases heq
  subst hcredentials
  cases event <;> simp only [ProxyTask.texts, hphase] <;> cases h
  case timedOut => exact builds_finalizeAndRespond hquiet rfl hnot
  case connectFailed error => exact builds_finalizeAndRespond hquiet rfl hnot
  case responded head =>
    unfold responded
    by_cases hstreams : (head.isSuccess && (task.wantsStream || head.isSse)) = true
    · rw [if_pos hstreams, hstreams, Bool.true_and]
      unfold streamResponse
      dsimp only
      cases head.buildable with
      | true =>
        refine .none ⟨hquiet.record, fun meter hmeter => ?_⟩ ?_
        · rw [← Option.some.inj hmeter]
          exact ⟨rfl, hquiet.record.message, hquiet.record.body⟩
        · rw [records_of_not_finalizing hnot]
          exact fun r hr => List.append_nil task.handed ▸ hr
      | false =>
        have hdrop := @builds_drop now.credentials task
          ((task.handOver (StreamMeter.drop reading.withTexts
            { record := { task.record with streaming := true }
              endpoint := task.record.endpoint
              httpStatus := head.status
              credentials := now.credentials } now).2).finish
            (errorResponse 500 "Failed to build streaming response" "proxy_error"))
          reading.withTexts now _ hquiet ⟨rfl, hquiet.record.message, hquiet.record.body⟩
          (records_of_not_finalizing hnot) rfl rfl rfl
        exact hdrop
    · rw [if_neg hstreams, Bool.not_eq_true] at *
      rw [hstreams]
      refine .none ⟨hquiet.record, fun meter hmeter => (by cases hmeter)⟩ ?_
      rw [records_of_not_finalizing hnot]
      exact fun r hr => List.append_nil task.handed ▸ hr
  case dropped =>
    refine .none ⟨hquiet.record, fun meter hmeter => (by cases hmeter)⟩ ?_
    rw [records_of_not_finalizing hnot]
    exact fun r hr => List.append_nil task.handed ▸ hr

theorem builds_stepBuffering {head : UpstreamHead} {acc : Bytes}
    (hphase : task.phase = .buffering head acc) (hcredentials : now.credentials = credentials)
    (hquiet : Quiet credentials task)
    (h : task.stepBuffering reading.withTexts now head acc event = some next) :
    Builds credentials (task.texts reading event) task next := by
  have hnot : ∀ record answer, task.phase ≠ .finalizing record answer := by
    intro record answer heq
    rw [hphase] at heq
    cases heq
  have hsame : ∀ phase : Phase, phase = .over ∨ (∃ acc, phase = .buffering head acc) →
      Builds credentials [] task { task with phase := phase } := by
    rintro _ (rfl | ⟨acc, rfl⟩) <;>
    · refine .none ⟨hquiet.record, fun meter hmeter => (by cases hmeter)⟩ ?_
      rw [records_of_not_finalizing hnot]
      exact fun r hr => List.append_nil task.handed ▸ hr
  cases event <;> simp only [ProxyTask.texts, hphase]
  case frame data =>
    unfold stepBuffering at h
    by_cases hcap : maxBufferedResponse < acc.length + data.length
    · simp only [if_pos hcap] at h ⊢
      cases h
      exact builds_bodyRead reading hcredentials hquiet hnot
    · simp only [if_neg hcap] at h ⊢
      cases h
      exact hsame _ (Or.inr ⟨_, rfl⟩)
  all_goals cases h
  case trailers => exact .none hquiet fun r hr => hr
  case ended => exact builds_bodyRead reading hcredentials hquiet hnot
  case broke error => exact builds_bodyRead reading hcredentials hquiet hnot
  case dropped => exact hsame _ (Or.inl rfl)

/-- A record on its way to the queue is handed over as it is, or lost. -/
theorem builds_stepFinalizing {record : RequestRecord} {answer : Answer}
    (hphase : task.phase = .finalizing record answer) (hquiet : Quiet credentials task)
    (h : task.stepFinalizing record answer event = some next) :
    Builds credentials (task.texts reading event) task next := by
  have hrecords : task.records = task.handed ++ [record] := by
    unfold records
    rw [hphase]
  have hkept : ∀ phase : Phase, phase.meter = none → (∀ r a, phase ≠ .finalizing r a) →
      ∀ handed answer unhealthy, handed ⊆ task.handed ++ [record] →
        Builds credentials [] task { task with
          phase := phase, handed := handed, answer := answer, unhealthy := unhealthy } := by
    intro phase hmeter hnot handed answer unhealthy hsub
    refine .none ⟨hquiet.record, fun meter h => ?_⟩ ?_
    · rw [hmeter] at h
      cases h
    · rw [records_of_not_finalizing hnot, hrecords]
      exact hsub
  cases event <;> simp only [ProxyTask.texts, hphase] <;> cases h
  case queued => exact hkept _ rfl (fun _ _ h => by cases h) _ _ _ fun r hr => hr
  case refused =>
    exact hkept _ rfl (fun _ _ h => by cases h) _ _ _ (List.subset_append_left _ _)
  case dropped =>
    exact hkept _ rfl (fun _ _ h => by cases h) _ _ _ (List.subset_append_left _ _)

theorem builds_stepAcknowledging {answer : Answer} (hphase : task.phase = .acknowledging answer)
    (hquiet : Quiet credentials task) (h : task.stepAcknowledging answer event = some next) :
    Builds credentials (task.texts reading event) task next := by
  have hrecords : task.records = task.handed :=
    records_of_not_finalizing fun record answer heq => by
      rw [hphase] at heq
      cases heq
  have hover : ∀ answer unhealthy, Builds credentials [] task
      { task with phase := .over, answer := answer, unhealthy := unhealthy } := by
    intro answer unhealthy
    refine .none ⟨hquiet.record, fun meter h => (by cases h)⟩ ?_
    rw [hrecords]
    exact fun r hr => List.append_nil task.handed ▸ hr
  cases event <;> simp only [ProxyTask.texts, hphase] <;> cases h <;> exact hover _ _

theorem builds_stepStreaming {meter : StreamMeter} {timeoutSecs : Nat}
    (hphase : task.phase = .streaming meter timeoutSecs) (hquiet : Quiet credentials task)
    (h : task.stepStreaming reading.withTexts now meter timeoutSecs event = some next) :
    Builds credentials (task.texts reading event) task next := by
  have hmeter := hquiet.meter meter (by rw [hphase]; rfl)
  have hrecords : task.records = task.handed :=
    records_of_not_finalizing fun record answer heq => by
      rw [hphase] at heq
      cases heq
  have hbroken : ∀ reason, Builds credentials (meter.breakText reason) task
      (task.endStream (meter.finishBroken reading.withTexts now reason)) := by
    intro reason
    refine .claim hquiet hmeter ?_ hrecords rfl rfl (Or.inr rfl)
    intro m hcredentials hmrecord hbytes
    rw [brokenRecord_texts reading now reason (hmrecord ▸ hmeter.2), hbytes, hcredentials, hmeter.1]
    rfl
  cases event <;> simp only [ProxyTask.texts, hphase]
  case frame data =>
    unfold stepStreaming at h
    by_cases hempty : data.isEmpty = true
    · simp only [if_pos hempty] at h
      cases h
      exact .none hquiet fun r hr => hr
    · simp only [if_neg hempty] at h
      cases h
      refine .none ⟨hquiet.record, fun m hm => ?_⟩ ?_
      · rw [← Option.some.inj hm]
        exact hmeter
      · rw [hrecords]
        exact fun r hr => List.append_nil task.handed ▸ hr
  all_goals cases h
  case trailers => exact .none hquiet fun r hr => hr
  case ended =>
    have hclaim : Builds credentials (if meter.owed = 1 then [] else []) task
        (task.endStream (meter.finishCompleted reading.withTexts now)) := by
      refine .claim hquiet hmeter ?_ hrecords rfl rfl (Or.inr rfl)
      intro m _ hmrecord _
      exact completedRecord_texts reading.withTexts now (hmrecord ▸ hmeter.2)
    rw [ite_self] at hclaim
    exact hclaim
  case broke error => exact hbroken _
  case timedOut => exact hbroken _
  case dropped =>
    exact builds_drop reading.withTexts now hquiet hmeter hrecords rfl rfl rfl

theorem builds_stepStreamed {meter : StreamMeter} (hphase : task.phase = .streamed meter)
    (hquiet : Quiet credentials task)
    (h : task.stepStreamed reading.withTexts now meter event = some next) :
    Builds credentials (task.texts reading event) task next := by
  have hmeter := hquiet.meter meter (by rw [hphase]; rfl)
  have hrecords : task.records = task.handed :=
    records_of_not_finalizing fun record answer heq => by
      rw [hphase] at heq
      cases heq
  cases event <;> simp only [ProxyTask.texts, hphase] <;> cases h
  exact builds_drop reading.withTexts now hquiet hmeter hrecords rfl rfl rfl

/-- A step builds one record with its texts, or none when it has none. -/
theorem builds_step {event : Moment × ProxyEvent} (hcredentials : event.1.credentials = credentials)
    (hquiet : Quiet credentials task) (h : task.step reading.withTexts event = some next) :
    Builds credentials (task.texts reading event.2) task next := by
  unfold step at h
  split at h
  · exact builds_stepForwarding ‹_› hcredentials hquiet h
  · exact builds_stepBuffering ‹_› hcredentials hquiet h
  · exact builds_stepFinalizing ‹_› hquiet h
  · exact builds_stepAcknowledging ‹_› hquiet h
  · exact builds_stepStreaming ‹_› hquiet h
  · exact builds_stepStreamed ‹_› hquiet h
  · cases h

end Steps

end ProxyTask

/-! ## Runs -/

/-- A stored text of the record contains the credential. -/
def RequestRecord.Shows (record : RequestRecord) (credential : String) : Prop :=
  ∃ text ∈ record.texts, credential.toList <:+: text.toList

/-- A text of the step reveals a credential. -/
def ProxyTask.Leaks (reading : Reading) (credentials : List String) (task : ProxyTask)
    (event : Moment × ProxyEvent) : Prop :=
  ∃ credential ∈ credentials, ∃ written ∈ task.texts reading event.2,
    written.Reveals credentials credential

instance (reading : Reading) (credentials : List String) (task : ProxyTask)
    (event : Moment × ProxyEvent) : Decidable (task.Leaks reading credentials event) := by
  unfold ProxyTask.Leaks
  infer_instance

/-- No record of the task shows a credential. -/
def ProxyTask.Clean (credentials : List String) (task : ProxyTask) : Prop :=
  ∀ record ∈ task.records, ∀ credential ∈ credentials, ¬ record.Shows credential

theorem shows_iff {credentials : List String} {record : RequestRecord} {texts : List Written}
    (htexts : record.texts = texts.map (Written.stored credentials)) {credential : String} :
    record.Shows credential ↔ ∃ written ∈ texts, written.Reveals credentials credential := by
  unfold RequestRecord.Shows
  rw [htexts]
  simp only [List.mem_map, exists_exists_and_eq_and, Written.reveals_iff]

section Runs

variable {reading : Reading} {credentials : List String} {task next : ProxyTask}
  {event : Moment × ProxyEvent}

/-- A step whose texts reveal nothing keeps the records clean. -/
theorem step_clean (hbuilds : task.Builds credentials (task.texts reading event.2) next)
    (hleaks : ¬ task.Leaks reading credentials event) (hclean : task.Clean credentials) :
    next.Clean credentials := by
  intro record hrecord credential hcredential hshows
  rcases hbuilds.kept record hrecord with hold | htexts
  · exact hclean record hold credential hcredential hshows
  · exact hleaks ⟨credential, hcredential, (shows_iff htexts).1 hshows⟩

/-- A step with a text that reveals a credential builds a record that shows it. -/
theorem step_reveals (hbuilds : task.Builds credentials (task.texts reading event.2) next)
    (hleaks : task.Leaks reading credentials event) : ¬ next.Clean credentials := by
  obtain ⟨credential, hcredential, written, hwritten, hreveals⟩ := hleaks
  obtain ⟨record, hrecord, htexts⟩ := hbuilds.built (List.ne_nil_of_mem hwritten)
  intro hclean
  exact hclean record hrecord credential hcredential
    ((shows_iff htexts).2 ⟨written, hwritten, hreveals⟩)

theorem quiet_run {events : List (Moment × ProxyEvent)}
    (hcredentials : ∀ event ∈ events, event.1.credentials = credentials)
    (hquiet : task.Quiet credentials)
    (hrun : Duty.run (ProxyTask.step reading.withTexts) task events = some next) :
    next.Quiet credentials := by
  induction events generalizing task with
  | nil =>
    cases hrun
    exact hquiet
  | cons event events ih =>
    obtain ⟨middle, hmiddle, hrun⟩ := Duty.run_cons_iff.1 hrun
    have hbuilds := ProxyTask.builds_step (hcredentials event List.mem_cons_self) hquiet hmiddle
    exact ih (fun e he => hcredentials e (List.mem_cons_of_mem event he)) hbuilds.quiet hrun

/-- In a run in which no step reveals a credential no record shows one. -/
theorem run_clean {events : List (Moment × ProxyEvent)}
    (hcredentials : ∀ event ∈ events, event.1.credentials = credentials)
    (hquiet : task.Quiet credentials) (hclean : task.Clean credentials)
    (hrun : Duty.run (ProxyTask.step reading.withTexts) task events = some next)
    (hundisturbed : Duty.Undisturbed (ProxyTask.step reading.withTexts)
      (ProxyTask.Leaks reading credentials) task events) : next.Clean credentials := by
  induction events generalizing task with
  | nil =>
    cases hrun
    exact hclean
  | cons event events ih =>
    obtain ⟨middle, hmiddle, hrun⟩ := Duty.run_cons_iff.1 hrun
    obtain ⟨hleaks, hrest⟩ := (Duty.undisturbed_cons_iff hmiddle).1 hundisturbed
    have hbuilds := ProxyTask.builds_step (hcredentials event List.mem_cons_self) hquiet hmiddle
    exact ih (fun e he => hcredentials e (List.mem_cons_of_mem event he)) hbuilds.quiet
      (step_clean hbuilds hleaks hclean) hrun hrest

end Runs

theorem admission_blank {consumer : ConsumerContext} {request : IncomingRequest}
    {record : RequestRecord} {wantsStream : Bool}
    (h : admission consumer request = .metered record wantsStream) : record.Blank := by
  obtain ⟨endpoint, prices, -, -, -, -, -, rfl⟩ := admission_metered_iff.1 h
  exact ⟨rfl, rfl⟩

theorem accepted_quiet {record : RequestRecord} (h : record.Blank) (credentials : List String)
    (wantsStream : Bool) (accepted : Moment) :
    (ProxyTask.accepted record wantsStream accepted).Quiet credentials :=
  ⟨h, fun _ hmeter => by cases hmeter⟩

/-- A run none of whose steps reveals a credential stores none, and a step that reveals one builds a
record that shows it.  Of a reason that is scrubbed only a control character inside a credential does,
where the credential keeps apart from the proxy's own placeholder and mark. -/
theorem credentials_not_persisted_iff (reading : Reading) (credentials : List String) :
    (∀ (consumer : ConsumerContext) (request : IncomingRequest) (record : RequestRecord)
      (wantsStream : Bool) (accepted : Moment) (events : List (Moment × ProxyEvent))
      (task : ProxyTask),
      (∀ credential ∈ credentials, minScrubbedSecretLen ≤ utf8Length credential.toList) →
      admission consumer request = .metered record wantsStream →
      (∀ event ∈ events, event.1.credentials = credentials) →
      Duty.run (ProxyTask.step reading.withTexts)
        (ProxyTask.accepted record wantsStream accepted) events = some task →
      (Duty.Undisturbed (ProxyTask.step reading.withTexts) (ProxyTask.Leaks reading credentials)
        (ProxyTask.accepted record wantsStream accepted) events → task.Clean credentials) ∧
      ∀ (event : Moment × ProxyEvent) (next : ProxyTask), event.1.credentials = credentials →
        task.step reading.withTexts event = some next →
        task.Leaks reading credentials event → ¬ next.Clean credentials) ∧
    (∀ (credential reason : String), credential ∈ credentials →
      minScrubbedSecretLen ≤ utf8Length credential.toList → KeepsApart credential →
      (Written.scrubbed reason).Reveals credentials credential →
      ∃ part, part <:+: reason.toList ∧ credential.toList = part.filterMap readable ∧
        ∃ c ∈ part, isControl c = true) := by
  constructor
  · intro consumer request record wantsStream accepted events task _ hadmission hcredentials hrun
    have hquiet := accepted_quiet (admission_blank hadmission) credentials wantsStream accepted
    refine ⟨fun hundisturbed => ?_, fun event next hevent hstep hleaks => ?_⟩
    · refine run_clean hcredentials hquiet ?_ hrun hundisturbed
      intro record hrecord
      exact absurd hrecord List.not_mem_nil
    · have hbuilds := ProxyTask.builds_step hevent (quiet_run hcredentials hquiet hrun) hstep
      exact step_reveals hbuilds hleaks
  · intro credential reason hmem hlong hapart hreveals
    exact spells_of_markedReason hapart hmem hlong hreveals

namespace Sample

/-- The upstream is not reached, and the error quotes the key. -/
def unreachable : List (Moment × ProxyEvent) :=
  [(moment 40, .connectFailed "bad key sk-upstream-key\n"), (moment 42, .queued)]

def unreachableTask : ProxyTask :=
  (Duty.run (ProxyTask.step reading.withTexts)
    (ProxyTask.accepted questionRecord false (moment 2)) unreachable).getD
      (ProxyTask.accepted questionRecord false (moment 2))

/-- `bad key sk-upstream-key`, as an upstream quotes the key it was given. -/
def quotedKey : Bytes :=
  [98, 97, 100, 32, 107, 101, 121, 32, 115, 107, 45, 117, 112, 115, 116, 114, 101, 97, 109, 45, 107,
    101, 121]

def rejectedHead : UpstreamHead where
  status := 401
  contentType := some "text/plain"
  buildable := true

def rejection : List (Moment × ProxyEvent) :=
  [(moment 40, .responded rejectedHead), (moment 41, .frame quotedKey), (moment 41, .ended),
    (moment 42, .queued)]

/-- The body is there and has not ended. -/
def rejectedBody : ProxyTask :=
  (Duty.run (ProxyTask.step reading.withTexts)
    (ProxyTask.accepted questionRecord false (moment 2)) (rejection.take 2)).getD
      (ProxyTask.accepted questionRecord false (moment 2))

def rejectedTask : ProxyTask :=
  (Duty.run (ProxyTask.step reading.withTexts)
    (ProxyTask.accepted questionRecord false (moment 2)) rejection).getD
      (ProxyTask.accepted questionRecord false (moment 2))

end Sample

theorem credentials_not_persisted_iff_unreachable :
    (Sample.unreachableTask.handed.map RequestRecord.texts =
        [["upstream connection failed: bad key <redacted> "]] ∧
      Sample.unreachableTask.Clean ["sk-upstream-key"]) ∧
    (∃ next, Sample.rejectedBody.step Sample.reading.withTexts (Sample.moment 41, .ended) = some next ∧
      ¬ next.Clean ["sk-upstream-key"]) ∧
    ∃ part, part <:+: "sk-up\u0001stream-key".toList ∧
      "sk-upstream-key".toList = part.filterMap readable ∧ ∃ c ∈ part, isControl c = true := by
  obtain ⟨hruns, hscrubbed⟩ := credentials_not_persisted_iff Sample.reading ["sk-upstream-key"]
  have hlong : ∀ credential ∈ ["sk-upstream-key"],
      minScrubbedSecretLen ≤ utf8Length credential.toList := by decide +kernel
  have hadmission : admission Sample.subscriber Sample.question =
      .metered Sample.questionRecord false := by decide +kernel
  refine ⟨⟨by decide +kernel, ?_⟩, ⟨_, rfl, ?_⟩, ?_⟩
  · exact (hruns _ _ _ _ (Sample.moment 2) Sample.unreachable Sample.unreachableTask hlong hadmission
      (by decide +kernel) rfl).1 (by decide +kernel)
  · exact (hruns _ _ _ _ (Sample.moment 2) (Sample.rejection.take 2) Sample.rejectedBody hlong
      hadmission (by decide +kernel) rfl).2 (Sample.moment 41, .ended) _ rfl rfl (by decide +kernel)
  · exact hscrubbed "sk-upstream-key" "sk-up\u0001stream-key" (by decide) (by decide +kernel)
      (by decide +kernel) (by decide +kernel)

/-- An upstream that quotes the key it was given has it stored. -/
theorem quoted_key_persisted :
    admission Sample.subscriber Sample.question = .metered Sample.questionRecord false ∧
      (∀ event ∈ Sample.rejection, event.1.credentials = ["sk-upstream-key"]) ∧
      Duty.run (ProxyTask.step Sample.reading.withTexts)
        (ProxyTask.accepted Sample.questionRecord false (Sample.moment 2)) Sample.rejection =
          some Sample.rejectedTask ∧
      ∃ record ∈ Sample.rejectedTask.handed, record.Shows "sk-upstream-key" := by
  have hdecoded : decodedErrorBody Sample.quotedKey = "bad key sk-upstream-key".toList := by
    rw [decodedErrorBody, List.take_of_length_le (by decide +kernel),
      Utf8.characters_ascii (by decide +kernel)]
    decide
  have hmarked : markedBody Sample.quotedKey = "bad key sk-upstream-key".toList := by
    rw [markedBody, errorBodyTruncated, hdecoded]
    decide
  refine ⟨by decide +kernel, by decide, rfl, _, List.mem_cons_self, ?_⟩
  exact ⟨boundedErrorBody Sample.quotedKey, List.mem_append_right _ List.mem_cons_self,
    (@Written.reveals_iff [] "sk-upstream-key" (.body Sample.quotedKey)).2
      (by rw [Written.Reveals, hmarked]; decide)⟩

end PartnerPortal
