import PartnerPortal.Proxy.Service

/-!
# What is forwarded is on the books

In every order of the steps of any number of requests, detached tasks and the ledger writer, a request
is forwarded only when its accept is in a committed transaction, and what the proxy hands over about it
is committed, on its way to the writer, or told as a loss by an unhealthy instance.

Results:
- `forwarded_on_the_books` — the row of a request precedes its upstream call;
- `handed_over_booked` — what becomes of the terminal record of a forwarded request.
-/

namespace PartnerPortal

/-- The record of a request that the proxy accepts: of a partner in service, for a model with a
price. -/
structure RequestRecord.AdmittedFor (record : RequestRecord) (consumer : ConsumerContext)
    (request : IncomingRequest) : Prop where
  metered : ∃ wantsStream, proxyHandler consumer (some request) = .metered record wantsStream
  inService : consumer.serviceStatus.isSuspended = false
  priced : ∃ prices, consumer.pricingFor request.model = some prices ∧ record.pricing = some prices

/-- The event is a request that the proxy accepts with the record. -/
def ServiceEvent.Brings (event : ServiceEvent) (record : RequestRecord) : Prop :=
  ∃ consumer request, event = .requested consumer (some request) ∧
    record.AdmittedFor consumer request

theorem brings_of_metered {consumer : ConsumerContext} {request : Option IncomingRequest}
    {record : RequestRecord} {wantsStream : Bool}
    (h : proxyHandler consumer request = .metered record wantsStream) :
    (ServiceEvent.requested consumer request).Brings record := by
  obtain ⟨request, rfl, hadmission⟩ := proxyHandler_metered h
  obtain ⟨endpoint, prices, -, -, hservice, hprices, -, rfl⟩ := admission_metered_iff.1 hadmission
  exact ⟨consumer, request, rfl, ⟨_, h⟩, hservice, prices, hprices, rfl⟩

namespace WriterTask

/-- The write is in a committed transaction. -/
def Durable (writer : WriterTask) (write : PendingWrite) : Prop :=
  ∃ commit ∈ writer.commits, Recorded commit.after write

/-- The write is in a committed transaction, or the instance is out of rotation. -/
def Booked (writer : WriterTask) (write : PendingWrite) : Prop :=
  writer.Durable write ∨ writer.healthy = false

variable {config : LedgerWriterConfig} {before after : WriterTask} {entry : Entry}
  {write : PendingWrite} {ticket : Nat}

theorem Durable.grow (h : before.Durable write) (hgrows : before.Grows after) : after.Durable write := by
  obtain ⟨commit, hcommit, hrecorded⟩ := h
  exact ⟨commit, hgrows.commits.subset hcommit, hrecorded⟩

theorem Booked.grow (h : before.Booked write) (hgrows : before.Grows after) : after.Booked write :=
  h.imp (fun h => h.grow hgrows) hgrows.unhealthy

/-- Whatever a call is told, its write is booked. -/
theorem Owns.booked (h : before.Owns entry) (hserved : before.Served config) {told : Bool}
    (houtcome : before.outcome entry.ticket = some told) : before.Booked entry.write := by
  cases told with
  | true => exact Or.inl (h.outcome_true hserved houtcome)
  | false => exact Or.inr (h.outcome_false hserved houtcome)

/-- What a step leaves to the other calls: only a call that is dropped loses its write. -/
structure Carries (before after : WriterTask) (dropped : Option Nat) : Prop where
  grows : before.Grows after
  owns : ∀ entry, before.Owns entry → dropped ≠ some entry.ticket → after.Owns entry

theorem Carries.refl (writer : WriterTask) : writer.Carries writer none :=
  ⟨⟨List.prefix_rfl, List.prefix_rfl, Nat.le_refl _, id⟩, fun _ h _ => h⟩

theorem Carries.trans {middle : WriterTask} {dropped : Option Nat}
    (h : before.Carries middle none) (h' : middle.Carries after dropped) :
    before.Carries after dropped :=
  ⟨h.grows.trans h'.grows, fun entry howns hne => h'.owns entry (h.owns entry howns nofun) hne⟩

theorem call_carries (writer : WriterTask) (write : PendingWrite) :
    writer.Carries (writer.call write) none := by
  refine ⟨call_grows writer write, fun entry h _ => ?_⟩
  unfold call
  split
  · exact h.imp_left (List.mem_append_left _)
  · exact h

theorem markUnhealthy_carries (writer : WriterTask) : writer.Carries writer.markUnhealthy none :=
  ⟨⟨List.prefix_rfl, List.prefix_rfl, Nat.le_refl _, fun _ => rfl⟩, fun _ h _ => h⟩

theorem Carries.markUnhealthy {dropped : Option Nat} (h : before.Carries after dropped) :
    before.Carries after.markUnhealthy dropped :=
  ⟨h.grows.trans (markUnhealthy_carries after).grows, h.owns⟩

theorem letGo_carries (writer : WriterTask) (ticket : Nat) :
    writer.Carries (writer.letGo ticket) (some ticket) := by
  refine ⟨⟨List.prefix_rfl, List.prefix_rfl, Nat.le_refl _, id⟩, fun entry h hne => ?_⟩
  refine h.imp_left fun hmem => List.mem_filter.2 ⟨hmem, ?_⟩
  have hticket : entry.ticket ≠ ticket := fun heq => hne (by rw [heq])
  simpa using hticket

end WriterTask

/-- The call that an event of the writer drops. -/
def WriterEvent.dropped : WriterEvent → Option Nat
  | .cancelled ticket => some ticket
  | _ => none

namespace WriterTask

variable {iso : Iso8601} {config : LedgerWriterConfig} {before after : WriterTask}
  {event : WriterEvent}

theorem step_carries (h : before.Served config) (hstep : before.step iso config event = some after) :
    before.Carries after event.dropped := by
  refine ⟨step_grows h.coherent hstep, fun entry howns hne => ?_⟩
  refine step_owns h.coherent h.distinct hstep ?_ howns
  rintro rfl
  exact hne rfl

theorem call_served (iso : Iso8601) (h : before.Served config) (write : PendingWrite) :
    (before.call write).Served config := by
  have hstep : before.step iso config (.called write) = some (before.call write) := rfl
  exact step_served h hstep

theorem letGo_served (iso : Iso8601) (h : before.Served config) (ticket : Nat) :
    (before.letGo ticket).Served config := by
  have hstep : before.step iso config (.cancelled ticket) = some (before.letGo ticket) := rfl
  exact step_served h hstep

/-- A write that the channel takes was sent. -/
theorem send_entered (hserved : before.Served config) {entry : Entry} (howns : before.Owns entry)
    (h : before.send config entry.ticket = some after) (hgoes : before.stopped = false) :
    entry ∈ after.entered := by
  unfold send at h
  split at h
  · cases h
  · rename_i found hfind
    have hfound := List.mem_of_find?_eq_some hfind
    have hticket : found.ticket = entry.ticket := by simpa using List.find?_some hfind
    have hsame : found = entry := by
      rcases howns with howns | howns
      · exact List.inj_on_of_nodup_map hserved.distinct hfound howns hticket
      · exact absurd hticket (hserved.coherent.accounts.unsent found hfound entry howns)
    simp only [hgoes, Bool.false_eq_true, if_false] at h
    obtain ⟨-, h⟩ := Option.ite_none_right_eq_some.1 h
    cases h
    rw [hsame]
    exact List.mem_append_right _ (List.mem_singleton_self _)

/-- A sender gives the call a ticket of its own. -/
theorem call_nextTicket {write : PendingWrite} (hwrite : write.asserted = true)
    (haccepts : before.accepts = true) : (before.call write).nextTicket = before.nextTicket + 1 := by
  have hsender : before.shuttingDown = false ∧ before.handle = true := by
    simpa [accepts] using haccepts
  unfold call
  rw [if_pos ⟨hwrite, by simp [hsender.1], hsender.2⟩]

end WriterTask

/-! ## What a forwarded request waits for -/

namespace ProxyTask

/-- Its call of `finalize`, and what the handler has answered. -/
def Awaits (writer : WriterTask) (ticket : Option Nat) (task : ProxyTask) : Prop :=
  match task.phase with
  | .forwarding _ | .buffering _ _ => ticket = none ∧ task.answer = none
  | .finalizing record _ =>
    task.answer = none ∧ ∀ t, ticket = some t → writer.Owns ⟨t, .finalize record⟩
  | .acknowledging _ =>
    task.answer = none ∧ ∃ t record, ticket = some t ∧ record ∈ task.handed ∧
      ⟨t, .finalize record⟩ ∈ writer.entered
  | .streaming _ _ | .streamed _ => ticket = none
  | .over =>
    ticket.isSome = true → task.answer.isSome = true →
      (∃ record ∈ task.handed, writer.Durable (.finalize record)) ∨ writer.healthy = false

variable {reading : Reading} {writer : WriterTask} {task next : ProxyTask} {ticket : Option Nat}
  {event : Moment × ProxyEvent}

/-- A buffered body leads to a record that is finalized by the handler. -/
theorem bodyRead_awaits (hanswer : task.answer = none) (now : Moment) (head : UpstreamHead)
    (body : Bytes) (fate : BodyFate) :
    (task.bodyRead reading now head body fate).Awaits writer none := by
  have hfinalize : ∀ failure answer, (task.finalizeAndRespond now failure answer).Awaits writer none :=
    fun _ _ => ⟨hanswer, nofun⟩
  unfold bodyRead
  split
  · cases fate with
    | complete => exact ⟨hanswer, nofun⟩
    | capExceeded | broken => exact hfinalize _ _
  · exact hfinalize _ _

/-- A task that is over waits for nothing, unless it was answered. -/
theorem awaits_of_over (hphase : task.phase = .over) : task.Awaits writer none := by
  unfold Awaits
  rw [hphase]
  exact nofun

theorem responded_awaits (hanswer : task.answer = none) (now : Moment) (timeoutSecs : Nat)
    (head : UpstreamHead) : (task.responded reading now timeoutSecs head).Awaits writer none := by
  unfold responded
  split
  · unfold streamResponse
    dsimp only
    split
    · exact rfl
    · exact awaits_of_over rfl
  · exact ⟨rfl, hanswer⟩

theorem stepForwarding_awaits {now : Moment} {timeoutSecs : Nat} {event : ProxyEvent}
    (h : task.stepForwarding reading now timeoutSecs event = some next) (hanswer : task.answer = none) :
    next.Awaits writer none := by
  have hfinalize : ∀ failure answer, (task.finalizeAndRespond now failure answer).Awaits writer none :=
    fun _ _ => ⟨hanswer, nofun⟩
  unfold stepForwarding at h
  split at h
  · cases h
    exact hfinalize _ _
  · cases h
    exact hfinalize _ _
  · cases h
    exact responded_awaits hanswer _ _ _
  · cases h
    exact awaits_of_over rfl
  · cases h

theorem stepBuffering_awaits {now : Moment} {head : UpstreamHead} {acc : Bytes} {event : ProxyEvent}
    (h : task.stepBuffering reading now head acc event = some next) (ha : task.Awaits writer none)
    (hanswer : task.answer = none) : next.Awaits writer none := by
  unfold stepBuffering at h
  split at h
  · split at h
    · cases h
      exact bodyRead_awaits hanswer _ _ _ _
    · cases h
      exact ⟨rfl, hanswer⟩
  · cases h
    exact ha
  · cases h
    exact bodyRead_awaits hanswer _ _ _ _
  · cases h
    exact bodyRead_awaits hanswer _ _ _ _
  · cases h
    exact awaits_of_over rfl
  · cases h

theorem stepStreaming_awaits {now : Moment} {meter : StreamMeter} {timeoutSecs : Nat}
    {event : ProxyEvent} (h : task.stepStreaming reading now meter timeoutSecs event = some next)
    (ha : task.Awaits writer none) : next.Awaits writer none := by
  unfold stepStreaming at h
  split at h
  · split at h
    · cases h
      exact ha
    · cases h
      exact rfl
  · cases h
    exact ha
  · cases h
    exact rfl
  · cases h
    exact rfl
  · cases h
    exact rfl
  · cases h
    exact awaits_of_over rfl
  · cases h

/-- Without a call of `finalize` nothing is waited for but what the upstream and the client do. -/
theorem step_awaits_none (hevent : Service.ofWriter event.2 = false)
    (h : task.step reading event = some next) (ha : task.Awaits writer none) :
    next.Awaits writer none := by
  obtain ⟨now, event⟩ := event
  have hawaits := ha
  unfold Awaits at hawaits
  unfold step at h
  dsimp only at h hevent ⊢
  split at h
  · rename_i timeoutSecs hphase
    rw [hphase] at hawaits
    exact stepForwarding_awaits h hawaits.2
  · rename_i head acc hphase
    rw [hphase] at hawaits
    exact stepBuffering_awaits h ha hawaits.2
  · rename_i record answer hphase
    unfold stepFinalizing at h
    split at h
    · cases hevent
    · cases hevent
    · cases h
      exact awaits_of_over rfl
    · cases h
  · rename_i answer hphase
    rw [hphase] at hawaits
    obtain ⟨-, t, -, hnone, -⟩ := hawaits
    cases hnone
  · exact stepStreaming_awaits h ha
  · rename_i meter hphase
    unfold stepStreamed at h
    split at h
    · cases h
      exact awaits_of_over rfl
    · cases h
  · cases h

theorem step_of_finalizing {record : RequestRecord} {answer : Answer}
    (hphase : task.phase = .finalizing record answer) (now : Moment) (event : ProxyEvent) :
    task.step reading (now, event) = task.stepFinalizing record answer event := by
  unfold step
  rw [hphase]

theorem step_of_acknowledging {answer : Answer} (hphase : task.phase = .acknowledging answer)
    (now : Moment) (event : ProxyEvent) :
    task.step reading (now, event) = task.stepAcknowledging answer event := by
  unfold step
  rw [hphase]

/-- While its call of `finalize` is out, only the client can make the handler go on, by leaving. -/
theorem step_awaits_some {t : Nat} (hevent : Service.ofWriter event.2 = false)
    (h : task.step reading event = some next) (ha : task.Awaits writer (some t)) :
    event.2 = .dropped ∧ next = task.drop ∧ task.answer = none := by
  obtain ⟨now, event⟩ := event
  unfold Awaits at ha
  unfold step at h
  dsimp only at h hevent ⊢
  split at h
  · rename_i hphase
    rw [hphase] at ha
    cases ha.1
  · rename_i hphase
    rw [hphase] at ha
    cases ha.1
  · rename_i record answer hphase
    rw [hphase] at ha
    unfold stepFinalizing at h
    split at h
    · cases hevent
    · cases hevent
    · cases h
      exact ⟨rfl, rfl, ha.1⟩
    · cases h
  · rename_i answer hphase
    rw [hphase] at ha
    unfold stepAcknowledging at h
    split at h
    · cases hevent
    · cases hevent
    · cases h
      exact ⟨rfl, rfl, ha.1⟩
    · cases h
  · rename_i hphase
    rw [hphase] at ha
    cases ha
  · rename_i hphase
    rw [hphase] at ha
    cases ha
  · cases h

/-- What the other tasks do leaves it as it is. -/
theorem Awaits.carry {before after : WriterTask} {dropped : Option Nat}
    (h : task.Awaits before ticket) (hcarries : before.Carries after dropped)
    (hkept : ∀ t, ticket = some t → dropped ≠ some t) : task.Awaits after ticket := by
  unfold Awaits at *
  split at h
  · exact h
  · exact h
  · exact ⟨h.1, fun t ht => hcarries.owns _ (h.2 t ht) (hkept t ht)⟩
  · obtain ⟨hanswer, t, record, ht, hrecord, hentered⟩ := h
    exact ⟨hanswer, t, record, ht, hrecord, hcarries.grows.entered.subset hentered⟩
  · exact h
  · exact h
  · intro ht hanswer
    refine (h ht hanswer).imp ?_ hcarries.grows.unhealthy
    rintro ⟨record, hrecord, hdurable⟩
    exact ⟨record, hrecord, hdurable.grow hcarries.grows⟩

end ProxyTask

/-! ## The invariant -/

namespace Service

/-- Where a record is that was handed over: with the writer, or with a detached task. -/
def InHand (s : Service) (ticket : Option Nat) (record : RequestRecord) : Prop :=
  (∃ t, ticket = some t ∧ ⟨t, .finalize record⟩ ∈ s.writer.entered) ∨
    ∃ i state, s.activity i = .detached record state

/-- What holds of a request whose upstream is contacted.  Its record is one of the known ones. -/
structure Forwarded (s : Service) (known : RequestRecord → Prop) (task : ProxyTask)
    (ticket : Option Nat) : Prop where
  admitted : known task.record
  accepted : s.writer.Durable (.accept task.record)
  sound : task.Sound task.record.requestId
  once : Duty.total ProxyTask.owed ProxyTask.handed task ≤ 1
  inHand : ∀ record ∈ task.handed, s.InHand ticket record
  awaits : task.Awaits s.writer ticket

/-- What holds of a task. -/
def Kept (s : Service) (known : RequestRecord → Prop) : Activity → Prop
  | .accepting record _ ticket => known record ∧ s.writer.Owns ⟨ticket, .accept record⟩
  | .forwarded task ticket => s.Forwarded known task ticket
  | .detached record .spawned => record.isTerminal = true
  | .detached record (.called ticket) | .detached record (.tried ticket) =>
    s.writer.Owns ⟨ticket, .finalize record⟩
  | .detached record .ended => s.writer.Booked (.finalize record)
  | .idle | .closed _ | .unmetered => True

structure Inv (config : LedgerWriterConfig) (known : RequestRecord → Prop) (s : Service) : Prop where
  served : s.writer.Served config
  fresh : ∀ i, s.next ≤ i → s.activity i = .idle
  apart : ∀ i j t, (s.activity i).ticket = some t → (s.activity j).ticket = some t → i = j
  given : ∀ i t, (s.activity i).ticket = some t → t < s.writer.nextTicket
  kept : ∀ i, s.Kept known (s.activity i)

variable {reading : Reading} {iso : Iso8601} {config : LedgerWriterConfig}
  {known : RequestRecord → Prop} {s t : Service} {activity : Activity} {dropped : Option Nat} {i : Nat}

/-- Detached tasks stay, with their records. -/
def KeepsDetached (s t : Service) : Prop :=
  ∀ i record state, s.activity i = .detached record state →
    ∃ state, t.activity i = .detached record state

theorem InHand.carry {ticket : Option Nat} {record : RequestRecord} (h : s.InHand ticket record)
    (hgrows : s.writer.Grows t.writer) (hdetached : s.KeepsDetached t) : t.InHand ticket record := by
  rcases h with ⟨n, hn, hentered⟩ | ⟨j, state, hstate⟩
  · exact Or.inl ⟨n, hn, hgrows.entered.subset hentered⟩
  · exact Or.inr ⟨j, hdetached j record state hstate⟩

theorem Kept.carry (h : s.Kept known activity) (hcarries : s.writer.Carries t.writer dropped)
    (hkept : ∀ n, activity.ticket = some n → dropped ≠ some n) (hdetached : s.KeepsDetached t) :
    t.Kept known activity := by
  cases activity with
  | idle | closed | unmetered => trivial
  | accepting record wantsStream ticket => exact ⟨h.1, hcarries.owns _ h.2 (hkept ticket rfl)⟩
  | forwarded task ticket =>
    exact ⟨h.admitted, h.accepted.grow hcarries.grows, h.sound, h.once,
      fun record hrecord => (h.inHand record hrecord).carry hcarries.grows hdetached,
      h.awaits.carry hcarries hkept⟩
  | detached record state =>
    cases state with
    | spawned => exact h
    | called ticket => exact hcarries.owns _ h (hkept ticket rfl)
    | tried ticket => exact hcarries.owns _ h (hkept ticket rfl)
    | ended => exact h.grow hcarries.grows

/-- One task moves on, and the writer with it.  It drops no call but its own, and a new call of it has
a new ticket. -/
theorem Inv.update (h : s.Inv config known)
    (hactivity : t.activity = Function.update s.activity i activity)
    (hcarries : s.writer.Carries t.writer dropped) (hserved : t.writer.Served config)
    (hnext : s.next ≤ t.next) (hi : i < t.next)
    (hdropped : ∀ n, dropped = some n → (s.activity i).ticket = some n)
    (hticket : ∀ n, activity.ticket = some n → (s.activity i).ticket = some n ∨
      s.writer.nextTicket = n ∧ n < t.writer.nextTicket)
    (hdetached : ∀ record state, s.activity i = .detached record state →
      ∃ state, activity = .detached record state)
    (hkept : t.Kept known activity) : t.Inv config known := by
  have hown : t.activity i = activity := by rw [hactivity, Function.update_self]
  have hother : ∀ {j}, j ≠ i → t.activity j = s.activity j := fun hj => by
    rw [hactivity, Function.update_of_ne hj]
  have hkeeps : s.KeepsDetached t := fun j record state hstate => by
    by_cases hj : j = i
    · subst hj
      rw [hown]
      exact hdetached record state hstate
    · exact ⟨state, (hother hj).trans hstate⟩
  -- a ticket of another task is not one this task has now
  have hapart : ∀ j n, j ≠ i → (s.activity j).ticket = some n → activity.ticket ≠ some n := by
    intro j n hj hn hnew
    rcases hticket n hnew with hold | ⟨hnew, -⟩
    · exact hj (h.apart j i n hn hold)
    · exact (h.given j n hn).ne hnew.symm
  refine ⟨hserved, fun j hj => ?_, fun j k n hjn hkn => ?_, fun j n hn => ?_, fun j => ?_⟩
  · rw [hother (Nat.lt_of_lt_of_le hi hj).ne']
    exact h.fresh j (hnext.trans hj)
  · by_cases hj : j = i
    · by_cases hk : k = i
      · rw [hj, hk]
      · rw [hj, hown] at hjn
        rw [hother hk] at hkn
        exact absurd hjn (hapart k n hk hkn)
    · rw [hother hj] at hjn
      by_cases hk : k = i
      · rw [hk, hown] at hkn
        exact absurd hkn (hapart j n hj hjn)
      · rw [hother hk] at hkn
        exact h.apart j k n hjn hkn
  · by_cases hj : j = i
    · rw [hj, hown] at hn
      rcases hticket n hn with hold | ⟨-, hnew⟩
      · exact (h.given i n hold).trans_le hcarries.grows.nextTicket
      · exact hnew
    · rw [hother hj] at hn
      exact (h.given j n hn).trans_le hcarries.grows.nextTicket
  · by_cases hj : j = i
    · rw [hj, hown]
      exact hkept
    · rw [hother hj]
      exact (h.kept j).carry hcarries (fun n hn hdrop => hj (h.apart j i n hn (hdropped n hdrop)))
        hkeeps

theorem Inv.kept_of (h : s.Inv config known) (hactivity : s.activity i = activity) :
    s.Kept known activity :=
  hactivity ▸ h.kept i

/-- A task that does something is one there is. -/
theorem Inv.lt_next (h : s.Inv config known) (hi : s.activity i ≠ .idle) : i < s.next :=
  Nat.lt_of_not_le fun hle => hi (h.fresh i hle)

/-! ## One step -/

/-- A new task that waits for no call. -/
theorem Inv.spawn (h : s.Inv config known) (hticket : activity.ticket = none)
    (hkept : (s.spawn activity).Kept known activity) : (s.spawn activity).Inv config known :=
  h.update rfl (.refl _) h.served (Nat.le_succ _) (Nat.lt_succ_self _) nofun
    (fun n hn => by rw [hticket] at hn; cases hn)
    (fun record state hstate => by rw [h.fresh s.next (Nat.le_refl _)] at hstate; cases hstate) hkept

theorem Inv.markUnhealthy (h : s.Inv config known) :
    (s.withWriter s.writer.markUnhealthy).Inv config known where
  served := WriterTask.markUnhealthy_served h.served
  fresh := h.fresh
  apart := h.apart
  given := h.given
  kept := fun i => (h.kept i).carry (WriterTask.markUnhealthy_carries _) (fun _ _ => nofun)
    fun _ _ state hstate => ⟨state, hstate⟩

theorem metered_inFlight {consumer : ConsumerContext} {request : Option IncomingRequest}
    {record : RequestRecord} {wantsStream : Bool}
    (h : proxyHandler consumer request = .metered record wantsStream) :
    (PendingWrite.accept record).asserted = true := by
  obtain ⟨request, rfl, hadmission⟩ := proxyHandler_metered h
  obtain ⟨endpoint, prices, -, -, -, -, -, rfl⟩ := admission_metered_iff.1 hadmission
  rfl

theorem request_inv (h : s.Inv config known) {consumer : ConsumerContext}
    {request : Option IncomingRequest} (iso : Iso8601)
    (hknown : ∀ record, (ServiceEvent.requested consumer request).Brings record → known record) :
    (s.request consumer request).Inv config known := by
  unfold Service.request
  split
  · exact h.spawn rfl trivial
  · exact h.spawn rfl trivial
  · rename_i record wantsStream hmetered
    split
    · rename_i haccepts
      have hwrite := metered_inFlight hmetered
      refine h.update rfl (WriterTask.call_carries _ _) (WriterTask.call_served iso h.served _)
        (Nat.le_succ _) (Nat.lt_succ_self _) nofun (fun n hn => Or.inr ?_)
        (fun _ _ hstate => by rw [h.fresh s.next (Nat.le_refl _)] at hstate; cases hstate)
        ⟨hknown record (brings_of_metered hmetered), WriterTask.call_owns hwrite haccepts⟩
      cases hn
      exact ⟨rfl, (WriterTask.call_nextTicket hwrite haccepts).symm ▸ Nat.lt_succ_self _⟩
    · have hclosed : (s.spawn (.closed (some meteringUnavailable))).Inv config known :=
        h.spawn rfl trivial
      exact hclosed.markUnhealthy

theorem accept_inv (h : s.Inv config known) {now : Moment} (hstep : s.accept i now = some t) :
    t.Inv config known := by
  unfold Service.accept at hstep
  split at hstep
  · rename_i record wantsStream ticket hactivity
    have hkept := h.kept_of hactivity
    have hi : i < s.next := h.lt_next (by rw [hactivity]; nofun)
    have hnew : ∀ {a : Activity} record state, s.activity i = .detached record state →
        ∃ state, a = .detached record state := fun _ _ hstate => by
      rw [hactivity] at hstate
      cases hstate
    obtain ⟨told, htold, hstep⟩ := Option.map_eq_some_iff.1 hstep
    cases told with
    | true =>
      cases hstep
      refine h.update rfl (.refl _) h.served (Nat.le_refl _) hi nofun nofun hnew ?_
      exact
        { admitted := hkept.1
          accepted := hkept.2.outcome_true h.served htold
          sound := ProxyTask.accepted_sound record wantsStream now
          once := Nat.le_refl 1
          inHand := fun _ hrecord => by cases hrecord
          awaits := ⟨rfl, rfl⟩ }
    | false =>
      cases hstep
      exact Inv.markUnhealthy
        (h.update (t := s.set i _) rfl (.refl _) h.served (Nat.le_refl _) hi nofun nofun hnew trivial)
  · cases hstep

theorem abandon_inv (h : s.Inv config known) (iso : Iso8601) (hstep : s.abandon i = some t) :
    t.Inv config known := by
  unfold Service.abandon at hstep
  split at hstep
  · rename_i record wantsStream ticket hactivity
    cases hstep
    refine h.update rfl (WriterTask.letGo_carries _ _) (WriterTask.letGo_served iso h.served _)
      (Nat.le_refl _) (h.lt_next (by rw [hactivity]; nofun)) (fun n hn => ?_) nofun
      (fun _ _ hstate => by rw [hactivity] at hstate; cases hstate) trivial
    cases hn
    rw [hactivity]
    rfl
  · cases hstep

theorem Forwarded.step {task next : ProxyTask} {ticket ticket' : Option Nat}
    {event : Moment × ProxyEvent} (h : s.Forwarded known task ticket)
    (hstep : task.step reading event = some next) (hgrows : s.writer.Grows t.writer)
    (hinHand : ∀ record ∈ next.handed, t.InHand ticket' record)
    (hawaits : next.Awaits t.writer ticket') : t.Forwarded known next ticket' := by
  obtain ⟨given, hmoves⟩ := ProxyTask.step_moves hstep
  have hsound := h.sound.step hstep
  have honce := hmoves.owed
  refine ⟨hmoves.record ▸ h.admitted, hmoves.record ▸ h.accepted.grow hgrows,
    hmoves.record ▸ hsound, ?_, hinHand, hawaits⟩
  refine Nat.le_trans ?_ h.once
  unfold Duty.total
  rw [← honce, hmoves.handed, List.length_append]
  omega

/-- A task that is not a detached one may become anything. -/
theorem keepsDetached {new : Activity} (hactivity : t.activity = Function.update s.activity i new)
    (hi : ∀ record state, s.activity i ≠ .detached record state) : s.KeepsDetached t := by
  intro j record state hstate
  have hj : j ≠ i := by
    rintro rfl
    exact hi record state hstate
  exact ⟨state, by rw [hactivity, Function.update_of_ne hj, hstate]⟩

theorem KeepsDetached.trans {u : Service} (h : s.KeepsDetached t) (h' : t.KeepsDetached u) :
    s.KeepsDetached u := fun j record state hstate => by
  obtain ⟨state, hstate⟩ := h j record state hstate
  exact h' j record state hstate

/-- What the writer loses when something happens to a request. -/
theorem dropped_carries (writer : WriterTask) (event : ProxyEvent) (ticket : Option Nat) :
    writer.Carries (if event = .dropped then ticket.elim writer writer.letGo else writer)
      (if event = .dropped then ticket else none) := by
  split
  · cases ticket with
    | none => exact .refl writer
    | some n => exact WriterTask.letGo_carries writer n
  · exact .refl writer

theorem dropped_served (iso : Iso8601) {writer : WriterTask} (h : writer.Served config)
    (event : ProxyEvent) (ticket : Option Nat) :
    (if event = .dropped then ticket.elim writer writer.letGo else writer).Served config := by
  split
  · cases ticket with
    | none => exact h
    | some n => exact WriterTask.letGo_served iso h n
  · exact h

/-- After something that is not the writer's doing, a request waits for what it may. -/
theorem proxied_awaits {task next : ProxyTask} {ticket : Option Nat} {event : Moment × ProxyEvent}
    {writer : WriterTask} (hevent : ofWriter event.2 = false)
    (hstep : task.step reading event = some next) (h : task.Awaits writer ticket) :
    next.Awaits (if event.2 = .dropped then ticket.elim writer writer.letGo else writer) ticket := by
  cases ticket with
  | none =>
    have hnext := ProxyTask.step_awaits_none hevent hstep h
    split <;> exact hnext
  | some n =>
    obtain ⟨-, rfl, hanswer⟩ := ProxyTask.step_awaits_some hevent hstep h
    -- the handler is gone without an answer
    intro _ hanswered
    rw [ProxyTask.drop, hanswer] at hanswered
    cases hanswered

theorem proxy_inv (h : s.Inv config known) (iso : Iso8601) {event : Moment × ProxyEvent}
    (hstep : s.proxy reading i event = some t) : t.Inv config known := by
  unfold Service.proxy at hstep
  split at hstep
  case h_2 => cases hstep
  rename_i task ticket hactivity
  have hkept : s.Forwarded known task ticket := h.kept_of hactivity
  have hi : i < s.next := h.lt_next (by rw [hactivity]; nofun)
  split at hstep
  · cases hstep
  rename_i hevent
  rw [Bool.not_eq_true] at hevent
  obtain ⟨next, hnext, hstep⟩ := Option.map_eq_some_iff.1 hstep
  obtain ⟨given, hmoves⟩ := ProxyTask.step_moves hnext
  have hcarries := dropped_carries s.writer event.2 ticket
  have hserved := dropped_served iso h.served event.2 ticket
  have hawaits := proxied_awaits hevent hnext hkept.awaits
  have hdropped : ∀ n, (if event.2 = .dropped then ticket else none) = some n →
      (s.activity i).ticket = some n := fun n hn => by
    split at hn
    · rw [hactivity]
      exact hn
    · cases hn
  have hrequest : ∀ record state, s.activity i ≠ .detached record state := fun _ _ hstate => by
    rw [hactivity] at hstate
    cases hstate
  have hhanded : next.handed.drop task.handed.length = given.toList := by
    rw [hmoves.handed, List.drop_left]
  cases given with
  | none =>
    rw [hhanded] at hstep
    cases hstep
    refine h.update rfl hcarries hserved (Nat.le_refl _) hi hdropped
      (fun n hn => Or.inl (hactivity ▸ hn)) (fun _ _ hstate => absurd hstate (hrequest _ _)) ?_
    refine hkept.step hnext hcarries.grows (fun record hrecord => ?_) hawaits
    rw [hmoves.handed] at hrecord
    exact (hkept.inHand record (by simpa using hrecord)).carry hcarries.grows
      (keepsDetached rfl hrequest)
  | some record =>
    rw [hhanded] at hstep
    cases hstep
    have hterminal : record.isTerminal = true :=
      ((hmoves.sound hkept.sound.phase).2 record rfl).terminal
    have hne : i ≠ s.next := hi.ne
    -- the detached task first, then the request that handed its record over
    have hspawned : (s.spawn (.detached record .spawned)).Inv config known := h.spawn rfl hterminal
    have hsame : ∀ j, j ≠ s.next → (s.spawn (.detached record .spawned)).activity j = s.activity j :=
      fun j hj => Function.update_of_ne hj _ _
    have hactivities : Function.update (Function.update s.activity i (.forwarded next ticket)) s.next
        (.detached record .spawned) = Function.update (s.spawn (.detached record .spawned)).activity i
          (.forwarded next ticket) := Function.update_comm hne _ _ _
    refine hspawned.update hactivities hcarries hserved (Nat.le_refl _) (hi.trans (Nat.lt_succ_self _))
      (fun n hn => (hsame i hne).symm ▸ hdropped n hn) (fun n hn => Or.inl ?_)
      (fun other state hstate => ?_) ?_
    · rw [hsame i hne, hactivity]
      exact hn
    · rw [hsame i hne] at hstate
      exact absurd hstate (hrequest other state)
    · refine hkept.step hnext hcarries.grows (fun other hother => ?_) hawaits
      rw [hmoves.handed] at hother
      rcases List.mem_append.1 hother with hother | hother
      · have hset : s.KeepsDetached (s.set i (.forwarded next ticket)) := keepsDetached rfl hrequest
        refine (hkept.inHand other hother).carry hcarries.grows
          (hset.trans (keepsDetached rfl fun record state hstate => ?_))
        have hidle : (s.set i (.forwarded next ticket)).activity s.next = .idle :=
          (Function.update_of_ne hne.symm _ _).trans (h.fresh s.next (Nat.le_refl _))
        cases hidle.symm.trans hstate
      · rw [Option.toList_some, List.mem_singleton] at hother
        exact Or.inr ⟨s.next, .spawned, by rw [hother]; exact Function.update_self _ _ _⟩

/-- A request goes on in its own place. -/
theorem Inv.forward (h : s.Inv config known) {task next : ProxyTask} {ticket ticket' : Option Nat}
    (hactivity : s.activity i = .forwarded task ticket) {writer : WriterTask}
    {event : Moment × ProxyEvent} (hstep : task.step reading event = some next)
    (hcarries : s.writer.Carries writer none) (hserved : writer.Served config)
    (hticket : ∀ n, ticket' = some n → ticket = some n ∨
      s.writer.nextTicket = n ∧ n < writer.nextTicket)
    (hold : ∀ n, ticket = some n → ticket' = some n)
    (hinHand : ∀ record ∈ next.handed, record ∈ task.handed ∨
      ∃ n, ticket' = some n ∧ ⟨n, .finalize record⟩ ∈ writer.entered)
    (hawaits : next.Awaits writer ticket') :
    ((s.set i (.forwarded next ticket')).withWriter writer).Inv config known := by
  have hkept : s.Forwarded known task ticket := h.kept_of hactivity
  have hrequest : ∀ record state, s.activity i ≠ .detached record state := fun _ _ hstate => by
    rw [hactivity] at hstate
    cases hstate
  refine h.update rfl hcarries hserved (Nat.le_refl _) (h.lt_next (by rw [hactivity]; nofun)) nofun
    (fun n hn => ?_) (fun _ _ hstate => absurd hstate (hrequest _ _)) ?_
  · rw [hactivity]
    exact hticket n hn
  · have hkeeps : s.KeepsDetached ((s.set i (.forwarded next ticket')).withWriter writer) :=
      keepsDetached rfl hrequest
    refine hkept.step hstep hcarries.grows (fun record hrecord => ?_) hawaits
    rcases hinHand record hrecord with hbefore | hentered
    · rcases (hkept.inHand record hbefore).carry hcarries.grows hkeeps with
        ⟨n, hn, hentered⟩ | hdetached
      · exact Or.inl ⟨n, hold n hn, hentered⟩
      · exact Or.inr hdetached
    · exact Or.inl hentered

/-- The moment of an event that does not depend on it. -/
def anyMoment : Moment := { elapsedMs := 0, credentials := [], timeoutSecs := 0 }

theorem finalize_inv (h : s.Inv config known) (iso : Iso8601) (reading : Reading)
    (hstep : s.finalize i = some t) : t.Inv config known := by
  unfold Service.finalize at hstep
  split at hstep
  case h_2 => cases hstep
  rename_i task hactivity
  have hkept : s.Forwarded known task none := h.kept_of hactivity
  split at hstep
  case h_2 => cases hstep
  rename_i record answer hphase
  have hawaits := hkept.awaits
  unfold ProxyTask.Awaits at hawaits
  rw [hphase] at hawaits
  split at hstep
  · rename_i haccepts
    cases hstep
    have hwrite : (PendingWrite.finalize record).asserted = true := by
      have hends := hkept.sound.phase
      rw [hphase] at hends
      exact hends.terminal
    have hcarries := WriterTask.call_carries s.writer (.finalize record)
    refine h.update rfl hcarries (WriterTask.call_served iso h.served _) (Nat.le_refl _)
      (h.lt_next (by rw [hactivity]; nofun)) nofun (fun n hn => Or.inr ?_)
      (fun _ _ hstate => by rw [hactivity] at hstate; cases hstate) ?_
    · cases hn
      exact ⟨rfl, (WriterTask.call_nextTicket hwrite haccepts).symm ▸ Nat.lt_succ_self _⟩
    · refine ⟨hkept.admitted, hkept.accepted.grow hcarries.grows, hkept.sound, hkept.once,
        fun other hother => ?_, ?_⟩
      · rcases hkept.inHand other hother with ⟨n, hn, -⟩ | ⟨j, state, hstate⟩
        · cases hn
        · refine Or.inr ⟨j, state, (Function.update_of_ne ?_ _ _).trans hstate⟩
          rintro rfl
          rw [hactivity] at hstate
          cases hstate
      · unfold ProxyTask.Awaits
        simp only [hphase]
        refine ⟨hawaits.1, fun n hn => ?_⟩
        cases hn
        exact WriterTask.call_owns hwrite haccepts
  · obtain ⟨next, hnext, hstep⟩ := Option.map_eq_some_iff.1 hstep
    cases hstep
    have hevent : task.step reading (anyMoment, .refused) = some next :=
      (ProxyTask.step_of_finalizing hphase _ _).trans hnext
    cases hnext
    exact h.forward hactivity hevent (WriterTask.markUnhealthy_carries _)
      (WriterTask.markUnhealthy_served h.served) nofun nofun (fun _ hrecord => Or.inl hrecord) nofun

theorem queue_inv (h : s.Inv config known) (iso : Iso8601) (reading : Reading)
    (hstep : s.queue config i = some t) : t.Inv config known := by
  unfold Service.queue at hstep
  split at hstep
  case h_2 => cases hstep
  rename_i task ticket hactivity
  have hkept : s.Forwarded known task (some ticket) := h.kept_of hactivity
  split at hstep
  case h_2 => cases hstep
  rename_i record answer hphase
  have hawaits := hkept.awaits
  unfold ProxyTask.Awaits at hawaits
  rw [hphase] at hawaits
  obtain ⟨writer, hsend, hstep⟩ := Option.bind_eq_some_iff.1 hstep
  have hsent : s.writer.step iso config (.sent ticket) = some writer := hsend
  have hcarries := WriterTask.step_carries h.served hsent
  have hserved := WriterTask.step_served h.served hsent
  split at hstep
  · obtain ⟨next, hnext, hstep⟩ := Option.map_eq_some_iff.1 hstep
    cases hstep
    have hevent : task.step reading (anyMoment, .refused) = some next :=
      (ProxyTask.step_of_finalizing hphase _ _).trans hnext
    cases hnext
    exact h.forward hactivity hevent hcarries.markUnhealthy (WriterTask.markUnhealthy_served hserved)
      (fun n hn => Or.inl hn) (fun n hn => hn) (fun _ hrecord => Or.inl hrecord)
      fun _ _ => Or.inr rfl
  · rename_i hgoes
    obtain ⟨next, hnext, hstep⟩ := Option.map_eq_some_iff.1 hstep
    cases hstep
    have hevent : task.step reading (anyMoment, .queued) = some next :=
      (ProxyTask.step_of_finalizing hphase _ _).trans hnext
    have hentered : ⟨ticket, .finalize record⟩ ∈ writer.entered :=
      WriterTask.send_entered h.served (hawaits.2 ticket rfl) hsend (Bool.not_eq_true _ ▸ hgoes)
    cases hnext
    refine h.forward hactivity hevent hcarries hserved (fun n hn => Or.inl hn) (fun n hn => hn)
      (fun other hother => ?_) ⟨hawaits.1, ticket, record, rfl, ?_, hentered⟩
    · rcases List.mem_append.1 hother with hother | hother
      · exact Or.inl hother
      · rw [Option.toList_some, List.mem_singleton] at hother
        exact Or.inr ⟨ticket, rfl, hother ▸ hentered⟩
    · exact List.mem_append_right _ (by simp)

theorem answer_inv (h : s.Inv config known) (reading : Reading) (hstep : s.answer i = some t) :
    t.Inv config known := by
  unfold Service.answer at hstep
  split at hstep
  case h_2 => cases hstep
  rename_i task ticket hactivity
  have hkept : s.Forwarded known task (some ticket) := h.kept_of hactivity
  split at hstep
  case h_2 => cases hstep
  rename_i answer hphase
  have hawaits := hkept.awaits
  unfold ProxyTask.Awaits at hawaits
  rw [hphase] at hawaits
  obtain ⟨-, n, record, hn, hrecord, hentered⟩ := hawaits
  cases hn
  obtain ⟨told, htold, hstep⟩ := Option.bind_eq_some_iff.1 hstep
  cases told with
  | true =>
    obtain ⟨next, hnext, hstep⟩ := Option.map_eq_some_iff.1 hstep
    cases hstep
    have hevent : task.step reading (anyMoment, .acknowledged) = some next :=
      (ProxyTask.step_of_acknowledging hphase _ _).trans hnext
    have howns : s.writer.Owns ⟨ticket, .finalize record⟩ := Or.inr hentered
    have hdurable : s.writer.Durable (.finalize record) := howns.outcome_true h.served htold
    cases hnext
    exact h.forward hactivity hevent (.refl _) h.served (fun n hn => Or.inl hn) (fun n hn => hn)
      (fun _ hrecord => Or.inl hrecord) fun _ _ => Or.inl ⟨record, hrecord, hdurable⟩
  | false =>
    obtain ⟨next, hnext, hstep⟩ := Option.map_eq_some_iff.1 hstep
    cases hstep
    have hevent : task.step reading (anyMoment, .refused) = some next :=
      (ProxyTask.step_of_acknowledging hphase _ _).trans hnext
    cases hnext
    exact h.forward hactivity hevent (WriterTask.markUnhealthy_carries _)
      (WriterTask.markUnhealthy_served h.served) (fun n hn => Or.inl hn) (fun n hn => hn)
      (fun _ hrecord => Or.inl hrecord) fun _ _ => Or.inr rfl

/-- A detached task goes on with its record. -/
theorem Inv.advance (h : s.Inv config known) {record : RequestRecord} {state state' : DetachedState}
    (hactivity : s.activity i = .detached record state) {writer : WriterTask}
    (hcarries : s.writer.Carries writer none) (hserved : writer.Served config)
    (hticket : ∀ n, (Activity.detached record state').ticket = some n →
      s.writer.nextTicket = n ∧ n < writer.nextTicket)
    (hkept : ((s.set i (.detached record state')).withWriter writer).Kept known
      (.detached record state')) :
    ((s.set i (.detached record state')).withWriter writer).Inv config known := by
  refine h.update rfl hcarries hserved (Nat.le_refl _) (h.lt_next (by rw [hactivity]; nofun)) nofun
    (fun n hn => Or.inr (hticket n hn)) (fun other otherState hstate => ?_) hkept
  cases hactivity.symm.trans hstate
  exact ⟨state', rfl⟩

theorem lost_inv (h : s.Inv config known) {record : RequestRecord} {state : DetachedState}
    (hactivity : s.activity i = .detached record state) : (s.lost i record).Inv config known :=
  h.advance hactivity (WriterTask.markUnhealthy_carries _) (WriterTask.markUnhealthy_served h.served)
    nofun (Or.inr rfl)

theorem poll_inv (h : s.Inv config known) (iso : Iso8601) (hstep : s.poll i = some t) :
    t.Inv config known := by
  unfold Service.poll at hstep
  split at hstep
  case h_2 => cases hstep
  rename_i record hactivity
  have hterminal : record.isTerminal = true := h.kept_of hactivity
  split at hstep
  · rename_i haccepts
    cases hstep
    have hwrite : (PendingWrite.finalize record).asserted = true := hterminal
    refine h.advance hactivity (WriterTask.call_carries _ _) (WriterTask.call_served iso h.served _)
      (fun n hn => ?_) (WriterTask.call_owns hwrite haccepts)
    cases hn
    exact ⟨rfl, (WriterTask.call_nextTicket hwrite haccepts).symm ▸ Nat.lt_succ_self _⟩
  · cases hstep
    exact lost_inv h hactivity

theorem tryFinalize_inv (h : s.Inv config known) (iso : Iso8601)
    (hstep : s.tryFinalize config i = some t) : t.Inv config known := by
  unfold Service.tryFinalize at hstep
  split at hstep
  case h_2 => cases hstep
  rename_i record hactivity
  have hterminal : record.isTerminal = true := h.kept_of hactivity
  split at hstep
  · rename_i hguard
    obtain ⟨haccepts, -⟩ := (Bool.and_eq_true _ _).mp hguard
    have hwrite : (PendingWrite.finalize record).asserted = true := hterminal
    have hcalled := WriterTask.call_served iso h.served (.finalize record)
    have howns := WriterTask.call_owns hwrite haccepts
    split at hstep
    · rename_i writer hsend
      cases hstep
      have hsent : (s.writer.call (.finalize record)).step iso config (.sent s.writer.nextTicket) =
        some writer := hsend
      have hcarries := WriterTask.step_carries hcalled hsent
      refine h.advance hactivity ((WriterTask.call_carries _ _).trans hcarries)
        (WriterTask.step_served hcalled hsent) (fun n hn => ?_) (hcarries.owns _ howns nofun)
      cases hn
      refine ⟨rfl, Nat.lt_of_lt_of_le ?_ hcarries.grows.nextTicket⟩
      rw [WriterTask.call_nextTicket hwrite haccepts]
      exact Nat.lt_succ_self _
    · cases hstep
      exact lost_inv h hactivity
  · cases hstep
    exact lost_inv h hactivity

theorem settle_inv (h : s.Inv config known) (hstep : s.settle i = some t) : t.Inv config known := by
  unfold Service.settle at hstep
  split at hstep
  case h_2 => cases hstep
  rename_i record ticket hactivity
  have howns : s.writer.Owns ⟨ticket, .finalize record⟩ := h.kept_of hactivity
  obtain ⟨told, htold, hstep⟩ := Option.map_eq_some_iff.1 hstep
  cases told with
  | true =>
    cases hstep
    exact h.advance hactivity (.refl _) h.served nofun (howns.booked h.served htold)
  | false =>
    cases hstep
    exact lost_inv h hactivity

/-- An event of the writer drops no call of a task. -/
theorem not_mine (h : s.Inv config known) {event : WriterEvent} (hmine : s.mine event = false) {n : Nat}
    (hn : (s.activity i).ticket = some n) : event.dropped ≠ some n := by
  intro hdropped
  cases event <;> cases hdropped
  have hi : i < s.next := h.lt_next fun hidle => by
    rw [hidle] at hn
    cases hn
  have hnone := List.any_eq_false.1 hmine i (List.mem_range.2 hi)
  simp [hn] at hnone

theorem step_inv (h : s.Inv config known) {event : ServiceEvent}
    (hknown : ∀ record, event.Brings record → known record)
    (hstep : s.step reading iso config event = some t) : t.Inv config known := by
  cases event with
  | requested consumer request =>
    cases hstep
    exact request_inv h iso hknown
  | accepted i now => exact accept_inv h hstep
  | abandoned i => exact abandon_inv h iso hstep
  | proxied i event => exact proxy_inv h iso hstep
  | finalizing i => exact finalize_inv h iso reading hstep
  | queued i => exact queue_inv h iso reading hstep
  | answered i => exact answer_inv h reading hstep
  | polled i => exact poll_inv h iso hstep
  | tried i => exact tryFinalize_inv h iso hstep
  | settled i => exact settle_inv h hstep
  | writer event =>
    simp only [Service.step] at hstep
    split at hstep
    · cases hstep
    rename_i hmine
    rw [Bool.not_eq_true] at hmine
    obtain ⟨writer, hwriter, hstep⟩ := Option.map_eq_some_iff.1 hstep
    cases hstep
    have hcarries := WriterTask.step_carries h.served hwriter
    exact
      { served := WriterTask.step_served h.served hwriter
        fresh := h.fresh
        apart := h.apart
        given := fun i n hn => (h.given i n hn).trans_le hcarries.grows.nextTicket
        kept := fun i => (h.kept i).carry hcarries (fun n hn => not_mine h hmine hn)
          fun _ _ state hstate => ⟨state, hstate⟩ }

theorem started_inv {ledger : Ledger} (hstamped : ledger.Stamped) (now : Nat) :
    (started ledger now).Inv config known where
  served := WriterTask.spawned_served hstamped now
  fresh := fun _ _ => rfl
  apart := fun i j n hn _ => by cases hn
  given := fun i n hn => by cases hn
  kept := fun _ => trivial

/-- In a run the requests of the run are all there are. -/
theorem reached {ledger : Ledger} {now : Nat} {events : List ServiceEvent} (hstamped : ledger.Stamped)
    (hrun : Duty.run (step reading iso config) (started ledger now) events = some s) :
    s.Inv config fun record => ∃ event ∈ events, event.Brings record :=
  Duty.run_keeps_of_forall (fun _ _ _ hknown hstep h => step_inv h hknown hstep)
    (fun event hevent _ hbrings => ⟨event, hevent, hbrings⟩) hrun (started_inv hstamped now)

/-! ## What the books say of a forwarded request -/

/-- In every order of steps, the upstream is contacted only for a request that came, of a partner in
service and for a model with a price, and when a committed transaction has its row. -/
theorem forwarded_on_the_books {ledger : Ledger} {now : Nat} {events : List ServiceEvent}
    (hstamped : ledger.Stamped)
    (hrun : Duty.run (step reading iso config) (started ledger now) events = some s)
    {task : ProxyTask} {ticket : Option Nat} (hforwarded : s.activity i = .forwarded task ticket) :
    (∃ consumer request, .requested consumer (some request) ∈ events ∧
        task.record.AdmittedFor consumer request) ∧
      s.writer.Durable (.accept task.record) := by
  have hkept := (reached hstamped hrun).kept i
  rw [hforwarded] at hkept
  obtain ⟨_, hevent, consumer, request, rfl, hadmitted⟩ := hkept.admitted
  exact ⟨⟨consumer, request, hevent, hadmitted⟩, hkept.accepted⟩

end Service

/-- The writer has the write and has not answered it. -/
def WriterTask.Queued (writer : WriterTask) (write : PendingWrite) : Prop :=
  ∃ ticket, writer.Owns ⟨ticket, write⟩ ∧ writer.outcome ticket = none

namespace WriterTask

variable {config : LedgerWriterConfig} {writer : WriterTask} {write : PendingWrite} {ticket : Nat}

theorem Owns.booked_or_queued (h : writer.Owns ⟨ticket, write⟩) (hserved : writer.Served config) :
    writer.Booked write ∨ writer.Queued write := by
  cases htold : writer.outcome ticket with
  | none => exact Or.inr ⟨ticket, h, htold⟩
  | some told => exact Or.inl (h.booked hserved htold)

/-- A writer that is over has answered everything. -/
theorem not_queued (hstopped : writer.stopped = true) : ¬writer.Queued write := by
  rintro ⟨ticket, -, houtcome⟩
  unfold outcome at houtcome
  split at houtcome
  · cases houtcome
  · rw [if_pos hstopped] at houtcome
    cases houtcome

end WriterTask

namespace Service

variable {reading : Reading} {iso : Iso8601} {config : LedgerWriterConfig} {s : Service} {i : Nat}

/-- A record that was handed over is booked, with the writer, or left to a task that was not polled. -/
theorem InHand.whereabouts (h : s.Inv config known) {ticket : Option Nat} {record : RequestRecord}
    (hinHand : s.InHand ticket record) :
    s.writer.Booked (.finalize record) ∨ s.writer.Queued (.finalize record) ∨
      ∃ j, s.activity j = .detached record .spawned := by
  rcases hinHand with ⟨n, -, hentered⟩ | ⟨j, state, hstate⟩
  · have howns : s.writer.Owns ⟨n, .finalize record⟩ := Or.inr hentered
    exact (howns.booked_or_queued h.served).imp_right Or.inl
  · have hkept := h.kept_of hstate
    cases state with
    | spawned => exact Or.inr (Or.inr ⟨j, hstate⟩)
    | called n | tried n => exact (hkept.booked_or_queued h.served).imp_right Or.inl
    | ended => exact Or.inl hkept

end Service

namespace Sample

def caller : ConsumerContext := .partner
  { consumerId := "acme"
    keyName := "prod"
    billingMode := .reconciliation
    billingEmail := "billing@acme.test"
    serviceStatus := .active
    models := [("gpt-4o", ⟨MachineInt.Count.zero, MachineInt.Count.zero, MachineInt.Count.zero⟩)] }

def call : IncomingRequest where
  requestId := "0198"
  now := proxyClock
  path := "/v1/chat/completions"
  document := some { model := some "gpt-4o", stream := some true }

/-- The accept is committed and the upstream contacted. -/
def forwarding : List ServiceEvent :=
  [.requested caller (some call), .writer (.sent 0), .writer (.received 5),
    .writer (.ticked 10000005), .writer (.attempted 10000006 none), .accepted 0 (moment 2)]

/-- The client leaves in the middle of the stream, and the detached task commits what there is. -/
def disconnecting : List ServiceEvent :=
  [.proxied 0 (moment 40, .responded sseHead), .proxied 0 (moment 70, .dropped), .polled 1,
    .writer (.sent 1), .writer (.received 10000007), .writer (.ticked 20000007),
    .writer (.attempted 20000008 none), .settled 1]

def serviceAfter (events : List ServiceEvent) : Service :=
  (Duty.run (Service.step reading iso writerConfig) (.started emptyLedger 0) events).getD
    (.started emptyLedger 0)

theorem serviceAfter_run (events : List ServiceEvent)
    (h : (Duty.run (Service.step reading iso writerConfig) (.started emptyLedger 0) events).isSome =
      true) :
    Duty.run (Service.step reading iso writerConfig) (.started emptyLedger 0) events =
      some (serviceAfter events) := by
  obtain ⟨last, hlast⟩ := Option.isSome_iff_exists.1 h
  rw [serviceAfter, hlast, Option.getD_some]

def forwardedTask (events : List ServiceEvent) : ProxyTask :=
  match (serviceAfter events).activity 0 with
  | .forwarded task _ => task
  | _ => acceptedTask

end Sample

namespace Service

theorem forwarded_on_the_books_forwarding :
    (∃ consumer request, .requested consumer (some request) ∈ Sample.forwarding ∧
        (Sample.forwardedTask Sample.forwarding).record.AdmittedFor consumer request) ∧
      (Sample.serviceAfter Sample.forwarding).writer.Durable
        (.accept (Sample.forwardedTask Sample.forwarding).record) := by
  have hforwarded : (Sample.serviceAfter Sample.forwarding).activity 0 =
      .forwarded (Sample.forwardedTask Sample.forwarding) none := by decide +kernel
  exact forwarded_on_the_books (fun _ h => absurd h List.not_mem_nil)
    (Sample.serviceAfter_run Sample.forwarding (by decide +kernel)) hforwarded

end Service

end PartnerPortal
