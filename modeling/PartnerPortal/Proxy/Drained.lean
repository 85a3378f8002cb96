import PartnerPortal.Proxy.Metered

/-!
# After a shutdown

Once every handler and every detached task is over and the writer has stopped, a request whose accept
was committed has its end committed too.  The exceptions are those a client takes with it, by leaving
while the accept or the upstream is awaited, and an instance that is out of rotation.

Results:
- `step_traces` — every accept the writer has is that of a task;
- `drained_settled` — what a process leaves behind.
-/

namespace PartnerPortal

namespace WriterTask

variable {iso : Iso8601} {config : LedgerWriterConfig} {before after : WriterTask} {entry : Entry}
  {write : PendingWrite} {ticket : Nat}

/-! ## Where the writes come from -/

theorem call_owned (h : (before.call write).Owns entry) :
    before.Owns entry ∨ entry = ⟨before.nextTicket, write⟩ := by
  unfold call at h
  split at h
  · rcases h with h | h
    · exact (List.mem_append.1 h).imp Or.inl List.mem_singleton.1
    · exact Or.inl (Or.inr h)
  · exact Or.inl h

theorem letGo_owned (h : (before.letGo ticket).Owns entry) : before.Owns entry :=
  h.imp_left List.mem_of_mem_filter

theorem send_owned (hsend : before.send config ticket = some after) (h : after.Owns entry) :
    before.Owns entry := by
  unfold send at hsend
  split at hsend
  · cases hsend
  · rename_i sent hfind
    have hsent := List.mem_of_find?_eq_some hfind
    dsimp only at hsend
    split at hsend
    · cases hsend
      exact h.imp_left List.mem_of_mem_filter
    · obtain ⟨-, hsend⟩ := Option.ite_none_right_eq_some.1 hsend
      cases hsend
      rcases h with h | h
      · exact Or.inl (List.mem_of_mem_filter h)
      · rcases List.mem_append.1 h with h | h
        · exact Or.inr h
        · rw [List.mem_singleton.1 h]
          exact Or.inl hsent

/-- The writer has a write that it had, or that the event hands to it. -/
theorem step_owned (hc : before.Coherent config) {event : WriterEvent}
    (hstep : before.step iso config event = some after) (h : after.Owns entry) :
    before.Owns entry ∨ event = .called entry.write := by
  cases step_stepped hc hstep with
  | called write =>
    refine (call_owned h).imp_right fun heq => ?_
    rw [heq]
  | sent => exact Or.inl (send_owned hstep h)
  | cancelled => exact Or.inl (letGo_owned h)
  | returned | refused | handleTaken | elsewhere => exact Or.inl h
  | received | ended | ticked =>
    unfold Owns at h
    rw [(afterSelect_spares _).sending, (afterSelect_leaves _).entered] at h
    exact Or.inl h
  | attempted hphase htime houtcome =>
    cases houtcome with
    | retried => exact Or.inl h
    | failed | committed =>
      unfold Owns at h
      rw [afterFlush, (endRound_spares _).sending, (endRound_leaves _).entered] at h
      exact Or.inl h

end WriterTask

namespace Service

variable {reading : Reading} {iso : Iso8601} {config : LedgerWriterConfig} {s t : Service}
  {left left' : RequestRecord → Prop} {record : RequestRecord} {ticket i : Nat}

/-! ## The requests behind the accepts -/

/-- What a task owes and what it has handed over. -/
def total (task : ProxyTask) : Nat := Duty.total ProxyTask.owed ProxyTask.handed task

/-- The accept of a record is that of a task which awaits it, or which was forwarded and owes its end or
has handed it over, unless its client left or the instance is out of rotation. -/
def Traced (s : Service) (left : RequestRecord → Prop) (ticket : Nat) (record : RequestRecord) : Prop :=
  (∃ i wantsStream, s.activity i = .accepting record wantsStream ticket) ∨
    (∃ i task n, s.activity i = .forwarded task n ∧ task.record = record ∧ total task = 1) ∨
    left record ∨ s.writer.healthy = false

/-- Every accept that the writer has is one of these. -/
def Traces (s : Service) (left : RequestRecord → Prop) : Prop :=
  ∀ entry record, s.writer.Owns entry → entry.write = .accept record → s.Traced left entry.ticket record

/-- The client of a request goes away at a wait that no drop guard covers. -/
inductive Leaves (s : Service) : ServiceEvent → RequestRecord → Prop
  | accepting {i ticket : Nat} {record : RequestRecord} {wantsStream : Bool}
      (h : s.activity i = .accepting record wantsStream ticket) : Leaves s (.abandoned i) record
  | forwarded {i : Nat} {now : Moment} {task : ProxyTask} {ticket : Option Nat}
      (h : s.activity i = .forwarded task ticket) (hloses : task.loses (now, .dropped) = true) :
      Leaves s (.proxied i (now, .dropped)) task.record

/-- A task goes on with the request it is about. -/
def Continues (t : Service) (left : RequestRecord → Prop) (old new : Activity) : Prop :=
  match old with
  | .accepting record wantsStream ticket =>
    new = .accepting record wantsStream ticket ∨
      (∃ task n, new = .forwarded task n ∧ task.record = record ∧ total task = 1) ∨ left record ∨
      t.writer.healthy = false
  | .forwarded task _ =>
    (∃ next n, new = .forwarded next n ∧ next.record = task.record ∧ total next = total task) ∨
      left task.record ∨ t.writer.healthy = false
  | _ => True

theorem Traced.update {old new : Activity} (h : s.Traced left ticket record)
    (hactivity : t.activity = Function.update s.activity i new) (hold : s.activity i = old)
    (hleft : ∀ record, left record → left' record)
    (hill : s.writer.healthy = false → t.writer.healthy = false)
    (hcontinues : t.Continues left' old new) : t.Traced left' ticket record := by
  subst hold
  have hown : t.activity i = new := by rw [hactivity, Function.update_self]
  have hother : ∀ {j}, j ≠ i → t.activity j = s.activity j := fun hj => by
    rw [hactivity, Function.update_of_ne hj]
  rcases h with ⟨j, wantsStream, hj⟩ | ⟨j, task, n, hj, rfl, htotal⟩ | h | h
  · rcases eq_or_ne j i with rfl | hne
    · rw [hj] at hcontinues
      rcases hcontinues with rfl | ⟨task, n, rfl, hrecord⟩ | hgone
      · exact Or.inl ⟨j, wantsStream, hown⟩
      · exact Or.inr (Or.inl ⟨j, task, n, hown, hrecord⟩)
      · exact Or.inr (Or.inr hgone)
    · exact Or.inl ⟨j, wantsStream, (hother hne).trans hj⟩
  · rcases eq_or_ne j i with rfl | hne
    · rw [hj] at hcontinues
      rcases hcontinues with ⟨next, m, rfl, hrecord, hnext⟩ | hgone
      · exact Or.inr (Or.inl ⟨j, next, m, hown, hrecord, hnext.trans htotal⟩)
      · exact Or.inr (Or.inr hgone)
    · exact Or.inr (Or.inl ⟨j, task, n, (hother hne).trans hj, rfl, htotal⟩)
  · exact Or.inr (Or.inr (Or.inl (hleft record h)))
  · exact Or.inr (Or.inr (Or.inr (hill h)))

/-- One task moves on, and the writer gets no accept but its own. -/
theorem Traces.update {old new : Activity} (h : s.Traces left)
    (hactivity : t.activity = Function.update s.activity i new) (hold : s.activity i = old)
    (hleft : ∀ record, left record → left' record)
    (hill : s.writer.healthy = false → t.writer.healthy = false)
    (hcontinues : t.Continues left' old new)
    (howned : ∀ entry, t.writer.Owns entry → s.writer.Owns entry ∨
      ∀ record, entry.write = .accept record → t.Traced left' entry.ticket record) :
    t.Traces left' := by
  intro entry record howns hwrite
  rcases howned entry howns with hbefore | hnew
  · exact (h entry record hbefore hwrite).update hactivity hold hleft hill hcontinues
  · exact hnew record hwrite

/-! ## One step -/

theorem request_traces (h : s.Traces left) (hinv : s.Inv config known) (consumer : ConsumerContext)
    (request : Option IncomingRequest) : (s.request consumer request).Traces left := by
  have hidle : s.activity s.next = .idle := hinv.fresh s.next (Nat.le_refl _)
  unfold Service.request
  split
  · exact h.update rfl hidle (fun _ h => h) id trivial fun _ howns => Or.inl howns
  · exact h.update rfl hidle (fun _ h => h) id trivial fun _ howns => Or.inl howns
  · rename_i record wantsStream hmetered
    split
    · refine h.update rfl hidle (fun _ h => h) (WriterTask.call_grows _ _).unhealthy trivial
        fun entry howns => (WriterTask.call_owned howns).imp_right ?_
      rintro rfl other hother
      cases hother
      exact Or.inl ⟨s.next, wantsStream, Function.update_self _ _ _⟩
    · exact h.update rfl hidle (fun _ h => h) (fun _ => rfl) trivial fun _ howns => Or.inl howns

theorem accept_traces (h : s.Traces left) {now : Moment} (hstep : s.accept i now = some t) :
    t.Traces left := by
  unfold Service.accept at hstep
  split at hstep
  case h_2 => cases hstep
  rename_i record wantsStream ticket hactivity
  obtain ⟨told, -, hstep⟩ := Option.map_eq_some_iff.1 hstep
  cases told with
  | true =>
    cases hstep
    exact h.update rfl hactivity (fun _ h => h) id (Or.inr (Or.inl ⟨_, _, rfl, rfl, rfl⟩))
      fun _ howns => Or.inl howns
  | false =>
    cases hstep
    exact h.update rfl hactivity (fun _ h => h) (fun _ => rfl) (Or.inr (Or.inr (Or.inr rfl)))
      fun _ howns => Or.inl howns

theorem abandon_traces (h : s.Traces left) (hstep : s.abandon i = some t) :
    t.Traces fun record => left record ∨ s.Leaves (.abandoned i) record := by
  unfold Service.abandon at hstep
  split at hstep
  case h_2 => cases hstep
  rename_i record wantsStream ticket hactivity
  cases hstep
  refine h.update rfl hactivity (fun _ => Or.inl) id (Or.inr (Or.inr (Or.inl (Or.inr ?_))))
    fun _ howns => Or.inl (WriterTask.letGo_owned howns)
  exact .accepting hactivity

/-- A move that loses nothing keeps the sum. -/
theorem total_of_moves {task next : ProxyTask} {given : Option RequestRecord}
    (h : ProxyTask.Moves task next false given) : total next = total task := by
  have howed := h.owed
  rw [Bool.toNat_false, Nat.add_zero] at howed
  rw [total, total, Duty.total, Duty.total, h.handed, List.length_append, ← howed]
  ac_rfl

/-- A request that was forwarded stays so, and the writer gets no accept from it. -/
theorem Traces.forward (h : s.Traces left) {task next : ProxyTask} {n m : Option Nat} {lost : Bool}
    {given : Option RequestRecord} (hactivity : s.activity i = .forwarded task n)
    (hmoves : ProxyTask.Moves task next lost given) {writer : WriterTask}
    (hleft : ∀ record, left record → left' record)
    (hlost : lost = true → left' task.record ∨ writer.healthy = false)
    (hill : s.writer.healthy = false → writer.healthy = false)
    (howned : ∀ entry, writer.Owns entry → s.writer.Owns entry ∨ ∃ r, entry.write = .finalize r) :
    ((s.set i (.forwarded next m)).withWriter writer).Traces left' := by
  refine h.update rfl hactivity hleft hill ?_ fun entry howns => (howned entry howns).imp_right ?_
  · cases lost with
    | false => exact Or.inl ⟨next, m, rfl, hmoves.record, total_of_moves hmoves⟩
    | true => exact Or.inr (hlost rfl)
  · rintro ⟨r, hr⟩ other hother
    rw [hr] at hother
    cases hother

/-- What a request loses without the writer's doing, its client takes along. -/
theorem leaves_of_loses {task : ProxyTask} {n : Option Nat} {event : Moment × ProxyEvent}
    (hactivity : s.activity i = .forwarded task n) (hevent : ofWriter event.2 = false)
    (h : task.loses event = true) : s.Leaves (.proxied i event) task.record := by
  obtain ⟨now, event⟩ := event
  have hdropped : event = .dropped := by
    unfold ProxyTask.loses at h
    split at h
    case h_4 _ _ hrefused =>
      rw [hrefused] at hevent
      cases hevent
    case h_5 => cases h
    all_goals assumption
  subst hdropped
  exact .forwarded hactivity h

theorem proxy_traces (h : s.Traces left) (hinv : s.Inv config known) {event : Moment × ProxyEvent}
    (hstep : s.proxy reading i event = some t) :
    t.Traces fun record => left record ∨ s.Leaves (.proxied i event) record := by
  unfold Service.proxy at hstep
  split at hstep
  case h_2 => cases hstep
  rename_i task ticket hactivity
  split at hstep
  · cases hstep
  rename_i hevent
  rw [Bool.not_eq_true] at hevent
  obtain ⟨next, hnext, hstep⟩ := Option.map_eq_some_iff.1 hstep
  obtain ⟨given, hmoves⟩ := ProxyTask.step_moves hnext
  have hcarries := dropped_carries s.writer event.2 ticket
  have howned : ∀ entry, (if event.2 = .dropped then ticket.elim s.writer s.writer.letGo
      else s.writer).Owns entry → s.writer.Owns entry := fun entry howns => by
    split at howns
    · cases ticket with
      | none => exact howns
      | some n => exact WriterTask.letGo_owned howns
    · exact howns
  have hset : Traces _ fun record => left record ∨ s.Leaves (.proxied i event) record :=
    h.forward (m := ticket) hactivity hmoves (fun _ => Or.inl)
      (fun hloses => Or.inl (Or.inr (leaves_of_loses hactivity hevent hloses)))
      hcarries.grows.unhealthy fun entry howns => Or.inl (howned entry howns)
  dsimp only at hstep
  split at hstep
  · cases hstep
    exact hset
  · rename_i record _ _
    cases hstep
    -- the detached task comes after the request has gone on
    have hidle : ((s.set i (.forwarded next ticket)).withWriter (if event.2 = .dropped then
        ticket.elim s.writer s.writer.letGo else s.writer)).activity s.next = .idle := by
      have hne : s.next ≠ i := by
        rintro rfl
        rw [hinv.fresh s.next (Nat.le_refl _)] at hactivity
        cases hactivity
      exact (Function.update_of_ne hne _ _).trans (hinv.fresh s.next (Nat.le_refl _))
    exact hset.update rfl hidle (fun _ h => h) id trivial fun _ howns => Or.inl howns

/-- What a call of `finalize` puts with the writer. -/
theorem finalize_owned {writer : WriterTask} {r : RequestRecord} {entry : Entry}
    (h : (writer.call (.finalize r)).Owns entry) :
    writer.Owns entry ∨ ∃ r, entry.write = .finalize r := by
  refine (WriterTask.call_owned h).imp_right fun heq => ⟨r, ?_⟩
  rw [heq]

theorem finalize_traces (h : s.Traces left) (hstep : s.finalize i = some t) : t.Traces left := by
  unfold Service.finalize at hstep
  split at hstep
  case h_2 => cases hstep
  rename_i task hactivity
  split at hstep
  case h_2 => cases hstep
  rename_i record answer hphase
  split at hstep
  · cases hstep
    exact h.forward hactivity (ProxyTask.Moves.wait rfl id) (fun _ h => h) nofun
      (WriterTask.call_grows _ _).unhealthy fun _ => finalize_owned
  · obtain ⟨next, hnext, hstep⟩ := Option.map_eq_some_iff.1 hstep
    cases hstep
    obtain ⟨_, hmoves⟩ := @ProxyTask.stepFinalizing_moves _ _ anyMoment _ _ _ hphase hnext
    exact h.forward hactivity hmoves (fun _ h => h) (fun _ => Or.inr rfl) (fun _ => rfl)
      fun _ howns => Or.inl howns

theorem queue_traces (h : s.Traces left) (hinv : s.Inv config known) (iso : Iso8601)
    (hstep : s.queue config i = some t) : t.Traces left := by
  unfold Service.queue at hstep
  split at hstep
  case h_2 => cases hstep
  rename_i task ticket hactivity
  split at hstep
  case h_2 => cases hstep
  rename_i record answer hphase
  obtain ⟨writer, hsend, hstep⟩ := Option.bind_eq_some_iff.1 hstep
  have hsent : s.writer.step iso config (.sent ticket) = some writer := hsend
  have howned : ∀ entry, writer.Owns entry → s.writer.Owns entry ∨ ∃ r, entry.write = .finalize r :=
    fun _ howns => Or.inl (WriterTask.send_owned hsend howns)
  split at hstep
  · obtain ⟨next, hnext, hstep⟩ := Option.map_eq_some_iff.1 hstep
    cases hstep
    obtain ⟨_, hmoves⟩ := @ProxyTask.stepFinalizing_moves _ _ anyMoment _ _ _ hphase hnext
    exact h.forward hactivity hmoves (fun _ h => h) (fun _ => Or.inr rfl) (fun _ => rfl) howned
  · obtain ⟨next, hnext, hstep⟩ := Option.map_eq_some_iff.1 hstep
    cases hstep
    obtain ⟨_, hmoves⟩ := @ProxyTask.stepFinalizing_moves _ _ anyMoment _ _ _ hphase hnext
    have hkeeps : task.loses (anyMoment, .queued) = false := by
      unfold ProxyTask.loses
      rw [hphase]
    rw [hkeeps] at hmoves
    exact h.forward hactivity hmoves (fun _ h => h) nofun
      (WriterTask.step_carries hinv.served hsent).grows.unhealthy howned

theorem answer_traces (h : s.Traces left) (hstep : s.answer i = some t) : t.Traces left := by
  unfold Service.answer at hstep
  split at hstep
  case h_2 => cases hstep
  rename_i task ticket hactivity
  split at hstep
  case h_2 => cases hstep
  rename_i answer hphase
  obtain ⟨told, -, hstep⟩ := Option.bind_eq_some_iff.1 hstep
  cases told with
  | true =>
    obtain ⟨next, hnext, hstep⟩ := Option.map_eq_some_iff.1 hstep
    cases hstep
    obtain ⟨_, hmoves⟩ := @ProxyTask.stepAcknowledging_moves _ _ anyMoment _ _ hphase hnext
    have hkeeps : task.loses (anyMoment, .acknowledged) = false := by
      unfold ProxyTask.loses
      rw [hphase]
    rw [hkeeps] at hmoves
    have hset : ((s.set i (.forwarded next (some ticket))).withWriter s.writer).Traces left :=
      h.forward hactivity hmoves (fun _ h => h) nofun id fun _ howns => Or.inl howns
    exact hset
  | false =>
    obtain ⟨next, hnext, hstep⟩ := Option.map_eq_some_iff.1 hstep
    cases hstep
    obtain ⟨_, hmoves⟩ := @ProxyTask.stepAcknowledging_moves _ _ anyMoment _ _ hphase hnext
    exact h.forward hactivity hmoves (fun _ h => h) (fun _ => Or.inr rfl) (fun _ => rfl)
      fun _ howns => Or.inl howns

/-- A detached task goes on, and the writer gets no accept from it. -/
theorem Traces.advance (h : s.Traces left) {r : RequestRecord} {state : DetachedState}
    (hactivity : s.activity i = .detached r state) (new : Activity) {writer : WriterTask}
    (hill : s.writer.healthy = false → writer.healthy = false)
    (howned : ∀ entry, writer.Owns entry → s.writer.Owns entry ∨ ∃ r, entry.write = .finalize r) :
    ((s.set i new).withWriter writer).Traces left := by
  refine h.update rfl hactivity (fun _ h => h) hill trivial fun entry howns =>
    (howned entry howns).imp_right ?_
  rintro ⟨r, hr⟩ other hother
  rw [hr] at hother
  cases hother

theorem lost_traces (h : s.Traces left) {r : RequestRecord} {state : DetachedState}
    (hactivity : s.activity i = .detached r state) : (s.lost i r).Traces left :=
  h.advance hactivity _ (fun _ => rfl) fun _ howns => Or.inl howns

theorem poll_traces (h : s.Traces left) (hstep : s.poll i = some t) : t.Traces left := by
  unfold Service.poll at hstep
  split at hstep
  case h_2 => cases hstep
  rename_i record hactivity
  split at hstep
  · cases hstep
    exact h.advance hactivity _ (WriterTask.call_grows _ _).unhealthy fun _ => finalize_owned
  · cases hstep
    exact lost_traces h hactivity

theorem tryFinalize_traces (h : s.Traces left) (hinv : s.Inv config known) (iso : Iso8601)
    (hstep : s.tryFinalize config i = some t) : t.Traces left := by
  unfold Service.tryFinalize at hstep
  split at hstep
  case h_2 => cases hstep
  rename_i record hactivity
  split at hstep
  · split at hstep
    · rename_i writer hsend
      cases hstep
      have hcalled := WriterTask.call_served iso hinv.served (.finalize record)
      have hsent : (s.writer.call (.finalize record)).step iso config (.sent s.writer.nextTicket) =
        some writer := hsend
      refine h.advance hactivity _ (fun hill => ?_) fun _ howns =>
        finalize_owned (WriterTask.send_owned hsend howns)
      exact (WriterTask.step_carries hcalled hsent).grows.unhealthy
        ((WriterTask.call_grows _ _).unhealthy hill)
    · cases hstep
      exact lost_traces h hactivity
  · cases hstep
    exact lost_traces h hactivity

theorem settle_traces (h : s.Traces left) (hstep : s.settle i = some t) : t.Traces left := by
  unfold Service.settle at hstep
  split at hstep
  case h_2 => cases hstep
  rename_i record ticket hactivity
  obtain ⟨told, -, hstep⟩ := Option.map_eq_some_iff.1 hstep
  cases told with
  | true =>
    cases hstep
    have hset : ((s.set i (.detached record .ended)).withWriter s.writer).Traces left :=
      h.advance hactivity _ id fun _ howns => Or.inl howns
    exact hset
  | false =>
    cases hstep
    exact lost_traces h hactivity

/-- The accept is one that no request of the process made. -/
def foreign : ServiceEvent → Bool
  | .writer (.called (.accept _)) => true
  | _ => false

theorem Traces.weaken (h : s.Traces left) (hleft : ∀ record, left record → left' record) :
    s.Traces left' := fun entry record howns hwrite => by
  rcases h entry record howns hwrite with h | h | h | h
  · exact Or.inl h
  · exact Or.inr (Or.inl h)
  · exact Or.inr (Or.inr (Or.inl (hleft record h)))
  · exact Or.inr (Or.inr (Or.inr h))

/-- Every accept that the writer has stays that of a task. -/
theorem step_traces (hinv : s.Inv config known) (h : s.Traces left) {event : ServiceEvent}
    (hforeign : foreign event = false) (hstep : s.step reading iso config event = some t) :
    t.Traces fun record => left record ∨ s.Leaves event record := by
  have hleft : ∀ record, left record → left record ∨ s.Leaves event record := fun _ => Or.inl
  cases event with
  | requested consumer request =>
    cases hstep
    exact (request_traces h hinv consumer request).weaken hleft
  | accepted i now => exact (accept_traces h hstep).weaken hleft
  | abandoned i => exact abandon_traces h hstep
  | proxied i event => exact proxy_traces h hinv hstep
  | finalizing i => exact (finalize_traces h hstep).weaken hleft
  | queued i => exact (queue_traces h hinv iso hstep).weaken hleft
  | answered i => exact (answer_traces h hstep).weaken hleft
  | polled i => exact (poll_traces h hstep).weaken hleft
  | tried i => exact (tryFinalize_traces h hinv iso hstep).weaken hleft
  | settled i => exact (settle_traces h hstep).weaken hleft
  | writer event =>
    simp only [Service.step] at hstep
    split at hstep
    · cases hstep
    obtain ⟨writer, hwriter, hstep⟩ := Option.map_eq_some_iff.1 hstep
    cases hstep
    refine Traces.weaken ?_ hleft
    intro entry record howns hwrite
    rcases WriterTask.step_owned hinv.served.coherent hwriter howns with hbefore | rfl
    · rcases h entry record hbefore hwrite with h | h | h | h
      · exact Or.inl h
      · exact Or.inr (Or.inl h)
      · exact Or.inr (Or.inr (Or.inl h))
      · exact Or.inr (Or.inr (Or.inr
          ((WriterTask.step_carries hinv.served hwriter).grows.unhealthy h)))
    · rw [hwrite] at hforeign
      cases hforeign

/-! ## The end of a run -/

/-- The client of a request went away in a run, at a wait that no drop guard covers. -/
def Left (reading : Reading) (iso : Iso8601) (config : LedgerWriterConfig) (s : Service)
    (events : List ServiceEvent) (record : RequestRecord) : Prop :=
  ∃ before event after middle, events = before ++ event :: after ∧
    Duty.run (step reading iso config) s before = some middle ∧ middle.Leaves event record

theorem Left.cons {event : ServiceEvent} {events : List ServiceEvent}
    (hstep : s.step reading iso config event = some t) (h : t.Left reading iso config events record) :
    s.Left reading iso config (event :: events) record := by
  obtain ⟨before, other, after, middle, rfl, hrun, hleaves⟩ := h
  exact ⟨event :: before, other, after, middle, rfl, Duty.run_cons_iff.2 ⟨t, hstep, hrun⟩, hleaves⟩

theorem run_traces {events : List ServiceEvent} (hinv : s.Inv config known) (h : s.Traces left)
    (hknown : ∀ event ∈ events, ∀ record, event.Brings record → known record)
    (hforeign : ∀ event ∈ events, foreign event = false)
    (hrun : Duty.run (step reading iso config) s events = some t) :
    t.Traces fun record => left record ∨ s.Left reading iso config events record := by
  induction events generalizing s left with
  | nil =>
    cases hrun
    exact h.weaken fun _ => Or.inl
  | cons event events ih =>
    obtain ⟨middle, hmiddle, hrun⟩ := Duty.run_cons_iff.1 hrun
    have hnext := step_traces hinv h (hforeign event List.mem_cons_self) hmiddle
    refine (ih (step_inv hinv (hknown event List.mem_cons_self) hmiddle) hnext
      (fun other hother => hknown other (List.mem_cons_of_mem event hother))
      (fun other hother => hforeign other (List.mem_cons_of_mem event hother)) hrun).weaken
      fun record hleft => ?_
    rcases hleft with (hleft | hleaves) | hlater
    · exact Or.inl hleft
    · exact Or.inr ⟨[], event, events, s, rfl, rfl, hleaves⟩
    · exact Or.inr (hlater.cons hmiddle)

end Service

/-- A task that does nothing any more. -/
def Activity.AtRest : Activity → Prop
  | .accepting _ _ _ => False
  | .forwarded task _ => task.phase = .over
  | .detached _ state => state = .ended
  | .idle | .closed _ | .unmetered => True

namespace Service

variable {reading : Reading} {iso : Iso8601} {config : LedgerWriterConfig} {s : Service}

/-- When every task is over and the writer has stopped, on an instance that was never out of rotation
every request whose accept was committed has its end committed, or its client took it along. -/
theorem drained_settled {ledger : Ledger} {now : Nat} {events : List ServiceEvent}
    (hstamped : ledger.Stamped)
    (hrun : Duty.run (step reading iso config) (started ledger now) events = some s)
    (hforeign : ∀ event ∈ events, foreign event = false) (hrest : ∀ i, (s.activity i).AtRest)
    (hstopped : s.writer.stopped = true) (hhealthy : s.writer.healthy = true) {commit : Commit}
    (hcommit : commit ∈ s.writer.commits) {entry : Entry} (hentry : entry ∈ commit.entries)
    {record : RequestRecord} (hwrite : entry.write = .accept record) :
    (∃ final : RequestRecord, final.Ends record.requestId ∧ s.writer.Durable (.finalize final)) ∨
      (started ledger now).Left reading iso config events record := by
  have hinv := reached hstamped hrun
  have hnone : (started ledger now).Traces fun _ => False := fun entry _ howns _ => by
    rcases howns with howns | howns <;> cases howns
  -- what was committed had been taken by the channel
  have hentered : entry ∈ s.writer.entered := by
    have hdecided : entry ∈ s.writer.commits.flatMap Commit.entries :=
      List.mem_flatMap.2 ⟨commit, hcommit, hentry⟩
    rw [hinv.served.coherent.accounts.decided] at hdecided
    obtain ⟨ack, hack, rfl⟩ := List.mem_map.1 hdecided
    exact hinv.served.coherent.accounts.acks_prefix.subset
      (List.mem_map_of_mem (List.mem_of_mem_filter hack))
  have hknown : ∀ event ∈ events, ∀ record, event.Brings record →
      ∃ event ∈ events, event.Brings record := fun event hevent _ hbrings => ⟨event, hevent, hbrings⟩
  have htraced := run_traces (started_inv hstamped now) hnone hknown hforeign hrun entry record
    (Or.inr hentered) hwrite
  rcases htraced with ⟨i, wantsStream, hi⟩ | ⟨i, task, ticket, hi, rfl, htotal⟩ | hleft | hill
  · have hover := hrest i
    rw [hi] at hover
    exact hover.elim
  · have hover := hrest i
    have hkept := hinv.kept_of hi
    rw [hi] at hover
    have howed : task.owed = 0 := by
      unfold ProxyTask.owed
      rw [show task.phase = .over from hover]
      rfl
    rw [total, Duty.total, howed, Nat.zero_add] at htotal
    obtain ⟨final, hhanded⟩ := List.length_eq_one_iff.1 htotal
    have hfinal : final ∈ task.handed := hhanded ▸ List.mem_singleton_self final
    refine Or.inl ⟨final, hkept.sound.handed final hfinal, ?_⟩
    rcases (hkept.inHand final hfinal).whereabouts hinv with (hdurable | hill) | hqueued | ⟨j, hj⟩
    · exact hdurable
    · rw [hhealthy] at hill
      cases hill
    · exact absurd hqueued (WriterTask.not_queued hstopped)
    · have hended := hrest j
      rw [hj] at hended
      cases hended
  · exact Or.inr (hleft.resolve_left id)
  · rw [hhealthy] at hill
    cases hill

end Service

namespace Sample

/-- The writer is shut down once the client has left and the detached task is over. -/
def settling : List ServiceEvent :=
  forwarding ++ disconnecting ++ [.writer .refused, .writer .handleTaken, .writer (.received 20000009)]

theorem settling_atRest (i : Nat) : ((serviceAfter settling).activity i).AtRest := by
  have hrun := serviceAfter_run settling (by decide +kernel)
  have hnext : (serviceAfter settling).next = 2 := by decide +kernel
  rcases Nat.lt_or_ge i 2 with hlt | hge
  · have hrequest : (serviceAfter settling).activity 0 =
        .forwarded (forwardedTask settling) none := by decide +kernel
    have hover : (forwardedTask settling).phase = .over := by decide +kernel
    have hdetached : ∃ record, (serviceAfter settling).activity 1 = .detached record .ended :=
      ⟨(forwardedTask settling).handed.headD acceptedRecord, by decide +kernel⟩
    obtain ⟨record, hdetached⟩ := hdetached
    match i, hlt with
    | 0, _ => rw [hrequest]; exact hover
    | 1, _ => rw [hdetached]; exact rfl
  · rw [(Service.reached (fun _ h => absurd h List.not_mem_nil) hrun).fresh i (hnext ▸ hge)]
    exact trivial

end Sample

namespace Service

theorem drained_settled_settling :
    (∃ final : RequestRecord, final.Ends "0198" ∧
        (Sample.serviceAfter Sample.settling).writer.Durable (.finalize final)) ∨
      (started Sample.emptyLedger 0).Left Sample.reading Sample.iso Sample.writerConfig
        Sample.settling (Sample.forwardedTask Sample.settling).record := by
  have hcommitted : ∃ commit ∈ (Sample.serviceAfter Sample.settling).writer.commits,
      ∃ entry ∈ commit.entries,
        entry.write = .accept (Sample.forwardedTask Sample.settling).record := by decide +kernel
  obtain ⟨commit, hcommit, entry, hentry, hwrite⟩ := hcommitted
  have hid : (Sample.forwardedTask Sample.settling).record.requestId = "0198" := by decide +kernel
  rw [← hid]
  exact drained_settled (fun _ h => absurd h List.not_mem_nil)
    (Sample.serviceAfter_run Sample.settling (by decide +kernel)) (by decide +kernel)
    Sample.settling_atRest (by decide +kernel) (by decide +kernel) hcommit hentry hwrite

end Service

end PartnerPortal
