import PartnerPortal.Billing.Walk

/-!
# One partner's data and the other partners' days

A tick is ended by a panic, and a panic can come from the dates a partner's terms ask for.  This
module says exactly which terms those are: the ones whose seconds overflow, or whose due date is off
the calendar.

Results:
- `closeDay_completes` — a turn whose dates can be computed and written does not end the tick;
- `tick_reaches_partners_iff_terms_fit` — every partner's days are reached, and every invoice
  partner has its due dates, exactly when the partners' terms fit the calendar.
-/

namespace PartnerPortal

open MachineInt

/-! ## Due dates -/

/-- The terms of a partner, in nanoseconds. -/
def Partner.termsNanos (partner : Partner) : Int :=
  partner.paymentTermsMinutes.value * 60 * nanosPerSecond

/-- The terms are a number of seconds that fits, and counted from the end of a day they stay on the
calendar, on the billing wall clock and in UTC. -/
def Partner.TermsFit (partner : Partner) (tz : BillingTimezone) (day : BillingDay) : Prop :=
  FitsI64 (partner.paymentTermsMinutes.value * 60) ∧
    (day.day + 1) * nanosPerDay + partner.termsNanos < (maxDay + 1) * nanosPerDay ∧
    BillingDay.startNanos (day.day + 1) tz + partner.termsNanos < (maxDay + 1) * nanosPerDay

/-- The due date of a period that ends with `finish` can be computed and written. -/
def Partner.HasDueDate (partner : Partner) (finish : OffsetDateTime) : Prop :=
  ∃ due text, partner.dueAtFor finish = .ok (some due) ∧ formatTs due = .ok text

theorem Partner.termsNanos_nonneg (partner : Partner) : 0 ≤ partner.termsNanos := by
  have := partner.paymentTermsMinutes.nonneg
  unfold termsNanos nanosPerSecond
  omega

theorem Partner.TermsFit.mono {partner : Partner} {tz : BillingTimezone} {day day' : BillingDay}
    (h : partner.TermsFit tz day) (hle : day'.day ≤ day.day) : partner.TermsFit tz day' := by
  obtain ⟨hfits, hwall, hutc⟩ := h
  refine ⟨hfits, ?_, ?_⟩
  · unfold nanosPerDay at *
    omega
  · unfold BillingDay.startNanos nanosPerDay at *
    omega

/-- An invoice partner has a due date for a day exactly when its terms fit from there. -/
theorem Partner.hasDueDate_iff {partner : Partner} (hmode : partner.billingMode = .invoice)
    {day : BillingDay} {tz : BillingTimezone} {finish : OffsetDateTime}
    (hfinish : BillingDay.endExclusiveUtc day tz = .ok finish) (hday : -33 ≤ day.day) :
    partner.HasDueDate finish ↔ partner.TermsFit tz day := by
  obtain ⟨hnanos, hoffset, -⟩ := BillingDay.endExclusiveUtc_nanos hfinish
  have hterms := partner.termsNanos_nonneg
  have htz := tz.utcOffset_range
  have hwall : finish.wall = (day.day + 1) * nanosPerDay := by
    rw [OffsetDateTime.wall, hnanos, hoffset, BillingDay.startNanos]
    omega
  have hsome := partner.dueAtFor_isSome_iff hmode finish
  rw [hwall] at hsome
  have htext : ∀ due, partner.dueAtFor finish = .ok (some due) →
      ((∃ text, formatTs due = .ok text) ↔ BillingDay.startNanos (day.day + 1) tz +
        partner.termsNanos < (maxDay + 1) * nanosPerDay) := by
    intro due hdue
    simp only [dueAtFor, hmode, BillingMode.owesPayment, if_true] at hdue
    obtain ⟨terms, hminutes, hdue⟩ := Result.bind_ok_iff.1 hdue
    have hdueNanos := (OffsetDateTime.checkedAdd_eq_some (Except.ok.inj hdue)).1
    rw [hnanos, (Duration.minutes_ok_iff.1 hminutes).2] at hdueNanos
    rw [formatTs_isOk_iff, hdueNanos]
    unfold termsNanos BillingDay.startNanos minDay nanosPerDay nanosPerSecond at *
    omega
  constructor
  · rintro ⟨due, text, hdue, hformat⟩
    obtain ⟨hfits, hlocal⟩ := hsome.1 ⟨due, hdue⟩
    exact ⟨hfits, hlocal, (htext due hdue).1 ⟨text, hformat⟩⟩
  · rintro ⟨hfits, hlocal, hutc⟩
    obtain ⟨due, hdue⟩ := hsome.2 ⟨hfits, hlocal⟩
    obtain ⟨text, hformat⟩ := (htext due hdue).2 hutc
    exact ⟨due, text, hdue, hformat⟩

/-! ## A turn that does not end the tick -/

/-- The due date of a day, where the mode asks for one, can be computed and written. -/
def Partner.Datable (partner : Partner) (finish : OffsetDateTime) : Prop :=
  ∃ due text, partner.dueAtFor finish = .ok due ∧ formatDue due = .ok text

theorem Partner.HasDueDate.datable {partner : Partner} {finish : OffsetDateTime}
    (h : partner.HasDueDate finish) : partner.Datable finish := by
  obtain ⟨due, text, hdue, hformat⟩ := h
  exact ⟨some due, some text, hdue, by simp only [formatDue, hformat, Result.ok_bind,
    Result.pure_eq]⟩

theorem statementForDay_total {gen : Generator} {partner : Partner} {day : BillingDay}
    {cutoff : OffsetDateTime} {period : BillingPeriod} (hdates : DayDates gen day cutoff period)
    (hdue : partner.Datable period.finish) (usage : List UsageRow) :
    ∃ result, statementForDay gen usage partner day cutoff = .ok result := by
  obtain ⟨start, finish, hbounds⟩ := hdates.bounds
  obtain ⟨cutoffText, hcutoffText⟩ := hdates.cutoffText
  obtain ⟨due, -, hdue, -⟩ := hdue
  simp only [statementForDay, hdates.period_ok, hbounds, hcutoffText, hdue, Result.ok_bind,
    Result.pure_eq]
  cases usageGroups usage partner.consumerId start finish with
  | error e => exact ⟨_, rfl⟩
  | ok groups => exact ⟨_, rfl⟩

theorem writeStatement_total {fault : WriteFault} {now : Instant} {draft : StatementDraft}
    {text : Option String} (hdue : formatDue draft.dueAt = .ok text) (store : Store) :
    ∃ result, writeStatement fault now draft store = .ok result := by
  have htransaction : ∀ total, ∃ result,
      statementTransaction fault now draft total store = .ok result := by
    intro total
    simp only [statementTransaction, hdue, Result.ok_bind, Result.pure_eq]
    split
    · exact ⟨_, rfl⟩
    · split <;> exact ⟨_, rfl⟩
  unfold writeStatement
  split
  · exact ⟨_, rfl⟩
  · split
    · exact ⟨_, rfl⟩
    · rename_i total _
      obtain ⟨result, hresult⟩ := htransaction total
      rw [hresult, Result.ok_bind]
      split
      · exact ⟨_, rfl⟩
      · split <;> exact ⟨_, rfl⟩

/-- A turn whose dates can be computed and written does not end the tick, whatever the database
does and whatever the usage is. -/
theorem closeDay_completes {ctx : TickContext} {partner : Partner} {day : BillingDay}
    {cutoff : OffsetDateTime} {period : BillingPeriod}
    (hdates : DayDates ctx.gen day cutoff period) (hdue : partner.Datable period.finish)
    (progress : Progress) : (closeDay ctx partner day progress).2 = none := by
  obtain ⟨result, hresult⟩ := statementForDay_total hdates hdue progress.store.usage
  simp only [closeDay, hdates.cutoff_ok, hresult]
  split
  · rfl
  · cases result with
    | error e => rfl
    | ok draft =>
      obtain ⟨period', hperiod, -, hdueAt, -⟩ := statementForDay_ok hresult
      rw [hdates.period_ok] at hperiod
      cases hperiod
      obtain ⟨due, text, hdue, htext⟩ := hdue
      rw [hdue] at hdueAt
      cases hdueAt
      obtain ⟨⟨written, outcome⟩, hwrite⟩ :=
        @writeStatement_total (ctx.faults.write partner.consumerId day) ctx.clock draft text htext
          progress.store
      simp only [hwrite]
      cases outcome <;> rfl

/-! ## A tick that is not ended -/

/-- Every date of a partner's statements over a catch-up window can be computed and written. -/
def DatesOver (gen : Generator) (partner : Partner) (through : BillingDay) : Prop :=
  ∀ day : BillingDay, through.day - 30 ≤ day.day → day.day ≤ through.day →
    ∃ cutoff period, DayDates gen day cutoff period ∧ partner.Datable period.finish

theorem datesOver_of_terms {gen : Generator} {now : Instant} {through : BillingDay}
    (hthrough : gen.closableThrough now.utc = .ok (some through)) {partner : Partner}
    (hterms : partner.billingMode = .invoice → partner.TermsFit gen.timezone through) :
    DatesOver gen partner through := by
  intro day hlow hhigh
  obtain ⟨cutoff, period, hdates⟩ := walkDates_ok hthrough hlow hhigh
  refine ⟨cutoff, period, hdates, ?_⟩
  have hge := Generator.closableThrough_ge hthrough
  cases hmode : partner.billingMode with
  | invoice =>
    have hfinish := BillingPeriod.forDay_finish hdates.period_ok
    exact ((Partner.hasDueDate_iff hmode hfinish (by omega)).2
      ((hterms hmode).mono hhigh)).datable
  | reconciliation => exact ⟨none, none, Partner.dueAtFor_reconciliation hmode _, rfl⟩

/-- A partner whose dates can be computed does not end the tick. -/
theorem closePartner_completes {ctx : TickContext} {through : BillingDay} {partner : Partner}
    {progress : Progress} {days : List BillingDay}
    (hdays : walkFor ctx progress.store partner through = .ok days)
    (hdates : DatesOver ctx.gen partner through) :
    (closePartner ctx through partner progress).2 = none := by
  simp only [closePartner, hdays]
  refine Loop.runUntilStop_completes (fun _ => True) (fun day hday state _ => ⟨trivial, ?_⟩) trivial
  obtain ⟨hlow, hhigh⟩ := walk_in_window hdays hday
  obtain ⟨cutoff, period, hdates, hdue⟩ := hdates day hlow hhigh
  exact closeDay_completes hdates hdue _

/-- What a tick's store and partners are: dated statements, one row a consumer, and a creation
instant as it is written. -/
structure TickStore (store : Store) : Prop where
  dated : store.Dated
  keys : (store.partners.map Partner.consumerId).Nodup
  created : ∀ partner ∈ store.partners, ∃ created : Instant,
    partner.createdAt = formatInstant created

theorem Anchored.extends {ctx : TickContext} {partner other : Partner} {days : List BillingDay}
    {store written : Store} (h : Anchored ctx.gen store partner)
    (hwritten : Extends ctx other days store written) : Anchored ctx.gen written partner := by
  obtain ⟨new, hnew, -⟩ := hwritten.statements
  intro hnone
  refine h fun s hs => hnone s ?_
  rw [hnew]
  exact List.mem_append_left _ hs

/-- A tick over partners that can be anchored and dated is not ended, whatever days fail. -/
theorem closeDays_completes {ctx : TickContext} {store : Store} {through : BillingDay}
    (hthrough : ctx.gen.closableThrough ctx.now.utc = .ok (some through))
    (hlist : ctx.faults.listPartners = none) (hfaults : ∀ c, ctx.faults.anchor c = none)
    (hstore : TickStore store)
    (hanchored : ∀ partner ∈ store.partners, Anchored ctx.gen store partner)
    (hdates : ∀ partner ∈ store.partners, DatesOver ctx.gen partner through) :
    (closeDays ctx store).2 = none := by
  have hge := Generator.closableThrough_ge hthrough
  have hmax := Generator.closableThrough_lt_max hthrough
  simp only [closeDays, hthrough, hlist]
  refine Loop.runUntilStop_completes (fun state : Progress => state.store.Dated ∧
    ∀ partner ∈ store.partners, Anchored ctx.gen state.store partner) ?_
    ⟨hstore.dated, hanchored⟩
  rintro partner hpartner state ⟨hdated, hanchored⟩
  have hmem := mem_listPartners.1 hpartner
  obtain ⟨created, hcreated⟩ := hstore.created partner hmem
  obtain ⟨days, hdays⟩ := (walkFor_isOk_iff hdated (hfaults _) hcreated hmax
    (by unfold minDay; omega)).2 (hanchored partner hmem)
  refine ⟨?_, closePartner_completes hdays (hdates partner hmem)⟩
  simp only [closePartner, hdays]
  have hextends := runDays_extends ctx partner days state
  refine ⟨hextends.dated hdated fun day hday => ?_, fun other hother =>
    (hanchored other hother).extends hextends⟩
  obtain ⟨hlow, hhigh⟩ := walk_in_window hdays hday
  exact window_fourDigitYear hthrough hlow hhigh

/-! ## Isolation -/

/-- No partner keeps the others from being billed: the tick is not ended, every day of every walk
is attempted, and every invoice partner has a due date for every day the tick may close. -/
structure ReachesPartners (ctx : TickContext) (store : Store) (through : BillingDay) : Prop where
  ends : (closeDays ctx store).2 = none
  attempts : ∀ partner ∈ store.partners, ∃ days, walkFor ctx store partner through = .ok days ∧
    ∀ day ∈ days, (partner.consumerId, day) ∈ (closeDays ctx store).1.attempts
  dueDates : ∀ partner ∈ store.partners, partner.billingMode = .invoice → ∀ day : BillingDay,
    through.day - 30 ≤ day.day → day.day ≤ through.day → ∃ period,
      BillingPeriod.forDay day ctx.gen.timezone = .ok period ∧ partner.HasDueDate period.finish

/-- Every partner's days are reached, and every invoice partner has its due dates, exactly when
every partner can be anchored and the terms of every invoice partner fit the calendar. -/
theorem tick_reaches_partners_iff_terms_fit {ctx : TickContext} {store : Store}
    {through : BillingDay} (hthrough : ctx.gen.closableThrough ctx.now.utc = .ok (some through))
    (hlist : ctx.faults.listPartners = none) (hfaults : ∀ c, ctx.faults.anchor c = none)
    (hstore : TickStore store) :
    ReachesPartners ctx store through ↔
      (∀ partner ∈ store.partners, Anchored ctx.gen store partner) ∧
        ∀ partner ∈ store.partners, partner.billingMode = .invoice →
          partner.TermsFit ctx.gen.timezone through := by
  have hge := Generator.closableThrough_ge hthrough
  have hmax := Generator.closableThrough_lt_max hthrough
  constructor
  · intro h
    refine ⟨fun partner hpartner => ?_, fun partner hpartner hmode => ?_⟩
    · obtain ⟨created, hcreated⟩ := hstore.created partner hpartner
      obtain ⟨days, hdays, -⟩ := h.attempts partner hpartner
      exact (walkFor_isOk_iff hstore.dated (hfaults _) hcreated hmax
        (by unfold minDay; omega)).1 ⟨days, hdays⟩
    · obtain ⟨period, hperiod, hdue⟩ := h.dueDates partner hpartner hmode through (by omega) le_rfl
      exact (Partner.hasDueDate_iff hmode (BillingPeriod.forDay_finish hperiod) (by omega)).1 hdue
  · rintro ⟨hanchored, hterms⟩
    have hdates : ∀ partner ∈ store.partners, DatesOver ctx.gen partner through :=
      fun partner hpartner => datesOver_of_terms hthrough (hterms partner hpartner)
    have hends := closeDays_completes hthrough hlist hfaults hstore hanchored hdates
    refine ⟨hends, fun partner => closeDays_attempts hthrough hstore.keys hends, ?_⟩
    intro partner hpartner hmode day hlow hhigh
    obtain ⟨cutoff, period, hdates, -⟩ := hdates partner hpartner day hlow hhigh
    exact ⟨period, hdates.period_ok,
      (Partner.hasDueDate_iff hmode (BillingPeriod.forDay_finish hdates.period_ok) (by omega)).2
        ((hterms partner hpartner hmode).mono hhigh)⟩

namespace Sample

def created : Instant := ⟨1790409600000000000, by decide⟩

/-- Another partner, created with the first. -/
def zeta : Partner :=
  { partner .reconciliation (count 720) with consumerId := "zeta", name := "Zeta" }

/-- The two partners, the first with some terms. -/
def twoPartners (terms : Count) : Store :=
  { store (partner .invoice terms) [] with partners := [partner .invoice terms, zeta] }

theorem twoPartners_tickStore (terms : Count) : TickStore (twoPartners terms) where
  dated := fun _ hs => absurd hs List.not_mem_nil
  keys := by
    change ["acme", "zeta"].Nodup
    decide
  created := by
    have hcreated : "2026-09-26T08:00:00.000000000Z" = formatInstant created := by decide +kernel
    intro p hp
    rcases List.mem_cons.1 hp with rfl | hp
    · exact ⟨created, hcreated⟩
    · rw [List.mem_singleton.1 hp]
      exact ⟨created, hcreated⟩

end Sample

/-- Two partners with ordinary terms are both reached. -/
theorem tick_reaches_sample :
    ReachesPartners (Sample.tick {}) (Sample.twoPartners (Sample.count 720)) Sample.day ↔
      (∀ partner ∈ (Sample.twoPartners (Sample.count 720)).partners,
        Anchored Sample.gen (Sample.twoPartners (Sample.count 720)) partner) ∧
      ∀ partner ∈ (Sample.twoPartners (Sample.count 720)).partners,
        partner.billingMode = .invoice → partner.TermsFit Sample.gen.timezone Sample.day :=
  tick_reaches_partners_iff_terms_fit (by decide +kernel) rfl (fun _ => rfl)
    (Sample.twoPartners_tickStore _)

/-- The largest terms the table accepts end the tick at their partner: the other partner's two days
are never attempted.  Terms of two million years leave an invoice without a due date. -/
theorem tick_stopped_by_terms :
    (closeDays (Sample.tick {}) (Sample.twoPartners (Sample.count i64Max))).2 =
        some (.panicked .durationOverflow) ∧
      (closeDays (Sample.tick {}) (Sample.twoPartners (Sample.count i64Max))).1.attempts =
        [("acme", ⟨20722, by decide⟩)] ∧
      walkFor (Sample.tick {}) (Sample.twoPartners (Sample.count i64Max)) Sample.zeta Sample.day =
        .ok [⟨20722, by decide⟩, Sample.day] ∧
      (Sample.partner .invoice (Sample.count 1051200000000)).dueAtFor Sample.period.finish =
        .ok none := by
  decide +kernel

end PartnerPortal
