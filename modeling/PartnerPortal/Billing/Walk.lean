import PartnerPortal.Billing.Worker

/-!
# The walk of one partner

Where a partner's walk starts, which days it holds, and that every date a day of it needs is on the
calendar.  Statements are found by the text of their date, so the facts here are about stores whose
dates are those of closed days, which is all the tick ever writes.

Results:
- `walkFor_after` — a walk holds days of the catch-up window past every stated day;
- `walkFor_covers` — it holds every such day from the partner's creation on;
- `walkFor_isOk_iff` — it is computed exactly when the partner has a statement or a creation day;
- `walkDates_ok` — the cutoff and the period of each of its days can be computed and written.
-/

namespace PartnerPortal

open MachineInt

/-! ## Dates as text -/

theorem toText_lt_iff {a b : Date} (ha : FourDigitYear a.day) (hb : FourDigitYear b.day) :
    a.toText < b.toText ↔ a.day < b.day := by
  rw [Date.toText, Date.toText, FixedWidth.ofList_lt_iff, dateText_lt_iff ha hb]

theorem toText_injective {a b : Date} (ha : FourDigitYear a.day) (hb : FourDigitYear b.day)
    (h : a.toText = b.toText) : a = b :=
  Date.ext (dateText_injective ha hb (String.ofList_inj.1 h))

/-- Every statement is dated with a day that has a four-digit year and a day after it. -/
def Store.Dated (store : Store) : Prop :=
  ∀ s ∈ store.statements, ∃ day : BillingDay, FourDigitYear day.day ∧ day.day + 1 ≤ maxDay ∧
    s.billingDate = day.toText

/-- A partner has a statement for a day. -/
def Store.HasDay (store : Store) (consumerId : String) (day : BillingDay) : Prop :=
  ∃ s ∈ store.statements, s.consumerId = consumerId ∧ s.billingDate = day.toText

theorem Store.hasDay_iff {store : Store} {consumerId : String} {day : BillingDay} :
    store.HasDay consumerId day ↔ (getStatement store consumerId day.toText).isSome :=
  getStatement_isSome_iff.symm

theorem Untouched.hasDay_iff {consumerId : String} {store reached : Store}
    (h : Untouched consumerId store reached) {day : BillingDay} :
    reached.HasDay consumerId day ↔ store.HasDay consumerId day := by
  have hof : ∀ store : Store, store.HasDay consumerId day ↔
      ∃ s ∈ store.statementsOf consumerId, s.billingDate = day.toText := by
    intro store
    simp only [Store.HasDay, Store.mem_statementsOf, and_assoc]
  rw [hof, hof, h.statements]

theorem Store.HasDay.fourDigitYear {store : Store} (hdated : store.Dated) {consumerId : String}
    {day : BillingDay} (h : store.HasDay consumerId day) :
    ∃ day' : BillingDay, FourDigitYear day'.day ∧ store.HasDay consumerId day' ∧
      day.toText = day'.toText := by
  obtain ⟨s, hs, hconsumer, hdate⟩ := h
  obtain ⟨day', hyear, -, hdate'⟩ := hdated s hs
  exact ⟨day', hyear, ⟨s, hs, hconsumer, hdate'⟩, hdate.symm.trans hdate'⟩

/-! ## The anchor -/

section Anchor

variable {ctx : TickContext} {store : Store} {partner : Partner} {through : BillingDay}

theorem anchorFor_ok_fault {anchor : BillingDay}
    (h : anchorFor ctx store partner through = .ok anchor) :
    ctx.faults.anchor partner.consumerId = none := by
  unfold anchorFor at h
  split at h
  · cases h
  · assumption

/-- The anchor of a partner with statements is its newest stated day. -/
theorem anchorFor_stated (hdated : store.Dated)
    (hfault : ctx.faults.anchor partner.consumerId = none)
    (hsome : ∃ s ∈ store.statements, s.consumerId = partner.consumerId) :
    ∃ anchor, anchorFor ctx store partner through = .ok anchor ∧ FourDigitYear anchor.day ∧
      anchor.day + 1 ≤ maxDay ∧ store.HasDay partner.consumerId anchor ∧
      ∀ day : BillingDay, FourDigitYear day.day → store.HasDay partner.consumerId day →
        day.day ≤ anchor.day := by
  cases hlast : lastStatementDateFor store partner.consumerId with
  | none =>
    obtain ⟨s, hs, hconsumer⟩ := hsome
    exact absurd hconsumer (lastStatementDateFor_eq_none_iff.1 hlast s hs)
  | some newest =>
    obtain ⟨⟨s, hs, hconsumer, hdate⟩, hmax⟩ := lastStatementDateFor_eq_some hlast
    obtain ⟨anchor, hyear, hnext, htext⟩ := hdated s hs
    have hparse : BillingDay.parse ctx.iso newest = some anchor := by
      rw [← hdate, htext]
      exact parseDate_toText ctx.iso hyear
    refine ⟨anchor, ?_, hyear, hnext, ⟨s, hs, hconsumer, htext⟩, ?_⟩
    · simp only [anchorFor, hfault, hlast, Option.bind_some, hparse]
    · rintro day hdayYear ⟨s', hs', hconsumer', hdate'⟩
      have hnot := hmax s' hs' hconsumer'
      rw [← hdate, htext, hdate', toText_lt_iff hyear hdayYear] at hnot
      exact not_lt.1 hnot

/-- The anchor of a partner without statements is the day before it was created. -/
theorem anchorFor_created (hfault : ctx.faults.anchor partner.consumerId = none)
    (hnone : ∀ s ∈ store.statements, s.consumerId ≠ partner.consumerId) {created : Instant}
    (hcreated : partner.createdAt = formatInstant created) :
    anchorFor ctx store partner through =
      orPanic ((BillingDay.of created.utc ctx.gen.timezone).bind BillingDay.previous) := by
  have hlast := lastStatementDateFor_eq_none_iff.2 hnone
  simp only [anchorFor, hfault, hlast, Option.bind_none, hcreated, parseTs_formatInstant, orPanic,
    Except.mapError, Result.ok_bind]
  cases BillingDay.of created.utc ctx.gen.timezone <;> rfl

/-- What the anchor of a partner is, whether it has statements or not. -/
structure AnchorOf (store : Store) (partner : Partner) (createdDay anchor : BillingDay) : Prop where
  year : FourDigitYear anchor.day
  next : anchor.day + 1 ≤ maxDay
  newest : ∀ day : BillingDay, FourDigitYear day.day → store.HasDay partner.consumerId day →
    day.day ≤ anchor.day
  least : store.HasDay partner.consumerId anchor ∨ anchor.day + 1 = createdDay.day

theorem anchorFor_ok (hdated : store.Dated)
    (hfault : ctx.faults.anchor partner.consumerId = none) {created : Instant}
    (hcreated : partner.createdAt = formatInstant created) {createdDay : BillingDay}
    (hday : BillingDay.of created.utc ctx.gen.timezone = .ok createdDay) :
    ∃ anchor, anchorFor ctx store partner through = .ok anchor ∧
      AnchorOf store partner createdDay anchor := by
  by_cases hsome : ∃ s ∈ store.statements, s.consumerId = partner.consumerId
  · obtain ⟨anchor, hanchor, hyear, hnext, hstated, hnewest⟩ :=
      anchorFor_stated hdated hfault hsome
    exact ⟨anchor, hanchor, hyear, hnext, hnewest, Or.inl hstated⟩
  · have hnone : ∀ s ∈ store.statements, s.consumerId ≠ partner.consumerId :=
      fun s hs heq => hsome ⟨s, hs, heq⟩
    have hge := BillingDay.of_instant_ge hday
    have hrange := createdDay.inRange
    have hbefore : minDay ≤ createdDay.day + -1 ∧ createdDay.day + -1 ≤ maxDay := by
      unfold minDay
      omega
    have hprevious : BillingDay.previous createdDay = .ok ⟨createdDay.day + -1, hbefore⟩ :=
      Date.addDays_of_range hbefore
    refine ⟨⟨createdDay.day + -1, hbefore⟩, ?_, ?_, ?_, ?_, Or.inr ?_⟩
    · rw [anchorFor_created hfault hnone hcreated, hday]
      exact orPanic_ok_iff.2 hprevious
    · exact fourDigitYear_of_range (by simp only; omega) (by simp only; omega)
    · simp only
      omega
    · rintro day - ⟨s, hs, hconsumer, -⟩
      exact absurd hconsumer (hnone s hs)
    · simp only
      omega

end Anchor

/-! ## The days of a walk -/

section Walk

variable {ctx : TickContext} {store : Store} {partner : Partner} {through : BillingDay}
  {days : List BillingDay}

theorem walkFor_ok (h : walkFor ctx store partner through = .ok days) :
    ∃ anchor, anchorFor ctx store partner through = .ok anchor ∧
      Generator.daysToClose ctx.iso (some anchor.toText) through = .ok days := by
  obtain ⟨anchor, hanchor, h⟩ := Result.bind_ok_iff.1 h
  exact ⟨anchor, hanchor, orPanic_ok_iff.1 h⟩

/-- The days of a walk from a four-digit anchor. -/
theorem mem_walk {anchor : BillingDay} (hyear : FourDigitYear anchor.day)
    (h : Generator.daysToClose ctx.iso (some anchor.toText) through = .ok days)
    (day : BillingDay) :
    day ∈ days ↔ anchor.day < day.day ∧ through.day - 30 ≤ day.day ∧ day.day ≤ through.day := by
  rw [Generator.mem_daysToClose h]
  simp only [Option.bind_some, BillingDay.parse, parseDate_toText ctx.iso hyear, Option.map_some,
    Generator.startAfter, maxCatchupDays]
  omega

theorem walk_in_window (h : walkFor ctx store partner through = .ok days) {day : BillingDay}
    (hday : day ∈ days) : through.day - 30 ≤ day.day ∧ day.day ≤ through.day := by
  obtain ⟨anchor, -, hdays⟩ := walkFor_ok h
  have hmem := (Generator.mem_daysToClose hdays day).1 hday
  refine ⟨?_, hmem.2⟩
  have hlow := hmem.1
  unfold Generator.startAfter maxCatchupDays at hlow
  split at hlow <;> omega

theorem walk_sorted (h : walkFor ctx store partner through = .ok days) :
    days.Pairwise (· < ·) := by
  obtain ⟨anchor, -, hdays⟩ := walkFor_ok h
  exact Generator.daysToClose_sorted hdays

/-- A walk holds days past every stated day. -/
theorem walkFor_after (hdated : store.Dated) (h : walkFor ctx store partner through = .ok days)
    {day stated : BillingDay} (hday : day ∈ days) (hyear : FourDigitYear stated.day)
    (hstated : store.HasDay partner.consumerId stated) : stated.day < day.day := by
  obtain ⟨anchor, hanchor, hdays⟩ := walkFor_ok h
  have hfault := anchorFor_ok_fault hanchor
  obtain ⟨s, hs, hconsumer, -⟩ := id hstated
  obtain ⟨anchor', hanchor', hyear', -, -, hnewest⟩ :=
    @anchorFor_stated ctx store partner through hdated hfault ⟨s, hs, hconsumer⟩
  rw [hanchor] at hanchor'
  cases hanchor'
  have hle := hnewest stated hyear hstated
  have hlt := ((mem_walk hyear' hdays day).1 hday).1
  omega

/-- A walk holds every day of the window, from the creation day on, that is past every stated
day. -/
theorem walkFor_covers (hdated : store.Dated) {created : Instant}
    (hcreated : partner.createdAt = formatInstant created) {createdDay : BillingDay}
    (hcreatedDay : BillingDay.of created.utc ctx.gen.timezone = .ok createdDay)
    (h : walkFor ctx store partner through = .ok days) {day : BillingDay}
    (horigin : createdDay.day ≤ day.day) (hfloor : through.day - 30 ≤ day.day)
    (htop : day.day ≤ through.day)
    (hopen : ∀ stated : BillingDay, FourDigitYear stated.day →
      store.HasDay partner.consumerId stated → stated.day < day.day) : day ∈ days := by
  obtain ⟨anchor, hanchor, hdays⟩ := walkFor_ok h
  have hfault := anchorFor_ok_fault hanchor
  obtain ⟨anchor', hanchor', hof⟩ :=
    @anchorFor_ok ctx store partner through hdated hfault created hcreated createdDay hcreatedDay
  rw [hanchor] at hanchor'
  cases hanchor'
  rw [mem_walk hof.year hdays]
  refine ⟨?_, hfloor, htop⟩
  rcases hof.least with hstated | hcreate
  · exact hopen anchor hof.year hstated
  · omega

/-- A walk is computed wherever its anchor is, below the calendar's last day. -/
theorem walkFor_of_anchor {anchor : BillingDay}
    (hanchor : anchorFor ctx store partner through = .ok anchor) (hyear : FourDigitYear anchor.day)
    (hnext : anchor.day + 1 ≤ maxDay) (hthrough : through.day + 1 ≤ maxDay)
    (hfloor : minDay ≤ through.day - 30) : ∃ days, walkFor ctx store partner through = .ok days := by
  have hparse : (some anchor.toText).bind (BillingDay.parse ctx.iso) = some anchor := by
    rw [Option.bind_some]
    exact parseDate_toText ctx.iso hyear
  obtain ⟨days, hdays⟩ := @Generator.daysToClose_isOk ctx.iso (some anchor.toText) through hthrough
    hfloor (fun last hlast => by
      rw [hparse] at hlast
      cases hlast
      exact hnext)
  refine ⟨days, ?_⟩
  rw [walkFor, hanchor, Result.ok_bind]
  exact orPanic_ok_iff.2 hdays

/-- A partner whose walk can be anchored: one with a statement, or with a day it was created on. -/
def Anchored (gen : Generator) (store : Store) (partner : Partner) : Prop :=
  (∀ s ∈ store.statements, s.consumerId ≠ partner.consumerId) →
    ∀ created : Instant, partner.createdAt = formatInstant created →
      ∃ day, BillingDay.of created.utc gen.timezone = .ok day

/-- Being anchored is all a walk needs. -/
theorem walkFor_isOk_iff (hdated : store.Dated)
    (hfault : ctx.faults.anchor partner.consumerId = none) {created : Instant}
    (hcreated : partner.createdAt = formatInstant created) (hthrough : through.day + 1 ≤ maxDay)
    (hfloor : minDay ≤ through.day - 30) :
    (∃ days, walkFor ctx store partner through = .ok days) ↔
      Anchored ctx.gen store partner := by
  constructor
  · rintro ⟨days, hdays⟩ hnone created' hcreated'
    obtain ⟨anchor, hanchor, -⟩ := walkFor_ok hdays
    rw [anchorFor_created hfault hnone hcreated'] at hanchor
    obtain ⟨day, hday, -⟩ := Result.bind_ok_iff.1 (orPanic_ok_iff.1 hanchor)
    exact ⟨day, hday⟩
  · intro hanchored
    by_cases hsome : ∃ s ∈ store.statements, s.consumerId = partner.consumerId
    · obtain ⟨anchor, hanchor, hyear, hnext, -⟩ :=
        @anchorFor_stated ctx store partner through hdated hfault hsome
      exact walkFor_of_anchor hanchor hyear hnext hthrough hfloor
    · have hnone : ∀ s ∈ store.statements, s.consumerId ≠ partner.consumerId :=
        fun s hs heq => hsome ⟨s, hs, heq⟩
      obtain ⟨createdDay, hday⟩ := hanchored hnone created hcreated
      obtain ⟨anchor, hanchor, hof⟩ :=
        @anchorFor_ok ctx store partner through hdated hfault created hcreated createdDay hday
      exact walkFor_of_anchor hanchor hof.year hof.next hthrough hfloor

end Walk

/-! ## The dates of a day -/

/-- The dates of a day that can be computed and written. -/
structure DayDates (gen : Generator) (day : BillingDay) (cutoff : OffsetDateTime)
    (period : BillingPeriod) : Prop where
  cutoff_ok : gen.cutoffFor day = .ok cutoff
  cutoffText : ∃ text, formatTs cutoff = .ok text
  period_ok : BillingPeriod.forDay day gen.timezone = .ok period
  bounds : ∃ start finish, period.toBounds = .ok (start, finish)

/-- Every date of a day in the catch-up window of the newest closeable day can be computed. -/
theorem walkDates_ok {gen : Generator} {now : Instant} {through day : BillingDay}
    (hthrough : gen.closableThrough now.utc = .ok (some through))
    (hlow : through.day - 30 ≤ day.day) (hhigh : day.day ≤ through.day) :
    ∃ cutoff period, DayDates gen day cutoff period := by
  obtain ⟨today, last, -, hlast, hle, -⟩ := Generator.closableThrough_spec hthrough
  have hge := Generator.closableThrough_ge hthrough
  have hmax := Generator.closableThrough_lt_max hthrough
  have hlastNanos := Generator.cutoffFor_ok hlast
  have hnow := now.inRange
  have htz := gen.timezone.utcOffset_range
  have hdelay := gen.inRange
  rw [OffsetDateTime.le_iff, Instant.nanos_utc] at hle
  obtain ⟨hfits, hsum⟩ := Generator.cutoffFor_isOk_iff.1 ⟨last, hlast⟩
  obtain ⟨cutoff, hcutoffOk⟩ := (@Generator.cutoffFor_isOk_iff gen day).2 ⟨hfits, by
    unfold nanosPerDay at *
    omega⟩
  have hdayRange := day.inRange
  have hnextRange : minDay ≤ day.day + 1 ∧ day.day + 1 ≤ maxDay := by omega
  have hfinish : BillingDay.endExclusiveUtc day gen.timezone =
      .ok (BillingDay.startUtc ⟨day.day + 1, hnextRange⟩ gen.timezone) :=
    BillingDay.endExclusiveUtc_ok_iff.2 ⟨_, rfl, rfl⟩
  have hcutoffNanos := Generator.cutoffFor_ok hcutoffOk
  refine ⟨cutoff, ⟨BillingDay.startUtc day gen.timezone,
    BillingDay.startUtc ⟨day.day + 1, hnextRange⟩ gen.timezone⟩, hcutoffOk, ?_, ?_, ?_⟩
  · rw [formatTs_isOk_iff, hcutoffNanos]
    rw [hlastNanos] at hle
    unfold BillingDay.startNanos minDay nanosPerDay nanosPerSecond at *
    omega
  · simp only [BillingPeriod.forDay, hfinish, Result.ok_bind, Result.pure_eq]
  · rw [hlastNanos] at hle
    obtain ⟨start, hstart⟩ := @formatTs_isOk_iff (BillingDay.startUtc day gen.timezone) |>.2 (by
      rw [BillingDay.nanos_startUtc]
      unfold BillingDay.startNanos minDay nanosPerDay nanosPerSecond at *
      omega)
    obtain ⟨finish, hend⟩ := @formatTs_isOk_iff
      (BillingDay.startUtc ⟨day.day + 1, hnextRange⟩ gen.timezone) |>.2 (by
        rw [BillingDay.nanos_startUtc]
        simp only
        unfold BillingDay.startNanos minDay nanosPerDay nanosPerSecond at *
        omega)
    exact ⟨start, finish, by simp only [BillingPeriod.toBounds, hstart, hend, Result.ok_bind,
      Result.pure_eq]⟩

/-- Days of a walk have four-digit years, and so have the days their bounds fall on. -/
theorem window_fourDigitYear {gen : Generator} {now : Instant} {through day : BillingDay}
    (hthrough : gen.closableThrough now.utc = .ok (some through))
    (hlow : through.day - 30 ≤ day.day) (hhigh : day.day ≤ through.day) :
    FourDigitYear day.day ∧ day.day + 1 ≤ maxDay := by
  have hge := Generator.closableThrough_ge hthrough
  have hmax := Generator.closableThrough_lt_max hthrough
  exact ⟨fourDigitYear_of_range (by omega) (by omega), by omega⟩

/-! ## What a tick keeps -/

theorem Extends.dated {ctx : TickContext} {partner : Partner} {days : List BillingDay}
    {store written : Store} (h : Extends ctx partner days store written) (hdated : store.Dated)
    (hdays : ∀ day ∈ days, FourDigitYear day.day ∧ day.day + 1 ≤ maxDay) : written.Dated := by
  obtain ⟨new, hnew, hrows, -⟩ := h.statements
  intro s hs
  rw [hnew] at hs
  rcases List.mem_append.1 hs with hs | hs
  · exact hdated s hs
  · obtain ⟨day, hday, hrow⟩ := hrows s hs
    obtain ⟨hyear, hmax⟩ := hdays day hday
    exact ⟨day, hyear, hmax, hrow.billingDate⟩

/-- A tick dates its statements with closed days. -/
theorem closeDays_dated (ctx : TickContext) {store : Store} (h : store.Dated) :
    (closeDays ctx store).1.store.Dated := by
  refine closeDays_keeps Store.Dated h ?_
  intro through hthrough partner _ start hstart days hdays written hextends
  refine hextends.dated hstart fun day hday => ?_
  obtain ⟨hlow, hhigh⟩ := walk_in_window hdays hday
  exact window_fourDigitYear hthrough hlow hhigh

end PartnerPortal
