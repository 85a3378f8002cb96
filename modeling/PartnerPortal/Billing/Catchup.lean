import PartnerPortal.Billing.Isolation
import PartnerPortal.Lib.HighWater

/-!
# Which failed days are tried again

The walk of a partner starts after its newest stated day, so a day that failed is tried again only
while no later day is stated.  The loop does not stop at a failed day, so a later day of the same
tick may be.

Results:
- `closeDays_hasDay` — the days stated after a tick: those stated before, and those of the walk
  whose attempt could land;
- `run_attempts_open_days` — along runs in which no attempt lands after an earlier one that could
  not, every tick attempts every open day of its window.
-/

namespace PartnerPortal

open MachineInt

/-! ## When an attempt lands -/

/-- The usage of a partner's day. -/
def dayRows (gen : Generator) (usage : List UsageRow) (partner : Partner) (day : BillingDay) :
    List UsageRow :=
  inPeriod usage partner.consumerId (BillingDay.startText day.day gen.timezone)
    (BillingDay.startText (day.day + 1) gen.timezone)

/-- An attempt that can succeed: the database does not fail, the amounts of the day fit, and an
invoice partner has a due date for it. -/
structure Lands (ctx : TickContext) (usage : List UsageRow) (partner : Partner)
    (day : BillingDay) : Prop where
  read : ctx.faults.read partner.consumerId day = none
  begins : (ctx.faults.write partner.consumerId day).begins = none
  inside : (ctx.faults.write partner.consumerId day).inside = none
  amounts : AmountsFit (dayRows ctx.gen usage partner day)
  terms : partner.billingMode = .invoice → partner.TermsFit ctx.gen.timezone day

section Attempt

variable {ctx : TickContext} {partner : Partner} {day : BillingDay} {cutoff : OffsetDateTime}
  {period : BillingPeriod}

theorem draft_rows {gen : Generator} {usage : List UsageRow} {draft : StatementDraft}
    (h : statementForDay gen usage partner day cutoff = .ok (.ok draft)) :
    draft.rows usage = dayRows gen usage partner day := by
  obtain ⟨period, hperiod, hbounds, -, -, hconsumer, -⟩ := statementForDay_ok h
  obtain ⟨hstart, hfinish⟩ := BillingPeriod.forDay_ok hperiod
  obtain ⟨hstartText, hfinishText⟩ := BillingPeriod.toBounds_ok hbounds
  simp only at hstartText hfinishText
  rw [StatementDraft.rows, hconsumer, hstartText, hfinishText, hstart, hfinish, dayRows,
    BillingDay.startText, BillingDay.startText]

/-- A draft that is accepted and whose due date can be written has the due date its mode asks
for. -/
theorem hasDueDate_of_valid {draft : StatementDraft} (hvalid : validateDraft draft = .ok ())
    (hmode : draft.billingMode = .invoice) {dueAt : Option String}
    (hdueAt : formatDue draft.dueAt = .ok dueAt) :
    ∃ due text, draft.dueAt = some due ∧ formatTs due = .ok text := by
  cases hdue : draft.dueAt with
  | none => simp [validateDraft, hmode, BillingMode.owesPayment, hdue] at hvalid
  | some due =>
    rw [hdue] at hdueAt
    obtain ⟨text, htext, -⟩ := Result.bind_ok_iff.1 hdueAt
    exact ⟨due, text, rfl, htext⟩

/-- A turn states an open day exactly when its attempt can succeed. -/
theorem closeDay_lands_iff (hdates : DayDates ctx.gen day cutoff period)
    (hdatable : partner.Datable period.finish) (hday : -33 ≤ day.day) {progress : Progress}
    (hpartner : partner ∈ progress.store.partners) (hnumbered : progress.store.Numbered)
    (hopen : ¬ progress.store.HasDay partner.consumerId day) :
    (closeDay ctx partner day progress).1.store.HasDay partner.consumerId day ↔
      Lands ctx progress.store.usage partner day := by
  have hend := BillingPeriod.forDay_finish hdates.period_ok
  constructor
  · intro hstated
    obtain heq | ⟨draft, hclosed⟩ := (closeDay_cases ctx partner day progress).2
    · exact absurd (heq ▸ hstated) hopen
    obtain ⟨cutoff', hdraft⟩ := hclosed.drafted
    obtain ⟨period', hperiod', -, hdueAt, -, -, -, hmode, hfits, -⟩ := statementForDay_ok hdraft
    rw [hdates.period_ok] at hperiod'
    cases hperiod'
    obtain ⟨total, dueAt, htotal, hdueText, -⟩ := hclosed.wrote.added
    refine ⟨hclosed.read, hclosed.wrote.begins, hclosed.wrote.inside, ?_, fun hinvoice => ?_⟩
    · rw [← draft_rows hdraft]
      exact ⟨hfits, (draft_total_isOk_iff hdraft).1 ⟨total, htotal⟩⟩
    · obtain ⟨due, text, hdue, htext⟩ :=
        hasDueDate_of_valid hclosed.wrote.valid (hmode.trans hinvoice) hdueText
      rw [hdue] at hdueAt
      exact (Partner.hasDueDate_iff hinvoice hend hday).1 ⟨due, text, hdueAt, htext⟩
  · intro hlands
    obtain ⟨start, finish, hbounds⟩ := hdates.bounds
    obtain ⟨cutoffText, hcutoffText⟩ := hdates.cutoffText
    obtain ⟨due, dueText, hdue, hdueText⟩ := hdatable
    obtain ⟨hstart, hfinish⟩ := BillingPeriod.forDay_ok hdates.period_ok
    obtain ⟨hstartText, hfinishText⟩ := BillingPeriod.toBounds_ok hbounds
    simp only at hstartText hfinishText
    have hsums := hlands.amounts.1
    rw [dayRows, BillingDay.startText, BillingDay.startText, ← hstart, ← hfinish, ← hstartText,
      ← hfinishText] at hsums
    obtain ⟨draft, hdraft⟩ :=
      (statementForDay_isOk_iff hcutoffText hdates.period_ok hbounds hdue).2 hsums
    obtain ⟨period', hperiod', -, hdueAt, -, hconsumer, hdate, hmode, -⟩ :=
      statementForDay_ok hdraft
    rw [hdates.period_ok] at hperiod'
    cases hperiod'
    rw [hdue] at hdueAt
    cases hdueAt
    obtain ⟨total, htotal⟩ := (draft_total_isOk_iff hdraft).2 (by
      rw [draft_rows hdraft]
      exact hlands.amounts.2)
    have hfits : DueFits partner.billingMode draft.dueAt := by
      cases hbilling : partner.billingMode with
      | invoice =>
        obtain ⟨due', text', hdue', -⟩ :=
          (Partner.hasDueDate_iff hbilling hend hday).2 (hlands.terms hbilling)
        rw [hdue] at hdue'
        exact Or.inl ⟨rfl, by rw [Except.ok.inj hdue']; rfl⟩
      | reconciliation =>
        rw [Partner.dueAtFor_reconciliation hbilling] at hdue
        exact Or.inr ⟨rfl, (Except.ok.inj hdue).symm⟩
    obtain ⟨written, result, hwrite, hwritten, -⟩ := writeStatement_of_draft ctx.clock hlands.begins
      hlands.inside hpartner hnumbered hdraft hfits hdueText htotal
    rw [hconsumer, hdate, ← Store.hasDay_iff] at hwritten
    simp only [closeDay, hdates.cutoff_ok, hlands.read, hdraft, hwrite]
    cases result <;> exact hwritten

end Attempt

/-! ## A walk -/

/-- A turn of another day leaves a day as it was. -/
theorem closeDay_other {ctx : TickContext} {partner : Partner} {day day' : BillingDay}
    (hyear : FourDigitYear day.day) (hyear' : FourDigitYear day'.day) (hne : day' ≠ day)
    (progress : Progress) :
    (closeDay ctx partner day progress).1.store.HasDay partner.consumerId day' ↔
      progress.store.HasDay partner.consumerId day' := by
  rcases (closeDay_effect ctx partner day progress).2 with heq | hstated
  · rw [heq]
  · obtain ⟨row, hadded, hrow⟩ := hstated.added
    simp only [Store.HasDay, hadded.statements, List.mem_append, List.mem_singleton]
    constructor
    · rintro ⟨s, hs | rfl, hconsumer, hdate⟩
      · exact ⟨s, hs, hconsumer, hdate⟩
      · rw [hrow.billingDate] at hdate
        exact absurd (toText_injective hyear hyear' hdate).symm hne
    · rintro ⟨s, hs, hconsumer, hdate⟩
      exact ⟨s, Or.inl hs, hconsumer, hdate⟩

theorem closeDay_tables (ctx : TickContext) (partner : Partner) (day : BillingDay)
    (progress : Progress) :
    (closeDay ctx partner day progress).1.store.partners = progress.store.partners ∧
      (closeDay ctx partner day progress).1.store.usage = progress.store.usage ∧
      (progress.store.Numbered → (closeDay ctx partner day progress).1.store.Numbered) := by
  rcases (closeDay_effect ctx partner day progress).2 with heq | hstated
  · rw [heq]
    exact ⟨rfl, rfl, id⟩
  · obtain ⟨row, hadded, -⟩ := hstated.added
    exact ⟨hadded.partners, hadded.usage, hstated.numbered⟩

/-- The days of a walk that are stated after it: those whose attempt could succeed. -/
theorem runDays_hasDay {ctx : TickContext} {partner : Partner} {days : List BillingDay}
    (hdays : ∀ day ∈ days, FourDigitYear day.day ∧ -33 ≤ day.day ∧
      ∃ cutoff period, DayDates ctx.gen day cutoff period ∧ partner.Datable period.finish)
    (hdistinct : days.Nodup) {progress : Progress} (hpartner : partner ∈ progress.store.partners)
    (hnumbered : progress.store.Numbered)
    (hopen : ∀ day ∈ days, ¬ progress.store.HasDay partner.consumerId day) {day : BillingDay}
    (hyear : FourDigitYear day.day) :
    (Loop.runUntilStop (attemptDay ctx partner) days progress).1.store.HasDay
        partner.consumerId day ↔
      progress.store.HasDay partner.consumerId day ∨
        day ∈ days ∧ Lands ctx progress.store.usage partner day := by
  induction days generalizing progress with
  | nil => simp
  | cons first rest ih =>
    obtain ⟨hfirstYear, hfirst, cutoff, period, hdates, hdatable⟩ := hdays first List.mem_cons_self
    obtain ⟨hnotMem, hrest⟩ := List.nodup_cons.1 hdistinct
    have hstop : (attemptDay ctx partner first progress).2 = none :=
      closeDay_completes hdates hdatable _
    obtain ⟨htPartners, htUsage, htNumbered⟩ := closeDay_tables ctx partner first { progress with
      tick := { progress.tick with days := progress.tick.days + 1 }
      attempts := progress.attempts ++ [(partner.consumerId, first)] }
    have hother : ∀ day', FourDigitYear day'.day → day' ≠ first →
        ((attemptDay ctx partner first progress).1.store.HasDay partner.consumerId day' ↔
          progress.store.HasDay partner.consumerId day') :=
      fun day' hyear' hne => closeDay_other hfirstYear hyear' hne _
    have hlands : (attemptDay ctx partner first progress).1.store.HasDay partner.consumerId first ↔
        Lands ctx progress.store.usage partner first :=
      closeDay_lands_iff hdates hdatable hfirst hpartner hnumbered (hopen first List.mem_cons_self)
    have hnext := @ih (fun day' hday' => hdays day' (List.mem_cons_of_mem first hday')) hrest
      (attemptDay ctx partner first progress).1 (htPartners.symm ▸ hpartner) (htNumbered hnumbered)
      (fun day' hday' hstated => by
        have hne : day' ≠ first := fun heq => hnotMem (heq ▸ hday')
        exact hopen day' (List.mem_cons_of_mem first hday')
          ((hother day' (hdays day' (List.mem_cons_of_mem first hday')).1 hne).1 hstated))
    have htUsage' : (attemptDay ctx partner first progress).1.store.usage = progress.store.usage :=
      htUsage
    rw [htUsage'] at hnext
    rw [Loop.runUntilStop_cons]
    rw [show attemptDay ctx partner first progress =
      ((attemptDay ctx partner first progress).1, none) from Prod.ext rfl hstop]
    simp only
    rw [hnext, List.mem_cons]
    by_cases heq : day = first
    · subst heq
      rw [hlands]
      have hnot := hopen day List.mem_cons_self
      simp only [hnot, hnotMem, false_and, or_false, true_and, false_or]
    · rw [hother day hyear heq]
      simp only [heq, false_or]

/-! ## A tick -/

/-- A tick whose partners can be anchored and dated, over the catch-up window of `through`. -/
structure TickRuns (ctx : TickContext) (store : Store) (through : BillingDay) : Prop where
  closable : ctx.gen.closableThrough ctx.now.utc = .ok (some through)
  list : ctx.faults.listPartners = none
  anchors : ∀ c, ctx.faults.anchor c = none
  tables : TickStore store
  anchored : ∀ partner ∈ store.partners, Anchored ctx.gen store partner
  dates : ∀ partner ∈ store.partners, DatesOver ctx.gen partner through

theorem TickRuns.completes {ctx : TickContext} {store : Store} {through : BillingDay}
    (h : TickRuns ctx store through) : (closeDays ctx store).2 = none :=
  closeDays_completes h.closable h.list h.anchors h.tables h.anchored h.dates

/-- The days stated after a tick: those stated before, and those of the partner's walk whose attempt
could succeed. -/
theorem closeDays_hasDay {ctx : TickContext} {store : Store} {through : BillingDay}
    (h : TickRuns ctx store through) (hnumbered : store.Numbered) {partner : Partner}
    (hpartner : partner ∈ store.partners) :
    ∃ days, walkFor ctx store partner through = .ok days ∧
      (∀ day ∈ days, (partner.consumerId, day) ∈ (closeDays ctx store).1.attempts) ∧
      ∀ day : BillingDay, FourDigitYear day.day →
        ((closeDays ctx store).1.store.HasDay partner.consumerId day ↔
          store.HasDay partner.consumerId day ∨
            day ∈ days ∧ Lands ctx store.usage partner day) := by
  obtain ⟨days, reached, walked, hdays, hreached, hrun, hwalked, hattempts⟩ :=
    closeDays_visits h.closable h.tables.keys h.completes hpartner
  have hge := Generator.closableThrough_ge h.closable
  have hwindow : ∀ day ∈ days, FourDigitYear day.day ∧ -33 ≤ day.day ∧
      ∃ cutoff period, DayDates ctx.gen day cutoff period ∧ partner.Datable period.finish := by
    intro day hday
    obtain ⟨hlow, hhigh⟩ := walk_in_window hdays hday
    exact ⟨(window_fourDigitYear h.closable hlow hhigh).1, by omega,
      h.dates partner hpartner day hlow hhigh⟩
  have hopen : ∀ day ∈ days, ¬ reached.store.HasDay partner.consumerId day := by
    intro day hday hstated
    have hlt := walkFor_after h.tables.dated hdays hday (hwindow day hday).1
      (hreached.hasDay_iff.1 hstated)
    omega
  refine ⟨days, hdays, fun day hday => hattempts _ ?_, fun day hyear => ?_⟩
  · obtain ⟨tried, htried, hall⟩ := runDays_attempts ctx partner days reached
    rw [hrun] at htried hall
    rw [htried, hall rfl]
    exact List.mem_append_right _ (List.mem_map_of_mem hday)
  · have hwalk := runDays_hasDay hwindow ((walk_sorted hdays).imp fun hlt heq => by
        rw [heq] at hlt
        exact absurd hlt (Int.lt_irrefl _)) (hreached.partners.symm ▸ hpartner)
      (hreached.numbered hnumbered) hopen hyear
    rw [hrun, hreached.hasDay_iff, hreached.usage] at hwalk
    rw [hwalked.hasDay_iff, hwalk]

/-- A tick leaves the statements of a consumer that is not a partner alone. -/
theorem closeDays_untouched {ctx : TickContext} {store : Store} {consumerId : String}
    (hnone : ∀ partner ∈ store.partners, partner.consumerId ≠ consumerId) :
    Untouched consumerId store (closeDays ctx store).1.store :=
  closeDays_keeps (Untouched consumerId store) (Untouched.refl _ _)
    fun _ _ partner hpartner _ hstart _ _ _ hextends =>
      hstart.extends (hnone partner hpartner) hextends

theorem closeDays_numbered {ctx : TickContext} {store : Store} (h : store.Numbered) :
    (closeDays ctx store).1.store.Numbered :=
  closeDays_keeps Store.Numbered h fun _ _ _ _ _ hstart _ _ _ hextends => hextends.numbered hstart

/-! ## Runs -/

/-- The days a consumer has a statement for, as day numbers. -/
def Done (store : Store) (consumerId : String) (d : Int) : Prop :=
  ∃ day : BillingDay, day.day = d ∧ FourDigitYear d ∧ store.HasDay consumerId day

theorem done_iff {store : Store} {consumerId : String} {day : BillingDay}
    (hyear : FourDigitYear day.day) :
    Done store consumerId day.day ↔ store.HasDay consumerId day := by
  constructor
  · rintro ⟨day', heq, -, hstated⟩
    rwa [← Date.ext heq]
  · exact fun hstated => ⟨day, rfl, hyear, hstated⟩

/-- What one tick of a run finds: the billing calendar of the run, a newest closeable day no earlier
than the last tick's, and any usage and partners, whose creation instants never change.  The
database may fail at any attempt; no date of a partner panics. -/
structure TickInput (gen : Generator) (createdOf : String → Instant) (last : Int)
    (ctx : TickContext) (store : Store) (through : BillingDay) : Prop where
  gen_eq : ctx.gen = gen
  forward : last ≤ through.day
  closable : ctx.gen.closableThrough ctx.now.utc = .ok (some through)
  list : ctx.faults.listPartners = none
  anchors : ∀ c, ctx.faults.anchor c = none
  keys : (store.partners.map Partner.consumerId).Nodup
  created : ∀ partner ∈ store.partners,
    partner.createdAt = formatInstant (createdOf partner.consumerId)
  createdDay : ∀ partner ∈ store.partners,
    ∃ day, BillingDay.of (createdOf partner.consumerId).utc gen.timezone = .ok day
  dates : ∀ partner ∈ store.partners, DatesOver gen partner through

/-- Among a partner's open days of the window, no attempt can succeed after an earlier one that
cannot. -/
def LandsInOrder (ctx : TickContext) (store : Store) (partner : Partner) (createdDay : BillingDay)
    (through : BillingDay) : Prop :=
  ∀ d d' : BillingDay, createdDay.day ≤ d.day → through.day - 30 ≤ d.day → d.day ≤ d'.day →
    d'.day ≤ through.day → ¬ store.HasDay partner.consumerId d →
      ¬ store.HasDay partner.consumerId d' → Lands ctx store.usage partner d' →
        Lands ctx store.usage partner d

/-- The stores reached by ticks from one without statements, when every tick's attempts land in
order.  Usage and partners may change between ticks. -/
inductive Run (gen : Generator) (createdOf : String → Instant) : Store → Int → Prop
  | start {store : Store} {last : Int} (hstatements : store.statements = [])
      (hlines : store.lines = []) : Run gen createdOf store last
  | tick {store : Store} {last : Int} (ctx : TickContext) (partners : List Partner)
      (usage : List UsageRow) {through : BillingDay} (hrun : Run gen createdOf store last)
      (hinput : TickInput gen createdOf last ctx
        { store with partners := partners, usage := usage } through)
      (horder : ∀ partner ∈ partners, ∀ createdDay,
        BillingDay.of (createdOf partner.consumerId).utc gen.timezone = .ok createdDay →
          LandsInOrder ctx { store with partners := partners, usage := usage } partner createdDay
            through) :
      Run gen createdOf
        (closeDays ctx { store with partners := partners, usage := usage }).1.store through.day

/-- A tick over tables in which only the partners and the usage have changed. -/
theorem Run.tick_on {gen : Generator} {createdOf : String → Instant} {store : Store} {last : Int}
    (hrun : Run gen createdOf store last) (ctx : TickContext) (next : Store) {through : BillingDay}
    (hnext : { store with partners := next.partners, usage := next.usage } = next)
    (hinput : TickInput gen createdOf last ctx next through)
    (horder : ∀ partner ∈ next.partners, ∀ createdDay,
      BillingDay.of (createdOf partner.consumerId).utc gen.timezone = .ok createdDay →
        LandsInOrder ctx next partner createdDay through) :
    Run gen createdOf (closeDays ctx next).1.store through.day := by
  have htick := @Run.tick gen createdOf store last ctx next.partners next.usage through hrun
  rw [hnext] at htick
  exact htick hinput horder

/-- What every tick of a run finds and keeps. -/
structure RunInvariant (gen : Generator) (createdOf : String → Instant) (store : Store)
    (last : Int) : Prop where
  dated : store.Dated
  numbered : store.Numbered
  gapFree : ∀ consumerId createdDay,
    BillingDay.of (createdOf consumerId).utc gen.timezone = .ok createdDay →
      HighWater.GapFree createdDay.day (last - 30) (Done store consumerId)

/-- Usage and partners may change between ticks. -/
theorem RunInvariant.edit {gen : Generator} {createdOf : String → Instant} {store : Store}
    {last : Int} (h : RunInvariant gen createdOf store last) (partners : List Partner)
    (usage : List UsageRow) :
    RunInvariant gen createdOf { store with partners := partners, usage := usage } last :=
  ⟨h.dated, h.numbered, h.gapFree⟩

section Tick

variable {gen : Generator} {createdOf : String → Instant} {last : Int} {ctx : TickContext}
  {store : Store} {through : BillingDay}

theorem TickInput.runs (h : TickInput gen createdOf last ctx store through)
    (hdated : store.Dated) : TickRuns ctx store through where
  closable := h.closable
  list := h.list
  anchors := h.anchors
  tables := ⟨hdated, h.keys, fun partner hpartner => ⟨_, h.created partner hpartner⟩⟩
  anchored := by
    intro partner hpartner _ created hcreated
    rw [h.created partner hpartner] at hcreated
    rw [h.gen_eq, ← formatInstant_injective hcreated]
    exact h.createdDay partner hpartner
  dates := by
    rw [h.gen_eq]
    exact h.dates

/-- A tick covers its window past the newest stated day. -/
theorem TickInput.covers (h : TickInput gen createdOf last ctx store through)
    (hdated : store.Dated) {partner : Partner} (hpartner : partner ∈ store.partners)
    {createdDay : BillingDay}
    (hcreatedDay : BillingDay.of (createdOf partner.consumerId).utc gen.timezone = .ok createdDay)
    {days : List BillingDay} (hdays : walkFor ctx store partner through = .ok days) :
    HighWater.Covers createdDay.day (through.day - 30) through.day
      (Done store partner.consumerId) (fun d => ∃ day ∈ days, day.day = d) := by
  intro d horigin hfloor htop hpast
  have hge := Generator.closableThrough_ge h.closable
  have hrange := through.inRange
  have hd : minDay ≤ d ∧ d ≤ maxDay := by
    unfold minDay
    omega
  refine ⟨⟨d, hd⟩, ?_, rfl⟩
  rw [← h.gen_eq] at hcreatedDay
  exact walkFor_covers hdated (h.created partner hpartner) hcreatedDay hdays horigin hfloor htop
    fun stated hyear hstated => hpast stated.day ⟨stated, rfl, hyear, hstated⟩

/-- A tick attempts every open day of its window, as long as the stated days have no gap. -/
theorem TickInput.attempts (h : TickInput gen createdOf last ctx store through)
    (hinv : RunInvariant gen createdOf store last) {partner : Partner}
    (hpartner : partner ∈ store.partners) {createdDay : BillingDay}
    (hcreatedDay : BillingDay.of (createdOf partner.consumerId).utc gen.timezone = .ok createdDay)
    {day : BillingDay} (horigin : createdDay.day ≤ day.day) (hfloor : through.day - 30 ≤ day.day)
    (htop : day.day ≤ through.day) (hopen : ¬ store.HasDay partner.consumerId day) :
    (partner.consumerId, day) ∈ (closeDays ctx store).1.attempts := by
  obtain ⟨days, hdays, hattempts, -⟩ :=
    closeDays_hasDay (h.runs hinv.dated) hinv.numbered hpartner
  have hforward := h.forward
  have hgap := (hinv.gapFree partner.consumerId createdDay hcreatedDay).mono
    (show last - 30 ≤ through.day - 30 by omega)
  have hyear := (window_fourDigitYear h.closable hfloor htop).1
  obtain ⟨day', hday', heq⟩ := hgap.attempted (h.covers hinv.dated hpartner hcreatedDay hdays)
    horigin hfloor htop (fun hdone => hopen ((done_iff hyear).1 hdone))
  rw [← Date.ext heq]
  exact hattempts day' hday'

/-- A tick whose attempts land in order leaves no gap. -/
theorem TickInput.keeps (h : TickInput gen createdOf last ctx store through)
    (hinv : RunInvariant gen createdOf store last)
    (horder : ∀ partner ∈ store.partners, ∀ createdDay,
      BillingDay.of (createdOf partner.consumerId).utc gen.timezone = .ok createdDay →
        LandsInOrder ctx store partner createdDay through) :
    RunInvariant gen createdOf (closeDays ctx store).1.store through.day where
  dated := closeDays_dated ctx hinv.dated
  numbered := closeDays_numbered hinv.numbered
  gapFree := by
    intro consumerId createdDay hcreatedDay
    have hforward := h.forward
    have hgap := (hinv.gapFree consumerId createdDay hcreatedDay).mono
      (show last - 30 ≤ through.day - 30 by omega)
    by_cases hexists : ∃ partner ∈ store.partners, partner.consumerId = consumerId
    · obtain ⟨partner, hpartner, rfl⟩ := hexists
      obtain ⟨days, hdays, -, hstated⟩ :=
        closeDays_hasDay (h.runs hinv.dated) hinv.numbered hpartner
      have hwindow : ∀ day ∈ days, through.day - 30 ≤ day.day ∧ day.day ≤ through.day :=
        fun day => walk_in_window hdays
      have hyear : ∀ day ∈ days, FourDigitYear day.day := fun day hday =>
        (window_fourDigitYear h.closable (hwindow day hday).1 (hwindow day hday).2).1
      have hopen : ∀ day ∈ days, ¬ store.HasDay partner.consumerId day := by
        intro day hday hdone
        have := walkFor_after hinv.dated hdays hday (hyear day hday) hdone
        omega
      have hpass := @HighWater.GapFree.pass Int _ createdDay.day (through.day - 30) through.day
        (Done store partner.consumerId) (fun d => ∃ day ∈ days, day.day = d)
        (fun d => ∃ day : BillingDay, day.day = d ∧ Lands ctx store.usage partner day) hgap
        (h.covers hinv.dated hpartner hcreatedDay hdays)
        (fun d ⟨day, hday, heq⟩ => heq ▸ (hwindow day hday).2) (by
          rintro d d' horigin hfloor hle ⟨day, hday, rfl⟩ ⟨day', hday', rfl⟩ ⟨day'', heq, hlands⟩
          rw [Date.ext heq] at hlands
          exact ⟨day, rfl, horder partner hpartner createdDay hcreatedDay day day' horigin hfloor hle
            (hwindow day' hday').2 (hopen day hday) (hopen day' hday') hlands⟩)
      have hdone : Done (closeDays ctx store).1.store partner.consumerId =
          HighWater.after (Done store partner.consumerId) (fun d => ∃ day ∈ days, day.day = d)
            (fun d => ∃ day : BillingDay, day.day = d ∧ Lands ctx store.usage partner day) := by
        funext d
        refine propext ⟨?_, ?_⟩
        · rintro ⟨day, rfl, hdayYear, hday⟩
          rcases (hstated day hdayYear).1 hday with hbefore | ⟨hmem, hlands⟩
          · exact Or.inl ⟨day, rfl, hdayYear, hbefore⟩
          · exact Or.inr ⟨⟨day, hmem, rfl⟩, day, rfl, hlands⟩
        · rintro (⟨day, rfl, hdayYear, hbefore⟩ | ⟨⟨day, hmem, rfl⟩, day', heq, hlands⟩)
          · exact ⟨day, rfl, hdayYear, (hstated day hdayYear).2 (Or.inl hbefore)⟩
          · rw [Date.ext heq] at hlands
            exact ⟨day, rfl, hyear day hmem, (hstated day (hyear day hmem)).2
              (Or.inr ⟨hmem, hlands⟩)⟩
      rw [hdone]
      exact hpass
    · have huntouched : Untouched consumerId store (closeDays ctx store).1.store :=
        closeDays_untouched fun partner hpartner heq => hexists ⟨partner, hpartner, heq⟩
      have hdone : Done (closeDays ctx store).1.store consumerId = Done store consumerId := by
        funext d
        simp only [Done, huntouched.hasDay_iff]
      rw [hdone]
      exact hgap

end Tick

theorem Run.invariant {gen : Generator} {createdOf : String → Instant} {store : Store} {last : Int}
    (h : Run gen createdOf store last) : RunInvariant gen createdOf store last := by
  induction h with
  | start hstatements hlines =>
    refine ⟨?_, ?_, fun consumerId createdDay _ => HighWater.gapFree_of_none ?_⟩
    · intro s hs
      rw [hstatements] at hs
      cases hs
    · intro line hline
      rw [hlines] at hline
      cases hline
    · rintro d ⟨day, -, -, s, hs, -⟩
      rw [hstatements] at hs
      cases hs
  | tick ctx partners usage _ hinput horder ih =>
    exact hinput.keeps (ih.edit partners usage) horder

/-- After a run whose attempts land in order, whatever fails next, a tick attempts every day without
a statement from the partner's creation on, within the catch-up window. -/
theorem run_attempts_open_days {gen : Generator} {createdOf : String → Instant} {store : Store}
    {last : Int} (hrun : Run gen createdOf store last) {ctx : TickContext}
    {partners : List Partner} {usage : List UsageRow} {through : BillingDay}
    (hinput : TickInput gen createdOf last ctx
      { store with partners := partners, usage := usage } through)
    {partner : Partner} (hpartner : partner ∈ partners) {createdDay : BillingDay}
    (hcreatedDay : BillingDay.of (createdOf partner.consumerId).utc gen.timezone = .ok createdDay)
    {day : BillingDay} (horigin : createdDay.day ≤ day.day) (hfloor : through.day - 30 ≤ day.day)
    (htop : day.day ≤ through.day) (hopen : ¬ store.HasDay partner.consumerId day) :
    (partner.consumerId, day) ∈
      (closeDays ctx { store with partners := partners, usage := usage }).1.attempts :=
  hinput.attempts (hrun.invariant.edit partners usage) hpartner hcreatedDay horigin hfloor htop
    hopen

namespace Sample

/-- One partner that owes nothing, created on 2026-09-26. -/
def reconciled : Partner := partner .reconciliation (count 720)

/-- The read of the partner's first day finds the database busy. -/
def busyFirstDay : Faults where
  read := fun _ day => if day.day = 20722 then some .busy else none

/-- The read of the partner's last day finds the database busy. -/
def busyLastDay : Faults where
  read := fun _ d => if d.day = 20723 then some .busy else none

/-- The first day is stated, and the last one fails. -/
def afterBusyTick : Store := (closeDays (tick busyLastDay) (store reconciled usage)).1.store

theorem tickInput {last : Int} {faults : Faults} {tables : Store}
    (hpartners : tables.partners = [reconciled]) (hlast : last ≤ 20723)
    (hlist : faults.listPartners = none) (hanchors : ∀ c, faults.anchor c = none) :
    TickInput gen (fun _ => created) last (tick faults) tables day where
  gen_eq := rfl
  forward := hlast
  closable := show gen.closableThrough now.utc = .ok (some day) by decide +kernel
  list := hlist
  anchors := hanchors
  keys := by
    rw [hpartners]
    exact List.nodup_singleton _
  created := by
    intro p hp
    rw [hpartners] at hp
    rw [List.mem_singleton.1 hp]
    decide +kernel
  createdDay := fun _ _ => ⟨⟨20722, by decide⟩, by decide +kernel⟩
  dates := by
    intro p hp
    rw [hpartners] at hp
    rw [List.mem_singleton.1 hp]
    exact @datesOver_of_terms gen now day (by decide +kernel) reconciled fun h => by cases h

/-- The attempt that fails is the one of the last day. -/
theorem busyLastDay_landsInOrder {createdDay : BillingDay}
    (hcreatedDay : BillingDay.of created.utc gen.timezone = .ok createdDay) :
    LandsInOrder (tick busyLastDay) (store reconciled usage) reconciled createdDay day := by
  have hfirst : createdDay.day = 20722 := by
    have hof : BillingDay.of created.utc gen.timezone = .ok ⟨20722, by decide⟩ := by decide +kernel
    rw [hof] at hcreatedDay
    rw [← Except.ok.inj hcreatedDay]
  have hlast : day.day = 20723 := rfl
  intro d d' horigin _ hle htop _ _ hlands
  have hopen : d'.day ≠ 20723 := fun heq => by
    have hread : (if d'.day = 20723 then some SqliteError.busy else none) = none := hlands.read
    rw [if_pos heq] at hread
    cases hread
  rwa [Date.ext (show d.day = d'.day by omega)]

end Sample

/-- The last day, which failed in the first tick, is attempted again by the second: the day before it
is the newest that was stated. -/
theorem run_attempts_sample :
    ("acme", Sample.day) ∈ (closeDays (Sample.tick {})
      { Sample.afterBusyTick with partners := [Sample.reconciled], usage := Sample.usage }).1.attempts := by
  have hstart : Run Sample.gen (fun _ => Sample.created)
      (Sample.store Sample.reconciled Sample.usage) 0 := Run.start rfl rfl
  have hrun : Run Sample.gen (fun _ => Sample.created) Sample.afterBusyTick Sample.day.day :=
    hstart.tick_on (Sample.tick Sample.busyLastDay) (Sample.store Sample.reconciled Sample.usage) rfl
      (Sample.tickInput rfl (by decide) rfl fun _ => rfl)
      (fun partner hpartner createdDay hcreatedDay => by
        rw [List.mem_singleton.1 hpartner]
        exact Sample.busyLastDay_landsInOrder hcreatedDay)
  have hstated : Sample.afterBusyTick.statements.map Statement.billingDate = ["2026-09-26"] := by
    decide +kernel
  have hopen : ¬ Sample.afterBusyTick.HasDay "acme" Sample.day := by
    rintro ⟨s, hs, -, hdate⟩
    have hmem := List.mem_map_of_mem (f := Statement.billingDate) hs
    rw [hstated, hdate] at hmem
    exact absurd hmem (by decide +kernel)
  have hcreatedDay : BillingDay.of Sample.created.utc Sample.gen.timezone =
      .ok ⟨20722, by decide⟩ := by decide +kernel
  -- what the first tick left is not looked into again
  generalize Sample.afterBusyTick = tables at hrun hopen ⊢
  exact run_attempts_open_days hrun (Sample.tickInput rfl le_rfl rfl fun _ => rfl)
    List.mem_cons_self hcreatedDay (by decide) (by decide) le_rfl hopen

/-- A day whose read failed while the day after it was stated is never attempted again: the next
tick, with the same newest closeable day, attempts nothing. -/
theorem failed_day_not_retried :
    (closeDays (Sample.tick Sample.busyFirstDay) (Sample.store Sample.reconciled [])).1.attempts =
        [("acme", ⟨20722, by decide⟩), ("acme", Sample.day)] ∧
      getStatement (closeDays (Sample.tick Sample.busyFirstDay)
        (Sample.store Sample.reconciled [])).1.store "acme" "2026-09-26" = none ∧
      (closeDays (Sample.tick {}) (closeDays (Sample.tick Sample.busyFirstDay)
        (Sample.store Sample.reconciled [])).1.store).1.attempts = [] := by
  decide +kernel

end PartnerPortal
