import PartnerPortal.Billing.Walk
import PartnerPortal.Ledger.Retention

/-!
# Retention and the catch-up window

The sweep knows the age of a row only, and the billing worker bills a day as long as the day is in
its catch-up window.  A sweep deletes no usage the worker may still bill exactly when the kept days
cover the window and the delay: 32 days and the delay, for a delay below two days.

Results:
- `passed_of_old` — a day of which a row is that old has left the window;
- `not_keepsUnbilled` — one old row of a day in the window is deleted;
- `sweeps_keep_unbilled_iff` — the condition, for every accepted configuration.
-/

namespace PartnerPortal

open MachineInt

/-- No catch-up window up to an instant started after a day: the day is in the window, or not yet
reached by it. -/
def NotPassed (gen : Generator) (now : Instant) (day : BillingDay) : Prop :=
  ∀ earlier : Instant, earlier ≤ now →
    ∀ through, gen.closableThrough earlier.utc = .ok (some through) →
      ∀ floor, Generator.oldestCloseable through = .ok floor → floor ≤ day

/-- A usage row of an existing partner whose billing day has no statement yet and may still be
closed. -/
structure Unbilled (gen : Generator) (store : Store) (now : Instant) (row : UsageRow)
    (created : Instant) (day : BillingDay) : Prop where
  partner : ∃ partner ∈ store.partners, partner.consumerId = row.consumerId
  createdAt : row.createdAt = formatInstant created
  billingDay : BillingDay.of created.utc gen.timezone = .ok day
  isOpen : ¬ store.HasDay row.consumerId day
  notPassed : NotPassed gen now day

/-! ## Runs -/

/-- The tables and the clock of a deployment, in any order of ticks, slices of sweeps and edits.  A
slice belongs to a sweep that started at or before it, so several may run at once and anything may
happen between two slices of one. -/
inductive SweptRun (gen : Generator) (db : DatabaseConfig) : Store → Instant → Prop
  | start {store : Store} {clock : Instant} (h : store.statements = []) :
      SweptRun gen db store clock
  | tick {store : Store} {clock : Instant} (ctx : TickContext) (hrun : SweptRun gen db store clock)
      (hgen : ctx.gen = gen) (hlater : clock ≤ ctx.now) :
      SweptRun gen db (closeDays ctx store).1.store ctx.now
  | slice {store : Store} {clock : Instant} (started now : Instant) (cutoff : String)
      (hrun : SweptRun gen db store clock) (hlater : clock ≤ now) (hstarted : started ≤ now)
      (hcutoff : Retention.cutoffFor db.retentionDays started = .ok cutoff) :
      SweptRun gen db { store with
        usage := (Retention.rawSlice cutoff db.retentionBatchSize store.usage).1 } now
  | edit {store : Store} {clock : Instant} (partners : List Partner) (usage : List UsageRow)
      (hrun : SweptRun gen db store clock) :
      SweptRun gen db { store with partners := partners, usage := usage } clock

/-- In every run, no slice of a sweep deletes usage that may still be billed.  Slices are taken at
instants at which the worker's own dates stay on the calendar. -/
def KeepsUnbilled (gen : Generator) (db : DatabaseConfig) : Prop :=
  ∀ store clock, SweptRun gen db store clock → ∀ started now cutoff, clock ≤ now → started ≤ now →
    gen.DatesFit now → Retention.cutoffFor db.retentionDays started = .ok cutoff →
      ∀ row ∈ store.usage, ∀ created day, Unbilled gen store now row created day →
        row ∈ (Retention.rawSlice cutoff db.retentionBatchSize store.usage).1

/-- The kept days cover the catch-up window and the delay. -/
def CoversWindow (gen : Generator) (db : DatabaseConfig) : Prop :=
  gen.closeDelayMinutes < 2 * 1440 ∧
    32 * 1440 + gen.closeDelayMinutes ≤ Retention.keptDays db.retentionDays * 1440

/-- No clock reading whose dates stay on the calendar is more than the kept days past the epoch. -/
def NeverOld (gen : Generator) (db : DatabaseConfig) : Prop :=
  ∀ now, gen.DatesFit now → now.nanos ≤ Retention.keptDays db.retentionDays * nanosPerDay

instance (gen : Generator) (db : DatabaseConfig) : Decidable (CoversWindow gen db) :=
  inferInstanceAs (Decidable (_ ∧ _))

/-! ## The window moves past old rows -/

/-- A day of which a row is older than the kept days has left the window. -/
theorem passed_of_old {gen : Generator} {db : DatabaseConfig} (hcovers : CoversWindow gen db)
    {started now created : Instant} (hle : started ≤ now) (hfit : gen.DatesFit now)
    {day : BillingDay} (hday : BillingDay.of created.utc gen.timezone = .ok day)
    (hold : created.nanos <
      started.nanos - Retention.keptDays db.retentionDays * nanosPerDay) :
    ¬ NotPassed gen now day := by
  obtain ⟨hdelay, hdays⟩ := hcovers
  have hof := BillingDay.of_ok hday
  have hge := BillingDay.of_instant_ge hday
  have htz := gen.timezone.utcOffset_range
  have hdelay0 := gen.inRange.1
  have hstarted := started.inRange
  obtain ⟨today, htoday, -⟩ := Generator.datesFit_iff.1 (hfit.mono hle)
  have hwall := BillingDay.of_isOk_iff.1 ⟨today, htoday⟩
  rw [Instant.nanos_utc] at hof hwall
  -- the day after the window's last one could be closed from here on
  have hpassed : gen.cutoffNanos (day.day + 31) ≤ started.nanos := by
    unfold Generator.cutoffNanos BillingDay.startNanos nanosPerDay nanosPerSecond at *
    omega
  have hthrough : minDay ≤ day.day + 31 ∧ day.day + 31 ≤ maxDay := by
    unfold Generator.cutoffNanos BillingDay.startNanos minDay nanosPerDay nanosPerSecond at *
    omega
  let earlier : Instant := ⟨gen.cutoffNanos (day.day + 31), by
    unfold Generator.cutoffNanos BillingDay.startNanos nanosPerDay nanosPerSecond at *
    omega⟩
  have hearlier : earlier ≤ started := hpassed
  have hclosable : gen.closableThrough earlier.utc = .ok (some ⟨day.day + 31, hthrough⟩) := by
    rw [Generator.closableThrough_eq_some_iff ((hfit.mono hle).mono hearlier)]
    show gen.cutoffNanos (day.day + 31) ≤ gen.cutoffNanos (day.day + 31) ∧
      gen.cutoffNanos (day.day + 31) < gen.cutoffNanos (day.day + 31 + 1) ∧
      gen.cutoffNanos (day.day + 31) < BillingDay.startNanos (day.day + 31 + 3) gen.timezone
    unfold Generator.cutoffNanos BillingDay.startNanos nanosPerDay nanosPerSecond at *
    omega
  have hfloor : Generator.oldestCloseable ⟨day.day + 31, hthrough⟩ =
      .ok ⟨day.day + 31 + -(maxCatchupDays - 1), by
        unfold maxCatchupDays
        unfold minDay at *
        omega⟩ := Date.addDays_of_range _
  intro hnot
  have hbefore := hnot earlier (le_trans hpassed hle) _ hclosable _ hfloor
  rw [Date.le_iff] at hbefore
  unfold maxCatchupDays at hbefore
  simp only at hbefore
  omega

/-! ## An old row of the window -/

/-- A deployment whose one usage row is given. -/
def oneRow (row : UsageRow) : Store where
  partners := [⟨row.consumerId, "", "", .reconciliation, Count.zero, row.createdAt, row.createdAt⟩]
  usage := [row]
  statements := []
  lines := []
  nextStatementId := 1
  nextLineId := 1

/-- A usage row accepted at an instant. -/
def rowAt (created : Instant) : UsageRow where
  id := 1
  requestId := "request"
  createdAt := formatInstant created
  consumerId := "acme"
  model := "gpt"
  endpoint := .chatCompletions
  streaming := false
  httpStatus := some 200
  requestStatus := .completed
  instanceId := none
  inputTokens := none
  outputTokens := none
  cachedTokens := none
  ttftMs := none
  durationMs := 0
  usageStatus := .unavailable
  errorMessage := none
  errorBody := none
  inputPriceSnapshot := none
  cachedInputPriceSnapshot := none
  outputPriceSnapshot := none

/-- One row that is older than the kept days, of a day that may still be closed, is deleted by the
first slice of a sweep. -/
theorem not_keepsUnbilled {gen : Generator} {db : DatabaseConfig} {created now : Instant}
    {day : BillingDay} (hday : BillingDay.of created.utc gen.timezone = .ok day)
    (hnot : NotPassed gen now day) (hfit : gen.DatesFit now)
    (hcalendar : minDay * nanosPerDay ≤
      now.nanos - Retention.keptDays db.retentionDays * nanosPerDay)
    (hold : created.nanos < now.nanos - Retention.keptDays db.retentionDays * nanosPerDay) :
    ¬ KeepsUnbilled gen db := by
  intro hkeeps
  obtain ⟨cutoff, hcutoff⟩ := Retention.cutoffFor_isOk hcalendar
  have hopen : ¬ (oneRow (rowAt created)).HasDay "acme" day := by
    rintro ⟨s, hs, -⟩
    cases hs
  have hkept := hkeeps (oneRow (rowAt created)) now (SweptRun.start rfl) now now cutoff le_rfl le_rfl
    hfit hcutoff (rowAt created) List.mem_cons_self created day
    ⟨⟨_, List.mem_cons_self, rfl⟩, rfl, hday, hopen, hnot⟩
  have hmarked : Retention.rawOld cutoff (rowAt created) = true :=
    (Retention.rawOld_iff hcutoff rfl).2 hold
  have hempty : (Retention.rawSlice cutoff db.retentionBatchSize (oneRow (rowAt created)).usage).1 =
      [] := by
    rw [Retention.rawSlice, oneRow, Slices.delete_singleton hmarked (Retention.sliceLimit_ne_zero _)]
  rw [hempty] at hkept
  cases hkept

/-! ## The condition -/

/-- A slice keeps a row that is not older than the kept days when its sweep started. -/
theorem mem_rawSlice {db : DatabaseConfig} {started created : Instant} {cutoff : String}
    (hcutoff : Retention.cutoffFor db.retentionDays started = .ok cutoff) {rows : List UsageRow}
    {row : UsageRow} (hrow : row ∈ rows) (hcreated : row.createdAt = formatInstant created)
    (hrecent : ¬ created.nanos <
      started.nanos - Retention.keptDays db.retentionDays * nanosPerDay) :
    row ∈ (Retention.rawSlice cutoff db.retentionBatchSize rows).1 :=
  Slices.mem_delete_of_keep (Bool.eq_false_iff.2 fun hmarked =>
    hrecent ((Retention.rawOld_iff hcutoff hcreated).1 hmarked)) _ hrow

theorem keepsUnbilled_of_covers {gen : Generator} {db : DatabaseConfig}
    (h : CoversWindow gen db) : KeepsUnbilled gen db := by
  intro store clock _ started now cutoff _ hle hfit hcutoff row hrow created day hunbilled
  exact mem_rawSlice hcutoff hrow hunbilled.createdAt fun hold =>
    passed_of_old h hle hfit hunbilled.billingDay hold hunbilled.notPassed

theorem keepsUnbilled_of_neverOld {gen : Generator} {db : DatabaseConfig}
    (h : NeverOld gen db) : KeepsUnbilled gen db := by
  intro store clock _ started now cutoff _ hle hfit hcutoff row hrow created day hunbilled
  refine mem_rawSlice hcutoff hrow hunbilled.createdAt fun hold => ?_
  have hnever := h started (hfit.mono hle)
  have hcreated := created.inRange
  omega

/-- A delay of two days and more leaves nothing to close at any instant. -/
theorem notPassed_of_delay {gen : Generator} (h : 2 * 1440 ≤ gen.closeDelayMinutes) {now : Instant}
    (hfit : gen.DatesFit now) (day : BillingDay) : NotPassed gen now day := by
  intro earlier hle through hthrough
  obtain ⟨hpassed, -, hrecent⟩ :=
    (Generator.closableThrough_eq_some_iff (hfit.mono hle)).1 hthrough
  unfold Generator.cutoffNanos BillingDay.startNanos nanosPerDay nanosPerSecond at *
  omega

/-- Before a day's cutoff no window has passed the day 31 days before it. -/
theorem notPassed_of_before {gen : Generator} {now : Instant} (hfit : gen.DatesFit now)
    {day : BillingDay} (hbefore : now.nanos < gen.cutoffNanos (day.day + 31)) :
    NotPassed gen now day := by
  intro earlier hle through hthrough floor hfloor
  have hpassed := ((Generator.closableThrough_eq_some_iff (hfit.mono hle)).1 hthrough).1
  have hfloorDay := Date.addDays_ok_iff.1 hfloor
  rw [Instant.le_iff] at hle
  rw [Date.le_iff, hfloorDay]
  unfold maxCatchupDays
  unfold Generator.cutoffNanos BillingDay.startNanos nanosPerDay at *
  omega

/-- With too few kept days, a row of the oldest day of the window is old by the end of the window's
stay. -/
theorem not_keepsUnbilled_of_short {gen : Generator} {db : DatabaseConfig}
    (hdelay : gen.closeDelayMinutes < 2 * 1440)
    (hshort : Retention.keptDays db.retentionDays * 1440 < 32 * 1440 + gen.closeDelayMinutes) :
    ¬ KeepsUnbilled gen db := by
  have htz := gen.timezone.utcOffset_range
  have hdelay0 := gen.inRange.1
  have hdays := Retention.keptDays_range db.retentionDays
  let created : Instant := ⟨BillingDay.startNanos 20691 gen.timezone, by
    unfold BillingDay.startNanos maxDay nanosPerDay nanosPerSecond
    omega⟩
  let now : Instant := ⟨gen.cutoffNanos 20722 - 1, by
    unfold Generator.cutoffNanos BillingDay.startNanos maxDay nanosPerDay nanosPerSecond
    omega⟩
  have hcreated : BillingDay.of created.utc gen.timezone = .ok ⟨20691, by decide⟩ := by
    obtain ⟨day, hday⟩ := (@BillingDay.of_isOk_iff created.utc gen.timezone).2 (by
      show minDay * nanosPerDay ≤ BillingDay.startNanos 20691 gen.timezone + _ ∧
        BillingDay.startNanos 20691 gen.timezone + _ < _
      unfold BillingDay.startNanos minDay maxDay nanosPerDay nanosPerSecond
      omega)
    have hof : day.day = (BillingDay.startNanos 20691 gen.timezone +
      gen.timezone.utcOffset * nanosPerSecond) / nanosPerDay := BillingDay.of_ok hday
    rw [hday, Except.ok.injEq, Date.ext_iff, hof]
    show _ = 20691
    unfold BillingDay.startNanos nanosPerDay
    omega
  have hfit : gen.DatesFit now := by
    obtain ⟨today, htoday⟩ := (@BillingDay.of_isOk_iff now.utc gen.timezone).2 (by
      show minDay * nanosPerDay ≤ gen.cutoffNanos 20722 - 1 + _ ∧ gen.cutoffNanos 20722 - 1 + _ < _
      unfold Generator.cutoffNanos BillingDay.startNanos minDay maxDay nanosPerDay nanosPerSecond
      omega)
    have hof : today.day = (gen.cutoffNanos 20722 - 1 +
      gen.timezone.utcOffset * nanosPerSecond) / nanosPerDay := BillingDay.of_ok htoday
    refine Generator.datesFit_iff.2 ⟨today, htoday, ?_, ?_⟩
    · unfold FitsI64 i64Min i64Max
      omega
    · unfold Generator.cutoffNanos BillingDay.startNanos maxDay nanosPerDay nanosPerSecond at *
      omega
  refine not_keepsUnbilled hcreated (notPassed_of_before hfit ?_) hfit ?_ ?_
  · show gen.cutoffNanos 20722 - 1 < gen.cutoffNanos (20691 + 31)
    norm_num
  · show _ ≤ gen.cutoffNanos 20722 - 1 - _
    unfold Generator.cutoffNanos BillingDay.startNanos minDay nanosPerDay nanosPerSecond
    omega
  · show BillingDay.startNanos 20691 gen.timezone < gen.cutoffNanos 20722 - 1 - _
    unfold Generator.cutoffNanos BillingDay.startNanos nanosPerDay nanosPerSecond
    omega

/-- With a delay of two days and more, a row of the epoch's own day is deleted as soon as the clock
is more than the kept days past it. -/
theorem not_keepsUnbilled_of_delay {gen : Generator} {db : DatabaseConfig}
    (hdelay : 2 * 1440 ≤ gen.closeDelayMinutes) {now : Instant} (hfit : gen.DatesFit now)
    (hold : Retention.keptDays db.retentionDays * nanosPerDay < now.nanos) :
    ¬ KeepsUnbilled gen db := by
  have htz := gen.timezone.utcOffset_range
  obtain ⟨day, hday⟩ := (@BillingDay.of_isOk_iff (Instant.utc ⟨0, by decide⟩) gen.timezone).2 (by
    rw [Instant.nanos_utc]
    unfold minDay maxDay nanosPerDay nanosPerSecond
    simp only
    omega)
  refine not_keepsUnbilled hday (notPassed_of_delay hdelay hfit day) hfit ?_ ?_
  · unfold minDay nanosPerDay at *
    omega
  · simp only
    omega

/-- For every accepted configuration: in all runs the sweeps keep what may still be billed exactly
when the kept days cover the catch-up window and the delay, or the calendar ends before anything
is old. -/
theorem sweeps_keep_unbilled_iff {parseUri : ParseUri} {config : Config}
    (hvalid : validate parseUri config = .ok ()) :
    ∃ gen, config.billing.generator = .ok gen ∧
      gen.closeDelayMinutes = config.billing.closeDelayMinutes.toInt ∧
      (KeepsUnbilled gen config.database ↔
        CoversWindow gen config.database ∨ NeverOld gen config.database) := by
  obtain ⟨gen, hgen, hdelay⟩ := validate_generator hvalid
  refine ⟨gen, hgen, hdelay, ?_, ?_⟩
  · intro hkeeps
    by_contra hneither
    obtain ⟨hnot, hsome⟩ := not_or.1 hneither
    obtain ⟨now, hnow⟩ := not_forall.1 hsome
    obtain ⟨hfit, hold⟩ := Classical.not_imp.1 hnow
    by_cases hlong : 2 * 1440 ≤ gen.closeDelayMinutes
    · exact not_keepsUnbilled_of_delay hlong hfit (not_le.1 hold) hkeeps
    · refine not_keepsUnbilled_of_short (not_le.1 hlong) ?_ hkeeps
      exact not_le.1 fun hcovers => hnot ⟨not_le.1 hlong, hcovers⟩
  · rintro (hcovers | hnever)
    · exact keepsUnbilled_of_covers hcovers
    · exact keepsUnbilled_of_neverOld hnever

namespace Sample

def parseUri : ParseUri := fun url =>
  if url = "https://api.openai.com" then
    some { scheme := some "https", authority := some ("api.openai.com", "api.openai.com") }
  else none

def config (retentionDays : UInt32) : Config where
  upstream := { baseUrl := "https://api.openai.com", apiKey := "sk-test" }
  database := { retentionDays := retentionDays }
  billing := { closeDelayMinutes := 15 }

/-- 2026-09-28, at one in the afternoon -/
def afternoon : Instant := ⟨1790600400000000000, by decide⟩

/-- One request of 2026-09-27, at noon. -/
def noonStore : Store :=
  store (partner .reconciliation (count 720))
    [row 1 "gpt" (some (count 1000000)) (some (count 500000)) none (some (count 2000000))]

/-- The tables after the first slice of a sweep in the afternoon that keeps one day. -/
def sweptStore : Store :=
  { noonStore with
    usage := (Retention.rawSlice "2026-09-27T13:00:00.000000000Z" 2000 noonStore.usage).1 }

def afternoonTick : TickContext := { tick {} with now := afternoon, clock := afternoon }

end Sample

/-- The default of 60 days covers the window. -/
theorem sweeps_keep_unbilled_sample :
    ∃ gen, (Sample.config 60).billing.generator = .ok gen ∧
      gen.closeDelayMinutes = (Sample.config 60).billing.closeDelayMinutes.toInt ∧
      (KeepsUnbilled gen (Sample.config 60).database ↔
        CoversWindow gen (Sample.config 60).database ∨ NeverOld gen (Sample.config 60).database) :=
  sweeps_keep_unbilled_iff (show validate Sample.parseUri (Sample.config 60) = .ok () by
    decide +kernel)

/-- One kept day is accepted.  The only request of 2026-09-27 is then deleted half a day after the
day ended and before it has a statement: a tick before the sweep bills it, and a tick after the
sweep states the day without it. -/
theorem unbilled_row_deleted :
    validate Sample.parseUri (Sample.config 1) = .ok () ∧
      (Sample.config 1).billing.generator = .ok Sample.gen ∧
      Retention.cutoffFor 1 Sample.afternoon = .ok "2026-09-27T13:00:00.000000000Z" ∧
      Sample.gen.closableThrough Sample.afternoon.utc = .ok (some Sample.day) ∧
      getStatement Sample.noonStore "acme" "2026-09-27" = none ∧
      Sample.sweptStore.usage = [] ∧
      (closeDays Sample.afternoonTick Sample.noonStore).1.store.lines.map
        StatementLine.requestCount = [1] ∧
      (closeDays Sample.afternoonTick Sample.sweptStore).1.store.lines = [] ∧
      (getStatement (closeDays Sample.afternoonTick Sample.sweptStore).1.store "acme"
        "2026-09-27").isSome ∧
      ¬ KeepsUnbilled Sample.gen (Sample.config 1).database := by
  refine ⟨by decide +kernel, rfl, by decide +kernel, by decide +kernel, by decide +kernel,
    by decide +kernel, by decide +kernel, by decide +kernel, by decide +kernel, ?_⟩
  exact not_keepsUnbilled_of_short (by decide) (by decide)

end PartnerPortal
