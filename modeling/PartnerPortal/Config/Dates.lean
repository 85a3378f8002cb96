import PartnerPortal.Billing.Generator
import PartnerPortal.Dashboard.Query

/-!
# Date arithmetic of an accepted configuration

`ConfigLoader::validate` bounds the close delay and the retention from below only.  Both are added to or
taken from clock readings, and a bound of a custom range may be an instant whose UTC date is outside the
calendar; the `time` crate panics on all of these.

Results:
- `accepted_config_no_panic_iff` — no date operation of the jobs and of the dashboard panics, exactly where
  the dates it computes are in the calendar.
-/

namespace PartnerPortal

open MachineInt

theorem OffsetDateTime.add_isOk_iff {t : OffsetDateTime} {d : Duration} :
    (∃ result, t.add d = .ok result) ↔
      minDay * nanosPerDay ≤ t.wall + d.nanos ∧ t.wall + d.nanos < (maxDay + 1) * nanosPerDay := by
  rw [← checkedAdd_isSome_iff, OffsetDateTime.add]
  cases t.checkedAdd d <;> simp

/-- A span of days that the configuration can ask for. -/
theorem Duration.days_of_lt {days : Int} (hdays : 0 ≤ days ∧ days < 4294967296) :
    Duration.days days = .ok ⟨days * nanosPerDay⟩ := by
  refine if_pos ?_
  unfold FitsI64 i64Min i64Max
  omega

/-- Going back some days from the clock leaves the calendar only before its first date. -/
theorem Instant.sub_days_isOk_iff {now : Instant} {days : Int} (hdays : 0 ≤ days) :
    (∃ ts, now.utc.sub ⟨days * nanosPerDay⟩ = .ok ts) ↔
      minDay * nanosPerDay ≤ now.nanos - days * nanosPerDay := by
  have hnow := now.inRange
  rw [OffsetDateTime.sub, OffsetDateTime.add_isOk_iff, OffsetDateTime.wall, Instant.nanos_utc,
    Instant.offset_utc]
  simp only
  unfold nanosPerDay at *
  omega

namespace Dashboard

/-! ## Handlers that do not panic -/

/-- The handler ends with an answer or an error. -/
def Completes {α : Type} (answer : Answer α) : Prop := ∀ panic, answer ≠ .error (.panicked panic)

section Completes

variable {α β : Type} {x : Answer α} {f : α → Answer β}

theorem completes_ok (a : α) : Completes (.ok a : Answer α) := fun _ h => nomatch h

theorem completes_refuse (message : String) : Completes (refuse message : Answer α) :=
  fun _ h => nomatch h

theorem completes_bind_iff : Completes (x >>= f) ↔ Completes x ∧ ∀ a, x = .ok a → Completes (f a) := by
  cases x with
  | ok a =>
    rw [Result.ok_bind]
    exact ⟨fun h => ⟨completes_ok a, fun _ ha => by cases ha; exact h⟩, fun h => h.2 a rfl⟩
  | error e =>
    rw [Result.error_bind]
    constructor
    · exact fun h => ⟨fun panic hpanic => h panic (by cases hpanic; rfl), fun _ ha => nomatch ha⟩
    · exact fun h panic hpanic => h.1 panic (by cases hpanic; rfl)

theorem completes_orPanic_iff {r : Except Panic α} : Completes (orPanic r) ↔ ∃ a, r = .ok a := by
  cases r with
  | ok a => exact ⟨fun _ => ⟨a, rfl⟩, fun _ => completes_ok a⟩
  | error e =>
    refine ⟨fun h => absurd rfl (h e), ?_⟩
    rintro ⟨a, ha⟩
    cases ha

theorem orPanic_ok_iff {r : Except Panic α} {a : α} : orPanic r = .ok a ↔ r = .ok a :=
  Result.mapError_ok_iff

end Completes

/-! ## Windows -/

/-- The instant a text names. -/
def namedInstant (iso : Iso8601) (text : String) : Option OffsetDateTime :=
  ((readTs text.toList).bind fun nanos => OffsetDateTime.ofWall nanos 0).or (iso.dateTime text)

/-- Where a text names an instant, its UTC date is in the calendar. -/
def NamesDate (iso : Iso8601) (text : String) : Prop :=
  ∀ ts, namedInstant iso text = some ts →
    minDay * nanosPerDay ≤ ts.nanos ∧ ts.nanos < (maxDay + 1) * nanosPerDay

/-- The bounds of a custom range name dates.  The end is read once the start names an instant. -/
def BoundsNameDates (iso : Iso8601) (query : DashboardQuery) : Prop :=
  query.range = "custom" → ∀ start ∈ query.start, ∀ finish ∈ query.finish,
    NamesDate iso start ∧ (namedInstant iso start ≠ none → NamesDate iso finish)

section Window

variable {texts : Texts} {now : Instant} {retentionDays : UInt32} {query : DashboardQuery}

theorem parseTs_eq (iso : Iso8601) (text : String) : parseTs iso text =
    match namedInstant iso text with
    | none => .ok none
    | some ts => ts.toOffset 0 >>= fun utc => return some utc := rfl

theorem parseTs_isOk_iff {iso : Iso8601} {text : String} :
    (∃ parsed, parseTs iso text = .ok parsed) ↔ NamesDate iso text := by
  rw [NamesDate, parseTs_eq]
  cases namedInstant iso text with
  | none => simp
  | some ts =>
    simp only [Option.some.injEq, forall_eq', Result.isOk_map_iff, OffsetDateTime.toUtc_isOk_iff]

/-- UTC shows a date of the calendar. -/
def InCalendar (ts : OffsetDateTime) : Prop :=
  minDay * nanosPerDay ≤ ts.nanos ∧ ts.nanos < (maxDay + 1) * nanosPerDay

theorem inCalendar_utc (now : Instant) : InCalendar now.utc := by
  have hnow := now.inRange
  refine ⟨?_, hnow.2⟩
  rw [Instant.nanos_utc]
  unfold minDay nanosPerDay
  omega

theorem parseTs_some {iso : Iso8601} {text : String} {ts : OffsetDateTime}
    (h : parseTs iso text = .ok (some ts)) : namedInstant iso text ≠ none ∧ InCalendar ts := by
  have hnames := parseTs_isOk_iff.1 ⟨_, h⟩
  rw [parseTs_eq] at h
  split at h
  · cases h
  · rename_i named hnamed
    obtain ⟨utc, hutc, h⟩ := Result.bind_ok_iff.1 h
    cases h
    rw [InCalendar, (OffsetDateTime.toOffset_ok_iff.1 hutc).1]
    exact ⟨by rw [hnamed]; exact Option.some_ne_none _, hnames _ hnamed⟩

theorem customBound_completes_iff {name raw : String} :
    Completes (customBound texts name raw) ↔ NamesDate texts.iso raw := by
  rw [customBound, completes_bind_iff, completes_orPanic_iff, parseTs_isOk_iff]
  refine and_iff_left fun parsed _ => ?_
  cases parsed with
  | some ts => exact completes_ok ts
  | none => exact completes_refuse _

theorem customBound_ok {name raw : String} {ts : OffsetDateTime}
    (h : customBound texts name raw = .ok ts) :
    namedInstant texts.iso raw ≠ none ∧ InCalendar ts := by
  obtain ⟨parsed, hparsed, h⟩ := Result.bind_ok_iff.1 h
  cases parsed with
  | none => cases h
  | some parsed =>
    cases h
    exact parseTs_some (orPanic_ok_iff.1 hparsed)

/-- A bound that names an instant of the calendar is read. -/
theorem customBound_isOk {name raw : String} (hnames : NamesDate texts.iso raw)
    (hnamed : namedInstant texts.iso raw ≠ none) : ∃ ts, customBound texts name raw = .ok ts := by
  obtain ⟨named, hnamed⟩ := Option.ne_none_iff_exists'.1 hnamed
  obtain ⟨parsed, hparsed⟩ := parseTs_isOk_iff.2 hnames
  cases parsed with
  | some ts => exact ⟨ts, by rw [customBound, hparsed]; rfl⟩
  | none =>
    rw [parseTs_eq, hnamed] at hparsed
    obtain ⟨utc, -, h⟩ := Result.bind_ok_iff.1 hparsed
    cases h

theorem customRange_completes_iff : Completes (customRange texts query) ↔
    ∀ start ∈ query.start, ∀ finish ∈ query.finish,
      NamesDate texts.iso start ∧
        (namedInstant texts.iso start ≠ none → NamesDate texts.iso finish) := by
  cases hstart : query.start with
  | none => simp [customRange, hstart, completes_refuse]
  | some start =>
    cases hfinish : query.finish with
    | none => simp [customRange, hstart, hfinish, completes_refuse]
    | some finish =>
      simp only [customRange, hstart, hfinish, Option.mem_def, Option.some.injEq, forall_eq']
      rw [completes_bind_iff, customBound_completes_iff]
      refine and_congr_right fun hnames => ?_
      constructor
      · intro hcompletes hnamed
        obtain ⟨ts, hts⟩ := @customBound_isOk texts "start" start hnames hnamed
        exact customBound_completes_iff.1 (completes_bind_iff.1 (hcompletes ts hts)).1
      · intro hfinish ts hts
        rw [completes_bind_iff, customBound_completes_iff]
        refine ⟨hfinish (customBound_ok hts).1, fun ts' _ => ?_⟩
        split
        · exact completes_refuse _
        · exact completes_ok _

theorem daysAgo_isOk_iff {days : Int} (hdays : 0 ≤ days ∧ days < 4294967296) :
    (∃ ts, daysAgo now days = .ok ts) ↔ minDay * nanosPerDay ≤ now.nanos - days * nanosPerDay := by
  rw [daysAgo, Duration.days_of_lt hdays, ← Instant.sub_days_isOk_iff hdays.1]
  exact exists_congr fun ts => orPanic_ok_iff

theorem daysAgo_ok {days : Int} {ts : OffsetDateTime} (h : daysAgo now days = .ok ts) :
    InCalendar ts := by
  obtain ⟨span, -, h⟩ := Result.bind_ok_iff.1 h
  have hsub := OffsetDateTime.checkedAdd_eq_some (OffsetDateTime.add_ok (orPanic_ok_iff.1 h))
  have hrange := ts.inRange
  rwa [hsub.2, Instant.offset_utc, Int.zero_mul, Int.add_zero] at hrange

/-- A range that ends now starts in the calendar: the clock is past the epoch. -/
theorem rangeStart_isOk (now : Instant) (range : String) :
    ∃ ts, rangeStart now range = .ok ts ∧ InCalendar ts := by
  have hago : ∀ days : Int, 0 ≤ days → days ≤ 30 → ∃ ts, daysAgo now days = .ok ts ∧ InCalendar ts := by
    intro days hlow hhigh
    have hnow := now.inRange
    obtain ⟨ts, hts⟩ := (@daysAgo_isOk_iff now days ⟨hlow, by omega⟩).2 (by
      unfold minDay nanosPerDay at *
      omega)
    exact ⟨ts, hts, daysAgo_ok hts⟩
  unfold rangeStart
  split
  · refine ⟨_, rfl, ?_⟩
    have hdate := now.utc.date.inRange
    rw [InCalendar, OffsetDateTime.nanos_midnight]
    unfold nanosPerDay
    omega
  · split
    · exact hago 7 (by decide) (by decide)
    · split
      · exact hago 14 (by decide) (by decide)
      · split
        · exact hago 30 (by decide) (by decide)
        · exact hago 1 (by decide) (by decide)

theorem rangeBounds_completes_iff :
    Completes (rangeBounds texts now query) ↔ BoundsNameDates texts.iso query := by
  unfold rangeBounds BoundsNameDates
  split
  · rename_i hcustom
    rw [customRange_completes_iff]
    exact ⟨fun h _ => h, fun h => h hcustom⟩
  · rename_i hother
    obtain ⟨ts, hts, -⟩ := rangeStart_isOk now query.range
    rw [hts]
    exact ⟨fun _ hcustom => absurd hcustom hother, fun _ => completes_ok _⟩

theorem customRange_ok {bounds : OffsetDateTime × OffsetDateTime}
    (h : customRange texts query = .ok bounds) : InCalendar bounds.1 ∧ InCalendar bounds.2 := by
  unfold customRange at h
  split at h
  · cases h
  · cases h
  · obtain ⟨start, hstart, h⟩ := Result.bind_ok_iff.1 h
    obtain ⟨finish, hfinish, h⟩ := Result.bind_ok_iff.1 h
    split at h <;> cases h
    exact ⟨(customBound_ok hstart).2, (customBound_ok hfinish).2⟩

theorem rangeBounds_ok {bounds : OffsetDateTime × OffsetDateTime}
    (h : rangeBounds texts now query = .ok bounds) : InCalendar bounds.1 ∧ InCalendar bounds.2 := by
  unfold rangeBounds at h
  split at h
  · exact customRange_ok h
  · obtain ⟨start, hstart, h⟩ := Result.bind_ok_iff.1 h
    obtain ⟨ts, hts, hcalendar⟩ := rangeStart_isOk now query.range
    cases hts.symm.trans hstart
    cases h
    exact ⟨hcalendar, inCalendar_utc now⟩

theorem windowOf_completes {start finish : OffsetDateTime} (hstart : InCalendar start)
    (hfinish : InCalendar finish) : Completes (windowOf start finish) := by
  obtain ⟨startTs, hstartTs⟩ := formatTs_isOk_iff.2 hstart
  obtain ⟨endTs, hendTs⟩ := formatTs_isOk_iff.2 hfinish
  obtain ⟨startHour, hstartHour⟩ := formatHour_isOk_iff.2 hstart
  obtain ⟨endHour, hendHour⟩ := formatHour_isOk_iff.2 hfinish
  rw [windowOf, hstartTs, hendTs, hstartHour, hendHour]
  exact completes_ok _

/-- With a retention that reaches back within the calendar, only the bounds of a custom range can be
outside it. -/
theorem resolve_completes_iff
    (hkept : minDay * nanosPerDay ≤ now.nanos - Retention.keptDays retentionDays * nanosPerDay) :
    Completes (TimeWindow.resolve texts now retentionDays query) ↔
      BoundsNameDates texts.iso query := by
  rw [TimeWindow.resolve, completes_bind_iff, rangeBounds_completes_iff]
  refine and_iff_left fun bounds hbounds => ?_
  obtain ⟨hlow, hhigh⟩ := Retention.keptDays_range retentionDays
  obtain ⟨hstart, hfinish⟩ := rangeBounds_ok hbounds
  obtain ⟨earliest, hearliest⟩ := (daysAgo_isOk_iff ⟨by omega, hhigh⟩).2 hkept
  obtain ⟨text, htext⟩ := formatTs_isOk_iff.2 (daysAgo_ok hearliest)
  simp only [hearliest, Result.ok_bind, htext]
  split
  · exact completes_refuse _
  · refine windowOf_completes hstart ?_
    split
    · exact hfinish
    · exact inCalendar_utc now

end Window

end Dashboard

/-! ## The jobs -/

theorem Retention.cutoffFor_isOk_iff {retentionDays : UInt32} {now : Instant} :
    (∃ cutoff, cutoffFor retentionDays now = .ok cutoff) ↔
      minDay * nanosPerDay ≤ now.nanos - keptDays retentionDays * nanosPerDay := by
  obtain ⟨hlow, hhigh⟩ := keptDays_range retentionDays
  refine ⟨?_, cutoffFor_isOk⟩
  rintro ⟨cutoff, h⟩
  rw [cutoffFor, Duration.days_of_lt ⟨by omega, hhigh⟩, Result.ok_bind] at h
  obtain ⟨ts, hts, -⟩ := Result.bind_ok_iff.1 h
  exact (Instant.sub_days_isOk_iff (by omega)).1 ⟨ts, hts⟩

/-- A walk to a finished day of the clock panics only at the calendar's last day. -/
theorem Generator.daysToClose_isOk_iff {iso : Iso8601} {lastClosed : Option String}
    {through : BillingDay} (hthrough : through.day + 1 ≤ maxDay) (hfloor : minDay ≤ through.day - 30) :
    (∃ days, daysToClose iso lastClosed through = .ok days) ↔
      ∀ last, lastClosed.bind (BillingDay.parse iso) = some last → last.day + 1 ≤ maxDay := by
  refine ⟨?_, daysToClose_isOk hthrough hfloor⟩
  rintro ⟨days, h⟩ last hlast
  obtain ⟨day, hday, -⟩ := Result.bind_ok_iff.1 h
  obtain ⟨floor, -, hday⟩ := Result.bind_ok_iff.1 hday
  obtain ⟨next, hnext, -⟩ := Result.bind_ok_iff.1 hday
  rw [afterLast, hlast] at hnext
  rw [← Date.addDays_ok_iff.1 hnext]
  exact next.inRange.2

section Accepted

variable (texts : Dashboard.Texts) (config : Config) (gen : Generator) (now : Instant)
  (lastClosed : Option String) (query : Dashboard.DashboardQuery)

/-- No date operation panics at a clock reading: the decision which day is closeable, the cutoff of a
finished day, the walk to one of the two days that decision tries, the cutoff of retention, and the window
of a query. -/
structure NoDatePanic : Prop where
  closable : ∃ through, gen.closableThrough now.utc = .ok through
  cutoff : ∀ today day : BillingDay, BillingDay.of now.utc gen.timezone = .ok today → day < today →
    ∃ cutoff, gen.cutoffFor day = .ok cutoff
  walk : ∀ today through : BillingDay, BillingDay.of now.utc gen.timezone = .ok today →
    through.day = today.day - 1 ∨ through.day = today.day - 2 →
    ∃ days, Generator.daysToClose texts.iso lastClosed through = .ok days
  retention : ∃ cutoff, Retention.cutoffFor config.database.retentionDays now = .ok cutoff
  window : Dashboard.Completes
    (Dashboard.TimeWindow.resolve texts now config.database.retentionDays query)

/-- What the operations come to is in the calendar. -/
structure DatesInCalendar : Prop where
  /-- the billing timezone's date, with the delay after its midnight -/
  delay : ∃ today, BillingDay.of now.utc gen.timezone = .ok today ∧
    today.day * nanosPerDay + gen.closeDelayMinutes * 60 * nanosPerSecond < (maxDay + 1) * nanosPerDay
  /-- the day after the last closed one -/
  lastClosed : ∀ last, lastClosed.bind (BillingDay.parse texts.iso) = some last →
    last.day + 1 ≤ maxDay
  /-- the days that are kept -/
  retention : minDay * nanosPerDay ≤
    now.nanos - Retention.keptDays config.database.retentionDays * nanosPerDay
  bounds : Dashboard.BoundsNameDates texts.iso query

variable {gen now}

/-- A delay within the calendar is one the duration's type holds. -/
theorem fitsI64_of_delay {today : BillingDay} (htoday : BillingDay.of now.utc gen.timezone = .ok today)
    (h : today.day * nanosPerDay + gen.closeDelayMinutes * 60 * nanosPerSecond <
      (maxDay + 1) * nanosPerDay) : FitsI64 (gen.closeDelayMinutes * 60) := by
  have hge := BillingDay.of_instant_ge htoday
  have hdelay := gen.inRange
  unfold FitsI64 i64Min i64Max
  unfold maxDay nanosPerDay nanosPerSecond at h
  omega

variable {texts config lastClosed query}

theorem noDatePanic_of_inCalendar (h : DatesInCalendar texts config gen now lastClosed query) :
    NoDatePanic texts config gen now lastClosed query := by
  obtain ⟨today, htoday, hsum⟩ := h.delay
  have hfits := fitsI64_of_delay htoday hsum
  have hge := BillingDay.of_instant_ge htoday
  have hrange := today.inRange
  refine ⟨Generator.datesFit_iff.2 ⟨today, htoday, hfits, hsum⟩, ?_, ?_,
    Retention.cutoffFor_isOk_iff.2 h.retention, (Dashboard.resolve_completes_iff h.retention).2 h.bounds⟩
  · intro today' day htoday' hlt
    cases htoday.symm.trans htoday'
    rw [Date.lt_iff] at hlt
    refine Generator.cutoffFor_isOk_iff.2 ⟨hfits, ?_⟩
    unfold nanosPerDay at *
    omega
  · intro today' through htoday' hthrough
    cases htoday.symm.trans htoday'
    exact (Generator.daysToClose_isOk_iff (by omega) (by unfold minDay; omega)).2 h.lastClosed

theorem inCalendar_of_noDatePanic (h : NoDatePanic texts config gen now lastClosed query) :
    DatesInCalendar texts config gen now lastClosed query := by
  obtain ⟨today, htoday, -, hsum⟩ := Generator.datesFit_iff.1 h.closable
  have hge := BillingDay.of_instant_ge htoday
  have hrange := today.inRange
  have hretention := Retention.cutoffFor_isOk_iff.1 h.retention
  refine ⟨⟨today, htoday, hsum⟩, ?_, hretention, (Dashboard.resolve_completes_iff hretention).1 h.window⟩
  have hyesterday : minDay ≤ today.day - 1 ∧ today.day - 1 ≤ maxDay := by
    unfold minDay
    omega
  exact (Generator.daysToClose_isOk_iff (by simp only; omega) (by simp only; unfold minDay; omega)).1
    (h.walk today ⟨today.day - 1, hyesterday⟩ htoday (.inl rfl))

end Accepted

/-- Under an accepted configuration no date operation panics, exactly where the dates are in the
calendar. -/
theorem accepted_config_no_panic_iff (parseUri : ParseUri) (texts : Dashboard.Texts) (config : Config)
    (haccepted : validate parseUri config = .ok ()) :
    ∃ gen, config.billing.generator = .ok gen ∧
      gen.closeDelayMinutes = config.billing.closeDelayMinutes.toInt ∧
      ∀ now lastClosed query, NoDatePanic texts config gen now lastClosed query ↔
        DatesInCalendar texts config gen now lastClosed query := by
  obtain ⟨gen, hgen, hdelay⟩ := validate_generator haccepted
  exact ⟨gen, hgen, hdelay, fun _ _ _ => ⟨inCalendar_of_noDatePanic, noDatePanic_of_inCalendar⟩⟩

/-! ## The longest delay -/

namespace Sample

def hostUri : ParseUri := fun url =>
  if url = "http://upstream" then
    some { scheme := some "http", authority := some ("upstream", "upstream") }
  else none

/-- No text is read but the canonical ones. -/
def canonicalTexts : Dashboard.Texts := { quoted := id, iso := ⟨fun _ => none, fun _ => none⟩ }

def defaultConfig : Config := { upstream := { baseUrl := "http://upstream", apiKey := "key" } }

def longestDelay : Config :=
  { defaultConfig with billing := { closeDelayMinutes := Int64.maxValue } }

/-- `2026-01-01T00:00:00Z` -/
def newYear : Instant := ⟨20454 * nanosPerDay, by decide⟩

theorem longestDelay_accepted : validate hostUri longestDelay = .ok () := by decide +kernel

end Sample

/-- The defaults are accepted. -/
theorem accepted_config_no_panic_iff_default :
    ∃ gen, Sample.defaultConfig.billing.generator = .ok gen ∧
      gen.closeDelayMinutes = Sample.defaultConfig.billing.closeDelayMinutes.toInt ∧
      ∀ now lastClosed query,
        NoDatePanic Sample.canonicalTexts Sample.defaultConfig gen now lastClosed query ↔
          DatesInCalendar Sample.canonicalTexts Sample.defaultConfig gen now lastClosed query :=
  accepted_config_no_panic_iff Sample.hostUri _ _ (by decide +kernel)

/-- The longest delay is accepted, and no cutoff can be computed with it. -/
theorem accepted_config_panics : ¬∀ parseUri texts config gen now lastClosed query,
    validate parseUri config = .ok () → config.billing.generator = .ok gen →
      NoDatePanic texts config gen now lastClosed query := by
  intro hall
  obtain ⟨gen, hgen, hdelay⟩ := validate_generator Sample.longestDelay_accepted
  obtain ⟨today, -, hfits, -⟩ := Generator.datesFit_iff.1
    (hall _ Sample.canonicalTexts _ gen Sample.newYear none {} Sample.longestDelay_accepted hgen).closable
  rw [hdelay] at hfits
  exact absurd hfits (by decide +kernel)

end PartnerPortal
