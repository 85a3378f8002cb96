import PartnerPortal.Timefmt

/-!
# Billing days and periods

A billing day is a calendar date in the configured billing timezone, and a billing period is the
half-open UTC window that day covers.

Results:
- `BillingPeriod.contains_iff_of` — a period holds exactly the instants that fall on its day;
- `BillingPeriod.toBounds_ok` — the stored bounds of a period are the texts of its two instants.
-/

namespace PartnerPortal

/-! ## Timezones -/

inductive TimezoneError where
  | outOfRange (offsetMinutes min max : Int)
deriving Repr, DecidableEq

/-- The billing calendar's distance from UTC, within UTC-12:00 to UTC+14:00. -/
@[ext] structure BillingTimezone where
  offsetMinutes : Int
  inRange : -12 * 60 ≤ offsetMinutes ∧ offsetMinutes ≤ 14 * 60
deriving DecidableEq

namespace BillingTimezone

def minOffsetMinutes : Int := -12 * 60

def maxOffsetMinutes : Int := 14 * 60

def fromOffsetMinutes (offsetMinutes : Int) : Except TimezoneError BillingTimezone :=
  if h : minOffsetMinutes ≤ offsetMinutes ∧ offsetMinutes ≤ maxOffsetMinutes then
    .ok ⟨offsetMinutes, h⟩
  else .error (.outOfRange offsetMinutes minOffsetMinutes maxOffsetMinutes)

/-- The offset in seconds, which every accepted number of minutes has. -/
def utcOffset (tz : BillingTimezone) : Int := tz.offsetMinutes * 60

theorem utcOffset_range (tz : BillingTimezone) : -43200 ≤ tz.utcOffset ∧ tz.utcOffset ≤ 50400 := by
  have h := tz.inRange
  unfold utcOffset
  omega

/-- The default, UTC. -/
def utc : BillingTimezone := ⟨0, by decide⟩

end BillingTimezone

/-! ## Days -/

/-- A date in the billing timezone. -/
abbrev BillingDay := Date

namespace BillingDay

def parse (iso : Iso8601) (text : String) : Option BillingDay :=
  parseDate iso text

/-- The calendar day an instant falls in. -/
def of (instant : OffsetDateTime) (tz : BillingTimezone) : Except Panic BillingDay := do
  let shown ← instant.toOffset tz.utcOffset
  return shown.date

def previous (day : BillingDay) : Except Panic BillingDay :=
  Date.addDays day (-1)

def next (day : BillingDay) : Except Panic BillingDay :=
  Date.addDays day 1

/-- `n` days before this one. -/
def previousN (day : BillingDay) (n : Int) : Except Panic BillingDay :=
  Date.addDays day (-n)

/-- The first instant of the day. -/
def startUtc (day : BillingDay) (tz : BillingTimezone) : OffsetDateTime :=
  OffsetDateTime.midnight day tz.utcOffset

/-- The first instant of the next day. -/
def endExclusiveUtc (day : BillingDay) (tz : BillingTimezone) : Except Panic OffsetDateTime := do
  let next ← BillingDay.next day
  return startUtc next tz

/-- The nanosecond a day of a timezone starts at. -/
def startNanos (day : Int) (tz : BillingTimezone) : Int :=
  day * nanosPerDay - tz.utcOffset * nanosPerSecond

/-- The instant a day of a timezone starts at, as a statement stores it. -/
def startText (day : Int) (tz : BillingTimezone) : String :=
  String.ofList (tsText (startNanos day tz))

@[simp] theorem nanos_startUtc (day : BillingDay) (tz : BillingTimezone) :
    (startUtc day tz).nanos = startNanos day.day tz := rfl

@[simp] theorem offset_startUtc (day : BillingDay) (tz : BillingTimezone) :
    (startUtc day tz).offset = tz.utcOffset := rfl

theorem of_ok {instant : OffsetDateTime} {tz : BillingTimezone} {day : BillingDay}
    (h : of instant tz = .ok day) :
    day.day = (instant.nanos + tz.utcOffset * nanosPerSecond) / nanosPerDay := by
  obtain ⟨shown, hshown, hdate⟩ := Result.bind_ok_iff.1 h
  obtain ⟨hnanos, hoffset⟩ := OffsetDateTime.toOffset_ok_iff.1 hshown
  rw [← Except.ok.inj hdate]
  simp only [OffsetDateTime.date, OffsetDateTime.wall, hnanos, hoffset]

/-- A clock reading has no billing day before the last of 1969. -/
theorem of_instant_ge {now : Instant} {tz : BillingTimezone} {today : BillingDay}
    (h : of now.utc tz = .ok today) : -1 ≤ today.day := by
  have hof := of_ok h
  have hnow := now.inRange
  have htz := tz.utcOffset_range
  rw [Instant.nanos_utc] at hof
  unfold nanosPerSecond nanosPerDay at hof
  omega

/-- An instant has a billing day whenever the wall clock there shows a date of the calendar. -/
theorem of_isOk_iff {instant : OffsetDateTime} {tz : BillingTimezone} :
    (∃ day, of instant tz = .ok day) ↔
      minDay * nanosPerDay ≤ instant.nanos + tz.utcOffset * nanosPerSecond ∧
        instant.nanos + tz.utcOffset * nanosPerSecond < (maxDay + 1) * nanosPerDay := by
  rw [← OffsetDateTime.toOffset_isOk_iff]
  exact Result.isOk_map_iff

theorem endExclusiveUtc_ok_iff {day : BillingDay} {tz : BillingTimezone} {t : OffsetDateTime} :
    endExclusiveUtc day tz = .ok t ↔
      ∃ next : BillingDay, next.day = day.day + 1 ∧ t = startUtc next tz := by
  rw [endExclusiveUtc, Result.bind_ok_iff]
  constructor
  · rintro ⟨next, hnext, ht⟩
    exact ⟨next, Date.addDays_ok_iff.1 hnext, (Except.ok.inj ht).symm⟩
  · rintro ⟨next, hday, rfl⟩
    exact ⟨next, Date.addDays_ok_iff.2 hday, rfl⟩

theorem endExclusiveUtc_nanos {day : BillingDay} {tz : BillingTimezone} {t : OffsetDateTime}
    (h : endExclusiveUtc day tz = .ok t) :
    t.nanos = startNanos (day.day + 1) tz ∧ t.offset = tz.utcOffset ∧ day.day + 1 ≤ maxDay := by
  obtain ⟨next, hnext, rfl⟩ := endExclusiveUtc_ok_iff.1 h
  refine ⟨by rw [nanos_startUtc, hnext], rfl, ?_⟩
  rw [← hnext]
  exact next.inRange.2

/-- Starts of days from 1969 on compare as the days do. -/
theorem startText_lt_iff {day day' : Int} {tz : BillingTimezone} (hday : -366 ≤ day)
    (hday' : -366 ≤ day') (hmax : day ≤ maxDay) (hmax' : day' ≤ maxDay) :
    startText day tz < startText day' tz ↔ day < day' := by
  have htz := tz.utcOffset_range
  have hyear : ∀ d, -366 ≤ d → d ≤ maxDay → FourDigitYear (startNanos d tz / nanosPerDay) := by
    intro d hd hdmax
    unfold startNanos nanosPerDay nanosPerSecond
    exact fourDigitYear_of_range (by omega) (by omega)
  rw [startText, startText, FixedWidth.ofList_lt_iff,
    tsText_lt_iff (hyear day hday hmax) (hyear day' hday' hmax')]
  unfold startNanos nanosPerDay
  omega

end BillingDay

/-! ## Periods -/

/-- The half-open UTC window of one billing day. -/
structure BillingPeriod where
  start : OffsetDateTime
  finish : OffsetDateTime
deriving DecidableEq

namespace BillingPeriod

def forDay (day : BillingDay) (tz : BillingTimezone) : Except Panic BillingPeriod := do
  let finish ← BillingDay.endExclusiveUtc day tz
  return { start := BillingDay.startUtc day tz, finish := finish }

def contains (period : BillingPeriod) (instant : OffsetDateTime) : Bool :=
  period.start ≤ instant && instant < period.finish

/-- The bounds as the statement stores them. -/
def toBounds (period : BillingPeriod) : Except Panic (String × String) := do
  let start ← formatTs period.start
  let finish ← formatTs period.finish
  return (start, finish)

theorem forDay_ok {day : BillingDay} {tz : BillingTimezone} {period : BillingPeriod}
    (h : forDay day tz = .ok period) :
    period.start.nanos = BillingDay.startNanos day.day tz ∧
      period.finish.nanos = BillingDay.startNanos (day.day + 1) tz := by
  obtain ⟨finish, hfinish, hperiod⟩ := Result.bind_ok_iff.1 h
  rw [← Except.ok.inj hperiod]
  exact ⟨rfl, (BillingDay.endExclusiveUtc_nanos hfinish).1⟩

theorem forDay_finish {day : BillingDay} {tz : BillingTimezone} {period : BillingPeriod}
    (h : forDay day tz = .ok period) : BillingDay.endExclusiveUtc day tz = .ok period.finish := by
  obtain ⟨finish, hfinish, hperiod⟩ := Result.bind_ok_iff.1 h
  rw [← Except.ok.inj hperiod]
  exact hfinish

/-- A period holds exactly the instants that fall on its day. -/
theorem contains_iff_of {day day' : BillingDay} {tz : BillingTimezone} {period : BillingPeriod}
    {instant : OffsetDateTime} (hperiod : forDay day tz = .ok period)
    (hday : BillingDay.of instant tz = .ok day') :
    period.contains instant = true ↔ day' = day := by
  obtain ⟨hstart, hfinish⟩ := forDay_ok hperiod
  have hof := BillingDay.of_ok hday
  rw [contains, Bool.and_eq_true, decide_eq_true_eq, decide_eq_true_eq, OffsetDateTime.le_iff,
    OffsetDateTime.lt_iff, hstart, hfinish, Date.ext_iff, hof]
  unfold BillingDay.startNanos nanosPerDay
  omega

/-- The stored bounds of a period are the texts of its two instants. -/
theorem toBounds_ok {period : BillingPeriod} {bounds : String × String}
    (h : period.toBounds = .ok bounds) :
    bounds.1 = String.ofList (tsText period.start.nanos) ∧
      bounds.2 = String.ofList (tsText period.finish.nanos) := by
  obtain ⟨start, hstart, h⟩ := Result.bind_ok_iff.1 h
  obtain ⟨finish, hfinish, h⟩ := Result.bind_ok_iff.1 h
  rw [← Except.ok.inj h]
  exact ⟨formatTs_ok hstart, formatTs_ok hfinish⟩

end BillingPeriod

example : (BillingPeriod.forDay ⟨20723, by decide⟩ ⟨-420, by decide⟩).bind
    BillingPeriod.toBounds =
    .ok ("2026-09-27T07:00:00.000000000Z", "2026-09-28T07:00:00.000000000Z") := by decide

end PartnerPortal
