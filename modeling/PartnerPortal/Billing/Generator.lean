import PartnerPortal.Billing.Period

/-!
# Which days may be closed

The calendar half of the statement generator: when a day may be closed, the latest day that may be
closed at an instant, and the days a partner still owes a statement for.

Results:
- `closableThrough_spec` — the day returned is one of the last two finished days;
- `daysToClose_ok`, `daysToClose_isOk` — the walk is the run of consecutive days from the later of
  the day after the last closed one and the catch-up bound, up to the newest closeable day.
-/

namespace PartnerPortal

open MachineInt

/-- The number of days one walk may close. -/
def maxCatchupDays : Int := 31

/-- The billing calendar and the delay after a day's end, which is not negative. -/
structure Generator where
  timezone : BillingTimezone
  closeDelayMinutes : Int
  inRange : 0 ≤ closeDelayMinutes ∧ closeDelayMinutes ≤ i64Max

namespace Generator

/-- `Generator::new`, which raises a negative delay to zero. -/
def new (timezone : BillingTimezone) (closeDelayMinutes : Int) (h : FitsI64 closeDelayMinutes) :
    Generator where
  timezone := timezone
  closeDelayMinutes := max closeDelayMinutes 0
  inRange := by
    have hmax := h.2
    unfold i64Max at *
    omega

/-- When a day may be closed: the end of its period plus the delay. -/
def cutoffFor (gen : Generator) (day : BillingDay) : Except Panic OffsetDateTime := do
  let finish ← BillingDay.endExclusiveUtc day gen.timezone
  let delay ← Duration.minutes gen.closeDelayMinutes
  finish.add delay

/-- The latest day that may be closed at `now`. -/
def closableThrough (gen : Generator) (now : OffsetDateTime) :
    Except Panic (Option BillingDay) := do
  let today ← BillingDay.of now gen.timezone
  let yesterday ← BillingDay.previous today
  if (← gen.cutoffFor yesterday) ≤ now then
    return some yesterday
  let dayBefore ← BillingDay.previous yesterday
  if (← gen.cutoffFor dayBefore) ≤ now then
    return some dayBefore
  return none

/-- The oldest day one walk will close. -/
def oldestCloseable (through : BillingDay) : Except Panic BillingDay :=
  BillingDay.previousN through (maxCatchupDays - 1)

/-- `n` days pushed from `day` on, stepping with `next` after each. -/
def pushDays : Nat → BillingDay → Except Panic (List BillingDay)
  | 0, _ => .ok []
  | n + 1, day => do
    let next ← BillingDay.next day
    let rest ← pushDays n next
    return day :: rest

/-- The day after the last closed one, or the bound when there is none to read. -/
def afterLast (iso : Iso8601) (lastClosed : Option String) (floor : BillingDay) :
    Except Panic BillingDay :=
  match lastClosed.bind (BillingDay.parse iso) with
  | some last => BillingDay.next last
  | none => .ok floor

/-- The day the walk starts at. -/
def walkStart (iso : Iso8601) (lastClosed : Option String) (through : BillingDay) :
    Except Panic BillingDay := do
  let floor ← oldestCloseable through
  let day ← afterLast iso lastClosed floor
  return if day < floor then floor else day

/-- The days a partner still owes a statement for, oldest first.  The loop runs while the day is
not past `through`, which is once for each day from the start to `through`. -/
def daysToClose (iso : Iso8601) (lastClosed : Option String) (through : BillingDay) :
    Except Panic (List BillingDay) := do
  let day ← walkStart iso lastClosed through
  pushDays (through.day + 1 - day.day).toNat day

/-- Whether the catch-up bound cut the walk short. -/
def catchupTruncated (iso : Iso8601) (lastClosed : Option String) (through : BillingDay) :
    Except Panic Bool := do
  match lastClosed.bind (BillingDay.parse iso) with
  | some last => do
    let next ← BillingDay.next last
    let floor ← oldestCloseable through
    return decide (next < floor)
  | none => return true

/-! ## The cutoff -/

theorem cutoffFor_ok {gen : Generator} {day : BillingDay} {cutoff : OffsetDateTime}
    (h : gen.cutoffFor day = .ok cutoff) :
    cutoff.nanos = BillingDay.startNanos (day.day + 1) gen.timezone +
      gen.closeDelayMinutes * 60 * nanosPerSecond := by
  obtain ⟨finish, hfinish, h⟩ := Result.bind_ok_iff.1 h
  obtain ⟨delay, hdelay, h⟩ := Result.bind_ok_iff.1 h
  have hadd := OffsetDateTime.checkedAdd_eq_some (OffsetDateTime.add_ok h)
  rw [hadd.1, (BillingDay.endExclusiveUtc_nanos hfinish).1, (Duration.minutes_ok_iff.1 hdelay).2]

/-- A cutoff can be computed when the day has a next one and the delay stays on the calendar. -/
theorem cutoffFor_isOk_iff {gen : Generator} {day : BillingDay} :
    (∃ cutoff, gen.cutoffFor day = .ok cutoff) ↔
      FitsI64 (gen.closeDelayMinutes * 60) ∧
        (day.day + 1) * nanosPerDay + gen.closeDelayMinutes * 60 * nanosPerSecond <
          (maxDay + 1) * nanosPerDay := by
  have hrange := day.inRange
  have hdelay := gen.inRange
  constructor
  · rintro ⟨cutoff, h⟩
    obtain ⟨finish, hfinish, h⟩ := Result.bind_ok_iff.1 h
    obtain ⟨delay, hminutes, hadd⟩ := Result.bind_ok_iff.1 h
    obtain ⟨hfits, hnanos⟩ := Duration.minutes_ok_iff.1 hminutes
    obtain ⟨hfinishNanos, hoffset, -⟩ := BillingDay.endExclusiveUtc_nanos hfinish
    have hsome : (finish.checkedAdd delay).isSome := by
      rw [OffsetDateTime.add_ok hadd]
      rfl
    rw [OffsetDateTime.checkedAdd_isSome_iff, OffsetDateTime.wall, hfinishNanos, hoffset, hnanos,
      BillingDay.startNanos] at hsome
    exact ⟨hfits, by omega⟩
  · rintro ⟨hfits, hsum⟩
    have hnext : minDay ≤ day.day + 1 ∧ day.day + 1 ≤ maxDay := by
      unfold nanosPerDay nanosPerSecond at *
      omega
    have hfinish : BillingDay.endExclusiveUtc day gen.timezone =
        .ok (BillingDay.startUtc ⟨day.day + 1, hnext⟩ gen.timezone) :=
      BillingDay.endExclusiveUtc_ok_iff.2 ⟨_, rfl, rfl⟩
    have hminutes := Duration.minutes_ok_iff.2 ⟨hfits, rfl⟩
    have hsome : ((BillingDay.startUtc ⟨day.day + 1, hnext⟩ gen.timezone).checkedAdd
        ⟨gen.closeDelayMinutes * 60 * nanosPerSecond⟩).isSome := by
      rw [OffsetDateTime.checkedAdd_isSome_iff, OffsetDateTime.wall, BillingDay.nanos_startUtc,
        BillingDay.offset_startUtc, BillingDay.startNanos]
      simp only
      unfold minDay nanosPerDay nanosPerSecond at *
      omega
    obtain ⟨cutoff, hcutoff⟩ := Option.isSome_iff_exists.1 hsome
    exact ⟨cutoff, by
      simp only [cutoffFor, hfinish, hminutes, Result.ok_bind, OffsetDateTime.add, hcutoff]⟩

/-- What is decided: yesterday where its cutoff has passed, else the day before where its has. -/
theorem closableThrough_cases {gen : Generator} {now : OffsetDateTime} {through : Option BillingDay}
    (h : gen.closableThrough now = .ok through) :
    ∃ today yesterday cutoff, BillingDay.of now gen.timezone = .ok today ∧
      yesterday.day = today.day - 1 ∧ gen.cutoffFor yesterday = .ok cutoff ∧
      (cutoff ≤ now ∧ through = some yesterday ∨
        ¬cutoff ≤ now ∧ ∃ dayBefore cutoff', dayBefore.day = today.day - 2 ∧
          gen.cutoffFor dayBefore = .ok cutoff' ∧
          (cutoff' ≤ now ∧ through = some dayBefore ∨ ¬cutoff' ≤ now ∧ through = none)) := by
  obtain ⟨today, htoday, h⟩ := Result.bind_ok_iff.1 h
  obtain ⟨yesterday, hyesterday, h⟩ := Result.bind_ok_iff.1 h
  obtain ⟨cutoff, hcutoff, h⟩ := Result.bind_ok_iff.1 h
  have hday : yesterday.day = today.day - 1 := Date.addDays_ok_iff.1 hyesterday
  refine ⟨today, yesterday, cutoff, htoday, hday, hcutoff, ?_⟩
  split at h
  · rename_i hle
    cases h
    exact .inl ⟨hle, rfl⟩
  · rename_i hlate
    simp only [Result.pure_eq] at h
    obtain ⟨dayBefore, hdayBefore, h⟩ := Result.bind_ok_iff.1 h
    obtain ⟨cutoff', hcutoff', h⟩ := Result.bind_ok_iff.1 h
    have hday' : dayBefore.day = yesterday.day - 1 := Date.addDays_ok_iff.1 hdayBefore
    refine .inr ⟨hlate, dayBefore, cutoff', by omega, hcutoff', ?_⟩
    split at h
    · rename_i hle
      cases h
      exact .inl ⟨hle, rfl⟩
    · rename_i hlate'
      cases h
      exact .inr ⟨hlate', rfl⟩

/-- The day returned is one of the last two finished days, and its cutoff has passed. -/
theorem closableThrough_spec {gen : Generator} {now : OffsetDateTime} {through : BillingDay}
    (h : gen.closableThrough now = .ok (some through)) :
    ∃ today cutoff, BillingDay.of now gen.timezone = .ok today ∧
      gen.cutoffFor through = .ok cutoff ∧ cutoff ≤ now ∧
      (through.day = today.day - 1 ∨ through.day = today.day - 2) := by
  obtain ⟨today, yesterday, cutoff, htoday, hday, hcutoff, hyesterday | hdayBefore⟩ :=
    closableThrough_cases h
  · obtain ⟨hle, hthrough⟩ := hyesterday
    cases hthrough
    exact ⟨today, cutoff, htoday, hcutoff, hle, .inl hday⟩
  · obtain ⟨-, dayBefore, cutoff', hday', hcutoff', ⟨hle, hthrough⟩ | ⟨-, hnone⟩⟩ := hdayBefore
    · cases hthrough
      exact ⟨today, cutoff', htoday, hcutoff', hle, .inr hday'⟩
    · cases hnone

/-- The newest closeable day is never the calendar's last. -/
theorem closableThrough_lt_max {gen : Generator} {now : OffsetDateTime} {through : BillingDay}
    (h : gen.closableThrough now = .ok (some through)) : through.day + 1 ≤ maxDay := by
  obtain ⟨today, -, -, -, -, hday⟩ := closableThrough_spec h
  have := today.inRange
  omega

/-- A clock past the epoch closes no day before the end of 1969. -/
theorem closableThrough_ge {gen : Generator} {now : Instant} {through : BillingDay}
    (h : gen.closableThrough now.utc = .ok (some through)) : -3 ≤ through.day := by
  obtain ⟨today, -, htoday, -, -, hday⟩ := closableThrough_spec h
  have hge := BillingDay.of_instant_ge htoday
  omega

/-! ## The newest closeable day of a clock reading -/

/-- The dates of the decision can be computed at a clock reading. -/
def DatesFit (gen : Generator) (now : Instant) : Prop :=
  ∃ through, gen.closableThrough now.utc = .ok through

/-- The nanosecond a day may be closed at. -/
def cutoffNanos (gen : Generator) (day : Int) : Int :=
  BillingDay.startNanos (day + 1) gen.timezone + gen.closeDelayMinutes * 60 * nanosPerSecond

/-- The decision at a clock reading: yesterday, the day before, or nothing. -/
theorem closableThrough_eq {gen : Generator} {now : Instant} {today : BillingDay}
    (htoday : BillingDay.of now.utc gen.timezone = .ok today)
    (hfits : FitsI64 (gen.closeDelayMinutes * 60))
    (hsum : today.day * nanosPerDay + gen.closeDelayMinutes * 60 * nanosPerSecond <
      (maxDay + 1) * nanosPerDay) :
    ∃ yesterday dayBefore : BillingDay, yesterday.day = today.day - 1 ∧
      dayBefore.day = today.day - 2 ∧
      gen.closableThrough now.utc = .ok
        (if gen.cutoffNanos yesterday.day ≤ now.nanos then some yesterday
          else if gen.cutoffNanos dayBefore.day ≤ now.nanos then some dayBefore else none) := by
  have hge := BillingDay.of_instant_ge htoday
  have hrange := today.inRange
  have hyesterday : BillingDay.previous today = .ok ⟨today.day + -1, by unfold minDay; omega⟩ :=
    Date.addDays_of_range _
  have hdayBefore : BillingDay.previous ⟨today.day + -1, by unfold minDay; omega⟩ =
      .ok ⟨today.day + -1 + -1, by unfold minDay; omega⟩ := Date.addDays_of_range _
  have hcutoff : ∀ day : BillingDay, day.day < today.day → ∃ cutoff, gen.cutoffFor day = .ok cutoff :=
    fun day hday => cutoffFor_isOk_iff.2 ⟨hfits, by unfold nanosPerDay at *; omega⟩
  obtain ⟨cutoff, hcutoffOk⟩ := hcutoff ⟨today.day + -1, by unfold minDay; omega⟩
    (by simp only; omega)
  obtain ⟨cutoff', hcutoffOk'⟩ := hcutoff ⟨today.day + -1 + -1, by unfold minDay; omega⟩
    (by simp only; omega)
  refine ⟨⟨today.day + -1, by unfold minDay; omega⟩, ⟨today.day + -1 + -1, by unfold minDay; omega⟩,
    by simp only; omega, by simp only; omega, ?_⟩
  have hnanos := cutoffFor_ok hcutoffOk
  have hnanos' := cutoffFor_ok hcutoffOk'
  simp only [closableThrough, htoday, hyesterday, hcutoffOk, hdayBefore, hcutoffOk', Result.ok_bind,
    OffsetDateTime.le_iff, Instant.nanos_utc, hnanos, hnanos', cutoffNanos, Result.pure_eq]
  split
  · rename_i h
    simp only [h, if_true]
  · rename_i h
    simp only [h, if_false]
    split <;> rename_i h' <;> simp only [h', if_true, if_false]

/-- The decision can be made at a clock reading when the wall clock there shows a date and the delay
stays on the calendar. -/
theorem datesFit_iff {gen : Generator} {now : Instant} :
    gen.DatesFit now ↔ ∃ today, BillingDay.of now.utc gen.timezone = .ok today ∧
      FitsI64 (gen.closeDelayMinutes * 60) ∧
        today.day * nanosPerDay + gen.closeDelayMinutes * 60 * nanosPerSecond <
          (maxDay + 1) * nanosPerDay := by
  constructor
  · rintro ⟨through, h⟩
    obtain ⟨today, htoday, h⟩ := Result.bind_ok_iff.1 h
    obtain ⟨yesterday, hyesterday, h⟩ := Result.bind_ok_iff.1 h
    obtain ⟨cutoff, hcutoff, -⟩ := Result.bind_ok_iff.1 h
    obtain ⟨hfits, hsum⟩ := cutoffFor_isOk_iff.1 ⟨cutoff, hcutoff⟩
    rw [Date.addDays_ok_iff.1 hyesterday, show today.day + -1 + 1 = today.day by omega] at hsum
    exact ⟨today, htoday, hfits, hsum⟩
  · rintro ⟨today, htoday, hfits, hsum⟩
    obtain ⟨yesterday, dayBefore, -, -, h⟩ := closableThrough_eq htoday hfits hsum
    exact ⟨_, h⟩

/-- The newest closeable day is the last day whose cutoff has passed, when that is one of the last
two finished days. -/
theorem closableThrough_eq_some_iff {gen : Generator} {now : Instant} {through : BillingDay}
    (hfit : gen.DatesFit now) :
    gen.closableThrough now.utc = .ok (some through) ↔
      gen.cutoffNanos through.day ≤ now.nanos ∧ now.nanos < gen.cutoffNanos (through.day + 1) ∧
        now.nanos < BillingDay.startNanos (through.day + 3) gen.timezone := by
  obtain ⟨today, htoday, hfits, hsum⟩ := datesFit_iff.1 hfit
  obtain ⟨yesterday, dayBefore, hyesterday, hdayBefore, heq⟩ := closableThrough_eq htoday hfits hsum
  have hof := BillingDay.of_ok htoday
  have hdelay := gen.inRange
  rw [Instant.nanos_utc] at hof
  rw [heq, Except.ok.injEq]
  unfold cutoffNanos BillingDay.startNanos
  rw [hyesterday, hdayBefore]
  unfold nanosPerDay nanosPerSecond at *
  split
  · rw [Option.some.injEq, Date.ext_iff, hyesterday]
    omega
  · split
    · rw [Option.some.injEq, Date.ext_iff, hdayBefore]
      omega
    · simp only [reduceCtorEq, false_iff]
      omega

theorem DatesFit.mono {gen : Generator} {earlier now : Instant} (h : gen.DatesFit now)
    (hle : earlier ≤ now) : gen.DatesFit earlier := by
  obtain ⟨today, htoday, hfits, hsum⟩ := datesFit_iff.1 h
  have hof := BillingDay.of_ok htoday
  have hrange := BillingDay.of_isOk_iff.1 ⟨today, htoday⟩
  have hearlier := earlier.inRange
  have htz := gen.timezone.utcOffset_range
  rw [Instant.nanos_utc] at hof hrange
  rw [Instant.le_iff] at hle
  obtain ⟨today', htoday'⟩ := (@BillingDay.of_isOk_iff earlier.utc gen.timezone).2 (by
    rw [Instant.nanos_utc]
    unfold minDay nanosPerDay nanosPerSecond at *
    omega)
  have hof' := BillingDay.of_ok htoday'
  rw [Instant.nanos_utc] at hof'
  refine datesFit_iff.2 ⟨today', htoday', hfits, ?_⟩
  unfold nanosPerDay nanosPerSecond at *
  omega

/-! ## The walk -/

/-- `n` consecutive day numbers. -/
def dayRun (start : Int) (n : Nat) : List Int :=
  (List.range n).map fun (k : Nat) => start + (k : Int)

theorem dayRun_succ (start : Int) (n : Nat) :
    dayRun start (n + 1) = start :: dayRun (start + 1) n := by
  simp only [dayRun, List.range_succ_eq_map, List.map_cons, List.map_map]
  congr 1
  · simp
  · apply List.map_congr_left
    intro k _
    simp only [Function.comp, Nat.cast_succ]
    omega

theorem mem_dayRun {start d : Int} {n : Nat} : d ∈ dayRun start n ↔ start ≤ d ∧ d < start + n := by
  simp only [dayRun, List.mem_map, List.mem_range]
  constructor
  · rintro ⟨k, hk, rfl⟩
    omega
  · rintro ⟨hlow, hhigh⟩
    exact ⟨(d - start).toNat, by omega, by omega⟩

theorem length_dayRun (start : Int) (n : Nat) : (dayRun start n).length = n := by
  rw [dayRun, List.length_map, List.length_range]

theorem pushDays_ok {n : Nat} {day : BillingDay} {days : List BillingDay}
    (h : pushDays n day = .ok days) : days.map Date.day = dayRun day.day n := by
  induction n generalizing day days with
  | zero =>
    cases h
    rfl
  | succ n ih =>
    obtain ⟨next, hnext, h⟩ := Result.bind_ok_iff.1 h
    obtain ⟨rest, hrest, h⟩ := Result.bind_ok_iff.1 h
    rw [← Except.ok.inj h, dayRun_succ, List.map_cons, ih hrest, Date.addDays_ok_iff.1 hnext]

theorem pushDays_isOk {n : Nat} {day : BillingDay} (h : day.day + n ≤ maxDay) :
    ∃ days, pushDays n day = .ok days := by
  induction n generalizing day with
  | zero => exact ⟨[], rfl⟩
  | succ n ih =>
    have hlow := day.inRange.1
    have hnext : BillingDay.next day = .ok ⟨day.day + 1, by omega⟩ := Date.addDays_of_range _
    obtain ⟨rest, hrest⟩ := @ih ⟨day.day + 1, by omega⟩ (by push_cast at h; simp only; omega)
    exact ⟨day :: rest, by simp [pushDays, hnext, hrest]⟩

theorem pushDays_range {n : Nat} {day : BillingDay} {days : List BillingDay}
    (h : pushDays n day = .ok days) : day.day + n ≤ maxDay := by
  induction n generalizing day days with
  | zero =>
    have hin := day.inRange
    omega
  | succ n ih =>
    obtain ⟨next, hnext, h⟩ := Result.bind_ok_iff.1 h
    obtain ⟨rest, hrest, -⟩ := Result.bind_ok_iff.1 h
    have hday := Date.addDays_ok_iff.1 hnext
    have hmax := ih hrest
    push_cast
    omega

/-- The first day of a walk whose last closed day is `last`. -/
def startAfter (last : Option Int) (through : Int) : Int :=
  match last with
  | some last => max (last + 1) (through - (maxCatchupDays - 1))
  | none => through - (maxCatchupDays - 1)

theorem startAfter_ge (last : Option Int) (through : Int) : through - 30 ≤ startAfter last through := by
  unfold startAfter maxCatchupDays
  split <;> omega

theorem walkStart_ok {iso : Iso8601} {lastClosed : Option String} {through day : BillingDay}
    (h : walkStart iso lastClosed through = .ok day) :
    day.day = startAfter ((lastClosed.bind (BillingDay.parse iso)).map Date.day) through.day := by
  obtain ⟨floor, hfloor, h⟩ := Result.bind_ok_iff.1 h
  obtain ⟨start, hstart, h⟩ := Result.bind_ok_iff.1 h
  have hfloorDay := Date.addDays_ok_iff.1 hfloor
  have hday := Except.ok.inj h
  unfold afterLast at hstart
  cases hlast : lastClosed.bind (BillingDay.parse iso) with
  | none =>
    rw [hlast] at hstart
    cases hstart
    rw [← hday]
    simp only [ite_self, Option.map_none, startAfter]
    omega
  | some last =>
    rw [hlast] at hstart
    have hstartDay := Date.addDays_ok_iff.1 hstart
    rw [← hday]
    simp only [Option.map_some, startAfter, Date.lt_iff]
    split <;> omega

/-- The walk is the run of days from its start to the newest closeable day. -/
theorem daysToClose_ok {iso : Iso8601} {lastClosed : Option String} {through : BillingDay}
    {days : List BillingDay} (h : daysToClose iso lastClosed through = .ok days) :
    days.map Date.day =
      dayRun (startAfter ((lastClosed.bind (BillingDay.parse iso)).map Date.day) through.day)
        (through.day + 1 -
          startAfter ((lastClosed.bind (BillingDay.parse iso)).map Date.day) through.day).toNat := by
  obtain ⟨day, hday, h⟩ := Result.bind_ok_iff.1 h
  rw [pushDays_ok h, walkStart_ok hday]

theorem mem_daysToClose {iso : Iso8601} {lastClosed : Option String} {through : BillingDay}
    {days : List BillingDay} (h : daysToClose iso lastClosed through = .ok days) (day : BillingDay) :
    day ∈ days ↔
      startAfter ((lastClosed.bind (BillingDay.parse iso)).map Date.day) through.day ≤ day.day ∧
        day.day ≤ through.day := by
  have hmap := daysToClose_ok h
  have hmem : day ∈ days ↔ day.day ∈ days.map Date.day := by
    rw [List.mem_map]
    constructor
    · exact fun hday => ⟨day, hday, rfl⟩
    · rintro ⟨day', hday', heq⟩
      rwa [← Date.ext heq]
  rw [hmem, hmap, mem_dayRun]
  omega

theorem daysToClose_sorted {iso : Iso8601} {lastClosed : Option String} {through : BillingDay}
    {days : List BillingDay} (h : daysToClose iso lastClosed through = .ok days) :
    days.Pairwise (· < ·) := by
  have hrun : (days.map Date.day).Pairwise (· < ·) := by
    rw [daysToClose_ok h, dayRun, List.pairwise_map]
    exact List.pairwise_lt_range.imp fun hlt => by omega
  rwa [List.pairwise_map] at hrun

/-- A walk below the calendar's last day, from a last closed day that has a successor, does not
panic. -/
theorem daysToClose_isOk {iso : Iso8601} {lastClosed : Option String} {through : BillingDay}
    (hthrough : through.day + 1 ≤ maxDay) (hfloor : minDay ≤ through.day - 30)
    (hlast : ∀ last, lastClosed.bind (BillingDay.parse iso) = some last → last.day + 1 ≤ maxDay) :
    ∃ days, daysToClose iso lastClosed through = .ok days := by
  have hmin := through.inRange
  have hfloorOk : oldestCloseable through = .ok ⟨through.day + -(maxCatchupDays - 1), by
      unfold maxCatchupDays
      omega⟩ := Date.addDays_of_range _
  have hstart : ∃ day, walkStart iso lastClosed through = .ok day := by
    cases hclosed : lastClosed.bind (BillingDay.parse iso) with
    | none =>
      simp [walkStart, afterLast, hfloorOk, hclosed]
    | some last =>
      have hnext : BillingDay.next last = .ok ⟨last.day + 1, by
          have := last.inRange
          have := hlast last hclosed
          omega⟩ := Date.addDays_of_range _
      simp [walkStart, afterLast, hfloorOk, hclosed, hnext]
  obtain ⟨day, hday⟩ := hstart
  by_cases hpast : through.day < day.day
  · refine ⟨[], ?_⟩
    simp only [daysToClose, hday, Result.ok_bind]
    rw [show (through.day + 1 - day.day).toNat = 0 by omega]
    rfl
  · obtain ⟨days, hdays⟩ := @pushDays_isOk (through.day + 1 - day.day).toNat day (by omega)
    exact ⟨days, by simp only [daysToClose, hday, Result.ok_bind, hdays]⟩

end Generator

end PartnerPortal
