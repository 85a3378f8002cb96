import Mathlib.Order.Bounds.Basic
import PartnerPortal.Billing.Generator

/-!
# The latest closeable day

A day is closeable once its period has ended and the delay after it has passed.  The generator looks for
the latest such day among yesterday and the day before only, while a configured delay may be of any
length.

Results:
- `closable_through_latest_iff` — the day returned is the latest closeable one, and no earlier instant had
  a later answer, exactly where the delay is at most one day and the local time of day, or longer than
  the calendar;
- `withinReach_of_one_day` — a delay of up to one day is within reach at every instant.
-/

namespace PartnerPortal.Generator

open MachineInt

/-! ## What the answer is for -/

/-- The days whose cutoff has passed. -/
def closeable (gen : Generator) (now : OffsetDateTime) : Set BillingDay :=
  {day | ∃ cutoff, gen.cutoffFor day = .ok cutoff ∧ cutoff ≤ now}

/-- The answer is the latest closeable day, if there is one. -/
structure Latest (gen : Generator) (now : OffsetDateTime) (through : Option BillingDay) : Prop where
  greatest : ∀ day, through = some day ↔ IsGreatest (gen.closeable now) day
  finished : ∀ day ∈ through, ∀ today, BillingDay.of now gen.timezone = .ok today → day < today
  complete : through = none → gen.closeable now = ∅
  mono : ∀ earlier before, earlier ≤ now → gen.closableThrough earlier = .ok before →
    ∀ day ∈ before, ∃ day' ∈ through, day ≤ day'

/-- The wall clock's time of day in the billing timezone. -/
def timeOfDay (gen : Generator) (now : OffsetDateTime) : Int :=
  (now.nanos + gen.timezone.utcOffset * nanosPerSecond) % nanosPerDay

def delayNanos (gen : Generator) : Int := gen.closeDelayMinutes * 60 * nanosPerSecond

/-- The delay is at most a day and the time of day, or not even the calendar's first day is
closeable. -/
def WithinReach (gen : Generator) (now : OffsetDateTime) : Prop :=
  gen.delayNanos ≤ nanosPerDay + gen.timeOfDay now ∨
    now.nanos - BillingDay.startNanos (minDay + 1) gen.timezone < gen.delayNanos

/-- A delay of up to one day is within reach at every instant. -/
theorem withinReach_of_one_day {gen : Generator} (h : gen.closeDelayMinutes ≤ 1440)
    (now : OffsetDateTime) : gen.WithinReach now := by
  have htime : 0 ≤ gen.timeOfDay now := Int.emod_nonneg _ (by decide)
  left
  unfold delayNanos nanosPerDay nanosPerSecond at *
  omega

section Closeable

variable {gen : Generator} {now : OffsetDateTime} {through : Option BillingDay} {today day : BillingDay}

/-- What is decided: yesterday, the day before, or nothing. -/
theorem closableThrough_ok (h : gen.closableThrough now = .ok through) :
    ∃ today, BillingDay.of now gen.timezone = .ok today ∧ FitsI64 (gen.closeDelayMinutes * 60) ∧
      today.day * nanosPerDay + gen.closeDelayMinutes * 60 * nanosPerSecond <
        (maxDay + 1) * nanosPerDay ∧
      through.map Date.day =
        if gen.cutoffNanos (today.day - 1) ≤ now.nanos then some (today.day - 1)
        else if gen.cutoffNanos (today.day - 2) ≤ now.nanos then some (today.day - 2) else none := by
  have hnanos {day : BillingDay} {cutoff : OffsetDateTime} (hcutoff : gen.cutoffFor day = .ok cutoff) :
      cutoff ≤ now ↔ gen.cutoffNanos day.day ≤ now.nanos := by
    rw [OffsetDateTime.le_iff, cutoffFor_ok hcutoff, cutoffNanos]
  obtain ⟨today, yesterday, cutoff, htoday, hday, hcutoff, hdecided⟩ := closableThrough_cases h
  obtain ⟨hfits, hsum⟩ := cutoffFor_isOk_iff.1 ⟨cutoff, hcutoff⟩
  refine ⟨today, htoday, hfits, by rwa [hday, sub_add_cancel] at hsum, ?_⟩
  rw [hnanos hcutoff, hday] at hdecided
  obtain ⟨hle, rfl⟩ | ⟨hlate, dayBefore, cutoff', hday', hcutoff', hdecided⟩ := hdecided
  · rw [if_pos hle, Option.map_some, hday]
  · rw [if_neg hlate]
    rw [hnanos hcutoff', hday'] at hdecided
    obtain ⟨hle, rfl⟩ | ⟨hlate', rfl⟩ := hdecided
    · rw [if_pos hle, Option.map_some, hday']
    · rw [if_neg hlate', Option.map_none]

/-- Only finished days are past their cutoff. -/
theorem lt_today_of_cutoffNanos_le {d : Int} (htoday : BillingDay.of now gen.timezone = .ok today)
    (h : gen.cutoffNanos d ≤ now.nanos) : d < today.day := by
  have hof := BillingDay.of_ok htoday
  have hdelay := gen.inRange
  unfold cutoffNanos BillingDay.startNanos nanosPerDay nanosPerSecond at *
  omega

theorem mem_closeable_iff (h : gen.closableThrough now = .ok through) :
    day ∈ gen.closeable now ↔ gen.cutoffNanos day.day ≤ now.nanos := by
  obtain ⟨today, htoday, hfits, hsum, -⟩ := closableThrough_ok h
  constructor
  · rintro ⟨cutoff, hcutoff, hle⟩
    rw [OffsetDateTime.le_iff, cutoffFor_ok hcutoff] at hle
    exact hle
  · intro hle
    have hlt := lt_today_of_cutoffNanos_le htoday hle
    obtain ⟨cutoff, hcutoff⟩ := (@cutoffFor_isOk_iff gen day).2
      ⟨hfits, by unfold nanosPerDay at *; omega⟩
    refine ⟨cutoff, hcutoff, ?_⟩
    rw [OffsetDateTime.le_iff, cutoffFor_ok hcutoff]
    exact hle

/-- A day that was closeable stays so. -/
theorem closeable_mono {earlier : OffsetDateTime} (hle : earlier ≤ now) :
    gen.closeable earlier ⊆ gen.closeable now := by
  rintro day ⟨cutoff, hcutoff, hpassed⟩
  exact ⟨cutoff, hcutoff, Int.le_trans hpassed hle⟩

/-- The day returned is closeable. -/
theorem closableThrough_mem (h : gen.closableThrough now = .ok (some day)) :
    day ∈ gen.closeable now := by
  obtain ⟨-, cutoff, -, hcutoff, hle, -⟩ := closableThrough_spec h
  exact ⟨cutoff, hcutoff, hle⟩

/-- Within reach the day before yesterday is closeable, or no day is. -/
theorem withinReach_iff (htoday : BillingDay.of now gen.timezone = .ok today) :
    gen.WithinReach now ↔
      gen.cutoffNanos (today.day - 2) ≤ now.nanos ∨ now.nanos < gen.cutoffNanos minDay := by
  have hof := BillingDay.of_ok htoday
  unfold WithinReach delayNanos timeOfDay cutoffNanos BillingDay.startNanos
  rw [Int.emod_def, ← hof]
  unfold nanosPerDay nanosPerSecond at *
  omega

/-- No closeable day is later than the one returned. -/
theorem le_of_mem_closeable (h : gen.closableThrough now = .ok (some day)) {day' : BillingDay}
    (hmem : day' ∈ gen.closeable now) : day' ≤ day := by
  obtain ⟨today, htoday, -, -, hthrough⟩ := closableThrough_ok h
  rw [mem_closeable_iff h] at hmem
  have hfinished := lt_today_of_cutoffNanos_le htoday hmem
  rw [Option.map_some] at hthrough
  rw [Date.le_iff]
  split at hthrough
  · have hday := Option.some.inj hthrough
    omega
  · rename_i hlate
    have hne : day'.day ≠ today.day - 1 := fun heq => hlate (heq ▸ hmem)
    split at hthrough
    · have hday := Option.some.inj hthrough
      omega
    · cases hthrough

theorem isGreatest_of_closableThrough (h : gen.closableThrough now = .ok (some day)) :
    IsGreatest (gen.closeable now) day :=
  ⟨closableThrough_mem h, fun _ hmem => le_of_mem_closeable h hmem⟩

/-- Nothing is returned exactly if the day before yesterday is not closeable. -/
theorem closableThrough_none_iff (htoday : BillingDay.of now gen.timezone = .ok today)
    (h : gen.closableThrough now = .ok through) :
    through = none ↔ now.nanos < gen.cutoffNanos (today.day - 2) := by
  obtain ⟨today', htoday', -, -, hthrough⟩ := closableThrough_ok h
  cases htoday.symm.trans htoday'
  have hmono : gen.cutoffNanos (today.day - 2) ≤ gen.cutoffNanos (today.day - 1) := by
    unfold cutoffNanos BillingDay.startNanos nanosPerDay
    omega
  rw [← Option.map_eq_none_iff, hthrough]
  split
  · rename_i hle
    simpa using hmono.trans hle
  · split <;> rename_i hle <;> simpa using hle

/-- Within reach nothing is returned only where no day is closeable. -/
theorem complete_of_withinReach (h : gen.closableThrough now = .ok none)
    (hreach : gen.WithinReach now) : gen.closeable now = ∅ := by
  obtain ⟨today, htoday, -⟩ := closableThrough_ok h
  have hlate := (closableThrough_none_iff htoday h).1 rfl
  rcases (withinReach_iff htoday).1 hreach with hpassed | hfirst
  · exact absurd hpassed (not_le.2 hlate)
  · refine Set.eq_empty_of_forall_notMem fun day hmem => ?_
    have hcutoff := (mem_closeable_iff h).1 hmem
    have hrange := day.inRange
    unfold cutoffNanos BillingDay.startNanos nanosPerDay at *
    omega

/-- Out of reach nothing is returned, although the calendar's first day is closeable. -/
theorem none_of_not_withinReach (h : gen.closableThrough now = .ok through)
    (hreach : ¬gen.WithinReach now) : through = none ∧ (gen.closeable now).Nonempty := by
  obtain ⟨today, htoday, -⟩ := closableThrough_ok h
  rw [withinReach_iff htoday, not_or] at hreach
  refine ⟨(closableThrough_none_iff htoday h).2 (not_le.1 hreach.1), ?_⟩
  exact ⟨⟨minDay, by decide⟩, (mem_closeable_iff h).2 (not_lt.1 hreach.2)⟩

/-- Within reach the answer is the latest closeable day. -/
theorem eq_some_iff_isGreatest (h : gen.closableThrough now = .ok through)
    (hreach : gen.WithinReach now) : through = some day ↔ IsGreatest (gen.closeable now) day := by
  constructor
  · rintro rfl
    exact isGreatest_of_closableThrough h
  · intro hgreatest
    cases through with
    | none =>
      rw [complete_of_withinReach h hreach] at hgreatest
      exact absurd hgreatest.1 (Set.notMem_empty _)
    | some day' =>
      have hle := hgreatest.2 (closableThrough_mem h)
      have hge := le_of_mem_closeable h hgreatest.1
      exact congrArg some (Date.ext (Int.le_antisymm hle hge))

end Closeable

/-- The day returned is the latest closeable one exactly within reach. -/
theorem closable_through_latest_iff (gen : Generator) (now : OffsetDateTime)
    (through : Option BillingDay) (h : gen.closableThrough now = .ok through) :
    Latest gen now through ↔ gen.WithinReach now := by
  constructor
  · intro hlatest
    by_contra hreach
    obtain ⟨hnone, hsome⟩ := none_of_not_withinReach h hreach
    exact hsome.ne_empty (hlatest.complete hnone)
  · intro hreach
    refine ⟨fun day => eq_some_iff_isGreatest h hreach, ?_, ?_, ?_⟩
    · rintro day rfl today htoday
      obtain ⟨today', -, htoday', -, -, hday⟩ := closableThrough_spec h
      cases htoday.symm.trans htoday'
      rw [Date.lt_iff]
      omega
    · rintro rfl
      exact complete_of_withinReach h hreach
    · rintro earlier before hle hbefore day rfl
      have hmem := closeable_mono hle (closableThrough_mem hbefore)
      cases through with
      | none =>
        rw [complete_of_withinReach h hreach] at hmem
        exact absurd hmem (Set.notMem_empty _)
      | some day' => exact ⟨day', rfl, le_of_mem_closeable h hmem⟩

/-! ## Two delays at a midnight -/

namespace Sample

def fiveMinuteDelay : Generator := ⟨.utc, 5, by decide⟩

def threeDayDelay : Generator := ⟨.utc, 4320, by decide⟩

/-- `1970-01-11T00:00:00Z` -/
def tenthMidnight : OffsetDateTime := ⟨10 * nanosPerDay, 0, by decide⟩

/-- `1970-01-09` -/
def eighth : BillingDay := ⟨8, by decide⟩

theorem threeDayDelay_none : threeDayDelay.closableThrough tenthMidnight = .ok none := by
  decide +kernel

end Sample

/-- At midnight, with a delay of five minutes, the day before yesterday is closeable. -/
theorem closable_through_latest_iff_midnight :
    Sample.fiveMinuteDelay.closableThrough Sample.tenthMidnight = .ok (some Sample.eighth) ∧
    (Latest Sample.fiveMinuteDelay Sample.tenthMidnight (some Sample.eighth) ↔
      WithinReach Sample.fiveMinuteDelay Sample.tenthMidnight) :=
  ⟨by decide +kernel, closable_through_latest_iff _ _ _ (by decide +kernel)⟩

/-- After three days of delay a finished day is closeable, and none is returned. -/
theorem closable_through_none : ¬∀ (gen : Generator) (now : OffsetDateTime) (through : Option BillingDay),
    gen.closableThrough now = .ok through → Latest gen now through := by
  intro hall
  have hempty := (hall _ _ _ Sample.threeDayDelay_none).complete rfl
  have hmem : (⟨6, by decide⟩ : BillingDay) ∈ Sample.threeDayDelay.closeable Sample.tenthMidnight :=
    (mem_closeable_iff Sample.threeDayDelay_none).2 (by decide)
  rw [hempty] at hmem
  exact hmem

end PartnerPortal.Generator
