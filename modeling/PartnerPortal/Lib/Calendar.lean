import Mathlib.Tactic.Common
import Mathlib.Algebra.Order.Ring.Int

/-!
# The proleptic Gregorian calendar on day numbers

A date is a day number counted from 1970-01-01.  This module maps a day number to its civil date
and back, and shows that the two maps agree and that civil dates are ordered as their day numbers
are.  The year is found by an estimate that is off by at most one and then corrected, the month by
the usual linear formula.

Results:
- `dayNumber_civil` — the civil date of a day number names that day number;
- `civil_dayNumber` — a valid civil date is recovered from its day number;
- `civil_before_iff` — civil dates are ordered as the day numbers are.
-/

namespace Calendar

/-! ## Years -/

/-- The Gregorian leap rule. -/
def leapYear (year : Int) : Bool :=
  year % 4 = 0 && (year % 100 ≠ 0 || year % 400 = 0)

/-- One in a leap year. -/
def leapDay (year : Int) : Int :=
  if leapYear year then 1 else 0

/-- The day number of 1 January. -/
def yearStart (year : Int) : Int :=
  365 * (year - 1) + (year - 1) / 4 - (year - 1) / 100 + (year - 1) / 400 - 719162

theorem leapDay_cases (year : Int) :
    (leapDay year = 1 ∧ year % 4 = 0 ∧ (year % 100 ≠ 0 ∨ year % 400 = 0)) ∨
      (leapDay year = 0 ∧ (year % 4 ≠ 0 ∨ (year % 100 = 0 ∧ year % 400 ≠ 0))) := by
  unfold leapDay leapYear
  by_cases h4 : year % 4 = 0 <;> by_cases h100 : year % 100 = 0 <;>
    by_cases h400 : year % 400 = 0 <;> simp [h4, h100, h400]

theorem yearStart_succ (year : Int) :
    yearStart (year + 1) = yearStart year + 365 + leapDay year := by
  unfold yearStart
  rcases leapDay_cases year with ⟨h, h4, h100 | h400⟩ | ⟨h, h4 | ⟨h100, h400⟩⟩ <;>
    rw [h] <;> omega

/-- Years start in order. -/
theorem yearStart_mono {a b : Int} (h : a ≤ b) : yearStart a ≤ yearStart b := by
  unfold yearStart
  omega

/-- The year a day number falls in: the mean-year estimate, moved by one where it is off. -/
def yearOf (day : Int) : Int :=
  let guess := (day + 719162) * 400 / 146097 + 1
  if day < yearStart guess then guess - 1
  else if yearStart (guess + 1) ≤ day then guess + 1
  else guess

theorem yearStart_guess_le (day : Int) :
    yearStart ((day + 719162) * 400 / 146097 + 1 - 1) ≤ day := by
  unfold yearStart
  omega

theorem lt_yearStart_guess (day : Int) :
    day < yearStart ((day + 719162) * 400 / 146097 + 1 + 2) := by
  unfold yearStart
  omega

/-- A day number lies in the year `yearOf` names. -/
theorem yearOf_spec (day : Int) :
    yearStart (yearOf day) ≤ day ∧ day < yearStart (yearOf day + 1) := by
  unfold yearOf
  have hlow := yearStart_guess_le day
  have hhigh := lt_yearStart_guess day
  generalize (day + 719162) * 400 / 146097 + 1 = guess at *
  simp only
  split
  · rename_i h
    exact ⟨hlow, by simpa using h⟩
  · rename_i h
    split
    · rename_i h'
      exact ⟨h', by rw [show guess + 1 + 1 = guess + 2 by omega]; exact hhigh⟩
    · rename_i h'
      exact ⟨by omega, by omega⟩

theorem yearOf_mono {a b : Int} (h : a ≤ b) : yearOf a ≤ yearOf b := by
  by_contra hlt
  have hstart := yearStart_mono (show yearOf b + 1 ≤ yearOf a by omega)
  have ha := yearOf_spec a
  have hb := yearOf_spec b
  omega

/-! ## Months -/

/-- How far the months after February lie behind the linear formula. -/
def februaryGap (year month : Int) : Int :=
  if month ≤ 2 then 0 else 2 - leapDay year

/-- Days of the year before a month begins. -/
def monthStart (year month : Int) : Int :=
  (367 * month - 362) / 12 - februaryGap year month

/-- Days in a month. -/
def monthLength (year month : Int) : Int :=
  monthStart year (month + 1) - monthStart year month

/-- The month a day of the year falls in. -/
def monthOf (year dayOfYear : Int) : Int :=
  let gap := if dayOfYear < 59 + leapDay year then 0 else 2 - leapDay year
  (12 * (dayOfYear + gap) + 373) / 367

theorem leapDay_range (year : Int) : 0 ≤ leapDay year ∧ leapDay year ≤ 1 := by
  rcases leapDay_cases year with ⟨h, -⟩ | ⟨h, -⟩ <;> omega

theorem monthOf_spec {year dayOfYear : Int} (h0 : 0 ≤ dayOfYear)
    (h1 : dayOfYear < 365 + leapDay year) :
    1 ≤ monthOf year dayOfYear ∧ monthOf year dayOfYear ≤ 12 ∧
      monthStart year (monthOf year dayOfYear) ≤ dayOfYear ∧
      dayOfYear < monthStart year (monthOf year dayOfYear + 1) := by
  unfold monthOf monthStart februaryGap
  obtain ⟨hl0, hl1⟩ := leapDay_range year
  generalize leapDay year = leap at *
  have hleap : leap = 0 ∨ leap = 1 := by omega
  rcases hleap with rfl | rfl <;> simp only <;> split <;> refine ⟨?_, ?_, ?_, ?_⟩ <;>
    (try split) <;> omega

theorem monthStart_lt (year : Int) {month month' : Int} (h1 : 1 ≤ month) (h : month < month')
    (h12 : month' ≤ 13) : monthStart year (month + 1) ≤ monthStart year month' := by
  unfold monthStart februaryGap
  obtain ⟨hl0, hl1⟩ := leapDay_range year
  split <;> split <;> omega

theorem monthStart_thirteen (year : Int) : monthStart year 13 = 365 + leapDay year := by
  unfold monthStart februaryGap
  rw [if_neg (by omega)]
  omega

theorem monthStart_one (year : Int) : monthStart year 1 = 0 := by
  simp [monthStart, februaryGap]

theorem monthLength_range (year : Int) {month : Int} (h1 : 1 ≤ month) (h12 : month ≤ 12) :
    28 ≤ monthLength year month ∧ monthLength year month ≤ 31 := by
  unfold monthLength monthStart februaryGap
  obtain ⟨hl0, hl1⟩ := leapDay_range year
  split <;> split <;> omega

/-! ## Civil dates -/

/-- A calendar date as it is written. -/
structure CivilDate where
  year : Int
  month : Int
  day : Int
deriving Repr, DecidableEq

namespace CivilDate

/-- The month and day exist in that year. -/
def Valid (date : CivilDate) : Prop :=
  1 ≤ date.month ∧ date.month ≤ 12 ∧ 1 ≤ date.day ∧
    date.day ≤ monthLength date.year date.month

instance (date : CivilDate) : Decidable date.Valid := by
  unfold Valid
  infer_instance

/-- Year first, then month, then day. -/
def Before (a b : CivilDate) : Prop :=
  a.year < b.year ∨ (a.year = b.year ∧
    (a.month < b.month ∨ (a.month = b.month ∧ a.day < b.day)))

end CivilDate

/-- The day number of a civil date. -/
def dayNumber (date : CivilDate) : Int :=
  yearStart date.year + monthStart date.year date.month + date.day - 1

/-- The civil date of a day number. -/
def civil (day : Int) : CivilDate :=
  let year := yearOf day
  let dayOfYear := day - yearStart year
  let month := monthOf year dayOfYear
  { year := year, month := month, day := dayOfYear - monthStart year month + 1 }

theorem dayOfYear_range (day : Int) :
    0 ≤ day - yearStart (yearOf day) ∧
      day - yearStart (yearOf day) < 365 + leapDay (yearOf day) := by
  obtain ⟨hlow, hhigh⟩ := yearOf_spec day
  rw [yearStart_succ] at hhigh
  omega

theorem civil_valid (day : Int) : (civil day).Valid := by
  obtain ⟨h0, h1⟩ := dayOfYear_range day
  obtain ⟨hm1, hm12, hlow, hhigh⟩ := monthOf_spec h0 h1
  refine ⟨hm1, hm12, ?_, ?_⟩
  · simp only [civil]
    omega
  · simp only [civil, monthLength]
    omega

/-- The civil date of a day number names that day number. -/
@[simp] theorem dayNumber_civil (day : Int) : dayNumber (civil day) = day := by
  simp only [dayNumber, civil]
  omega

/-- Civil dates in order have their day numbers in order. -/
theorem dayNumber_lt {a b : CivilDate} (ha : a.Valid) (hb : b.Valid) (h : a.Before b) :
    dayNumber a < dayNumber b := by
  obtain ⟨ha1, ha12, had1, had⟩ := ha
  obtain ⟨hb1, hb12, hbd1, hbd⟩ := hb
  have hbStart : 0 ≤ monthStart b.year b.month := by
    rcases eq_or_lt_of_le hb1 with h | h
    · rw [← h, monthStart_one]
    · have := monthStart_lt b.year (le_refl 1) h (by omega)
      have := monthLength_range b.year (le_refl 1) (by omega)
      rw [monthLength, monthStart_one] at this
      omega
  simp only [dayNumber, monthLength] at *
  rcases h with h | ⟨hyear, h | ⟨hmonth, h⟩⟩
  · -- the earlier year is over before the later one begins
    have hyears := yearStart_mono (show a.year + 1 ≤ b.year by omega)
    rw [yearStart_succ] at hyears
    have hend : monthStart a.year (a.month + 1) ≤ 365 + leapDay a.year := by
      rw [← monthStart_thirteen]
      exact monthStart_lt a.year ha1 (by omega) (le_refl 13)
    omega
  · -- the earlier month is over before the later one begins
    have hend := monthStart_lt b.year ha1 h (by omega)
    rw [hyear] at had ⊢
    omega
  · rw [hyear, hmonth]
    omega

theorem CivilDate.before_trichotomy (a b : CivilDate) : a.Before b ∨ a = b ∨ b.Before a := by
  unfold CivilDate.Before
  cases a
  cases b
  simp only [CivilDate.mk.injEq]
  omega

/-- Civil dates are ordered as the day numbers are. -/
theorem civil_before_iff (a b : Int) : (civil a).Before (civil b) ↔ a < b := by
  constructor
  · intro h
    have := dayNumber_lt (civil_valid a) (civil_valid b) h
    simpa using this
  · intro h
    rcases CivilDate.before_trichotomy (civil a) (civil b) with hlt | heq | hgt
    · exact hlt
    · have := congrArg dayNumber heq
      simp only [dayNumber_civil] at this
      omega
    · have := dayNumber_lt (civil_valid b) (civil_valid a) hgt
      simp only [dayNumber_civil] at this
      omega

/-- A valid civil date is recovered from its day number. -/
theorem civil_dayNumber {date : CivilDate} (h : date.Valid) : civil (dayNumber date) = date := by
  rcases CivilDate.before_trichotomy (civil (dayNumber date)) date with hlt | heq | hgt
  · have := dayNumber_lt (civil_valid _) h hlt
    simp at this
  · exact heq
  · have := dayNumber_lt h (civil_valid _) hgt
    simp at this

theorem civil_injective {a b : Int} (h : civil a = civil b) : a = b := by
  simpa using congrArg dayNumber h

/-- Days of the years `first … last` have those years. -/
theorem civil_year_range {first last day : Int} (hfirst : yearStart first ≤ day)
    (hlast : day < yearStart (last + 1)) :
    first ≤ (civil day).year ∧ (civil day).year ≤ last := by
  obtain ⟨hlow, hhigh⟩ := yearOf_spec day
  simp only [civil]
  constructor
  · by_contra h
    have := yearStart_mono (show yearOf day + 1 ≤ first by omega)
    omega
  · by_contra h
    have := yearStart_mono (show last + 1 ≤ yearOf day by omega)
    omega

example : civil 0 = { year := 1970, month := 1, day := 1 } := by decide
example : civil 20723 = { year := 2026, month := 9, day := 27 } := by decide

end Calendar
