import Mathlib.Order.Basic
import PartnerPortal.Lib.Calendar
import PartnerPortal.Lib.MachineInt
import PartnerPortal.Lib.Result

/-!
# Dates, instants and durations

The parts of the `time` crate the program computes with: a `Date` of the years -9999 to 9999, an
`OffsetDateTime` whose wall clock shows such a date, and a `Duration`.  Operators that leave the
range panic and the `checked_` forms return nothing, so both are kept.
-/

namespace PartnerPortal

open MachineInt

/-- Why an operator of the `time` crate panicked. -/
inductive Panic where
  /-- `Date ± Duration` left the calendar -/
  | dateRange
  /-- `OffsetDateTime ± Duration` left the calendar -/
  | dateTimeRange
  /-- `to_offset` shows a wall clock outside the calendar -/
  | offsetRange
  /-- a `Duration` constructor overflowed an `i64` of seconds -/
  | durationOverflow
deriving Repr, DecidableEq

/-! ## Dates -/

/-- `-9999-01-01` -/
def minDay : Int := -4371587

/-- `9999-12-31` -/
def maxDay : Int := 2932896

example : Calendar.dayNumber { year := -9999, month := 1, day := 1 } = minDay := by decide
example : Calendar.dayNumber { year := 9999, month := 12, day := 31 } = maxDay := by decide

/-- `time::Date`, as its number of days from 1970-01-01. -/
@[ext] structure Date where
  day : Int
  inRange : minDay ≤ day ∧ day ≤ maxDay
deriving DecidableEq

namespace Date

instance : LT Date := ⟨fun a b => a.day < b.day⟩

instance : LE Date := ⟨fun a b => a.day ≤ b.day⟩

instance (a b : Date) : Decidable (a < b) := inferInstanceAs (Decidable (a.day < b.day))

instance (a b : Date) : Decidable (a ≤ b) := inferInstanceAs (Decidable (a.day ≤ b.day))

theorem lt_iff {a b : Date} : a < b ↔ a.day < b.day := Iff.rfl

theorem le_iff {a b : Date} : a ≤ b ↔ a.day ≤ b.day := Iff.rfl

/-- The date with a day number, if the calendar has it. -/
def ofDay (day : Int) : Option Date :=
  if h : minDay ≤ day ∧ day ≤ maxDay then some ⟨day, h⟩ else none

/-- `Date + n * Duration::DAY` -/
def addDays (date : Date) (n : Int) : Except Panic Date :=
  match ofDay (date.day + n) with
  | some result => .ok result
  | none => .error .dateRange

theorem ofDay_eq_some_iff {day : Int} {date : Date} : ofDay day = some date ↔ date.day = day := by
  unfold ofDay
  split
  · rw [Option.some.injEq, Date.ext_iff]
    exact eq_comm
  · rename_i h
    have := date.inRange
    simp only [reduceCtorEq, false_iff]
    rintro rfl
    exact h this

theorem addDays_ok_iff {date result : Date} {n : Int} :
    addDays date n = .ok result ↔ result.day = date.day + n := by
  unfold addDays
  cases h : ofDay (date.day + n) with
  | none =>
    simp only [reduceCtorEq, false_iff]
    intro hday
    rw [ofDay_eq_some_iff.2 hday] at h
    cases h
  | some found =>
    rw [ofDay_eq_some_iff] at h
    simp only [Except.ok.injEq]
    rw [Date.ext_iff, h]
    exact eq_comm

/-- Days inside the calendar are reached without a panic. -/
theorem addDays_of_range {date : Date} {n : Int}
    (h : minDay ≤ date.day + n ∧ date.day + n ≤ maxDay) :
    addDays date n = .ok ⟨date.day + n, h⟩ :=
  addDays_ok_iff.2 rfl

end Date

/-! ## Durations -/

/-- `time::Duration`, in nanoseconds. -/
structure Duration where
  nanos : Int
deriving Repr, DecidableEq

def nanosPerSecond : Int := 1000000000

def nanosPerDay : Int := 86400000000000

/-- `Duration::minutes`, which panics when the seconds overflow an `i64`. -/
def Duration.minutes (n : Int) : Except Panic Duration :=
  if FitsI64 (n * 60) then .ok ⟨n * 60 * nanosPerSecond⟩ else .error .durationOverflow

theorem Duration.minutes_ok_iff {n : Int} {d : Duration} :
    Duration.minutes n = .ok d ↔ FitsI64 (n * 60) ∧ d.nanos = n * 60 * nanosPerSecond := by
  unfold Duration.minutes
  split
  · rename_i h
    simp only [Except.ok.injEq, h, true_and]
    constructor
    · rintro rfl
      rfl
    · intro hd
      rw [← hd]
  · rename_i h
    simp [h]

/-- `Duration::days`, which panics when the seconds overflow an `i64`. -/
def Duration.days (n : Int) : Except Panic Duration :=
  if FitsI64 (n * 86400) then .ok ⟨n * nanosPerDay⟩ else .error .durationOverflow

/-! ## Instants -/

/-- `time::OffsetDateTime`: an instant, and the offset in seconds its wall clock is read at. -/
@[ext] structure OffsetDateTime where
  /-- nanoseconds from the Unix epoch -/
  nanos : Int
  offset : Int
  inRange : minDay * nanosPerDay ≤ nanos + offset * nanosPerSecond ∧
    nanos + offset * nanosPerSecond < (maxDay + 1) * nanosPerDay
deriving DecidableEq

namespace OffsetDateTime

/-- Comparison is between instants, whatever the offsets. -/
instance : LT OffsetDateTime := ⟨fun a b => a.nanos < b.nanos⟩

instance : LE OffsetDateTime := ⟨fun a b => a.nanos ≤ b.nanos⟩

instance (a b : OffsetDateTime) : Decidable (a < b) :=
  inferInstanceAs (Decidable (a.nanos < b.nanos))

instance (a b : OffsetDateTime) : Decidable (a ≤ b) :=
  inferInstanceAs (Decidable (a.nanos ≤ b.nanos))

theorem lt_iff {a b : OffsetDateTime} : a < b ↔ a.nanos < b.nanos := Iff.rfl

theorem le_iff {a b : OffsetDateTime} : a ≤ b ↔ a.nanos ≤ b.nanos := Iff.rfl

/-- Nanoseconds on the wall clock at the instant's own offset. -/
def wall (t : OffsetDateTime) : Int := t.nanos + t.offset * nanosPerSecond

/-- The date on the wall clock. -/
def date (t : OffsetDateTime) : Date where
  day := t.wall / nanosPerDay
  inRange := by
    have h := t.inRange
    unfold wall
    unfold nanosPerDay at *
    omega

/-- The instant a wall clock shows at an offset, if the clock shows a date of the calendar. -/
def ofWall (wall offset : Int) : Option OffsetDateTime :=
  if h : minDay * nanosPerDay ≤ wall ∧ wall < (maxDay + 1) * nanosPerDay then
    some ⟨wall - offset * nanosPerSecond, offset, by omega⟩
  else none

theorem ofWall_eq_some_iff {wall offset : Int} {t : OffsetDateTime} :
    ofWall wall offset = some t ↔ t.wall = wall ∧ t.offset = offset := by
  unfold ofWall
  split
  · rename_i h
    rw [Option.some.injEq, OffsetDateTime.ext_iff]
    simp only [OffsetDateTime.wall]
    constructor
    · rintro ⟨hn, ho⟩
      rw [← hn, ← ho]
      omega
    · rintro ⟨hn, rfl⟩
      omega
  · rename_i h
    have := t.inRange
    simp only [reduceCtorEq, false_iff]
    rintro ⟨rfl, -⟩
    exact h this

theorem ofWall_isSome_iff {wall offset : Int} : (ofWall wall offset).isSome ↔
    minDay * nanosPerDay ≤ wall ∧ wall < (maxDay + 1) * nanosPerDay := by
  unfold ofWall
  split <;> rename_i h <;> simp [h]

/-- `Date::with_time(MIDNIGHT).assume_offset` -/
def midnight (date : Date) (offset : Int) : OffsetDateTime where
  nanos := date.day * nanosPerDay - offset * nanosPerSecond
  offset := offset
  inRange := by
    have h := date.inRange
    unfold nanosPerDay
    omega

@[simp] theorem nanos_midnight (date : Date) (offset : Int) :
    (midnight date offset).nanos = date.day * nanosPerDay - offset * nanosPerSecond := rfl

@[simp] theorem offset_midnight (date : Date) (offset : Int) :
    (midnight date offset).offset = offset := rfl

/-- `to_offset`: the same instant on another wall clock. -/
def toOffset (t : OffsetDateTime) (offset : Int) : Except Panic OffsetDateTime :=
  match ofWall (t.nanos + offset * nanosPerSecond) offset with
  | some result => .ok result
  | none => .error .offsetRange

theorem toOffset_ok_iff {t result : OffsetDateTime} {offset : Int} :
    t.toOffset offset = .ok result ↔ result.nanos = t.nanos ∧ result.offset = offset := by
  have hsome := @ofWall_eq_some_iff (t.nanos + offset * nanosPerSecond) offset result
  have hiff : (result.wall = t.nanos + offset * nanosPerSecond ∧ result.offset = offset) ↔
      (result.nanos = t.nanos ∧ result.offset = offset) := by
    unfold wall
    constructor
    · rintro ⟨h, rfl⟩
      exact ⟨by omega, rfl⟩
    · rintro ⟨h, rfl⟩
      exact ⟨by omega, rfl⟩
  rw [hiff] at hsome
  unfold toOffset
  rw [← hsome]
  split <;> rename_i h <;> simp [h]

theorem toOffset_isOk_iff {t : OffsetDateTime} {offset : Int} :
    (∃ result, t.toOffset offset = .ok result) ↔
      minDay * nanosPerDay ≤ t.nanos + offset * nanosPerSecond ∧
        t.nanos + offset * nanosPerSecond < (maxDay + 1) * nanosPerDay := by
  rw [← @ofWall_isSome_iff _ offset]
  unfold toOffset
  split <;> rename_i h <;> simp [h]

/-- The wall clock of UTC shows the instant's own nanoseconds. -/
theorem toUtc_isOk_iff {t : OffsetDateTime} : (∃ result, t.toOffset 0 = .ok result) ↔
    minDay * nanosPerDay ≤ t.nanos ∧ t.nanos < (maxDay + 1) * nanosPerDay := by
  rw [toOffset_isOk_iff, Int.zero_mul, Int.add_zero]

/-- `checked_add` -/
def checkedAdd (t : OffsetDateTime) (d : Duration) : Option OffsetDateTime :=
  ofWall (t.wall + d.nanos) t.offset

theorem checkedAdd_eq_some {t result : OffsetDateTime} {d : Duration}
    (h : t.checkedAdd d = some result) :
    result.nanos = t.nanos + d.nanos ∧ result.offset = t.offset := by
  obtain ⟨hwall, hoffset⟩ := ofWall_eq_some_iff.1 h
  unfold wall at hwall
  rw [hoffset] at hwall
  exact ⟨by omega, hoffset⟩

theorem checkedAdd_isSome_iff {t : OffsetDateTime} {d : Duration} : (t.checkedAdd d).isSome ↔
    minDay * nanosPerDay ≤ t.wall + d.nanos ∧ t.wall + d.nanos < (maxDay + 1) * nanosPerDay :=
  ofWall_isSome_iff

/-- The `+` operator on instants. -/
def add (t : OffsetDateTime) (d : Duration) : Except Panic OffsetDateTime :=
  match t.checkedAdd d with
  | some result => .ok result
  | none => .error .dateTimeRange

theorem add_ok {t result : OffsetDateTime} {d : Duration} (h : t.add d = .ok result) :
    t.checkedAdd d = some result := by
  unfold add at h
  split at h
  · rename_i found hfound
    cases h
    exact hfound
  · cases h

/-- The `-` operator on instants. -/
def sub (t : OffsetDateTime) (d : Duration) : Except Panic OffsetDateTime :=
  t.add ⟨-d.nanos⟩

end OffsetDateTime

/-- A reading of the machine's clock, which is past the Unix epoch. -/
@[ext] structure Instant where
  nanos : Int
  inRange : 0 ≤ nanos ∧ nanos < (maxDay + 1) * nanosPerDay
deriving DecidableEq

namespace Instant

instance : Preorder Instant where
  le a b := a.nanos ≤ b.nanos
  lt a b := a.nanos < b.nanos
  le_refl a := Int.le_refl a.nanos
  le_trans _ _ _ := Int.le_trans
  lt_iff_le_not_ge _ _ := Int.lt_iff_le_and_not_ge

instance (a b : Instant) : Decidable (a ≤ b) := inferInstanceAs (Decidable (a.nanos ≤ b.nanos))

theorem le_iff {a b : Instant} : a ≤ b ↔ a.nanos ≤ b.nanos := Iff.rfl

/-- `OffsetDateTime::now_utc` -/
def utc (t : Instant) : OffsetDateTime where
  nanos := t.nanos
  offset := 0
  inRange := by
    have h := t.inRange
    unfold minDay nanosPerDay at *
    omega

@[simp] theorem nanos_utc (t : Instant) : t.utc.nanos = t.nanos := rfl

@[simp] theorem offset_utc (t : Instant) : t.utc.offset = 0 := rfl

end Instant

end PartnerPortal
