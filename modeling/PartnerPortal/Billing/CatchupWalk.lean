import PartnerPortal.Billing.Generator
import PartnerPortal.Lib.Loop

/-!
# The catch-up walk

A walk goes from the day after the last closed one to the newest closeable one, and no further back
than thirty days before it.  Its loop steps to the day behind the newest closeable one before it
ends, so that day is computed too, and like the others it may be past the calendar.

Results:
- `walkLoop_eq_pushDays` — the loop pushes the days counted beforehand and ends;
- `daysToClose_exact` — the days of a walk, the warning that goes with them, and when it panics.
-/

namespace PartnerPortal

namespace Generator

/-- `while day <= through` -/
def walkTest (through : BillingDay) (state : List BillingDay × BillingDay) : Bool :=
  state.2 ≤ through

/-- `days.push(day); day = day.next();` -/
def walkTurn (state : List BillingDay × BillingDay) :
    Except Panic (List BillingDay × BillingDay) := do
  let next ← BillingDay.next state.2
  return (state.1 ++ [state.2], next)

/-- The loop of `days_to_close`, for at most a number of turns. -/
def walkLoop (through : BillingDay) (turns : Nat) (days : List BillingDay) (day : BillingDay) :
    Except Panic (Option (List BillingDay)) := do
  let left ← Loop.whileTurns (walkTest through) walkTurn turns (days, day)
  return left.map Prod.fst

/-- `days_to_close`, with its loop. -/
def daysToCloseLoop (iso : Iso8601) (lastClosed : Option String) (through : BillingDay)
    (turns : Nat) : Except Panic (Option (List BillingDay)) := do
  let day ← walkStart iso lastClosed through
  walkLoop through turns [] day

/-- The days the walk computes are in the calendar: its bound, the day after the last closed one,
and the day after the newest closeable one. -/
structure WalkSupported (last : Option BillingDay) (through : BillingDay) : Prop where
  bound : minDay ≤ through.day - 30
  next : through.day + 1 ≤ maxDay
  last : ∀ day ∈ last, day.day + 1 ≤ maxDay

/-- The walk from a last closed day, if there is one, to the newest closeable day. -/
structure WalkExact (iso : Iso8601) (lastClosed : Option String) (through : BillingDay)
    (days : List BillingDay) : Prop where
  /-- the day numbers follow each other -/
  run : days.map Date.day =
    dayRun (startAfter ((lastClosed.bind (BillingDay.parse iso)).map Date.day) through.day)
      (through.day + 1 -
        startAfter ((lastClosed.bind (BillingDay.parse iso)).map Date.day) through.day).toNat
  bounded : days.length ≤ 31
  caughtUp : ∀ last, lastClosed.bind (BillingDay.parse iso) = some last → through ≤ last → days = []
  /-- the warning says whether a day is left out -/
  truncated : ∀ last, lastClosed.bind (BillingDay.parse iso) = some last →
    ∃ cut, catchupTruncated iso lastClosed through = .ok cut ∧
      (cut = true ↔ ∃ day, last < day ∧ day ≤ through ∧ day ∉ days)

section Walk

variable {iso : Iso8601} {lastClosed : Option String} {through : BillingDay}

/-- The loop pushes each day from where it is to the newest closeable one, and ends behind it. -/
theorem walkLoop_eq_pushDays {n turns : Nat} {days : List BillingDay} {day : BillingDay}
    (hn : (through.day + 1 - day.day).toNat = n) (hturns : n < turns) :
    walkLoop through turns days day = pushDays n day >>= fun rest => .ok (some (days ++ rest)) := by
  induction n generalizing turns days day with
  | zero =>
    obtain ⟨turns, rfl⟩ := Nat.exists_eq_succ_of_ne_zero (Nat.ne_zero_of_lt hturns)
    have hpast : walkTest through (days, day) = false := by
      simp only [walkTest, Date.le_iff, decide_eq_false_iff_not]
      omega
    rw [walkLoop, Loop.whileTurns_done hpast]
    simp [pushDays]
  | succ n ih =>
    obtain ⟨turns, rfl⟩ := Nat.exists_eq_succ_of_ne_zero (Nat.ne_zero_of_lt hturns)
    have hle : walkTest through (days, day) = true := by
      simp only [walkTest, Date.le_iff, decide_eq_true_eq]
      omega
    rw [walkLoop, Loop.whileTurns_turn hle, walkTurn, pushDays]
    cases hnext : BillingDay.next day with
    | error panic => rfl
    | ok next =>
      have hday := Date.addDays_ok_iff.1 hnext
      have hrest := @ih turns (days ++ [day]) next (by omega) (by omega)
      show walkLoop through turns (days ++ [day]) next = _
      rw [hrest, Result.ok_bind]
      cases pushDays n next with
      | error panic => rfl
      | ok rest => simp

/-- The loop ends within thirty-two turns, with the list or the panic of the walk. -/
theorem daysToCloseLoop_eq {turns : Nat} (hturns : 31 < turns) :
    daysToCloseLoop iso lastClosed through turns = some <$> daysToClose iso lastClosed through := by
  rw [daysToCloseLoop, daysToClose]
  cases hstart : walkStart iso lastClosed through with
  | error panic => rfl
  | ok day =>
    have hlow := startAfter_ge ((lastClosed.bind (BillingDay.parse iso)).map Date.day) through.day
    rw [← walkStart_ok hstart] at hlow
    rw [Result.ok_bind, Result.ok_bind, walkLoop_eq_pushDays rfl (by omega)]
    cases pushDays (through.day + 1 - day.day).toNat day with
    | error panic => rfl
    | ok days => rfl

/-- A walk whose dates are not all in the calendar panics. -/
theorem walkSupported_of_isOk {days : List BillingDay}
    (h : daysToClose iso lastClosed through = .ok days) :
    WalkSupported (lastClosed.bind (BillingDay.parse iso)) through := by
  obtain ⟨day, hday, hpush⟩ := Result.bind_ok_iff.1 h
  obtain ⟨floor, hfloor, hafter⟩ := Result.bind_ok_iff.1 hday
  obtain ⟨next, hnext, -⟩ := Result.bind_ok_iff.1 hafter
  have hfloorDay := Date.addDays_ok_iff.1 hfloor
  have hbound : minDay ≤ through.day - 30 := by
    have hin := floor.inRange
    unfold maxCatchupDays at hfloorDay
    omega
  have hlast : ∀ last ∈ lastClosed.bind (BillingDay.parse iso), last.day + 1 ≤ maxDay := by
    intro last hclosed
    rw [afterLast, hclosed] at hnext
    rw [← Date.addDays_ok_iff.1 hnext]
    exact next.inRange.2
  have hmax := pushDays_range hpush
  exact ⟨hbound, by omega, hlast⟩

/-- The warning is computed where the walk is. -/
theorem catchupTruncated_ok {last : BillingDay}
    (h : WalkSupported (lastClosed.bind (BillingDay.parse iso)) through)
    (hlast : lastClosed.bind (BillingDay.parse iso) = some last) :
    catchupTruncated iso lastClosed through =
      .ok (decide (last.day + 1 < through.day - 30)) := by
  have hnext : minDay ≤ last.day + 1 ∧ last.day + 1 ≤ maxDay := by
    have hin := last.inRange
    have hmax := h.last last hlast
    omega
  have hfloor : minDay ≤ through.day + -(maxCatchupDays - 1) ∧
      through.day + -(maxCatchupDays - 1) ≤ maxDay := by
    have hbound := h.bound
    have hin := through.inRange
    unfold maxCatchupDays
    omega
  have hnextOk : BillingDay.next last = .ok ⟨last.day + 1, hnext⟩ := Date.addDays_of_range hnext
  have hfloorOk : oldestCloseable through = .ok ⟨through.day + -(maxCatchupDays - 1), hfloor⟩ :=
    Date.addDays_of_range hfloor
  simp only [catchupTruncated, hlast, hnextOk, hfloorOk, Result.ok_bind, Result.pure_eq,
    Date.lt_iff, maxCatchupDays]
  rfl

/-- The walk starts behind the last closed day exactly if the bound cuts nothing off. -/
theorem cut_iff {last : BillingDay} {days : List BillingDay}
    (hlast : lastClosed.bind (BillingDay.parse iso) = some last)
    (hdays : daysToClose iso lastClosed through = .ok days) :
    last.day + 1 < through.day - 30 ↔ ∃ day, last < day ∧ day ≤ through ∧ day ∉ days := by
  have hmem := mem_daysToClose hdays
  rw [hlast, Option.map_some, startAfter, maxCatchupDays] at hmem
  simp only [hmem, Date.lt_iff, Date.le_iff]
  have hsupported := walkSupported_of_isOk hdays
  constructor
  · intro hcut
    -- the day after the last closed one is left out
    have hin := last.inRange
    have hmax := hsupported.last last hlast
    refine ⟨⟨last.day + 1, by omega⟩, ?_, ?_, ?_⟩ <;> simp only <;> omega
  · rintro ⟨day, hafter, hthrough, hout⟩
    omega

theorem walkExact_of_ok {days : List BillingDay}
    (h : daysToClose iso lastClosed through = .ok days) :
    WalkExact iso lastClosed through days := by
  have hrun := daysToClose_ok h
  have hlength := congrArg List.length hrun
  rw [List.length_map, length_dayRun] at hlength
  refine ⟨hrun, ?_, fun last hlast hthrough => ?_, fun last hlast => ?_⟩
  · have hstart :=
      startAfter_ge ((lastClosed.bind (BillingDay.parse iso)).map Date.day) through.day
    omega
  · rw [hlast, Option.map_some, startAfter] at hlength
    refine List.eq_nil_of_length_eq_zero ?_
    rw [Date.le_iff] at hthrough
    omega
  · refine ⟨_, catchupTruncated_ok (walkSupported_of_isOk h) hlast, ?_⟩
    rw [decide_eq_true_iff]
    exact cut_iff hlast h

/-- The walk is exact where its dates are in the calendar and panics elsewhere.  Its loop ends. -/
theorem daysToClose_exact (iso : Iso8601) (lastClosed : Option String) (through : BillingDay) :
    (WalkSupported (lastClosed.bind (BillingDay.parse iso)) through →
      ∃ days, daysToClose iso lastClosed through = .ok days ∧
        WalkExact iso lastClosed through days) ∧
    (¬WalkSupported (lastClosed.bind (BillingDay.parse iso)) through →
      ∃ panic, daysToClose iso lastClosed through = .error panic) ∧
    ∀ turns, 31 < turns →
      daysToCloseLoop iso lastClosed through turns =
        some <$> daysToClose iso lastClosed through := by
  refine ⟨fun hsupported => ?_, fun hnot => ?_, fun turns => daysToCloseLoop_eq⟩
  · obtain ⟨days, hdays⟩ := daysToClose_isOk hsupported.next hsupported.bound hsupported.last
    exact ⟨days, hdays, walkExact_of_ok hdays⟩
  · cases hdays : daysToClose iso lastClosed through with
    | ok days => exact absurd (walkSupported_of_isOk hdays) hnot
    | error panic => exact ⟨panic, rfl⟩

end Walk

/-- Two days are owed on 2026-09-27 after 2026-09-25. -/
theorem daysToClose_exact_week : ∃ days,
    daysToClose Sample.iso (some "2026-09-25") ⟨20723, by decide⟩ = .ok days ∧
      WalkExact Sample.iso (some "2026-09-25") ⟨20723, by decide⟩ days := by
  have hlast : (some "2026-09-25").bind (BillingDay.parse Sample.iso) =
      some ⟨20721, by decide⟩ := by
    decide +kernel
  refine (daysToClose_exact Sample.iso (some "2026-09-25") ⟨20723, by decide⟩).1
    ⟨by decide, by decide, ?_⟩
  rw [hlast]
  rintro last ⟨⟩
  decide

end Generator

end PartnerPortal
