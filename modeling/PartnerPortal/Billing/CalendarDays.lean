import PartnerPortal.Billing.Store

/-!
# The billing calendar

At one offset the billing days cut time into pieces that neither overlap nor leave a gap, and the
aggregate, which compares texts, reads from each day exactly the rows whose instants fall on it.

Results:
- `mem_inPeriod_iff_contains` — the read of a period selects the rows whose instants it holds;
- `billing_days_partition` — the three computations of a row's day agree.
-/

namespace PartnerPortal

/-- A day of the calendar with a day on either side of it. -/
def Interior (day : Int) : Prop := minDay < day ∧ day < maxDay

namespace BillingDay

/-- Away from the ends of the calendar every instant has a billing day. -/
theorem of_isOk_of_interior {instant : OffsetDateTime} (tz : BillingTimezone)
    (h : Interior (instant.nanos / nanosPerDay)) : ∃ day, of instant tz = .ok day := by
  have htz := tz.utcOffset_range
  obtain ⟨hmin, hmax⟩ := h
  rw [of_isOk_iff]
  unfold nanosPerDay nanosPerSecond at *
  omega

theorem next_isOk_of_interior {day : BillingDay} (h : Interior day.day) :
    ∃ tomorrow, next day = .ok tomorrow ∧ tomorrow.day = day.day + 1 := by
  have hrange : minDay ≤ day.day + 1 ∧ day.day + 1 ≤ maxDay := by
    obtain ⟨hmin, hmax⟩ := h
    omega
  exact ⟨_, Date.addDays_of_range hrange, rfl⟩

end BillingDay

namespace BillingPeriod

theorem forDay_eq {day tomorrow : BillingDay} (tz : BillingTimezone)
    (h : BillingDay.next day = .ok tomorrow) :
    forDay day tz =
      .ok { start := BillingDay.startUtc day tz, finish := BillingDay.startUtc tomorrow tz } := by
  unfold forDay BillingDay.endExclusiveUtc
  rw [h]
  rfl

/-- Away from the ends of the calendar a day has a period, and its bounds can be stored. -/
theorem forDay_isOk_of_interior {day : BillingDay} (tz : BillingTimezone)
    (h : Interior day.day) :
    ∃ period bounds, forDay day tz = .ok period ∧ period.toBounds = .ok bounds := by
  obtain ⟨tomorrow, htomorrow, hday⟩ := BillingDay.next_isOk_of_interior h
  have htz := tz.utcOffset_range
  obtain ⟨hmin, hmax⟩ := h
  have hrange : ∀ d : BillingDay, minDay < d.day → d.day ≤ maxDay →
      ∃ text, formatTs (BillingDay.startUtc d tz) = .ok text := by
    intro d hd hd'
    rw [formatTs_isOk_iff, BillingDay.nanos_startUtc]
    unfold BillingDay.startNanos nanosPerDay nanosPerSecond
    omega
  obtain ⟨start, hstart⟩ := hrange day hmin (by omega)
  obtain ⟨finish, hfinish⟩ := hrange tomorrow (by omega) (by omega)
  refine ⟨_, (start, finish), forDay_eq tz htomorrow, ?_⟩
  unfold toBounds
  rw [hstart, hfinish]
  rfl

/-- The bounds of a period compare with the text of an unsigned year as the instants do. -/
theorem selected_iff_contains {day : BillingDay} {tz : BillingTimezone} {period : BillingPeriod}
    {bounds : String × String} {t : OffsetDateTime} {text : String}
    (hperiod : forDay day tz = .ok period) (hbounds : period.toBounds = .ok bounds)
    (hinterior : Interior day.day) (hyear : FourDigitYear (t.nanos / nanosPerDay))
    (htext : formatTs t = .ok text) :
    (¬ text < bounds.1 ∧ text < bounds.2) ↔ period.contains t = true := by
  obtain ⟨hstart, hfinish⟩ := forDay_ok hperiod
  obtain ⟨hfirst, hsecond⟩ := toBounds_ok hbounds
  have htz := tz.utcOffset_range
  obtain ⟨hmin, hmax⟩ := hinterior
  have hbound : ∀ d : Int, d ≤ maxDay →
      BillingDay.startNanos d tz < (maxDay + 1) * nanosPerDay := by
    intro d hd
    unfold BillingDay.startNanos nanosPerDay nanosPerSecond
    omega
  have hlt : ∀ d : Int, d ≤ maxDay →
      (text < String.ofList (tsText (BillingDay.startNanos d tz)) ↔
        t.nanos < BillingDay.startNanos d tz) := by
    intro d hd
    rw [formatTs_ok htext, FixedWidth.ofList_lt_iff, tsText_lt_bound_iff hyear (hbound d hd)]
  rw [hfirst, hsecond, hstart, hfinish, hlt day.day (by omega), hlt (day.day + 1) (by omega),
    contains, Bool.and_eq_true, decide_eq_true_eq, decide_eq_true_eq, OffsetDateTime.le_iff,
    OffsetDateTime.lt_iff, hstart, hfinish, Int.not_lt]

end BillingPeriod

/-- The read of a period selects the rows whose instants it holds. -/
theorem mem_inPeriod_iff_contains {usage : List UsageRow} {consumerId : String} {row : UsageRow}
    {day : BillingDay} {tz : BillingTimezone} {period : BillingPeriod} {bounds : String × String}
    {t : OffsetDateTime} (hperiod : BillingPeriod.forDay day tz = .ok period)
    (hbounds : period.toBounds = .ok bounds) (hinterior : Interior day.day)
    (hyear : FourDigitYear (t.nanos / nanosPerDay)) (hrow : formatTs t = .ok row.createdAt) :
    row ∈ inPeriod usage consumerId bounds.1 bounds.2 ↔
      row ∈ usage ∧ row.consumerId = consumerId ∧ period.contains t = true := by
  rw [← BillingPeriod.selected_iff_contains hperiod hbounds hinterior hyear hrow, inPeriod,
    List.mem_filter]
  simp [and_assoc]

/-- At one offset, and a day away from the ends of the calendar: the period of a day holds the
instants that fall on it, it ends where the next one starts, the read by text selects the rows
whose instants it holds, and a row is read on exactly one day. -/
theorem billing_days_partition (tz : BillingTimezone) :
    (∀ (day : BillingDay) (t : OffsetDateTime),
      Interior day.day → Interior (t.nanos / nanosPerDay) →
      ∃ period today, BillingPeriod.forDay day tz = .ok period ∧ BillingDay.of t tz = .ok today ∧
        (period.contains t = true ↔ today = day)) ∧
    (∀ day tomorrow : BillingDay, Interior day.day → Interior tomorrow.day →
      BillingDay.next day = .ok tomorrow →
      ∃ period following, BillingPeriod.forDay day tz = .ok period ∧
        BillingPeriod.forDay tomorrow tz = .ok following ∧ period.finish = following.start) ∧
    (∀ (day : BillingDay) (usage : List UsageRow) (consumerId : String), Interior day.day →
      ∃ period bounds, BillingPeriod.forDay day tz = .ok period ∧ period.toBounds = .ok bounds ∧
        ∀ (row : UsageRow) (t : OffsetDateTime), FourDigitYear (t.nanos / nanosPerDay) →
          formatTs t = .ok row.createdAt →
          (row ∈ inPeriod usage consumerId bounds.1 bounds.2 ↔
            row ∈ usage ∧ row.consumerId = consumerId ∧ period.contains t = true)) ∧
    (∀ (usage : List UsageRow) (row : UsageRow) (t : OffsetDateTime) (today : BillingDay),
      row ∈ usage → FourDigitYear (t.nanos / nanosPerDay) → formatTs t = .ok row.createdAt →
      BillingDay.of t tz = .ok today → Interior today.day →
      ∀ (day : BillingDay) (period : BillingPeriod) (bounds : String × String),
        Interior day.day → BillingPeriod.forDay day tz = .ok period →
        period.toBounds = .ok bounds →
        (row ∈ inPeriod usage row.consumerId bounds.1 bounds.2 ↔ day = today)) := by
  refine ⟨?_, ?_, ?_, ?_⟩
  · intro day t hday ht
    obtain ⟨period, -, hperiod, -⟩ := BillingPeriod.forDay_isOk_of_interior tz hday
    obtain ⟨today, htoday⟩ := BillingDay.of_isOk_of_interior tz ht
    exact ⟨period, today, hperiod, htoday, BillingPeriod.contains_iff_of hperiod htoday⟩
  · intro day tomorrow hday htomorrow hnext
    obtain ⟨afterwards, hafterwards, -⟩ := BillingDay.next_isOk_of_interior htomorrow
    exact ⟨_, _, BillingPeriod.forDay_eq tz hnext, BillingPeriod.forDay_eq tz hafterwards, rfl⟩
  · intro day usage consumerId hday
    obtain ⟨period, bounds, hperiod, hbounds⟩ := BillingPeriod.forDay_isOk_of_interior tz hday
    refine ⟨period, bounds, hperiod, hbounds, fun row t hyear hrow => ?_⟩
    exact mem_inPeriod_iff_contains hperiod hbounds hday hyear hrow
  · intro usage row t today hmem hyear hrow htoday hinterior day period bounds hday hperiod hbounds
    rw [mem_inPeriod_iff_contains hperiod hbounds hday hyear hrow,
      BillingPeriod.contains_iff_of hperiod htoday]
    constructor
    · rintro ⟨-, -, rfl⟩
      rfl
    · rintro rfl
      exact ⟨hmem, rfl, rfl⟩

end PartnerPortal
