import PartnerPortal.Dashboard.ClientTimestamps
import PartnerPortal.Ledger.Recovery

/-!
# The hour of a stored text

A retraction and a recovery name a bucket by the stored text of a row, whoever wrote it.  A text of
the canonical shape is cut behind its hour, and only the others are parsed.  The shape says nothing
of the offset at the end, so a text of another clock is filed under that clock's hour.

Results:
- `named_clock` — a text of the shape shows the hour of its own clock;
- `hourExact_iff` — the bucket is the instant's exactly if the offset keeps the hour, for a text of
  the shape, and if parsing does not leave the calendar, for any other.
-/

namespace PartnerPortal

open FixedWidth Dashboard

/-- The guard of the fast path. -/
def CanonicalShape (stored : String) : Prop :=
  20 ≤ stored.utf8ByteSize ∧ charAtByte stored.toList 4 = some '-' ∧
    charAtByte stored.toList 7 = some '-' ∧ charAtByte stored.toList 10 = some 'T'

instance (stored : String) : Decidable (CanonicalShape stored) :=
  inferInstanceAs (Decidable (_ ∧ _))

/-- An ISO 8601 text with dashes in its date starts with the date and the hour of its clock. -/
def Iso8601.Extended (iso : Iso8601) : Prop :=
  ∀ text ts, iso.dateTime text = some ts → CanonicalShape text → hourText ts.wall <+: text.toList

/-- The bucket taken from a text is the one of the instant that the text is parsed as, and a text
that is parsed as none has a bucket too. -/
structure HourExact (iso : Iso8601) (text : String) : Prop where
  parsed : ∀ ts, parseTs iso text = .ok (some ts) →
    ∃ hour, formatHour ts = .ok hour ∧ formatHourStr iso text = .ok hour
  unparsed : (∀ ts, parseTs iso text ≠ .ok (some ts)) → ∃ hour, formatHourStr iso text = .ok hour

/-- In UTC it is the same hour as on the instant's own clock. -/
def OffsetDateTime.KeepsHour (ts : OffsetDateTime) : Prop :=
  0 ≤ ts.wall % nanosPerHour - ts.offset * nanosPerSecond ∧
    ts.wall % nanosPerHour - ts.offset * nanosPerSecond < nanosPerHour

instance (ts : OffsetDateTime) : Decidable ts.KeepsHour :=
  inferInstanceAs (Decidable (_ ∧ _))

/-- An instant named in the shape has an offset that keeps the hour, if UTC is in the calendar, and
one that is named by any other text has UTC in the calendar. -/
structure HourSafe (iso : Iso8601) (text : String) : Prop where
  shaped : CanonicalShape text →
    ∀ ts, namedInstant iso text = some ts → InCalendar ts → ts.KeepsHour
  unshaped : ¬CanonicalShape text → NamesDate iso text

theorem OffsetDateTime.keepsHour_iff {ts : OffsetDateTime} :
    ts.KeepsHour ↔ ts.wall / nanosPerHour = ts.nanos / nanosPerHour := by
  unfold KeepsHour wall nanosPerHour nanosPerSecond
  omega

/-! ## The shape -/

section Shape

variable {iso : Iso8601} {text : String}

theorem formatHourStr_eq (iso : Iso8601) (text : String) : formatHourStr iso text =
    match (if CanonicalShape text then bytePrefix text.toList 13 else none) with
    | some hour => .ok (String.ofList hour)
    | none => parseTs iso text >>= fun parsed =>
      match parsed with
      | some ts => formatHour ts
      | none => return String.ofList (text.toList.take 13) := rfl

/-- The year of a date has no sign where a dash is behind four characters. -/
theorem fourDigitYear_of_dash {day : Int} {rest : List Char} (hmax : day ≤ maxDay)
    (h : charAtByte (dateText day ++ rest) 4 = some '-') : FourDigitYear day := by
  rw [fourDigitYear_iff]
  refine ⟨?_, hmax⟩
  by_contra hlow
  have hyear := civil_year_neg (not_le.1 hlow)
  generalize hdigits : (-(Calendar.civil day).year).toNat = digits
  -- the fifth character is then the last digit of the year
  have hstart : dateText day ++ rest = ('-' :: pad 4 digits) ++ (dateText day ++ rest).drop 5 := by
    simp [dateText, yearText, hyear, hdigits, pad]
  have hone : OneByte ('-' :: pad 4 digits) := OneByte.cons_iff.2 ⟨by decide, oneByte_pad 4 digits⟩
  rw [hstart, hone.charAtByte_append _ (by simp)] at h
  simp [pad] at h

/-- A text of the shape starts with the date and the hour of the clock of the instant it names. -/
theorem named_clock (h : iso.Extended) {ts : OffsetDateTime}
    (hnamed : namedInstant iso text = some ts) (hshape : CanonicalShape text) :
    FourDigitYear (ts.wall / nanosPerDay) ∧ hourText ts.wall <+: text.toList := by
  rw [namedInstant, Option.or_eq_some_iff] at hnamed
  obtain hread | ⟨-, hiso⟩ := hnamed
  · obtain ⟨nanos, hnanos, hwall⟩ := Option.bind_eq_some_iff.1 hread
    obtain ⟨hyear, htext⟩ := readTs_eq_some hnanos
    rw [(OffsetDateTime.ofWall_eq_some_iff.1 hwall).1, htext]
    exact ⟨hyear, hourText_isPrefix nanos⟩
  · have hstart := h text ts hiso hshape
    refine ⟨?_, hstart⟩
    obtain ⟨rest, hrest⟩ := hstart
    have hdash := hshape.2.1
    rw [← hrest, hourText, List.append_assoc] at hdash
    refine fourDigitYear_of_dash ?_ hdash
    have hin := ts.inRange
    unfold OffsetDateTime.wall
    unfold nanosPerDay at *
    omega

/-- Its bucket is that hour. -/
theorem formatHourStr_named (h : iso.Extended) {ts : OffsetDateTime}
    (hnamed : namedInstant iso text = some ts) (hshape : CanonicalShape text) :
    formatHourStr iso text = .ok (String.ofList (hourText ts.wall)) := by
  obtain ⟨hyear, rest, hrest⟩ := named_clock h hnamed hshape
  have hcut : bytePrefix text.toList 13 = some (hourText ts.wall) := by
    rw [← hrest, ← length_hourText hyear]
    exact (oneByte_hourText ts.wall).bytePrefix_append rest
  rw [formatHourStr_eq, if_pos hshape, hcut]

/-- A text that names no instant has a bucket. -/
theorem formatHourStr_unnamed (hnamed : namedInstant iso text = none) :
    ∃ hour, formatHourStr iso text = .ok hour := by
  have hparse : parseTs iso text = .ok none := by
    rw [parseTs_eq, hnamed]
  rw [formatHourStr_eq, hparse]
  split
  · exact ⟨_, rfl⟩
  · exact ⟨_, rfl⟩

theorem formatHourStr_unshaped (hshape : ¬CanonicalShape text) : formatHourStr iso text =
    parseTs iso text >>= fun parsed =>
      match parsed with
      | some ts => formatHour ts
      | none => return String.ofList (text.toList.take 13) := by
  rw [formatHourStr_eq, if_neg hshape]

end Shape

/-! ## The bucket -/

section Exact

variable {iso : Iso8601} {text : String}

/-- A clock of an unsigned year shows the hour of UTC exactly if its offset keeps the hour. -/
theorem hourText_wall_iff {ts : OffsetDateTime} (hyear : FourDigitYear (ts.wall / nanosPerDay))
    (hin : InCalendar ts) : hourText ts.wall = hourText ts.nanos ↔ ts.KeepsHour := by
  rw [OffsetDateTime.keepsHour_iff]
  refine ⟨fun htext => ?_, hourText_congr⟩
  rcases yearNeg_or_fourDigitYear hin.2 with hneg | hutc
  · -- the text of a year with a sign sorts before that of any other
    have hlt : hourText ts.nanos < hourText ts.wall := dateText_lt_of_year_neg hneg hyear _ _
    rw [htext] at hlt
    exact absurd hlt (List.lt_irrefl _)
  · exact hourText_injective hyear hutc htext

/-- What is parsed is the named instant in UTC. -/
theorem parseTs_named {ts : OffsetDateTime} (hnamed : namedInstant iso text = some ts)
    (hin : InCalendar ts) :
    ∃ utc, parseTs iso text = .ok (some utc) ∧ utc.nanos = ts.nanos := by
  obtain ⟨utc, hutc⟩ := OffsetDateTime.toUtc_isOk_iff.2 hin
  refine ⟨utc, ?_, (OffsetDateTime.toOffset_ok_iff.1 hutc).1⟩
  rw [parseTs_eq, hnamed]
  show (ts.toOffset 0 >>= fun utc => .ok (some utc)) = _
  rw [hutc]
  rfl

theorem formatHour_of_inCalendar {ts : OffsetDateTime} (hin : InCalendar ts) :
    formatHour ts = .ok (String.ofList (hourText ts.nanos)) := by
  obtain ⟨hour, hhour⟩ := formatHour_isOk_iff.2 hin
  rw [hhour, formatHour_ok hhour]

/-- A text of the shape that names a date of the calendar has the bucket of its instant exactly if
the offset keeps the hour. -/
theorem hourExact_shaped_iff (h : iso.Extended) {ts : OffsetDateTime}
    (hnamed : namedInstant iso text = some ts) (hshape : CanonicalShape text)
    (hin : InCalendar ts) : HourExact iso text ↔ ts.KeepsHour := by
  obtain ⟨utc, hparse, hnanos⟩ := parseTs_named hnamed hin
  have hutc : InCalendar utc := by
    rw [InCalendar, hnanos]
    exact hin
  have hhour := formatHour_of_inCalendar hutc
  have hstored := formatHourStr_named h hnamed hshape
  rw [hnanos] at hhour
  rw [← hourText_wall_iff (named_clock h hnamed hshape).1 hin]
  constructor
  · intro hexact
    obtain ⟨hour, hright, hnames⟩ := hexact.parsed utc hparse
    rw [hhour] at hright
    rw [hstored, ← hright] at hnames
    exact String.ofList_injective (Except.ok.inj hnames)
  · intro htext
    rw [htext] at hstored
    refine ⟨fun ts' hts' => ?_, fun hnone => absurd hparse (hnone utc)⟩
    rw [hparse] at hts'
    cases hts'
    exact ⟨_, hhour, hstored⟩

/-- A text that is not of the shape has the bucket of its instant, or none where parsing panics. -/
theorem hourExact_unshaped_iff (hshape : ¬CanonicalShape text) :
    HourExact iso text ↔ NamesDate iso text := by
  rw [← parseTs_isOk_iff]
  have hstored := @formatHourStr_unshaped iso text hshape
  constructor
  · intro hexact
    cases hparse : parseTs iso text with
    | ok parsed => exact ⟨parsed, rfl⟩
    | error panic =>
      obtain ⟨hour, hhour⟩ := hexact.unparsed (by simp [hparse])
      rw [hstored, hparse] at hhour
      cases hhour
  · rintro ⟨parsed, hparse⟩
    rw [hparse] at hstored
    cases parsed with
    | some ts =>
      obtain ⟨hour, hhour⟩ := formatHour_isOk_iff.2 (parseTs_some hparse).2
      refine ⟨fun ts' hts' => ?_, fun hnone => absurd hparse (hnone ts)⟩
      rw [hparse] at hts'
      cases hts'
      exact ⟨hour, hhour, hstored.trans hhour⟩
    | none =>
      refine ⟨fun ts' hts' => ?_, fun _ => ⟨_, hstored⟩⟩
      rw [hparse] at hts'
      cases hts'

theorem hourExact_iff (h : iso.Extended) (text : String) :
    HourExact iso text ↔ HourSafe iso text := by
  by_cases hshape : CanonicalShape text
  · have hsafe : HourSafe iso text ↔
        ∀ ts, namedInstant iso text = some ts → InCalendar ts → ts.KeepsHour :=
      ⟨fun hsafe => hsafe.shaped hshape, fun hkeeps => ⟨fun _ => hkeeps, absurd hshape⟩⟩
    rw [hsafe]
    cases hnamed : namedInstant iso text with
    | none =>
      obtain ⟨hour, hhour⟩ := formatHourStr_unnamed hnamed
      refine iff_of_true ⟨fun ts hts => ?_, fun _ => ⟨hour, hhour⟩⟩ (by simp)
      exact absurd hnamed (parseTs_some hts).1
    | some ts =>
      by_cases hin : InCalendar ts
      · rw [hourExact_shaped_iff h hnamed hshape hin]
        simp [hin]
      · -- parsing the text would panic, but it is not parsed
        refine iff_of_true ⟨fun utc hutc => ?_, fun _ => ?_⟩ ?_
        · exact absurd (parseTs_isOk_iff.1 ⟨_, hutc⟩ ts hnamed) hin
        · exact ⟨_, formatHourStr_named h hnamed hshape⟩
        · rintro ts' hts' hin'
          cases hts'
          exact absurd hin' hin
  · rw [hourExact_unshaped_iff hshape]
    exact ⟨fun hnames => ⟨fun hshape' => absurd hshape' hshape, fun _ => hnames⟩,
      fun hsafe => hsafe.unshaped hshape⟩

/-- The bucket taken from a text is its instant's exactly if the text is safe, and then a retraction
and a recovery of a row with that text name the bucket. -/
theorem formatHourStr_exact_iff (h : iso.Extended) (text : String) :
    (HourExact iso text ↔ HourSafe iso text) ∧
      ∀ row : UsageRow, row.createdAt = text → HourSafe iso text →
        ∀ ts, parseTs iso text = .ok (some ts) → ∃ hour, formatHour ts = .ok hour ∧
          storedRow iso row = .ok (StoredRow.ofColumns row hour) ∧
          ∀ hourly, rollStranded iso hourly row =
            .ok ((strandedContribution row hour).add hourly) := by
  refine ⟨hourExact_iff h text, ?_⟩
  rintro row rfl hsafe ts hparse
  obtain ⟨hour, hhour, hstored⟩ := ((hourExact_iff h row.createdAt).2 hsafe).parsed ts hparse
  refine ⟨hour, hhour, ?_, fun hourly => ?_⟩
  · rw [storedRow, hstored]
    rfl
  · rw [rollStranded, hstored]
    rfl

end Exact

/-! ## A clock ahead of UTC -/

/-- A parser of local dates and times that refuses an hour no clock shows. -/
def Sample.clockIso : Iso8601 where
  dateTime := fun text =>
    (readZoned text.toList).filter fun ts => hourText ts.wall <+: text.toList
  date := fun _ => none

theorem clockIso_dateTime (text : String) : Sample.clockIso.dateTime text =
    (readZoned text.toList).filter fun ts => hourText ts.wall <+: text.toList := rfl

theorem clockIso_extended : Sample.clockIso.Extended := by
  intro text ts hread _
  obtain ⟨-, hstart⟩ := Option.filter_eq_some_iff.1 hread
  exact of_decide_eq_true hstart

theorem ZonedTime.hourText_isPrefix (t : ZonedTime) :
    hourText (t.seconds * nanosPerSecond) <+: t.text := by
  have hday : t.seconds * nanosPerSecond / nanosPerDay = t.seconds / 86400 := by
    unfold nanosPerSecond nanosPerDay
    omega
  have hclock : (t.seconds * nanosPerSecond % nanosPerDay).toNat / 1000000000 =
      (t.seconds % 86400).toNat := by
    unfold nanosPerSecond nanosPerDay
    omega
  rw [hourText, ZonedTime.text, hday, hclock]
  refine (List.prefix_append_right_inj _).2 ?_
  exact List.cons_prefix_cons.2 ⟨rfl, List.prefix_append _ _⟩

theorem clockIso_documented : Sample.clockIso.Documented where
  zoned := by
    intro t ht
    rw [clockIso_dateTime, String.toList_ofList, readZoned_zonedText ht]
    cases hts : t.instant with
    | none => rfl
    | some ts =>
      refine Option.filter_eq_some_iff.2 ⟨rfl, decide_eq_true ?_⟩
      rw [(OffsetDateTime.ofWall_eq_some_iff.1 hts).1]
      exact t.hourText_isPrefix
  signed := by
    intro year text hyear
    have hnone : readZoned (String.ofList ('-' :: (pad 4 year ++ '-' :: text))).toList = none :=
      zonedIso_documented.signed year text hyear
    rw [clockIso_dateTime, hnone]
    rfl

/-- Half past nine, a quarter of an hour ahead of UTC. -/
def Sample.quarterAhead : String := "2026-09-24T09:30:00+00:15"

/-- Nine o'clock, two hours ahead of UTC. -/
def Sample.twoHoursAhead : String := "2026-09-24T09:00:00+02:00"

theorem quarterAhead_exact : HourExact Sample.clockIso Sample.quarterAhead := by
  refine (formatHourStr_exact_iff clockIso_extended Sample.quarterAhead).1.2 ⟨?_, ?_⟩
  · intro _ ts hts _
    have hnamed : ((namedInstant Sample.clockIso Sample.quarterAhead).all fun ts =>
        decide ts.KeepsHour) = true := by
      decide +kernel
    rw [hts] at hnamed
    exact of_decide_eq_true hnamed
  · intro hshape
    exact absurd (by decide +kernel) hshape

/-- The hour of a clock ahead is stored for the hour of UTC. -/
theorem twoHoursAhead_not_exact : Sample.clockIso.Documented ∧ Sample.clockIso.Extended ∧
    (∃ ts, parseTs Sample.clockIso Sample.twoHoursAhead = .ok (some ts) ∧
      formatHour ts = .ok "2026-09-24T07") ∧
    formatHourStr Sample.clockIso Sample.twoHoursAhead = .ok "2026-09-24T09" ∧
    ¬∀ text, HourExact Sample.clockIso text := by
  have hparse : parseTs Sample.clockIso Sample.twoHoursAhead =
      .ok (some ⟨1790233200000000000, 0, by decide⟩) := by decide +kernel
  have hright : formatHour ⟨1790233200000000000, 0, by decide⟩ = .ok "2026-09-24T07" := by
    decide +kernel
  have hstored : formatHourStr Sample.clockIso Sample.twoHoursAhead = .ok "2026-09-24T09" := by
    decide +kernel
  refine ⟨clockIso_documented, clockIso_extended, ⟨_, hparse, hright⟩, hstored, fun hall => ?_⟩
  obtain ⟨hour, hhour, hnames⟩ := (hall Sample.twoHoursAhead).parsed _ hparse
  rw [hright] at hhour
  rw [hstored, ← hhour] at hnames
  exact absurd hnames (by decide)

end PartnerPortal
