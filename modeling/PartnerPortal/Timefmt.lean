import PartnerPortal.Lib.FixedWidth
import PartnerPortal.Lib.Text
import PartnerPortal.Time

/-!
# Timestamps as text

The ledger stores instants as text and lets SQLite compare the texts.  This module writes and reads
the three canonical forms (a timestamp of 30 characters, an hour bucket of 13, a billing date of
10), and shows that on the years 0 to 9999 comparing the texts is comparing the instants.

What the `time` crate's ISO 8601 parser answers on any other text is the parameter `Iso8601`.

Results:
- `tsText_lt_iff`, `dateText_lt_iff` — canonical texts compare as what they name;
- `parseTs_formatInstant`, `parseDate_toText` — canonical texts are read back;
- `readTs_eq_some` — no other text is read as a canonical timestamp;
- `formatHourStr_formatInstant` — the bucket taken from a stored timestamp is the instant's own.
-/

namespace PartnerPortal

open FixedWidth

/-! ## Writing -/

/-- `[year]`: four digits, a sign in front of a negative year. -/
def yearText (year : Int) : List Char :=
  if year < 0 then '-' :: pad 4 (-year).toNat else pad 4 year.toNat

/-- `[year]-[month]-[day]` -/
def dateText (day : Int) : List Char :=
  let date := Calendar.civil day
  yearText date.year ++ '-' :: (pad 2 date.month.toNat ++ '-' :: pad 2 date.day.toNat)

/-- `[hour]:[minute]:[second].[subsecond digits:9]Z` -/
def clockText (nanos : Nat) : List Char :=
  pad 2 (nanos / 1000000000 / 60 / 60) ++
    ':' :: (pad 2 (nanos / 1000000000 / 60 % 60) ++
      ':' :: (pad 2 (nanos / 1000000000 % 60) ++
        '.' :: (pad 9 (nanos % 1000000000) ++ ['Z'])))

/-- `TS_FORMAT`, of an instant in UTC. -/
def tsText (nanos : Int) : List Char :=
  dateText (nanos / nanosPerDay) ++ 'T' :: clockText (nanos % nanosPerDay).toNat

/-- `HOUR_FORMAT`, of an instant in UTC. -/
def hourText (nanos : Int) : List Char :=
  dateText (nanos / nanosPerDay) ++
    'T' :: pad 2 ((nanos % nanosPerDay).toNat / 1000000000 / 60 / 60)

/-- `format_ts`.  Formatting a date of the calendar does not fail, so the fallback is not taken. -/
def formatTs (ts : OffsetDateTime) : Except Panic String := do
  let utc ← ts.toOffset 0
  return String.ofList (tsText utc.nanos)

/-- `format_hour` -/
def formatHour (ts : OffsetDateTime) : Except Panic String := do
  let utc ← ts.toOffset 0
  return String.ofList (hourText utc.nanos)

/-- `format_ts` of a clock reading. -/
def formatInstant (t : Instant) : String :=
  String.ofList (tsText t.nanos)

/-- `format_hour` of a clock reading. -/
def formatInstantHour (t : Instant) : String :=
  String.ofList (hourText t.nanos)

/-- `Date`'s `Display`, the form of a billing date. -/
def Date.toText (date : Date) : String :=
  String.ofList (dateText date.day)

/-! ## Reading -/

/-- `time`'s ISO 8601 parser, on the texts that are not canonical. -/
structure Iso8601 where
  dateTime : String → Option OffsetDateTime
  date : String → Option Date

/-- Read one literal character. -/
def readChar (c : Char) : List Char → Option (List Char)
  | [] => none
  | c' :: text => if c' = c then some text else none

@[simp] theorem readChar_cons (c : Char) (text : List Char) :
    readChar c (c :: text) = some text := by
  simp [readChar]

/-- Read a canonical date and check that the calendar has it. -/
def readDate (text : List Char) : Option (Date × List Char) := do
  let (year, text) ← readDigits 4 text
  let text ← readChar '-' text
  let (month, text) ← readDigits 2 text
  let text ← readChar '-' text
  let (day, text) ← readDigits 2 text
  let civil : Calendar.CivilDate := { year := year, month := month, day := day }
  if civil.Valid then
    let date ← Date.ofDay (Calendar.dayNumber civil)
    return (date, text)
  else none

/-- Read a canonical time of day, in nanoseconds from midnight. -/
def readClock (text : List Char) : Option (Nat × List Char) := do
  let (hour, text) ← readDigits 2 text
  let text ← readChar ':' text
  let (minute, text) ← readDigits 2 text
  let text ← readChar ':' text
  let (second, text) ← readDigits 2 text
  let text ← readChar '.' text
  let (subsecond, text) ← readDigits 9 text
  let text ← readChar 'Z' text
  if hour < 24 ∧ minute < 60 ∧ second < 60 then
    return (((hour * 60 + minute) * 60 + second) * 1000000000 + subsecond, text)
  else none

/-- Read a canonical timestamp, as nanoseconds from the epoch. -/
def readTs (text : List Char) : Option Int := do
  let (date, text) ← readDate text
  let text ← readChar 'T' text
  let (nanos, text) ← readClock text
  if text = [] then return date.day * nanosPerDay + nanos else none

/-- `parse_ts` -/
def parseTs (iso : Iso8601) (s : String) : Except Panic (Option OffsetDateTime) :=
  let parsed := ((readTs s.toList).bind fun nanos => OffsetDateTime.ofWall nanos 0).or
    (iso.dateTime s)
  match parsed with
  | none => .ok none
  | some ts => do
    let utc ← ts.toOffset 0
    return some utc

/-- `Date::parse` with the ISO 8601 format. -/
def parseDate (iso : Iso8601) (s : String) : Option Date :=
  match readDate s.toList with
  | some (date, []) => some date
  | _ => iso.date s

/-- The character that starts at a byte offset.  A byte below 128 is that character. -/
def charAtByte : List Char → Nat → Option Char
  | [], _ => none
  | c :: _, 0 => some c
  | c :: text, n + 1 => if c.utf8Size ≤ n + 1 then charAtByte text (n + 1 - c.utf8Size) else none

/-- `str::get(..n)`: nothing when byte `n` is inside a character. -/
def bytePrefix : List Char → Nat → Option (List Char)
  | _, 0 => some []
  | [], _ + 1 => none
  | c :: text, n + 1 =>
    if c.utf8Size ≤ n + 1 then (bytePrefix text (n + 1 - c.utf8Size)).map (c :: ·) else none

/-- `format_hour_str`: the bucket a stored timestamp was counted in. -/
def formatHourStr (iso : Iso8601) (stored : String) : Except Panic String :=
  let text := stored.toList
  let canonical := 20 ≤ stored.utf8ByteSize ∧ charAtByte text 4 = some '-' ∧
    charAtByte text 7 = some '-' ∧ charAtByte text 10 = some 'T'
  match (if canonical then bytePrefix text 13 else none) with
  | some hour => .ok (String.ofList hour)
  | none => do
    match ← parseTs iso stored with
    | some ts => formatHour ts
    | none => return String.ofList (text.take 13)

/-! ## Order -/

/-- Days whose year is written with four digits and no sign. -/
def FourDigitYear (day : Int) : Prop :=
  0 ≤ (Calendar.civil day).year ∧ (Calendar.civil day).year ≤ 9999

theorem fourDigitYear_of_range {day : Int} (h0 : -719528 ≤ day) (h1 : day ≤ maxDay) :
    FourDigitYear day := by
  refine Calendar.civil_year_range ?_ ?_
  · rw [show Calendar.yearStart 0 = -719528 by decide]
    exact h0
  · rw [show Calendar.yearStart (9999 + 1) = maxDay + 1 by decide]
    omega

theorem civil_fields_lt {day : Int} (h : FourDigitYear day) :
    (Calendar.civil day).year.toNat < 10 ^ 4 ∧ (Calendar.civil day).month.toNat < 10 ^ 2 ∧
      (Calendar.civil day).day.toNat < 10 ^ 2 := by
  obtain ⟨h0, h1⟩ := h
  obtain ⟨hm1, hm12, hd1, hd⟩ := Calendar.civil_valid day
  have hlength := Calendar.monthLength_range (Calendar.civil day).year hm1 hm12
  omega

/-- A field of a date is compared as the number it is written for. -/
theorem field_lt_iff {m n : Int} (hm : 0 ≤ m) (hn : 0 ≤ n) (P : Prop) :
    m.toNat < n.toNat ∨ m.toNat = n.toNat ∧ P ↔ m < n ∨ m = n ∧ P := by
  have hlt : m.toNat < n.toNat ↔ m < n := by omega
  have heq : m.toNat = n.toNat ↔ m = n := by omega
  rw [hlt, heq]

theorem dateText_append_lt_iff {a b : Int} (ha : FourDigitYear a) (hb : FourDigitYear b)
    (s t : List Char) : dateText a ++ s < dateText b ++ t ↔ a < b ∨ a = b ∧ s < t := by
  obtain ⟨hya, hma, hda⟩ := civil_fields_lt ha
  obtain ⟨hyb, hmb, hdb⟩ := civil_fields_lt hb
  obtain ⟨hva1, -, hva2, -⟩ := Calendar.civil_valid a
  obtain ⟨hvb1, -, hvb2, -⟩ := Calendar.civil_valid b
  have hinj : (Calendar.civil a).year = (Calendar.civil b).year ∧
      (Calendar.civil a).month = (Calendar.civil b).month ∧
      (Calendar.civil a).day = (Calendar.civil b).day ↔ a = b := by
    constructor
    · rintro ⟨hy, hm, hd⟩
      apply Calendar.civil_injective
      rw [Calendar.CivilDate.mk.injEq]
      exact ⟨hy, hm, hd⟩
    · rintro rfl
      exact ⟨rfl, rfl, rfl⟩
  simp only [dateText, yearText, not_lt.2 ha.1, not_lt.2 hb.1, if_false, List.append_assoc,
    List.cons_append, pad_append_lt_iff hya hyb, pad_append_lt_iff hma hmb,
    pad_append_lt_iff hda hdb, List.cons_lt_cons_iff, lt_irrefl, false_or, true_and]
  rw [← Calendar.civil_before_iff, ← hinj, field_lt_iff ha.1 hb.1,
    field_lt_iff (Int.le_of_lt hva1) (Int.le_of_lt hvb1),
    field_lt_iff (Int.le_of_lt hva2) (Int.le_of_lt hvb2)]
  simp only [Calendar.CivilDate.Before, and_or_left, or_assoc, and_assoc]

theorem clockText_lt_iff {a b : Nat} (ha : a < 86400000000000) (hb : b < 86400000000000) :
    clockText a < clockText b ↔ a < b := by
  have h60 : ∀ n : Nat, n % 60 < 10 ^ 2 := fun n => by omega
  have hsub : ∀ n : Nat, n % 1000000000 < 10 ^ 9 := fun n => by omega
  simp only [clockText, pad_append_lt_iff (show a / 1000000000 / 60 / 60 < 10 ^ 2 by omega)
      (show b / 1000000000 / 60 / 60 < 10 ^ 2 by omega), pad_append_lt_iff (h60 _) (h60 _),
    pad_append_lt_iff (hsub _) (hsub _), List.cons_lt_cons_iff, lt_irrefl, false_or, true_and,
    and_false, or_false]
  rw [digit_split_lt_iff 1000000000 a b, digit_split_lt_iff 60 (a / 1000000000) (b / 1000000000),
    digit_split_lt_iff 60 (a / 1000000000 / 60) (b / 1000000000 / 60),
    digit_split_eq_iff 60 (a / 1000000000) (b / 1000000000),
    digit_split_eq_iff 60 (a / 1000000000 / 60) (b / 1000000000 / 60)]
  grind

theorem nanosOfDay_lt (nanos : Int) : (nanos % nanosPerDay).toNat < 86400000000000 := by
  unfold nanosPerDay
  omega

/-- Canonical timestamps compare as the instants they name. -/
theorem tsText_lt_iff {a b : Int} (ha : FourDigitYear (a / nanosPerDay))
    (hb : FourDigitYear (b / nanosPerDay)) : tsText a < tsText b ↔ a < b := by
  simp only [tsText, dateText_append_lt_iff ha hb, List.cons_lt_cons_iff, lt_irrefl, false_or,
    true_and, clockText_lt_iff (nanosOfDay_lt a) (nanosOfDay_lt b)]
  unfold nanosPerDay
  omega

def nanosPerHour : Int := 3600000000000

/-- The hour of the day an instant shows. -/
theorem hourOfDay_eq (nanos : Int) :
    (nanos % nanosPerDay).toNat / 1000000000 / 60 / 60 = (nanos / nanosPerHour % 24).toNat := by
  unfold nanosPerDay nanosPerHour
  omega

theorem dayOf_hour (nanos : Int) : nanos / nanosPerDay = nanos / nanosPerHour / 24 := by
  unfold nanosPerDay nanosPerHour
  omega

/-- An hour is a proper beginning of the timestamps in it, so it sorts before all of them. -/
theorem hourText_lt_tsText_iff {a b : Int} (ha : FourDigitYear (a / nanosPerDay))
    (hb : FourDigitYear (b / nanosPerDay)) :
    hourText a < tsText b ↔ a / nanosPerHour ≤ b / nanosPerHour := by
  have hpad := @pad_append_lt_iff 2 ((a % nanosPerDay).toNat / 1000000000 / 60 / 60)
    ((b % nanosPerDay).toNat / 1000000000 / 60 / 60)
    (by have := nanosOfDay_lt a; omega) (by have := nanosOfDay_lt b; omega) []
  rw [List.append_nil] at hpad
  simp only [hourText, tsText, clockText, dateText_append_lt_iff ha hb, List.cons_lt_cons_iff,
    lt_irrefl, false_or, true_and, hpad, List.nil_lt_cons, and_true]
  -- what is left is about the numbers of the two hours
  rw [hourOfDay_eq, hourOfDay_eq, dayOf_hour, dayOf_hour]
  generalize a / nanosPerHour = m
  generalize b / nanosPerHour = n
  omega

theorem hourText_lt_hourText_iff {a b : Int} (ha : FourDigitYear (a / nanosPerDay))
    (hb : FourDigitYear (b / nanosPerDay)) :
    hourText a < hourText b ↔ a / nanosPerHour < b / nanosPerHour := by
  have hpad := @pad_append_lt_iff 2 ((a % nanosPerDay).toNat / 1000000000 / 60 / 60)
    ((b % nanosPerDay).toNat / 1000000000 / 60 / 60)
    (by have := nanosOfDay_lt a; omega) (by have := nanosOfDay_lt b; omega) [] []
  rw [List.append_nil, List.append_nil] at hpad
  simp only [hourText, dateText_append_lt_iff ha hb, List.cons_lt_cons_iff, lt_irrefl, false_or,
    true_and, hpad, and_false, or_false]
  rw [hourOfDay_eq, hourOfDay_eq, dayOf_hour, dayOf_hour]
  generalize a / nanosPerHour = m
  generalize b / nanosPerHour = n
  omega

theorem hourText_congr {a b : Int} (h : a / nanosPerHour = b / nanosPerHour) :
    hourText a = hourText b := by
  rw [hourText, hourText, hourOfDay_eq, hourOfDay_eq, dayOf_hour a, dayOf_hour b, h]

theorem hourText_injective {a b : Int} (ha : FourDigitYear (a / nanosPerDay))
    (hb : FourDigitYear (b / nanosPerDay)) (h : hourText a = hourText b) :
    a / nanosPerHour = b / nanosPerHour := by
  have hab := hourText_lt_tsText_iff ha hb
  have hba := hourText_lt_tsText_iff hb ha
  rw [h, hourText_lt_tsText_iff hb hb] at hab
  rw [← h, hourText_lt_tsText_iff ha ha] at hba
  exact le_antisymm (hab.1 le_rfl) (hba.1 le_rfl)

/-- Billing dates compare as the days they name. -/
theorem dateText_lt_iff {a b : Int} (ha : FourDigitYear a) (hb : FourDigitYear b) :
    dateText a < dateText b ↔ a < b := by
  have h := dateText_append_lt_iff ha hb [] []
  simpa using h

theorem dateText_injective {a b : Int} (ha : FourDigitYear a) (hb : FourDigitYear b)
    (h : dateText a = dateText b) : a = b := by
  have hab := dateText_lt_iff ha hb
  have hba := dateText_lt_iff hb ha
  rw [h] at hab hba
  have hirr : ¬ dateText b < dateText b := lt_irrefl _
  exact le_antisymm (not_lt.1 fun hlt => hirr (hba.2 hlt)) (not_lt.1 fun hlt => hirr (hab.2 hlt))

namespace Instant

theorem fourDigitYear (t : Instant) : FourDigitYear (t.nanos / nanosPerDay) := by
  have h := t.inRange
  unfold nanosPerDay maxDay at *
  refine fourDigitYear_of_range ?_ ?_ <;> (try unfold maxDay) <;> omega

end Instant

theorem formatTs_ok {ts : OffsetDateTime} {text : String} (h : formatTs ts = .ok text) :
    text = String.ofList (tsText ts.nanos) := by
  obtain ⟨utc, hutc, htext⟩ := Result.bind_ok_iff.1 h
  rw [← (OffsetDateTime.toOffset_ok_iff.1 hutc).1]
  exact (Except.ok.inj htext).symm

/-- An instant has a text whenever UTC shows a date of the calendar there. -/
theorem formatTs_isOk_iff {ts : OffsetDateTime} : (∃ text, formatTs ts = .ok text) ↔
    minDay * nanosPerDay ≤ ts.nanos ∧ ts.nanos < (maxDay + 1) * nanosPerDay := by
  rw [← OffsetDateTime.toUtc_isOk_iff]
  exact Result.isOk_map_iff

theorem formatHour_ok {ts : OffsetDateTime} {text : String} (h : formatHour ts = .ok text) :
    text = String.ofList (hourText ts.nanos) := by
  obtain ⟨utc, hutc, htext⟩ := Result.bind_ok_iff.1 h
  rw [← (OffsetDateTime.toOffset_ok_iff.1 hutc).1]
  exact (Except.ok.inj htext).symm

theorem formatHour_isOk_iff {ts : OffsetDateTime} : (∃ text, formatHour ts = .ok text) ↔
    minDay * nanosPerDay ≤ ts.nanos ∧ ts.nanos < (maxDay + 1) * nanosPerDay := by
  rw [← OffsetDateTime.toUtc_isOk_iff]
  exact Result.isOk_map_iff

theorem formatInstant_lt_iff (a b : Instant) :
    formatInstant a < formatInstant b ↔ a.nanos < b.nanos := by
  rw [formatInstant, formatInstant, ofList_lt_iff, tsText_lt_iff a.fourDigitYear b.fourDigitYear]

theorem formatInstant_injective {a b : Instant} (h : formatInstant a = formatInstant b) :
    a = b := by
  have hab := formatInstant_lt_iff a b
  have hba := formatInstant_lt_iff b a
  rw [h] at hab hba
  have hirrefl := String.lt_irrefl (formatInstant b)
  refine Instant.ext ?_
  have hnot : ¬ a.nanos < b.nanos := fun hlt => hirrefl (hab.2 hlt)
  have hnot' : ¬ b.nanos < a.nanos := fun hlt => hirrefl (hba.2 hlt)
  omega

theorem pad_ge_minus (width n : Nat) (s t : List Char) :
    '-' :: s < pad (width + 1) n ++ t := by
  have hdigit : ∀ d < 10, '-' < Nat.digitChar d := by decide
  exact List.cons_lt_cons_iff.2 (Or.inl (hdigit _ (Nat.mod_lt _ (by decide))))

theorem civil_year_neg {day : Int} (h : day < -719528) : (Calendar.civil day).year < 0 := by
  have hmono := Calendar.yearOf_mono (show day ≤ -719529 by omega)
  rw [show Calendar.yearOf (-719529) = -1 by decide] at hmono
  exact lt_of_le_of_lt hmono (by decide)

/-- The texts of dates before year 0 sort before those of the years after it. -/
theorem dateText_lt_of_year_neg {a b : Int} (ha : a / nanosPerDay < -719528)
    (hb : FourDigitYear (b / nanosPerDay)) (s t : List Char) :
    dateText (a / nanosPerDay) ++ s < dateText (b / nanosPerDay) ++ t := by
  have hyear := civil_year_neg ha
  simp only [dateText, yearText, hyear, if_true, not_lt.2 hb.1, if_false,
    List.append_assoc, List.cons_append]
  exact pad_ge_minus 3 _ _ _

/-- An instant of the calendar is in a year with a sign, or in one of four digits. -/
theorem yearNeg_or_fourDigitYear {nanos : Int} (h : nanos < (maxDay + 1) * nanosPerDay) :
    nanos / nanosPerDay < -719528 ∨ FourDigitYear (nanos / nanosPerDay) := by
  refine (lt_or_ge _ _).imp_right fun hlow => fourDigitYear_of_range hlow ?_
  unfold nanosPerDay at *
  omega

/-- Years written without a sign start with year 0. -/
theorem FourDigitYear.ge {day : Int} (h : FourDigitYear day) : -719528 ≤ day := by
  by_contra hlt
  exact absurd (civil_year_neg (not_le.1 hlt)) (not_lt.2 h.1)

/-- An instant of an unsigned year compares with any instant of the calendar as text does. -/
theorem tsText_lt_bound_iff {nanos bound : Int} (h : FourDigitYear (nanos / nanosPerDay))
    (hbound : bound < (maxDay + 1) * nanosPerDay) : tsText nanos < tsText bound ↔ nanos < bound := by
  rcases yearNeg_or_fourDigitYear hbound with hneg | hyear
  · refine iff_of_false (lt_asymm (dateText_lt_of_year_neg hneg h _ _)) ?_
    have hge := h.ge
    unfold nanosPerDay at hneg hge
    omega
  · exact tsText_lt_iff h hyear

/-- The hours of a clock are behind those of a year with a sign. -/
theorem Instant.hour_gt_of_year_neg (t : Instant) {nanos : Int}
    (hneg : nanos / nanosPerDay < -719528) :
    nanos / nanosPerHour < t.nanos / nanosPerHour := by
  have ht := t.inRange.1
  unfold nanosPerDay at hneg
  unfold nanosPerHour
  omega

/-- A stored timestamp compares with any instant of the calendar as the two instants do. -/
theorem formatInstant_lt_tsText_iff {t : Instant} {nanos : Int}
    (h : nanos < (maxDay + 1) * nanosPerDay) :
    formatInstant t < String.ofList (tsText nanos) ↔ t.nanos < nanos := by
  rw [formatInstant, ofList_lt_iff, tsText_lt_bound_iff t.fourDigitYear h]

/-- A stored hour sorts before a timestamp exactly when it is no later than the timestamp's own
hour. -/
theorem formatInstantHour_lt_tsText_iff {t : Instant} {nanos : Int}
    (h : nanos < (maxDay + 1) * nanosPerDay) :
    formatInstantHour t < String.ofList (tsText nanos) ↔
      t.nanos / nanosPerHour ≤ nanos / nanosPerHour := by
  rw [formatInstantHour, ofList_lt_iff]
  rcases yearNeg_or_fourDigitYear h with hneg | hyear
  · exact iff_of_false (lt_asymm (dateText_lt_of_year_neg hneg t.fourDigitYear _ _))
      (not_le.2 (t.hour_gt_of_year_neg hneg))
  · exact hourText_lt_tsText_iff t.fourDigitYear hyear

theorem formatInstantHour_eq_iff {a b : Instant} :
    formatInstantHour a = formatInstantHour b ↔
      a.nanos / nanosPerHour = b.nanos / nanosPerHour := by
  constructor
  · intro h
    exact hourText_injective a.fourDigitYear b.fourDigitYear (String.ofList_injective h)
  · exact fun h => congrArg String.ofList (hourText_congr h)

/-! ## Round trips -/

theorem readDate_dateText {date : Date} (h : FourDigitYear date.day) (text : List Char) :
    readDate (dateText date.day ++ text) = some (date, text) := by
  obtain ⟨hy, hm, hd⟩ := civil_fields_lt h
  obtain ⟨hm1, -, hd1, -⟩ := Calendar.civil_valid date.day
  have hcivil : Calendar.CivilDate.mk (Calendar.civil date.day).year.toNat
      (Calendar.civil date.day).month.toNat (Calendar.civil date.day).day.toNat =
      Calendar.civil date.day := by
    rw [Calendar.CivilDate.mk.injEq]
    have := h.1
    omega
  have hday : Date.ofDay date.day = some date := Date.ofDay_eq_some_iff.2 rfl
  simp only [readDate, dateText, yearText, not_lt.2 h.1, if_false, List.append_assoc,
    List.cons_append, readDigits_pad hy, readDigits_pad hm, readDigits_pad hd, readChar_cons,
    Option.bind_eq_bind, Option.bind_some, hcivil, Calendar.civil_valid, if_true,
    Calendar.dayNumber_civil, hday, Option.pure_def]

theorem readClock_clockText {nanos : Nat} (h : nanos < 86400000000000) :
    readClock (clockText nanos) = some (nanos, []) := by
  have h60 : ∀ n : Nat, n % 60 < 10 ^ 2 := fun n => by omega
  have hsub : ∀ n : Nat, n % 1000000000 < 10 ^ 9 := fun n => by omega
  have hhour : nanos / 1000000000 / 60 / 60 < 10 ^ 2 := by omega
  have hrange : nanos / 1000000000 / 60 / 60 < 24 ∧ nanos / 1000000000 / 60 % 60 < 60 ∧
      nanos / 1000000000 % 60 < 60 := by omega
  simp only [readClock, clockText, readDigits_pad hhour, readDigits_pad (h60 _),
    readDigits_pad (hsub _), readChar_cons, Option.bind_eq_bind, Option.bind_some, hrange,
    and_self, if_true, Option.pure_def, Option.some.injEq, Prod.mk.injEq, and_true]
  omega

theorem readTs_tsText {nanos : Int} (hrange : minDay ≤ nanos / nanosPerDay ∧
    nanos / nanosPerDay ≤ maxDay) (hyear : FourDigitYear (nanos / nanosPerDay)) :
    readTs (tsText nanos) = some nanos := by
  have hdate := @readDate_dateText ⟨nanos / nanosPerDay, hrange⟩ hyear
    ('T' :: clockText (nanos % nanosPerDay).toNat)
  simp only at hdate
  simp only [readTs, tsText, hdate, readClock_clockText (nanosOfDay_lt nanos), readChar_cons,
    Option.bind_eq_bind, Option.bind_some, if_true, Option.pure_def, Option.some.injEq]
  unfold nanosPerDay
  omega

theorem readChar_eq_some {c : Char} {text rest : List Char} (h : readChar c text = some rest) :
    text = c :: rest := by
  cases text with
  | nil => cases h
  | cons c' text =>
    rw [readChar] at h
    split at h
    · rename_i heq
      cases h
      rw [heq]
    · cases h

/-- What is read is how the date is written. -/
theorem readDate_eq_some {text rest : List Char} {date : Date}
    (h : readDate text = some (date, rest)) :
    FourDigitYear date.day ∧ text = dateText date.day ++ rest := by
  simp only [readDate, Option.bind_eq_bind, Option.bind_eq_some_iff, Prod.exists] at h
  obtain ⟨year, afterYear, hyear, _, hdash, month, afterMonth, hmonth, _, hdash', day, afterDay,
    hday, h⟩ := h
  obtain ⟨hyearLt, rfl⟩ := readDigits_eq_some hyear
  obtain rfl := readChar_eq_some hdash
  obtain ⟨-, rfl⟩ := readDigits_eq_some hmonth
  obtain rfl := readChar_eq_some hdash'
  obtain ⟨-, rfl⟩ := readDigits_eq_some hday
  split at h
  · rename_i hvalid
    obtain ⟨found, hfound, h⟩ := Option.bind_eq_some_iff.1 h
    cases h
    rw [Date.ofDay_eq_some_iff] at hfound
    have hcivil := Calendar.civil_dayNumber hvalid
    rw [← hfound] at hcivil
    refine ⟨?_, ?_⟩
    · rw [FourDigitYear, hcivil]
      refine ⟨Int.natCast_nonneg year, ?_⟩
      simp only
      omega
    · simp [dateText, yearText, hcivil]
  · cases h

/-- What is read is how the time of day is written. -/
theorem readClock_eq_some {text rest : List Char} {nanos : Nat}
    (h : readClock text = some (nanos, rest)) :
    nanos < 86400000000000 ∧ text = clockText nanos ++ rest := by
  simp only [readClock, Option.bind_eq_bind, Option.bind_eq_some_iff, Prod.exists] at h
  obtain ⟨hour, _, hhour, _, hcolon, minute, _, hminute, _, hcolon', second, _, hsecond, _, hdot,
    subsecond, _, hsubsecond, _, hzone, h⟩ := h
  obtain ⟨-, rfl⟩ := readDigits_eq_some hhour
  obtain rfl := readChar_eq_some hcolon
  obtain ⟨-, rfl⟩ := readDigits_eq_some hminute
  obtain rfl := readChar_eq_some hcolon'
  obtain ⟨-, rfl⟩ := readDigits_eq_some hsecond
  obtain rfl := readChar_eq_some hdot
  obtain ⟨hsub, rfl⟩ := readDigits_eq_some hsubsecond
  obtain rfl := readChar_eq_some hzone
  split at h
  · rename_i hrange
    cases h
    obtain ⟨hhour, hminute, hsecond⟩ := hrange
    have hsecs : (((hour * 60 + minute) * 60 + second) * 1000000000 + subsecond) / 1000000000 =
        (hour * 60 + minute) * 60 + second := by omega
    have hmins : ((hour * 60 + minute) * 60 + second) / 60 = hour * 60 + minute := by omega
    have hhours : (hour * 60 + minute) / 60 = hour := by omega
    have hsub' : (((hour * 60 + minute) * 60 + second) * 1000000000 + subsecond) % 1000000000 =
        subsecond := by omega
    have hsec' : ((hour * 60 + minute) * 60 + second) % 60 = second := by omega
    have hmin' : (hour * 60 + minute) % 60 = minute := by omega
    refine ⟨by omega, ?_⟩
    simp [clockText, hsecs, hmins, hhours, hsub', hsec', hmin']
  · cases h

/-- What is read is the canonical form of the instant. -/
theorem readTs_eq_some {text : List Char} {nanos : Int} (h : readTs text = some nanos) :
    FourDigitYear (nanos / nanosPerDay) ∧ text = tsText nanos := by
  simp only [readTs, Option.bind_eq_bind, Option.bind_eq_some_iff, Prod.exists] at h
  obtain ⟨date, _, hdate, _, hT, clock, rest, hclock, h⟩ := h
  obtain ⟨hyear, rfl⟩ := readDate_eq_some hdate
  obtain rfl := readChar_eq_some hT
  obtain ⟨hlt, rfl⟩ := readClock_eq_some hclock
  split at h
  · rename_i hnil
    cases h
    subst hnil
    have hday : (date.day * nanosPerDay + clock) / nanosPerDay = date.day := by
      unfold nanosPerDay
      omega
    have hclock : ((date.day * nanosPerDay + clock) % nanosPerDay).toNat = clock := by
      unfold nanosPerDay
      omega
    rw [hday, tsText, hday, hclock, List.append_nil]
    exact ⟨hyear, rfl⟩
  · cases h

/-- A text in the canonical form of the instant it names.  The year has four digits. -/
structure CanonicalTs (text : String) (ts : OffsetDateTime) : Prop where
  utc : ts.offset = 0
  year : FourDigitYear (ts.nanos / nanosPerDay)
  text : text = String.ofList (tsText ts.nanos)

theorem canonicalTs_formatInstant (t : Instant) : CanonicalTs (formatInstant t) t.utc :=
  ⟨rfl, t.fourDigitYear, rfl⟩

/-- Canonical timestamps compare as the instants they name. -/
theorem CanonicalTs.lt_iff {text text' : String} {ts ts' : OffsetDateTime}
    (h : CanonicalTs text ts) (h' : CanonicalTs text' ts') :
    text < text' ↔ ts.nanos < ts'.nanos := by
  rw [h.text, h'.text, ofList_lt_iff, tsText_lt_iff h.year h'.year]

/-- A text names one instant. -/
theorem CanonicalTs.unique {text : String} {ts ts' : OffsetDateTime} (h : CanonicalTs text ts)
    (h' : CanonicalTs text ts') : ts = ts' := by
  have hirr : ¬text < text := String.lt_irrefl text
  refine OffsetDateTime.ext (le_antisymm ?_ ?_) (h.utc.trans h'.utc.symm)
  · exact not_lt.1 fun hlt => hirr ((h'.lt_iff h).2 hlt)
  · exact not_lt.1 fun hlt => hirr ((h.lt_iff h').2 hlt)

/-- A canonical timestamp is read back. -/
theorem CanonicalTs.parseTs {text : String} {ts : OffsetDateTime} (h : CanonicalTs text ts)
    (iso : Iso8601) : PartnerPortal.parseTs iso text = .ok (some ts) := by
  have hrange : minDay ≤ ts.nanos / nanosPerDay ∧ ts.nanos / nanosPerDay ≤ maxDay := by
    have hin := ts.inRange
    rw [h.utc, Int.zero_mul, Int.add_zero] at hin
    unfold minDay maxDay nanosPerDay at *
    omega
  have hwall : OffsetDateTime.ofWall ts.nanos 0 = some ts := by
    rw [OffsetDateTime.ofWall_eq_some_iff, OffsetDateTime.wall, h.utc]
    simp
  have hutc : ts.toOffset 0 = .ok ts := OffsetDateTime.toOffset_ok_iff.2 ⟨rfl, h.utc⟩
  simp [PartnerPortal.parseTs, h.text, readTs_tsText hrange h.year, hwall, hutc]

/-- A canonical timestamp is written again as it was. -/
theorem CanonicalTs.formatTs {text : String} {ts : OffsetDateTime} (h : CanonicalTs text ts) :
    PartnerPortal.formatTs ts = .ok text := by
  have hutc : ts.toOffset 0 = .ok ts := OffsetDateTime.toOffset_ok_iff.2 ⟨rfl, h.utc⟩
  simp [PartnerPortal.formatTs, hutc, h.text]

@[simp] theorem parseTs_formatInstant (iso : Iso8601) (t : Instant) :
    parseTs iso (formatInstant t) = .ok (some t.utc) :=
  (canonicalTs_formatInstant t).parseTs iso

/-- A billing date is read back. -/
theorem parseDate_toText (iso : Iso8601) {date : Date} (h : FourDigitYear date.day) :
    parseDate iso date.toText = some date := by
  have hread := readDate_dateText h []
  rw [List.append_nil] at hread
  simp [parseDate, Date.toText, hread]

/-! ## Bytes and characters -/

/-- One byte a character. -/
def OneByte (text : List Char) : Prop := ∀ c ∈ text, c.utf8Size = 1

theorem OneByte.cons_iff {c : Char} {text : List Char} :
    OneByte (c :: text) ↔ c.utf8Size = 1 ∧ OneByte text := by
  simp [OneByte]

theorem OneByte.append_iff {s t : List Char} : OneByte (s ++ t) ↔ OneByte s ∧ OneByte t := by
  simp only [OneByte, List.mem_append]
  constructor
  · exact fun h => ⟨fun c hc => h c (Or.inl hc), fun c hc => h c (Or.inr hc)⟩
  · rintro ⟨hs, ht⟩ c (hc | hc)
    · exact hs c hc
    · exact ht c hc

theorem OneByte.charAtByte {text : List Char} (h : OneByte text) (n : Nat) :
    charAtByte text n = text[n]? := by
  induction text generalizing n with
  | nil => cases n <;> rfl
  | cons c text ih =>
    obtain ⟨hc, htext⟩ := OneByte.cons_iff.1 h
    cases n with
    | zero => rfl
    | succ n => simp [PartnerPortal.charAtByte, hc, ih htext]

theorem OneByte.bytePrefix {text : List Char} (h : OneByte text) {n : Nat}
    (hn : n ≤ text.length) : bytePrefix text n = some (text.take n) := by
  induction text generalizing n with
  | nil =>
    have : n = 0 := by simpa using hn
    subst this
    rfl
  | cons c text ih =>
    obtain ⟨hc, htext⟩ := OneByte.cons_iff.1 h
    cases n with
    | zero => rfl
    | succ n =>
      have hn' : n ≤ text.length := by simpa using hn
      simp [PartnerPortal.bytePrefix, hc, ih htext hn']

/-- The first bytes of a text, where they are one to a character. -/
theorem OneByte.charAtByte_append {s : List Char} (h : OneByte s) (t : List Char) {n : Nat}
    (hn : n < s.length) : PartnerPortal.charAtByte (s ++ t) n = s[n]? := by
  induction s generalizing n with
  | nil => cases hn
  | cons c s ih =>
    obtain ⟨hc, hs⟩ := OneByte.cons_iff.1 h
    cases n with
    | zero => rfl
    | succ n =>
      have hn' : n < s.length := Nat.lt_of_succ_lt_succ hn
      simp [PartnerPortal.charAtByte, hc, ih hs hn']

theorem OneByte.bytePrefix_append {s : List Char} (h : OneByte s) (t : List Char) :
    PartnerPortal.bytePrefix (s ++ t) s.length = some s := by
  induction s with
  | nil => cases t <;> rfl
  | cons c s ih =>
    obtain ⟨hc, hs⟩ := OneByte.cons_iff.1 h
    simp [PartnerPortal.bytePrefix, hc, ih hs]

theorem OneByte.utf8ByteSize {text : List Char} (h : OneByte text) :
    (String.ofList text).utf8ByteSize = text.length := by
  rw [Text.utf8ByteSize_ofList, List.map_congr_left h]
  simp

theorem oneByte_pad (width n : Nat) : OneByte (pad width n) := by
  have hall : ∀ d < 10, (Nat.digitChar d).utf8Size = 1 := by decide
  induction width generalizing n with
  | zero => simp [OneByte, pad]
  | succ width ih => exact OneByte.cons_iff.2 ⟨hall _ (Nat.mod_lt _ (by decide)), ih _⟩

theorem oneByte_tsText (nanos : Int) : OneByte (tsText nanos) := by
  have hdash : Char.utf8Size '-' = 1 := by decide
  have hT : Char.utf8Size 'T' = 1 := by decide
  have hcolon : Char.utf8Size ':' = 1 := by decide
  have hdot : Char.utf8Size '.' = 1 := by decide
  have hZ : Char.utf8Size 'Z' = 1 := by decide
  have hnil : OneByte [] := by simp [OneByte]
  simp only [tsText, dateText, clockText, yearText]
  split <;>
    simp only [OneByte.append_iff, OneByte.cons_iff, oneByte_pad, hdash, hT, hcolon, hdot, hZ,
      hnil, and_self]

/-- The hour bucket taken from a stored timestamp is the bucket of the instant itself. -/
@[simp] theorem formatHourStr_formatInstant (iso : Iso8601) (t : Instant) :
    formatHourStr iso (formatInstant t) = .ok (formatInstantHour t) := by
  have hbytes := oneByte_tsText t.nanos
  have hyear : ¬ (Calendar.civil (t.nanos / nanosPerDay)).year < 0 :=
    not_lt.2 t.fourDigitYear.1
  have hlength : (tsText t.nanos).length = 30 := by
    simp [tsText, dateText, yearText, clockText, hyear]
  have htake : (tsText t.nanos).take 13 = hourText t.nanos := by
    simp [tsText, hourText, dateText, yearText, clockText, hyear, List.take_append,
      List.take_of_length_le]
  have h4 : (tsText t.nanos)[4]? = some '-' := by
    simp [tsText, dateText, yearText, hyear]
  have h7 : (tsText t.nanos)[7]? = some '-' := by
    simp [tsText, dateText, yearText, hyear, List.getElem?_append]
  have h10 : (tsText t.nanos)[10]? = some 'T' := by
    simp [tsText, dateText, yearText, hyear, List.getElem?_append]
  have h13 := hbytes.bytePrefix (show 13 ≤ (tsText t.nanos).length by omega)
  simp only [formatHourStr, formatInstant, hbytes.utf8ByteSize, String.toList_ofList,
    hbytes.charAtByte, hlength, h4, h7, h10, h13, htake, formatInstantHour]
  rfl

/-- A parser that reads no text but the canonical ones. -/
def Sample.iso : Iso8601 where
  dateTime := fun _ => none
  date := fun _ => none

end PartnerPortal
