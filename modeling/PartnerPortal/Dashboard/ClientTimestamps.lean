import PartnerPortal.Admin.Common
import PartnerPortal.Config.Dates
import PartnerPortal.Ledger.Timestamps

/-!
# Timestamps that clients send

A bound of a custom range and the expiry of a key are texts of a client's choice.  The ISO 8601
parser reads a local date and time with its offset, and moving that to UTC is an operation that
panics past the calendar.  Before year 0 UTC is in the calendar, but its year has a sign, and no
text with a signed year of four digits is read.

Results:
- `readZoned_zonedText` — a parser of local dates and times, as far as the program relies on one;
- `parseTs_safe_iff` — a text is read without a panic and as an instant that can be written and read
  again, exactly if the instant it names has a UTC year 0000 to 9999.
-/

namespace PartnerPortal

open FixedWidth Dashboard

/-! ## The parser -/

/-- A date and time of the wall clock in seconds, at hours and minutes ahead of UTC or behind it. -/
structure ZonedTime where
  seconds : Int
  behind : Bool
  hours : Nat
  minutes : Nat

namespace ZonedTime

/-- The year has four digits and the offset is one. -/
structure Valid (t : ZonedTime) : Prop where
  year : FourDigitYear (t.seconds / 86400)
  hours : t.hours < 24
  minutes : t.minutes < 60

/-- The offset in seconds. -/
def offset (t : ZonedTime) : Int :=
  let ahead : Int := ((t.hours * 60 + t.minutes) * 60 : Nat)
  if t.behind then -ahead else ahead

/-- The instant, if the wall clock shows a date of the calendar. -/
def instant (t : ZonedTime) : Option OffsetDateTime :=
  OffsetDateTime.ofWall (t.seconds * nanosPerSecond) t.offset

/-- `2026-09-24T09:00:00+02:00` -/
def text (t : ZonedTime) : List Char :=
  let clock := (t.seconds % 86400).toNat
  dateText (t.seconds / 86400) ++
    'T' :: (pad 2 (clock / 60 / 60) ++
      ':' :: (pad 2 (clock / 60 % 60) ++
        ':' :: (pad 2 (clock % 60) ++
          (if t.behind then '-' else '+') :: (pad 2 t.hours ++ ':' :: pad 2 t.minutes))))

end ZonedTime

/-- What the program relies on of the ISO 8601 parser. -/
structure Iso8601.Documented (iso : Iso8601) : Prop where
  /-- local dates and times with an offset are accepted -/
  zoned : ∀ t : ZonedTime, t.Valid → iso.dateTime (String.ofList t.text) = t.instant
  /-- a year with a sign has six digits -/
  signed : ∀ year text, year < 10000 →
    iso.dateTime (String.ofList ('-' :: (pad 4 year ++ '-' :: text))) = none

/-- Read a local date and time with an offset, and nothing else. -/
def readZoned (text : List Char) : Option OffsetDateTime := do
  let (date, text) ← readDate text
  let text ← readChar 'T' text
  let (hour, text) ← readDigits 2 text
  let text ← readChar ':' text
  let (minute, text) ← readDigits 2 text
  let text ← readChar ':' text
  let (second, text) ← readDigits 2 text
  let behind := text.head? = some '-'
  let (hours, text) ← readDigits 2 (text.drop 1)
  let text ← readChar ':' text
  let (minutes, _) ← readDigits 2 text
  ZonedTime.instant
    { seconds := date.day * 86400 + ((hour * 60 + minute) * 60 + second : Nat)
      behind := behind
      hours := hours
      minutes := minutes }

/-- A local date and time is read back. -/
theorem readZoned_zonedText {t : ZonedTime} (h : t.Valid) : readZoned t.text = t.instant := by
  obtain ⟨hlow, hhigh⟩ := fourDigitYear_iff.1 h.year
  have hday : minDay ≤ t.seconds / 86400 ∧ t.seconds / 86400 ≤ maxDay :=
    ⟨le_trans (by decide) hlow, hhigh⟩
  have hclock : (t.seconds % 86400).toNat < 86400 := by omega
  have hhour : (t.seconds % 86400).toNat / 60 / 60 < 10 ^ 2 := by omega
  have h60 : ∀ n : Nat, n % 60 < 10 ^ 2 := fun n => by omega
  have hhours : t.hours < 10 ^ 2 := h.hours.trans (by decide)
  have hminutes : t.minutes < 10 ^ 2 := h.minutes.trans (by decide)
  have hlast := readDigits_pad hminutes []
  rw [List.append_nil] at hlast
  have hsign : (some (if t.behind then '-' else '+') = some '-') = (t.behind = true) := by
    cases t.behind <;> simp
  have hseconds : t.seconds / 86400 * 86400 +
      (((t.seconds % 86400).toNat / 60 / 60 * 60 + (t.seconds % 86400).toNat / 60 % 60) * 60 +
        (t.seconds % 86400).toNat % 60 : Nat) = t.seconds := by
    omega
  have hdate := @readDate_dateText ⟨t.seconds / 86400, hday⟩ h.year
  dsimp only at hdate
  simp only [readZoned, ZonedTime.text, hdate, readDigits_pad hhour, readDigits_pad (h60 _),
    readDigits_pad hhours, hlast, readChar_cons, Option.bind_eq_bind, Option.bind_some,
    List.head?_cons, List.drop_one, List.tail_cons, hsign, hseconds, Bool.decide_coe]

/-- No date starts with a sign. -/
theorem readDate_sign (text : List Char) : readDate ('-' :: text) = none := rfl

/-- A parser of local dates and times is one the program can rely on. -/
def Sample.zonedIso : Iso8601 where
  dateTime := fun text => readZoned text.toList
  date := fun _ => none

theorem zonedIso_documented : Sample.zonedIso.Documented where
  zoned := by
    intro t h
    show readZoned (String.ofList t.text).toList = _
    rw [String.toList_ofList, readZoned_zonedText h]
  signed := by
    intro year text _
    show readZoned (String.ofList ('-' :: (pad 4 year ++ '-' :: text))).toList = none
    rw [String.toList_ofList, readZoned, readDate_sign, Option.bind_eq_bind, Option.bind_none]

/-! ## What is read -/

/-- A text is read without a panic, and as an instant in UTC that is written as a text of the same
instant. -/
def ReadsSafely (iso : Iso8601) (text : String) : Prop :=
  ∃ parsed, parseTs iso text = .ok parsed ∧ ∀ ts ∈ parsed, ts.offset = 0 ∧
    ∃ written, formatTs ts = .ok written ∧ parseTs iso written = .ok (some ts)

/-- The instant that a text names has a UTC year 0000 to 9999. -/
def NamesYear (iso : Iso8601) (text : String) : Prop :=
  ∀ ts, namedInstant iso text = some ts → FourDigitYear (ts.nanos / nanosPerDay)

section Read

variable {iso : Iso8601} {text : String}

theorem readsSafely_of_namesYear (h : NamesYear iso text) : ReadsSafely iso text := by
  rw [ReadsSafely, parseTs_eq]
  cases hnamed : namedInstant iso text with
  | none => exact ⟨none, rfl, fun ts hts => absurd hts (Option.not_mem_none ts)⟩
  | some ts =>
    have hyear := h ts hnamed
    obtain ⟨utc, hutc⟩ := OffsetDateTime.toUtc_isOk_iff.2 hyear.inRange
    obtain ⟨hnanos, hoffset⟩ := OffsetDateTime.toOffset_ok_iff.1 hutc
    have hcanonical : CanonicalTs (String.ofList (tsText utc.nanos)) utc :=
      ⟨hoffset, hnanos ▸ hyear, rfl⟩
    have hread : (ts.toOffset 0 >>= fun utc => .ok (some utc)) = .ok (some utc) := by
      rw [hutc]
      rfl
    refine ⟨some utc, hread, fun ts hts => ?_⟩
    cases hts
    exact ⟨hoffset, _, hcanonical.formatTs, hcanonical.parseTs iso⟩

/-- A timestamp before year 0 is not read again. -/
theorem parseTs_tsText_negative (h : iso.Documented) {nanos : Int}
    (hlow : minDay ≤ nanos / nanosPerDay) (hyear : nanos / nanosPerDay < -719528) :
    parseTs iso (String.ofList (tsText nanos)) = .ok none := by
  have hnegative := civil_year_neg hyear
  have hmin : -9999 ≤ (Calendar.civil (nanos / nanosPerDay)).year := by
    have hmono := Calendar.yearOf_mono hlow
    rwa [show Calendar.yearOf minDay = -9999 by decide] at hmono
  have hdigits : (-(Calendar.civil (nanos / nanosPerDay)).year).toNat < 10000 := by omega
  obtain ⟨rest, hrest⟩ : ∃ rest, tsText nanos =
      '-' :: (pad 4 (-(Calendar.civil (nanos / nanosPerDay)).year).toNat ++ '-' :: rest) := by
    rw [tsText, dateText, yearText, if_pos hnegative]
    simp only [List.cons_append, List.append_assoc]
    exact ⟨_, rfl⟩
  have hts : readTs (tsText nanos) = none := by
    rw [hrest, readTs, readDate_sign]
    rfl
  rw [parseTs_eq, namedInstant, String.toList_ofList, hts, hrest, h.signed _ _ hdigits]
  rfl

theorem namesYear_of_readsSafely (h : iso.Documented) (hsafe : ReadsSafely iso text) :
    NamesYear iso text := by
  intro ts hnamed
  obtain ⟨parsed, hparsed, hread⟩ := hsafe
  rw [parseTs_eq, hnamed] at hparsed
  obtain ⟨utc, hutc, hsome⟩ := Result.bind_ok_iff.1 hparsed
  cases hsome
  obtain ⟨hnanos, hoffset⟩ := OffsetDateTime.toOffset_ok_iff.1 hutc
  obtain ⟨-, written, hwritten, hagain⟩ := hread utc rfl
  have hrange := utc.inRange
  rw [hoffset, Int.zero_mul, Int.add_zero] at hrange
  rw [← hnanos, fourDigitYear_iff]
  have hdays : minDay ≤ utc.nanos / nanosPerDay ∧ utc.nanos / nanosPerDay ≤ maxDay := by
    unfold nanosPerDay at *
    omega
  refine ⟨?_, hdays.2⟩
  by_contra hnegative
  rw [formatTs_ok hwritten, parseTs_tsText_negative h hdays.1 (not_le.1 hnegative)] at hagain
  cases hagain

/-- A text is read without a panic, and as an instant that is written and read again, exactly if the
instant it names has a UTC year 0000 to 9999. -/
theorem parseTs_safe_iff (h : iso.Documented) (text : String) :
    ReadsSafely iso text ↔ NamesYear iso text :=
  ⟨namesYear_of_readsSafely h, readsSafely_of_namesYear⟩

end Read

/-- A timestamp at an offset is read as its instant in UTC, and that instant is read again. -/
theorem parseTs_safe_iff_zoned : ReadsSafely Sample.zonedIso "2026-09-24T09:00:00+02:00" ↔
    NamesYear Sample.zonedIso "2026-09-24T09:00:00+02:00" :=
  parseTs_safe_iff zonedIso_documented "2026-09-24T09:00:00+02:00"

/-! ## The expiry of a key -/

/-- `parse_expiry`; a blank text is no expiry. -/
def parseExpiry (iso : Iso8601) : Option String →
    Except Panic (Except AdminError (Option OffsetDateTime))
  | none => .ok (.ok none)
  | some raw =>
    if Text.trim raw = "" then .ok (.ok none)
    else do
      match ← parseTs iso raw with
      | some ts => return .ok (some ts)
      | none => return .error (.badRequest ["`expires_at` is not ISO 8601: ", .quoted raw])

/-- An expiry is answered without a panic exactly if it is blank or its UTC date is in the
calendar. -/
theorem parseExpiry_isOk_iff {iso : Iso8601} {raw : Option String} :
    (∃ answer, parseExpiry iso raw = .ok answer) ↔
      ∀ text ∈ raw, Text.trim text ≠ "" → NamesDate iso text := by
  cases raw with
  | none => exact iff_of_true ⟨_, rfl⟩ fun text htext => absurd htext (Option.not_mem_none text)
  | some raw =>
    simp only [Option.mem_some_iff, forall_eq', parseExpiry, ← parseTs_isOk_iff]
    split
    · rename_i hblank
      exact iff_of_true ⟨_, rfl⟩ fun hne => absurd hblank hne
    · rename_i hne
      cases hparsed : parseTs iso raw with
      | error panic =>
        refine iff_of_false (by rintro ⟨_, ⟨⟩⟩) fun h => ?_
        obtain ⟨parsed, hok⟩ := h hne
        cases hok
      | ok parsed =>
        refine iff_of_true ?_ fun _ => ⟨parsed, rfl⟩
        cases parsed with
        | none => exact ⟨_, rfl⟩
        | some ts => exact ⟨_, rfl⟩

/-! ## The ends of the calendar -/

/-- The last second of 9999, on a clock that is an hour behind UTC. -/
def Sample.lastHour : String := "9999-12-31T23:59:59-01:00"

/-- The first second of year 0, on a clock that is an hour ahead. -/
def Sample.firstHour : String := "0000-01-01T00:00:00+01:00"

/-- The one is read with a panic, and the other as an instant whose text is not read. -/
theorem calendar_ends_unsafe : Sample.zonedIso.Documented ∧
    parseTs Sample.zonedIso Sample.lastHour = .error .offsetRange ∧
    ∃ ts, parseTs Sample.zonedIso Sample.firstHour = .ok (some ts) ∧
      formatTs ts = .ok "-0001-12-31T23:00:00.000000000Z" ∧
      parseTs Sample.zonedIso "-0001-12-31T23:00:00.000000000Z" = .ok none := by
  refine ⟨zonedIso_documented, by decide +kernel, ⟨-62167222800000000000, 0, by decide⟩, ?_⟩
  decide +kernel

end PartnerPortal
