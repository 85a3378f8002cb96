import PartnerPortal.Billing.Message
import PartnerPortal.Timefmt

/-!
# The canonical timestamp

Periods, due dates, expiries, leases, cursors and the cutoffs of retention are stored as text and
compared byte by byte.  This holds for every instant whose UTC year has four digits and no sign,
whatever the offset it was given at.

Results:
- `fourDigitYear_iff` — these years are the days 0000-01-01 to 9999-12-31;
- `asBytes_lt_iff` — texts of one byte a character compare as their bytes do;
- `canonical_timestamps` — timestamps and hours have a fixed width, are read back, and sort as the
  instants do.
-/

namespace PartnerPortal

/-! ## Years -/

/-- The years that have four digits and no sign. -/
theorem fourDigitYear_iff {day : Int} : FourDigitYear day ↔ -719528 ≤ day ∧ day ≤ maxDay := by
  refine ⟨fun h => ⟨h.ge, ?_⟩, fun h => fourDigitYear_of_range h.1 h.2⟩
  by_contra hpast
  have hmono := Calendar.yearOf_mono (show maxDay + 1 ≤ day by omega)
  rw [show Calendar.yearOf (maxDay + 1) = 10000 by decide] at hmono
  exact absurd (hmono.trans h.2) (by decide)

/-- Of a four-digit year, UTC shows a date of the calendar. -/
theorem FourDigitYear.inRange {nanos : Int} (h : FourDigitYear (nanos / nanosPerDay)) :
    minDay * nanosPerDay ≤ nanos ∧ nanos < (maxDay + 1) * nanosPerDay := by
  obtain ⟨hlow, hhigh⟩ := fourDigitYear_iff.1 h
  unfold minDay nanosPerDay at *
  omega

/-! ## Bytes -/

theorem asBytes_oneByte {text : List Char} (h : OneByte text) :
    asBytes text = text.map fun c => c.val.toUInt8 := by
  induction text with
  | nil => rfl
  | cons c text ih =>
    obtain ⟨hc, htext⟩ := OneByte.cons_iff.1 h
    rw [asBytes, List.flatMap_cons, String.utf8EncodeChar_eq_singleton hc, List.map_cons,
      ← ih htext]
    rfl

theorem length_asBytes {text : List Char} (h : OneByte text) :
    (asBytes text).length = text.length := by
  rw [asBytes_oneByte h, List.length_map]

/-- Texts of one byte a character compare as their bytes do. -/
theorem asBytes_lt_iff {s t : List Char} (hs : OneByte s) (ht : OneByte t) :
    asBytes s < asBytes t ↔ s < t := by
  have hbyte : ∀ c : Char, c.utf8Size = 1 → c.val.toUInt8.toNat = c.toNat := by
    intro c hc
    have hsmall : c.val.toNat ≤ 127 := Char.utf8Size_eq_one_iff.1 hc
    rw [UInt32.toNat_toUInt8]
    exact Nat.mod_eq_of_lt (Nat.lt_of_le_of_lt hsmall (by decide))
  have hlt : ∀ c d : Char, c.utf8Size = 1 → d.utf8Size = 1 →
      (c.val.toUInt8 < d.val.toUInt8 ↔ c < d) := by
    intro c d hc hd
    rw [UInt8.lt_iff_toNat_lt, hbyte c hc, hbyte d hd]
    exact UInt32.lt_iff_toNat_lt.symm
  have heq : ∀ c d : Char, c.utf8Size = 1 → d.utf8Size = 1 →
      (c.val.toUInt8 = d.val.toUInt8 ↔ c = d) := by
    intro c d hc hd
    rw [← UInt8.toNat_inj, hbyte c hc, hbyte d hd]
    exact Char.toNat_inj
  rw [asBytes_oneByte hs, asBytes_oneByte ht]
  induction s generalizing t with
  | nil =>
    cases t with
    | nil => exact iff_of_false (List.lt_irrefl _) (List.lt_irrefl _)
    | cons d t => exact iff_of_true (List.nil_lt_cons _ _) (List.nil_lt_cons _ _)
  | cons c s ih =>
    obtain ⟨hc, hs⟩ := OneByte.cons_iff.1 hs
    cases t with
    | nil => exact iff_of_false (List.not_lt_nil _) (List.not_lt_nil _)
    | cons d t =>
      obtain ⟨hd, ht⟩ := OneByte.cons_iff.1 ht
      rw [List.map_cons, List.map_cons, List.cons_lt_cons_iff, List.cons_lt_cons_iff, hlt c d hc hd,
        heq c d hc hd]
      exact or_congr_right (and_congr_right fun _ => ih hs ht)

/-! ## The canonical form -/

theorem hourText_isPrefix (nanos : Int) : hourText nanos <+: tsText nanos := by
  refine ⟨(clockText (nanos % nanosPerDay).toNat).drop 2, ?_⟩
  rw [hourText, tsText, List.append_assoc, List.cons_append]
  rfl

theorem oneByte_hourText (nanos : Int) : OneByte (hourText nanos) :=
  fun c hc => oneByte_tsText nanos c ((hourText_isPrefix nanos).subset hc)

theorem length_dateText {day : Int} (h : FourDigitYear day) : (dateText day).length = 10 := by
  simp [dateText, yearText, not_lt.2 h.1]

theorem length_hourText {nanos : Int} (h : FourDigitYear (nanos / nanosPerDay)) :
    (hourText nanos).length = 13 := by
  rw [hourText, List.length_append, length_dateText h]
  simp

/-- Nineteen characters follow the date, whatever the time is. -/
theorem length_tsText {nanos : Int} (h : FourDigitYear (nanos / nanosPerDay)) :
    (tsText nanos).length = 30 := by
  rw [tsText, List.length_append, length_dateText h]
  simp [clockText]

/-- The hour is the timestamp cut behind it. -/
theorem take_tsText {nanos : Int} (h : FourDigitYear (nanos / nanosPerDay)) :
    (tsText nanos).take 13 = hourText nanos := by
  have hdate := length_dateText h
  rw [tsText, hourText, List.take_append, hdate, List.take_of_length_le (by rw [hdate]; decide)]
  rfl

/-- What the texts of an instant are, and what they are read back as. -/
structure WrittenAs (iso : Iso8601) (ts : OffsetDateTime) (text hour : String) : Prop where
  formatted : formatTs ts = .ok text
  hourFormatted : formatHour ts = .ok hour
  width : (asBytes text.toList).length = 30
  /-- in UTC, whatever the offset was -/
  read : ∃ utc, parseTs iso text = .ok (some utc) ∧ utc.nanos = ts.nanos ∧ utc.offset = 0
  hourPrefix : asBytes hour.toList = (asBytes text.toList).take 13

theorem writtenAs (iso : Iso8601) {ts : OffsetDateTime}
    (h : FourDigitYear (ts.nanos / nanosPerDay)) :
    WrittenAs iso ts (String.ofList (tsText ts.nanos)) (String.ofList (hourText ts.nanos)) := by
  obtain ⟨text, htext⟩ := formatTs_isOk_iff.2 h.inRange
  obtain ⟨hour, hhour⟩ := formatHour_isOk_iff.2 h.inRange
  obtain ⟨utc, hutc⟩ := OffsetDateTime.toUtc_isOk_iff.2 h.inRange
  obtain ⟨hnanos, hoffset⟩ := OffsetDateTime.toOffset_ok_iff.1 hutc
  have hcanonical : CanonicalTs (String.ofList (tsText ts.nanos)) utc :=
    ⟨hoffset, hnanos ▸ h, by rw [hnanos]⟩
  have hbytes := oneByte_tsText ts.nanos
  refine ⟨formatTs_ok htext ▸ htext, formatHour_ok hhour ▸ hhour, ?_,
    ⟨utc, hcanonical.parseTs iso, hnanos, hoffset⟩, ?_⟩
  · rw [String.toList_ofList, length_asBytes hbytes, length_tsText h]
  · rw [String.toList_ofList, String.toList_ofList, asBytes_oneByte hbytes,
      asBytes_oneByte (oneByte_hourText _), ← List.map_take, take_tsText h]

/-- On the years 0000 to 9999 timestamps have thirty bytes and are read back, an hour is the first
thirteen of them, and both sort byte by byte as the instants and their hours do. -/
theorem canonical_timestamps (iso : Iso8601) {a b : OffsetDateTime}
    (ha : FourDigitYear (a.nanos / nanosPerDay)) (hb : FourDigitYear (b.nanos / nanosPerDay)) :
    ∃ textA hourA textB hourB, WrittenAs iso a textA hourA ∧ WrittenAs iso b textB hourB ∧
      (asBytes textA.toList < asBytes textB.toList ↔ a < b) ∧
      (asBytes hourA.toList ≤ asBytes hourB.toList ↔
        a.nanos / nanosPerHour ≤ b.nanos / nanosPerHour) := by
  refine ⟨_, _, _, _, writtenAs iso ha, writtenAs iso hb, ?_, ?_⟩
  · rw [String.toList_ofList, String.toList_ofList, asBytes_lt_iff (oneByte_tsText _)
      (oneByte_tsText _), tsText_lt_iff ha hb]
    exact OffsetDateTime.lt_iff.symm
  · rw [String.toList_ofList, String.toList_ofList, ← List.not_lt, asBytes_lt_iff
      (oneByte_hourText _) (oneByte_hourText _), hourText_lt_hourText_iff hb ha, not_lt]

/-- Before and after midnight of a new year, at two offsets. -/
def Sample.beforeMidnight : OffsetDateTime := ⟨20454 * nanosPerDay - 1, 3600, by decide⟩

def Sample.midnight : OffsetDateTime := ⟨20454 * nanosPerDay, -3600, by decide⟩

theorem canonical_midnight : ∃ textA hourA textB hourB,
    WrittenAs Sample.iso Sample.beforeMidnight textA hourA ∧
    WrittenAs Sample.iso Sample.midnight textB hourB ∧ asBytes textA.toList < asBytes textB.toList ∧
      ¬asBytes hourB.toList ≤ asBytes hourA.toList := by
  obtain ⟨textA, hourA, textB, hourB, hA, hB, hlt, -⟩ :=
    @canonical_timestamps Sample.iso Sample.beforeMidnight Sample.midnight
      (fourDigitYear_iff.2 (by decide)) (fourDigitYear_iff.2 (by decide))
  obtain ⟨textB', hourB', textA', hourA', hB', hA', -, hle⟩ :=
    @canonical_timestamps Sample.iso Sample.midnight Sample.beforeMidnight
      (fourDigitYear_iff.2 (by decide)) (fourDigitYear_iff.2 (by decide))
  refine ⟨textA, hourA, textB, hourB, hA, hB, hlt.2 (by decide), ?_⟩
  cases hA.hourFormatted.symm.trans hA'.hourFormatted
  cases hB.hourFormatted.symm.trans hB'.hourFormatted
  rw [hle]
  decide

end PartnerPortal
