import PartnerPortal.Billing.Reads
import PartnerPortal.Dashboard.Cursor
import PartnerPortal.Lib.Decimal

/-!
# Prices as text

`PricePerMillion::parse`, which reads a price digit by digit into an `i128`, and the decimal string a
price is shown as.  The whole part is accumulated with checked operations; the digits after the point are
added with `+=`, which a checked build panics on past an `i128`.

Results:
- `price_parse_exact_iff` — a text is read as its exact value, or refused, exactly where it is not at the
  end of an `i128`; a price is read back from the string it is shown as.
-/

namespace PartnerPortal

open MachineInt Rounding Decimal FixedWidth

/-! ## Reading -/

/-- An unchecked operation left its type. -/
structure ArithmeticOverflow where
deriving Repr, DecidableEq

/-- `PRICE_DECIMAL_PLACES` -/
def priceDecimalPlaces : Nat := 6

/-- `+=` on an `i128`. -/
def addI128 (a b : Int) : Except ArithmeticOverflow Int :=
  match checkedI128 (a + b) with
  | some sum => .ok sum
  | none => .error {}

/-- The whole part, from the digits before it on. -/
def wholeValue (text : String) : Int → List Char → Except PriceError Int
  | value, [] => .ok value
  | value, c :: rest =>
    match (checkedI128 (value * 10)).bind fun v => checkedI128 (v + digit c) with
    | some value => wholeValue text value rest
    | none => .error (.outOfRange text)

/-- The whole part in the unit. -/
def wholeMicros (text : String) (whole : List Char) : Except PriceError Int := do
  let value ← wholeValue text 0 whole
  match checkedI128 (value * 10 ^ priceDecimalPlaces) with
  | some micros => .ok micros
  | none => .error (.outOfRange text)

/-- The digits after the point, once some were seen. -/
def addFraction : Nat → Int → List Char → Except ArithmeticOverflow Int
  | _, micros, [] => .ok micros
  | seen, micros, c :: rest =>
    if seen < priceDecimalPlaces then do
      let micros ← addI128 micros (digit c * 10 ^ (priceDecimalPlaces - seen - 1))
      addFraction (seen + 1) micros rest
    else if '5' ≤ c then addI128 micros 1
    else .ok micros

/-- The text before the point and the text after it. -/
def splitPrice (text : List Char) : List Char × Option (List Char) :=
  match Dashboard.splitOnce '.' text with
  | some (whole, fraction) => (whole, some fraction)
  | none => (text, none)

/-- Whether a text is a price at all. -/
def isPrice (whole : List Char) (fraction : Option (List Char)) : Bool :=
  whole.all Char.isDigit && (fraction.all fun f => f ≠ [] && f.all Char.isDigit) &&
    !(whole = [] && fraction.isNone)

/-- `i64::try_from` of an amount that is not negative. -/
def priceOf (text : String) (micros : Int) : Except PriceError PricePerMillion :=
  match Count.ofInt micros with
  | some price => .ok price
  | none => .error (.outOfRange text)

/-- `PricePerMillion::parse` -/
def parsePrice (text : String) : Except ArithmeticOverflow (Except PriceError PricePerMillion) :=
  let (whole, fraction) := splitPrice text.toList
  if isPrice whole fraction then
    match wholeMicros text whole with
    | .error e => .ok (.error e)
    | .ok micros => do
      let micros ← addFraction 0 micros (fraction.getD [])
      return priceOf text micros
  else .ok (.error (.notANumber text))

/-! ## What a price text is -/

/-- Digits, then a point and more digits; either part may be left out, but not the digits after a
point. -/
inductive PriceText : List Char → List Char → List Char → Prop
  | whole {whole : List Char} (hwhole : Digits whole) (hne : whole ≠ []) : PriceText whole whole []
  | point {whole fraction : List Char} (hwhole : Digits whole) (hfraction : Digits fraction)
      (hne : fraction ≠ []) : PriceText (whole ++ '.' :: fraction) whole fraction

/-- The price a text writes, in the unit and rounded half away from zero. -/
def exactMicros (whole fraction : List Char) : Int :=
  halfAway (value whole fraction * 10 ^ priceDecimalPlaces)

/-- A text is read to its exact value, which fits or is out of range, exactly if it is a price. -/
structure ReadExactly (text : String)
    (read : Except ArithmeticOverflow (Except PriceError PricePerMillion)) : Prop where
  returns : ∃ result, read = .ok result
  accepts : (∃ price, read = .ok (.ok price)) ∨ read = .ok (.error (.outOfRange text)) ↔
    ∃ whole fraction, PriceText text.toList whole fraction
  exact : ∀ whole fraction, PriceText text.toList whole fraction →
    read = .ok (priceOf text (exactMicros whole fraction))

/-- The whole part is the last one an `i128` of micro-dollars holds, and the fraction is past its end. -/
def AtEnd (whole fraction : List Char) : Prop :=
  number whole = 170141183460469231731687303715884 ∧ 105727 < exactMicros [] fraction

section Read

variable {text : String} {whole fraction rest : List Char}

/-- `i128::MAX` -/
def i128Max : Int := 170141183460469231731687303715884105727

/-- `checked_` arithmetic that is not negative has one end. -/
theorem checkedI128_eq {n : Int} (h : 0 ≤ n) :
    checkedI128 n = if n ≤ i128Max then some n else none := by
  split
  · rename_i hfits
    exact checkedI128_of_range h hfits
  · rename_i hpast
    exact checkedI128_of_gt (not_le.1 hpast)

theorem addI128_eq {a b : Int} (ha : 0 ≤ a) (hb : 0 ≤ b) :
    addI128 a b = if a + b ≤ i128Max then .ok (a + b) else .error {} := by
  rw [addI128, checkedI128_eq (add_nonneg ha hb)]
  by_cases hfits : a + b ≤ i128Max
  · rw [if_pos hfits, if_pos hfits]
  · rw [if_neg hfits, if_neg hfits]

theorem five_le_digit_iff {c : Char} : 5 ≤ digit c ↔ '5' ≤ c := by
  rw [Char.le_def, UInt32.le_iff_toNat_le]
  show 5 ≤ c.val.toNat - 48 ↔ 53 ≤ c.val.toNat
  omega

/-- One more digit of the whole part, if the type holds the result. -/
theorem checked_shift_digit {value : Int} (hvalue : 0 ≤ value) (c : Char) :
    ((checkedI128 (value * 10)).bind fun v => checkedI128 (v + digit c)) =
      if value * 10 + digit c ≤ i128Max then some (value * 10 + digit c) else none := by
  have hshifted : 0 ≤ value * 10 := by positivity
  rw [checkedI128_eq hshifted]
  by_cases hshift : value * 10 ≤ i128Max
  · rw [if_pos hshift, Option.bind_some, checkedI128_eq (by positivity)]
  · have hpast : ¬value * 10 + digit c ≤ i128Max :=
      fun h => hshift (le_of_add_le_of_nonneg_left h (Nat.cast_nonneg _))
    rw [if_neg hshift, if_neg hpast, Option.bind_none]

theorem shift_number (value : Int) (c : Char) (rest : List Char) :
    value * 10 ^ (c :: rest).length + number (c :: rest) =
      (value * 10 + digit c) * 10 ^ rest.length + number rest := by
  rw [number_cons, List.length_cons]
  push_cast
  ring

/-- The digits before the point are accumulated as long as they fit. -/
theorem wholeValue_eq {value : Int} (hvalue : 0 ≤ value) (hfits : value ≤ i128Max)
    (whole : List Char) :
    wholeValue text value whole =
      if value * 10 ^ whole.length + number whole ≤ i128Max then
        .ok (value * 10 ^ whole.length + number whole)
      else .error (.outOfRange text) := by
  induction whole generalizing value with
  | nil =>
    simp only [wholeValue, List.length_nil, pow_zero, mul_one, show number [] = 0 from rfl,
      Nat.cast_zero, add_zero, if_pos hfits]
  | cons c rest ih =>
    rw [wholeValue, checked_shift_digit hvalue, shift_number]
    split
    · rename_i next hnext
      obtain ⟨hle, heq⟩ := Option.ite_none_right_eq_some.1 hnext
      cases heq
      exact ih (by positivity) hle
    · rename_i hnone
      have hpast : i128Max < value * 10 + digit c := by
        by_contra hle
        rw [if_pos (not_lt.1 hle)] at hnone
        cases hnone
      -- more digits only move a number that is already too long further out
      have hone : (1 : Int) ≤ 10 ^ rest.length := one_le_pow₀ (by decide)
      have hgrow : value * 10 + digit c ≤ (value * 10 + digit c) * 10 ^ rest.length :=
        le_mul_of_one_le_right (by positivity) hone
      rw [if_neg]
      exact not_le.2 (hpast.trans_le (hgrow.trans (le_add_of_nonneg_right (Nat.cast_nonneg _))))

/-- The whole part is in range exactly if its micro-dollars are. -/
theorem wholeMicros_eq (text : String) (whole : List Char) :
    wholeMicros text whole =
      if (number whole : Int) * 10 ^ 6 ≤ i128Max then .ok ((number whole : Int) * 10 ^ 6)
      else .error (.outOfRange text) := by
  have hmax : (0 : Int) ≤ i128Max := by decide
  have hmicros : (0 : Int) ≤ number whole * 10 ^ priceDecimalPlaces := by positivity
  rw [wholeMicros, wholeValue_eq le_rfl hmax, zero_mul, zero_add]
  by_cases hnumber : (number whole : Int) ≤ i128Max
  · rw [if_pos hnumber, Result.ok_bind, checkedI128_eq hmicros, priceDecimalPlaces]
    by_cases hfits : (number whole : Int) * 10 ^ 6 ≤ i128Max
    · rw [if_pos hfits, if_pos hfits]
    · rw [if_neg hfits, if_neg hfits]
  · have hpast : ¬(number whole : Int) * 10 ^ 6 ≤ i128Max := by omega
    rw [if_neg hnumber, if_neg hpast]
    rfl

/-- The digits after the point are added as long as they fit. -/
theorem addFraction_eq {seen places : Nat} (hplaces : seen + places = priceDecimalPlaces) {micros : Int}
    (hmicros : 0 ≤ micros) (hfits : micros ≤ i128Max) (fraction : List Char) :
    addFraction seen micros fraction =
      if micros + fractionUnits places fraction ≤ i128Max then
        .ok (micros + fractionUnits places fraction)
      else .error {} := by
  induction fraction generalizing seen places micros with
  | nil =>
    have hnone : fractionUnits places [] = 0 := by cases places <;> rfl
    rw [hnone, Nat.cast_zero, add_zero, if_pos hfits]
    rfl
  | cons c rest ih =>
    cases places with
    | zero =>
      -- the digit past the last place decides the rounding, and those behind it nothing
      rw [addFraction, if_neg (by omega), fractionUnits]
      by_cases hup : '5' ≤ c
      · rw [if_pos hup, if_pos (five_le_digit_iff.2 hup), Nat.cast_one]
        exact addI128_eq hmicros Int.one_nonneg
      · rw [if_neg hup, if_neg (mt five_le_digit_iff.1 hup), Nat.cast_zero, add_zero, if_pos hfits]
    | succ places =>
      rw [addFraction, if_pos (by omega), fractionUnits,
        show priceDecimalPlaces - seen - 1 = places by omega]
      have hamount : (0 : Int) ≤ (digit c * 10 ^ places : ℕ) := Nat.cast_nonneg _
      -- what is added later is not negative, so a sum past the end stays there
      have hrest : (0 : Int) ≤ fractionUnits places rest := Nat.cast_nonneg _
      push_cast at hamount ⊢
      rw [addI128_eq hmicros hamount, ← add_assoc]
      by_cases hstep : micros + digit c * 10 ^ places ≤ i128Max
      · rw [if_pos hstep]
        exact ih (by omega) (add_nonneg hmicros hamount) hstep
      · rw [if_neg hstep, if_neg (fun h => hstep (le_of_add_le_of_nonneg_left h hrest))]
        rfl

/-! ## Grammar -/

theorem isDigit_ne_point {c : Char} (h : c.isDigit = true) : c ≠ '.' := by
  rintro rfl
  exact absurd h (by decide)

theorem point_not_mem (h : Digits whole) : '.' ∉ whole :=
  fun hmem => isDigit_ne_point (h _ hmem) rfl

theorem digits_iff_all : Digits whole ↔ whole.all Char.isDigit = true :=
  List.all_eq_true.symm

/-- A price text is split where its point is. -/
theorem PriceText.split_eq {chars : List Char} (h : PriceText chars whole fraction) :
    (splitPrice chars).1 = whole ∧ (splitPrice chars).2.getD [] = fraction ∧
      isPrice (splitPrice chars).1 (splitPrice chars).2 = true := by
  cases h with
  | whole hwhole hne =>
    rw [splitPrice, Dashboard.splitOnce, if_neg (point_not_mem hwhole)]
    refine ⟨rfl, rfl, ?_⟩
    simp [isPrice, digits_iff_all.1 hwhole, hne]
  | point hwhole hfraction hne =>
    rw [splitPrice, Dashboard.splitOnce_append (point_not_mem hwhole)]
    refine ⟨rfl, rfl, ?_⟩
    simp [isPrice, digits_iff_all.1 hwhole, digits_iff_all.1 hfraction, hne]

/-- Only price texts pass the test. -/
theorem priceText_of_isPrice {chars : List Char}
    (h : isPrice (splitPrice chars).1 (splitPrice chars).2 = true) :
    PriceText chars (splitPrice chars).1 ((splitPrice chars).2.getD []) := by
  unfold splitPrice at h ⊢
  split at h
  · rename_i whole fraction hsplit
    rw [Dashboard.eq_of_splitOnce hsplit]
    simp only [isPrice, Option.all_some, Bool.and_eq_true, decide_eq_true_eq] at h
    exact .point (digits_iff_all.2 h.1.1) (digits_iff_all.2 h.1.2.2) h.1.2.1
  · rename_i hsplit
    simp only [isPrice, Option.all_none, Bool.and_true, Bool.and_eq_true, Option.isNone_none,
      Bool.not_eq_true', decide_eq_false_iff_not] at h
    exact .whole (digits_iff_all.2 h.1) h.2

/-! ## Exactness -/

theorem exactMicros_eq (hfraction : Digits fraction) :
    exactMicros whole fraction = (number whole : Int) * 10 ^ 6 + fractionUnits 6 fraction := by
  rw [exactMicros, priceDecimalPlaces, halfAway_value hfraction]
  push_cast
  rfl

theorem PriceText.digits {chars : List Char} (h : PriceText chars whole fraction) :
    Digits whole ∧ Digits fraction := by
  cases h with
  | whole hwhole hne => exact ⟨hwhole, fun _ hc => absurd hc List.not_mem_nil⟩
  | point hwhole hfraction hne => exact ⟨hwhole, hfraction⟩

theorem atEnd_iff (hfraction : Digits fraction) :
    AtEnd whole fraction ↔ (number whole : Int) * 10 ^ 6 ≤ i128Max ∧
      i128Max < (number whole : Int) * 10 ^ 6 + fractionUnits 6 fraction := by
  have hunits := fractionUnits_le hfraction 6
  rw [AtEnd, exactMicros_eq hfraction, show number [] = 0 from rfl, i128Max]
  omega

theorem priceOf_of_gt {micros : Int} (h : i64Max < micros) :
    priceOf text micros = .error (.outOfRange text) := by
  have hnone : Count.ofInt micros = none := by
    rw [← Option.not_isSome_iff_eq_none, Count.ofInt_isSome_iff]
    exact fun hfits => absurd hfits.2 (not_le.2 h)
  rw [priceOf, hnone]

/-- What is made of a price text: its exact value, but for the end of an `i128`. -/
theorem parsePrice_eq (h : PriceText text.toList whole fraction) :
    (AtEnd whole fraction → parsePrice text = .error {}) ∧
      (¬AtEnd whole fraction →
        parsePrice text = .ok (priceOf text (exactMicros whole fraction))) := by
  obtain ⟨hwhole, hfraction, hprice⟩ := h.split_eq
  rw [hwhole] at hprice
  have hdigits := h.digits.2
  have hmicros : (0 : Int) ≤ number whole * 10 ^ 6 := by positivity
  have hunits : (0 : Int) ≤ fractionUnits 6 fraction := Nat.cast_nonneg _
  rw [atEnd_iff hdigits, exactMicros_eq hdigits]
  simp only [parsePrice, hwhole, hprice, if_true, hfraction, wholeMicros_eq]
  by_cases hrange : (number whole : Int) * 10 ^ 6 ≤ i128Max
  · simp only [if_pos hrange]
    rw [@addFraction_eq 0 6 rfl _ hmicros hrange]
    constructor
    · intro hend
      rw [if_neg (not_le.2 hend.2)]
      rfl
    · intro hend
      rw [if_pos (not_lt.1 fun hpast => hend ⟨hrange, hpast⟩)]
      rfl
  · simp only [if_neg hrange]
    -- a whole part that no `i128` holds was refused by the accumulation itself
    refine ⟨fun hend => absurd hend.1 hrange, fun _ => ?_⟩
    have hpast : i64Max < (number whole : Int) * 10 ^ 6 + fractionUnits 6 fraction := by
      unfold i128Max at hrange
      unfold i64Max
      omega
    rw [priceOf_of_gt hpast]

theorem parsePrice_of_not_isPrice
    (h : ¬isPrice (splitPrice text.toList).1 (splitPrice text.toList).2 = true) :
    parsePrice text = .ok (.error (.notANumber text)) := by
  simp only [parsePrice, if_neg h]

theorem priceOf_ok_or_outOfRange (text : String) (micros : Int) :
    (∃ price, priceOf text micros = .ok price) ∨ priceOf text micros = .error (.outOfRange text) := by
  unfold priceOf
  split
  · exact .inl ⟨_, rfl⟩
  · exact .inr rfl

/-- A text is read exactly, unless it is at the end. -/
theorem readExactly_iff : ReadExactly text (parsePrice text) ↔
    ∀ whole fraction, PriceText text.toList whole fraction → ¬AtEnd whole fraction := by
  constructor
  · intro hread whole fraction h hend
    obtain ⟨result, hresult⟩ := hread.returns
    rw [(parsePrice_eq h).1 hend] at hresult
    cases hresult
  · intro hends
    have hexact : ∀ whole fraction, PriceText text.toList whole fraction →
        parsePrice text = .ok (priceOf text (exactMicros whole fraction)) :=
      fun whole fraction h => (parsePrice_eq h).2 (hends whole fraction h)
    refine ⟨?_, ⟨fun hread => ?_, ?_⟩, hexact⟩
    · by_cases hprice : isPrice (splitPrice text.toList).1 (splitPrice text.toList).2 = true
      · exact ⟨_, hexact _ _ (priceText_of_isPrice hprice)⟩
      · exact ⟨_, parsePrice_of_not_isPrice hprice⟩
    · by_contra hnone
      have hnot : ¬isPrice (splitPrice text.toList).1 (splitPrice text.toList).2 = true :=
        fun hprice => hnone ⟨_, _, priceText_of_isPrice hprice⟩
      rw [parsePrice_of_not_isPrice hnot] at hread
      rcases hread with ⟨price, hread⟩ | hread <;> cases hread
    · rintro ⟨whole, fraction, h⟩
      rw [hexact whole fraction h]
      rcases priceOf_ok_or_outOfRange text (exactMicros whole fraction) with ⟨price, hok⟩ | hout
      · exact .inl ⟨price, congrArg _ hok⟩
      · exact .inr (congrArg _ hout)

end Read

/-! ## The string a price is shown as -/

theorem rdropWhile_append_cons {α : Type} {p : α → Bool} {c : α} (hc : ¬p c) (a l : List α) :
    (a ++ c :: l).rdropWhile p = a ++ c :: l.rdropWhile p := by
  induction l using List.reverseRecOn with
  | nil => exact List.rdropWhile_concat_neg _ _ _ hc
  | append_singleton l x ih =>
    rw [← List.cons_append, ← List.append_assoc]
    by_cases hx : p x
    · rw [List.rdropWhile_concat_pos _ _ _ hx, List.rdropWhile_concat_pos _ _ _ hx, ih]
    · rw [List.rdropWhile_concat_neg _ _ _ hx, List.rdropWhile_concat_neg _ _ _ hx,
        List.append_assoc, List.cons_append]


theorem fractionUnits_rdropWhile (places : Nat) (fraction : List Char) :
    fractionUnits places (fraction.rdropWhile (· = '0')) = fractionUnits places fraction := by
  have hzeros : fraction.rtakeWhile (· = '0') =
      List.replicate (fraction.rtakeWhile (· = '0')).length '0' := by
    refine List.eq_replicate_iff.2 ⟨rfl, fun c hc => ?_⟩
    exact of_decide_eq_true (@List.mem_rtakeWhile_imp Char (· = '0') fraction c hc)
  calc fractionUnits places (fraction.rdropWhile (· = '0'))
      = fractionUnits places (fraction.rdropWhile (· = '0') ++ fraction.rtakeWhile (· = '0')) := by
        rw [hzeros, fractionUnits_append_zeros]
    _ = fractionUnits places fraction := by rw [List.rdropWhile_append_rtakeWhile]

theorem formatMicros_toList (micros : Nat) : (formatMicros micros).toList =
    Nat.toDigits 10 (micros / 10 ^ 6) ++ '.' :: pad 6 (micros % 10 ^ 6) := by
  have hsign : ¬(micros : Int) < 0 := not_lt.2 (Int.natCast_nonneg micros)
  rw [formatMicros, if_neg hsign, Int.natAbs_natCast, String.toList_append, String.toList_append,
    String.toList_append, String.toList_ofList]
  simp [Nat.toString_eq_repr, Nat.toList_repr]

/-- The point is dropped exactly if no digit is after it. -/
theorem priceText_trim_point {whole fraction : List Char} (hwhole : Digits whole) (hne : whole ≠ [])
    (hfraction : Digits fraction) :
    PriceText (if (whole ++ '.' :: fraction).getLast? = some '.' then
      (whole ++ '.' :: fraction).dropLast else whole ++ '.' :: fraction) whole fraction := by
  cases fraction with
  | nil =>
    rw [if_pos List.getLast?_concat, List.dropLast_concat]
    exact .whole hwhole hne
  | cons c rest =>
    have hlast : (whole ++ '.' :: c :: rest).getLast? ≠ some '.' := by
      rw [List.getLast?_append_of_ne_nil _ (List.cons_ne_nil _ _), List.getLast?_cons_cons]
      exact fun h => point_not_mem hfraction (List.mem_of_getLast? h)
    rw [if_neg hlast]
    exact .point hwhole hfraction (List.cons_ne_nil c rest)

/-- The shown string is a price text, of the same price. -/
theorem priceText_toDecimalString (price : PricePerMillion) : ∃ whole fraction,
    PriceText (toDecimalString price).toList whole fraction ∧
      (number whole : Int) ≤ i64Max ∧ exactMicros whole fraction = price.value := by
  obtain ⟨micros, hmicros⟩ := Int.eq_ofNat_of_zero_le price.nonneg
  have hfield : micros % 10 ^ 6 < 10 ^ 6 := Nat.mod_lt _ (by decide)
  have hwhole : Digits (Nat.toDigits 10 (micros / 10 ^ 6)) :=
    fun _ hc => Nat.isDigit_of_mem_toDigits (by decide) (by decide) hc
  have hfraction : Digits ((pad 6 (micros % 10 ^ 6)).rdropWhile (· = '0')) :=
    fun _ hc => digits_pad 6 _ _ ((List.rdropWhile_prefix _ _).subset hc)
  have hnumber : number (Nat.toDigits 10 (micros / 10 ^ 6)) = micros / 10 ^ 6 :=
    Nat.ofDigitChars_ten_toDigits
  refine ⟨Nat.toDigits 10 (micros / 10 ^ 6), _, ?_, ?_, (exactMicros_eq hfraction).trans ?_⟩
  · rw [toDecimalString, hmicros, formatMicros_toList, rdropWhile_append_cons (by decide),
      String.toList_ofList]
    exact priceText_trim_point hwhole Nat.toDigits_ne_nil hfraction
  · have hmax := price.le_max
    rw [hnumber]
    omega
  · rw [fractionUnits_rdropWhile, fractionUnits_pad hfield, hnumber, hmicros]
    norm_cast
    exact Nat.div_add_mod' micros (10 ^ 6)

theorem priceOf_value (text : String) (price : PricePerMillion) :
    priceOf text price.value = .ok price := by
  rw [priceOf, Count.ofInt_eq_some_iff.2 rfl]

/-- A text is read as its exact value, or refused, exactly where it is not at the end of an `i128`; and a
price is read back from the string it is shown as. -/
theorem price_parse_exact_iff (text : String) :
    (ReadExactly text (parsePrice text) ↔
      ∀ whole fraction, PriceText text.toList whole fraction → ¬AtEnd whole fraction) ∧
    ∀ price, parsePrice (toDecimalString price) = .ok (.ok price) := by
  refine ⟨readExactly_iff, fun price => ?_⟩
  obtain ⟨whole, fraction, htext, hsmall, hexact⟩ := priceText_toDecimalString price
  have hend : ¬AtEnd whole fraction := by
    rintro ⟨hwhole, -⟩
    unfold i64Max at hsmall
    omega
  rw [(parsePrice_eq htext).2 hend, hexact, priceOf_value]

/-- The largest whole part there is, and two tenths. -/
def Sample.priceAtEnd : String := "170141183460469231731687303715884.2"

theorem price_parse_panics :
    ¬∀ text, ReadExactly text (parsePrice text) := by
  intro hall
  obtain ⟨result, hresult⟩ := (hall Sample.priceAtEnd).returns
  have hpanic : parsePrice Sample.priceAtEnd = .error {} := by decide +kernel
  rw [hpanic] at hresult
  cases hresult

end PartnerPortal
