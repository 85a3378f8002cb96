import PartnerPortal.Lib.FixedWidth
import PartnerPortal.Lib.Rounding

/-!
# Decimal numbers

Decimal digits before and after a point, the number they write, and that number rounded to a whole
number of units of a decimal place.

Results:
- `halfAway_fraction`, `halfAway_value` — rounding to a place takes the digits up to it and looks at one
  more;
- `fractionUnits_pad` — a fixed-width field is as many units of its last place;
- `fractionUnits_append_zeros` — zeros at the end do not count.
-/

namespace Decimal

open Rounding FixedWidth

/-- A text of ASCII digits. -/
def Digits (text : List Char) : Prop := ∀ c ∈ text, c.isDigit = true

/-- The value of a digit. -/
def digit (c : Char) : Nat := c.toNat - '0'.toNat

/-- The value of a text of digits. -/
def number (text : List Char) : Nat := Nat.ofDigitChars 10 text 0

/-- The number that digits before and after a point write. -/
def value (whole fraction : List Char) : ℚ := number whole + number fraction / 10 ^ fraction.length

/-- Digits after a point in units of the last of some places: the digits up to there, and one more unit
if the digit after them is at least five. -/
def fractionUnits : Nat → List Char → Nat
  | _, [] => 0
  | 0, c :: _ => if 5 ≤ digit c then 1 else 0
  | places + 1, c :: rest => digit c * 10 ^ places + fractionUnits places rest

section Digits

variable {c : Char} {text rest : List Char}

theorem Digits.cons_iff : Digits (c :: rest) ↔ c.isDigit = true ∧ Digits rest :=
  List.forall_mem_cons

theorem digit_lt (h : c.isDigit = true) : digit c < 10 := by
  obtain ⟨-, hle⟩ := Char.isDigit_iff_toNat.1 h
  exact Nat.lt_succ_of_le (Nat.sub_le_sub_right hle '0'.toNat)

theorem number_cons : number (c :: rest) = digit c * 10 ^ rest.length + number rest := by
  rw [number, Nat.ofDigitChars_cons, Nat.ofDigitChars_eq_ofDigitChars_zero, Nat.mul_comm, Nat.mul_zero,
    Nat.zero_add]
  rfl

theorem number_lt (h : Digits text) : number text < 10 ^ text.length := by
  induction text with
  | nil => exact Nat.one_pos
  | cons c rest ih =>
    obtain ⟨hc, hrest⟩ := Digits.cons_iff.1 h
    have hdigit := digit_lt hc
    have hlt := ih hrest
    rw [number_cons, List.length_cons, Nat.pow_succ]
    calc digit c * 10 ^ rest.length + number rest
        < digit c * 10 ^ rest.length + 10 ^ rest.length := by omega
      _ = (digit c + 1) * 10 ^ rest.length := (Nat.succ_mul _ _).symm
      _ ≤ 10 * 10 ^ rest.length := Nat.mul_le_mul_right _ hdigit
      _ = 10 ^ rest.length * 10 := Nat.mul_comm _ _

end Digits

/-! ## Rounding -/

section Rounding

variable {whole fraction rest : List Char}

theorem halfAway_natCast_add (n : ℕ) {q : ℚ} (h : 0 ≤ q) : halfAway (n + q) = n + halfAway q := by
  rw [halfAway_of_nonneg (add_nonneg (Nat.cast_nonneg n) h), halfAway_of_nonneg h]
  exact round_natCast_add q n

/-- The first digit after the point decides whether a fraction is rounded up. -/
theorem halfAway_first {c : Char} (hc : c.isDigit = true) (hrest : Digits rest) :
    halfAway (number (c :: rest) / 10 ^ (c :: rest).length) = if 5 ≤ digit c then 1 else 0 := by
  have hdigit := digit_lt hc
  have hlt := number_lt hrest
  have hdiv := @halfAway_div (number (c :: rest)) (10 ^ (c :: rest).length) (Int.natCast_nonneg _)
    (Nat.pow_pos (by decide))
  rw [Int.cast_natCast, Nat.cast_pow, Nat.cast_ofNat] at hdiv
  rw [hdiv, number_cons, List.length_cons, Nat.pow_succ]
  have hunit : 0 < 10 ^ rest.length := Nat.pow_pos (by decide)
  have hbelow : digit c * 10 ^ rest.length + number rest < 10 * 10 ^ rest.length := by
    have hmul := Nat.mul_le_mul_right (10 ^ rest.length) hdigit
    rw [Nat.succ_mul] at hmul
    omega
  generalize 10 ^ rest.length = unit at *
  split
  · rename_i hup
    have hhalf := Nat.mul_le_mul_right unit hup
    rw [Int.ediv_eq_iff_of_pos (by omega)]
    omega
  · rename_i hdown
    have hhalf := Nat.mul_le_mul_right unit (Nat.lt_of_not_le hdown)
    rw [Nat.succ_mul] at hhalf
    rw [Int.ediv_eq_iff_of_pos (by omega)]
    omega

/-- Rounding a fraction to a place takes the digits up to it and looks at one more. -/
theorem halfAway_fraction (h : Digits fraction) (places : Nat) :
    halfAway (number fraction / 10 ^ fraction.length * 10 ^ places) = fractionUnits places fraction := by
  induction fraction generalizing places with
  | nil =>
    rw [show number [] = 0 from rfl, Nat.cast_zero, zero_div, zero_mul, halfAway_of_nonneg le_rfl,
      round_zero]
    cases places <;> rfl
  | cons c rest ih =>
    obtain ⟨hc, hrest⟩ := Digits.cons_iff.1 h
    cases places with
    | zero =>
      rw [pow_zero, mul_one, halfAway_first hc hrest, fractionUnits]
      split <;> rfl
    | succ places =>
      have hsplit : (number (c :: rest) : ℚ) / 10 ^ (c :: rest).length * 10 ^ (places + 1) =
          (digit c * 10 ^ places : ℕ) + number rest / 10 ^ rest.length * 10 ^ places := by
        rw [number_cons, List.length_cons]
        push_cast
        field_simp
        ring
      rw [hsplit, halfAway_natCast_add _ (by positivity), ih hrest, fractionUnits]
      push_cast
      rfl

/-- The number is rounded as its fraction is. -/
theorem halfAway_value (hfraction : Digits fraction) (places : Nat) :
    halfAway (value whole fraction * 10 ^ places) =
      (number whole * 10 ^ places + fractionUnits places fraction : ℕ) := by
  have hsplit : value whole fraction * 10 ^ places = (number whole * 10 ^ places : ℕ) +
      number fraction / 10 ^ fraction.length * 10 ^ places := by
    rw [value]
    push_cast
    ring
  rw [hsplit, halfAway_natCast_add _ (by positivity), halfAway_fraction hfraction]
  push_cast
  rfl

/-- No more digits than places are kept as they are. -/
theorem fractionUnits_exact {places : Nat} (h : fraction.length ≤ places) :
    (fractionUnits places fraction : ℚ) = number fraction / 10 ^ fraction.length * 10 ^ places := by
  induction fraction generalizing places with
  | nil =>
    rw [show number [] = 0 from rfl, Nat.cast_zero, zero_div, zero_mul]
    cases places <;> rfl
  | cons c rest ih =>
    obtain ⟨places, rfl⟩ := Nat.exists_eq_add_of_le' (Nat.one_le_of_lt h)
    rw [fractionUnits, number_cons, List.length_cons, Nat.cast_add,
      ih (Nat.le_of_succ_le_succ h)]
    push_cast
    field_simp
    ring

theorem fractionUnits_le (h : Digits fraction) (places : Nat) :
    fractionUnits places fraction ≤ 10 ^ places := by
  induction fraction generalizing places with
  | nil => cases places <;> exact Nat.zero_le _
  | cons c rest ih =>
    obtain ⟨hc, hrest⟩ := Digits.cons_iff.1 h
    cases places with
    | zero =>
      rw [fractionUnits]
      split <;> decide
    | succ places =>
      have hdigit := digit_lt hc
      have hle := ih hrest places
      calc digit c * 10 ^ places + fractionUnits places rest
          ≤ digit c * 10 ^ places + 10 ^ places := Nat.add_le_add_left hle _
        _ = (digit c + 1) * 10 ^ places := (Nat.succ_mul _ _).symm
        _ ≤ 10 * 10 ^ places := Nat.mul_le_mul_right _ hdigit
        _ = 10 ^ (places + 1) := (Nat.pow_succ').symm

end Rounding

/-! ## Written fields -/

theorem digit_digitChar {d : Nat} (h : d < 10) : digit (Nat.digitChar d) = d :=
  Nat.toNat_digitChar_sub_48_of_lt_ten h

theorem digits_pad (places n : Nat) : Digits (pad places n) := by
  induction places generalizing n with
  | zero => exact fun _ h => absurd h List.not_mem_nil
  | succ places ih =>
    have hdigit : n / 10 ^ places % 10 < 10 := Nat.mod_lt _ (by decide)
    exact Digits.cons_iff.2 ⟨Nat.isDigit_digitChar.trans (decide_eq_true hdigit), ih _⟩

/-- A fixed-width field is as many units of its last place. -/
theorem fractionUnits_pad {places n : Nat} (h : n < 10 ^ places) :
    fractionUnits places (pad places n) = n := by
  induction places generalizing n with
  | zero =>
    have hzero : n = 0 := by simpa using h
    rw [hzero]
    rfl
  | succ places ih =>
    have hdigit := div_pow_lt_ten h
    rw [pad, fractionUnits, Nat.mod_eq_of_lt hdigit, digit_digitChar hdigit,
      ih (Nat.mod_lt n (by positivity))]
    exact Nat.div_add_mod' n _

/-- Zeros at the end do not count. -/
theorem fractionUnits_append_zeros (places : Nat) (fraction : List Char) (n : Nat) :
    fractionUnits places (fraction ++ List.replicate n '0') = fractionUnits places fraction := by
  have hzeros : ∀ places, fractionUnits places (List.replicate n '0') = 0 := by
    induction n with
    | zero => exact fun places => by cases places <;> rfl
    | succ n ih =>
      intro places
      cases places with
      | zero => rfl
      | succ places =>
        rw [List.replicate_succ, fractionUnits, ih places]
        exact Nat.zero_mul _
  induction fraction generalizing places with
  | nil =>
    rw [List.nil_append, hzeros]
    cases places <;> rfl
  | cons c rest ih =>
    cases places with
    | zero => rfl
    | succ places => rw [List.cons_append, fractionUnits, fractionUnits, ih]

end Decimal
