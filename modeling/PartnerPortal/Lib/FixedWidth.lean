import Mathlib.Tactic.Common
import Mathlib.Algebra.Order.Group.Nat
import Mathlib.Tactic.Positivity
import Mathlib.Data.String.Basic

/-!
# Fixed-width decimal text

Numbers written with a fixed number of decimal digits, read back, and compared as text.  Text
compares byte by byte from the left, so two numbers of one width compare as their texts do, and a
record of such fields compares field by field.

Results:
- `readDigits_pad`, `readDigits_eq_some` — a written number is read back, and only that is read;
- `pad_append_lt_iff` — fixed-width fields compare as numbers, then by what follows them.
-/

namespace FixedWidth

/-- The last `width` decimal digits of a number, most significant first. -/
def pad : Nat → Nat → List Char
  | 0, _ => []
  | width + 1, n => Nat.digitChar (n / 10 ^ width % 10) :: pad width (n % 10 ^ width)

/-- The value of a decimal digit. -/
def digitValue (c : Char) : Option Nat :=
  if 48 ≤ c.toNat ∧ c.toNat ≤ 57 then some (c.toNat - 48) else none

/-- Read `width` digits off the front of a text. -/
def readDigits : Nat → List Char → Option (Nat × List Char)
  | 0, text => some (0, text)
  | _ + 1, [] => none
  | width + 1, c :: text =>
    match digitValue c, readDigits width text with
    | some d, some (n, rest) => some (d * 10 ^ width + n, rest)
    | _, _ => none

@[simp] theorem length_pad (width n : Nat) : (pad width n).length = width := by
  induction width generalizing n with
  | zero => rfl
  | succ width ih => simp [pad, ih]

theorem digitValue_digitChar {d : Nat} (h : d < 10) : digitValue (Nat.digitChar d) = some d := by
  unfold digitValue
  rw [Nat.toNat_digitChar_of_lt_ten h, if_pos (by omega)]
  congr 1
  omega

theorem digitValue_eq_some {c : Char} {d : Nat} (h : digitValue c = some d) :
    d < 10 ∧ c = Nat.digitChar d := by
  unfold digitValue at h
  split at h
  · rename_i hrange
    cases h
    have hlt : c.toNat - 48 < 10 := by omega
    refine ⟨hlt, Char.toNat_inj.1 ?_⟩
    rw [Nat.toNat_digitChar_of_lt_ten hlt]
    omega
  · cases h

theorem digitChar_lt_iff {a b : Nat} (ha : a < 10) (hb : b < 10) :
    Nat.digitChar a < Nat.digitChar b ↔ a < b := by
  rw [Char.lt_def, UInt32.lt_iff_toNat_lt]
  change (Nat.digitChar a).toNat < (Nat.digitChar b).toNat ↔ a < b
  rw [Nat.toNat_digitChar_of_lt_ten ha, Nat.toNat_digitChar_of_lt_ten hb]
  omega

theorem digitChar_inj {a b : Nat} (ha : a < 10) (hb : b < 10)
    (h : Nat.digitChar a = Nat.digitChar b) : a = b := by
  have hvalue := congrArg digitValue h
  rw [digitValue_digitChar ha, digitValue_digitChar hb] at hvalue
  exact Option.some.inj hvalue

theorem div_pow_lt_ten {width n : Nat} (h : n < 10 ^ (width + 1)) : n / 10 ^ width < 10 := by
  rw [Nat.div_lt_iff_lt_mul (by positivity), Nat.mul_comm, ← Nat.pow_succ]
  exact h

/-- A written number is read back. -/
theorem readDigits_pad {width n : Nat} (h : n < 10 ^ width) (text : List Char) :
    readDigits width (pad width n ++ text) = some (n, text) := by
  induction width generalizing n with
  | zero =>
    have : n = 0 := by simpa using h
    subst this
    rfl
  | succ width ih =>
    have hdigit := div_pow_lt_ten h
    simp only [pad, List.cons_append, readDigits, Nat.mod_eq_of_lt hdigit,
      digitValue_digitChar hdigit, ih (Nat.mod_lt n (by positivity))]
    rw [Nat.div_add_mod']

/-- What is read is how the number is written. -/
theorem readDigits_eq_some {width n : Nat} {text rest : List Char}
    (h : readDigits width text = some (n, rest)) : n < 10 ^ width ∧ text = pad width n ++ rest := by
  induction width generalizing n text with
  | zero =>
    cases h
    exact ⟨Nat.zero_lt_one, rfl⟩
  | succ width ih =>
    cases text with
    | nil => cases h
    | cons c text =>
      rw [readDigits] at h
      split at h
      · rename_i d m rest' hd hm
        cases h
        obtain ⟨hten, rfl⟩ := digitValue_eq_some hd
        obtain ⟨hlt, rfl⟩ := ih hm
        have hpos : 0 < 10 ^ width := by positivity
        have hdiv : (d * 10 ^ width + m) / 10 ^ width = d := by
          rw [Nat.add_comm, Nat.add_mul_div_right _ _ hpos, Nat.div_eq_of_lt hlt, Nat.zero_add]
        have hmod : (d * 10 ^ width + m) % 10 ^ width = m := by
          rw [Nat.add_comm, Nat.add_mul_mod_self_right, Nat.mod_eq_of_lt hlt]
        refine ⟨?_, ?_⟩
        · calc d * 10 ^ width + m < d * 10 ^ width + 10 ^ width := Nat.add_lt_add_left hlt _
            _ = (d + 1) * 10 ^ width := (Nat.succ_mul d _).symm
            _ ≤ 10 * 10 ^ width := Nat.mul_le_mul_right _ hten
            _ = 10 ^ (width + 1) := (Nat.pow_succ').symm
        · rw [pad, hdiv, hmod, Nat.mod_eq_of_lt hten, List.cons_append]
      · cases h

/-- Comparing leading digits first, then the rest, is comparing the numbers. -/
theorem digit_split_lt_iff (base a b : Nat) :
    a < b ↔ a / base < b / base ∨ a / base = b / base ∧ a % base < b % base := by
  have ha := Nat.div_add_mod a base
  have hb := Nat.div_add_mod b base
  constructor
  · intro h
    rcases Nat.lt_or_ge (a / base) (b / base) with hlt | hge
    · exact Or.inl hlt
    · have heq : a / base = b / base := le_antisymm (Nat.div_le_div_right h.le) hge
      refine Or.inr ⟨heq, ?_⟩
      rw [heq] at ha
      omega
  · rintro (hlt | ⟨heq, hlt⟩)
    · exact lt_of_not_ge fun hge => absurd (Nat.div_le_div_right hge) (not_le.2 hlt)
    · rw [heq] at ha
      omega

theorem digit_split_eq_iff (base a b : Nat) :
    a = b ↔ a / base = b / base ∧ a % base = b % base := by
  constructor
  · rintro rfl
    exact ⟨rfl, rfl⟩
  · rintro ⟨hdiv, hmod⟩
    rw [← Nat.div_add_mod a base, hdiv, hmod, Nat.div_add_mod]

/-- Fixed-width fields compare as numbers, then by what follows them. -/
theorem pad_append_lt_iff {width a b : Nat} (ha : a < 10 ^ width) (hb : b < 10 ^ width)
    (s t : List Char) : pad width a ++ s < pad width b ++ t ↔ a < b ∨ a = b ∧ s < t := by
  induction width generalizing a b with
  | zero =>
    have h0 : a = 0 := by simpa using ha
    have h0' : b = 0 := by simpa using hb
    subst h0 h0'
    simp [pad]
  | succ width ih =>
    have hbase : 0 < 10 ^ width := by positivity
    -- the first digits decide, and where they agree the rest of the digits
    have hda := div_pow_lt_ten ha
    have hdb := div_pow_lt_ten hb
    rw [pad, pad, Nat.mod_eq_of_lt hda, Nat.mod_eq_of_lt hdb, List.cons_append, List.cons_append,
      List.cons_lt_cons_iff, digitChar_lt_iff hda hdb,
      ih (Nat.mod_lt a hbase) (Nat.mod_lt b hbase), digit_split_lt_iff (10 ^ width) a b]
    have hda' := Nat.div_add_mod a (10 ^ width)
    have hdb' := Nat.div_add_mod b (10 ^ width)
    constructor
    · rintro (hlt | ⟨hchar, hmod | ⟨hmod, hst⟩⟩)
      · exact Or.inl (Or.inl hlt)
      · exact Or.inl (Or.inr ⟨digitChar_inj hda hdb hchar, hmod⟩)
      · have hdiv := digitChar_inj hda hdb hchar
        rw [hdiv, hmod] at hda'
        exact Or.inr ⟨by omega, hst⟩
    · rintro ((hlt | ⟨hdiv, hmod⟩) | ⟨rfl, hst⟩)
      · exact Or.inl hlt
      · exact Or.inr ⟨by rw [hdiv], Or.inl hmod⟩
      · exact Or.inr ⟨rfl, Or.inr ⟨rfl, hst⟩⟩

/-! ## Text columns -/

/-- Texts compare as their characters do. -/
theorem ofList_lt_iff (s t : List Char) : String.ofList s < String.ofList t ↔ s < t := by
  rw [String.lt_iff]
  simp

theorem text_lt_of_not_lt_of_lt {a b c : String} (h : ¬ b < a) (h' : b < c) : a < c := by
  rw [String.lt_iff] at *
  exact lt_of_le_of_lt (not_lt.1 h) h'

end FixedWidth
