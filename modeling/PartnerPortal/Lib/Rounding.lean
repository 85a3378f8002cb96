import Mathlib.Algebra.Order.Round
import Mathlib.Data.Rat.Floor
import Mathlib.Tactic.FieldSimp
import Mathlib.Tactic.Linarith
import Mathlib.Tactic.Positivity

/-!
# Rounding to the nearest integer

The nearest integer of a rational, with a half rounded away from zero, and how integer division
computes it.

Results:
- `halfAway_div` — a quotient is rounded by adding half the divisor before dividing;
- `halfAway_mono` — rounding keeps the order.
-/

namespace Rounding

/-- The nearest integer, a half away from zero. -/
def halfAway (q : ℚ) : ℤ := if 0 ≤ q then round q else -round (-q)

theorem halfAway_of_nonneg {q : ℚ} (h : 0 ≤ q) : halfAway q = round q := by
  unfold halfAway
  rw [if_pos h]

theorem halfAway_of_neg {q : ℚ} (h : q < 0) : halfAway q = -round (-q) := by
  unfold halfAway
  rw [if_neg (not_le.2 h)]

theorem halfAway_nonneg {q : ℚ} (h : 0 ≤ q) : 0 ≤ halfAway q := by
  rw [halfAway_of_nonneg h, round_eq]
  exact Int.floor_nonneg.2 (by linarith)

theorem halfAway_nonpos {q : ℚ} (h : q < 0) : halfAway q ≤ 0 := by
  have hround : 0 ≤ round (-q) := by
    rw [round_eq]
    exact Int.floor_nonneg.2 (by linarith)
  rw [halfAway_of_neg h]
  linarith

theorem round_mono {p q : ℚ} (h : p ≤ q) : round p ≤ round q := by
  rw [round_eq, round_eq]
  exact Int.floor_mono (by linarith)

/-- Rounding keeps the order. -/
theorem halfAway_mono {p q : ℚ} (h : p ≤ q) : halfAway p ≤ halfAway q := by
  rcases lt_or_ge p 0 with hp | hp
  · rcases lt_or_ge q 0 with hq | hq
    · rw [halfAway_of_neg hp, halfAway_of_neg hq]
      have hround : round (-q) ≤ round (-p) := round_mono (by linarith)
      linarith
    · exact le_trans (halfAway_nonpos hp) (halfAway_nonneg hq)
  · rw [halfAway_of_nonneg hp, halfAway_of_nonneg (le_trans hp h)]
    exact round_mono h

/-- A quotient is rounded by adding half the divisor before dividing. -/
theorem halfAway_div {n : ℤ} {d : ℕ} (hn : 0 ≤ n) (hd : 0 < d) :
    halfAway (n / d) = (n * 2 + d) / (d * 2) := by
  have hd' : (0 : ℚ) < d := Nat.cast_pos.2 hd
  have hquotient : (0 : ℚ) ≤ n / d := div_nonneg (Int.cast_nonneg hn) hd'.le
  have hshift : (n : ℚ) / d + 1 / 2 = ((n * 2 + d : ℤ) : ℚ) / ((d * 2 : ℕ) : ℚ) := by
    push_cast
    field_simp
  rw [halfAway_of_nonneg hquotient, round_eq, hshift, Rat.floor_intCast_div_natCast]
  push_cast
  rfl

end Rounding
