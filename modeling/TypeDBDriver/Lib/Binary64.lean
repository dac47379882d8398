import Mathlib.Data.Int.Log
import Mathlib.Data.Rat.Floor
import Mathlib.Tactic.Linarith
import Mathlib.Tactic.NormNum
import Mathlib.Tactic.Positivity

/-!
# Binary64 rounding

The double nearest to a rational number that is not negative, ties going to the even significand.

* `quantumExponent`, `round`: the spacing of doubles around a number, and the rounding.
* `abs_roundHalfEven_sub_le`: rounding to an integer moves by at most one half.
* **`round_le`**: rounding moves a normal number up by at most one part in `2 ^ 53`.
-/

namespace Binary64

/-- The exponent of the spacing of doubles around `q`: 53 bits of significand, until subnormal. -/
def quantumExponent (q : ℚ) : ℤ := max (Int.log 2 q - 52) (-1074)

/-- The nearest integer, ties to even. -/
def roundHalfEven (q : ℚ) : ℤ :=
  if q - ⌊q⌋ < 1 / 2 then ⌊q⌋
  else if 1 / 2 < q - ⌊q⌋ then ⌊q⌋ + 1
  else if ⌊q⌋ % 2 = 0 then ⌊q⌋ else ⌊q⌋ + 1

/-- The nearest double, its range of exponents unbounded above. -/
def round (q : ℚ) : ℚ := roundHalfEven (q / 2 ^ quantumExponent q) * 2 ^ quantumExponent q

theorem abs_roundHalfEven_sub_le (q : ℚ) : |(roundHalfEven q : ℚ) - q| ≤ 1 / 2 := by
  have h1 := Int.floor_le q
  have h2 := Int.lt_floor_add_one q
  rw [roundHalfEven, abs_le]
  by_cases hlt : q - ⌊q⌋ < 1 / 2
  · rw [if_pos hlt]
    constructor <;> linarith
  · rw [if_neg hlt]
    by_cases hgt : 1 / 2 < q - ⌊q⌋
    · rw [if_pos hgt]
      push_cast
      constructor <;> linarith
    · rw [if_neg hgt]
      by_cases heven : ⌊q⌋ % 2 = 0
      · rw [if_pos heven]
        constructor <;> linarith
      · rw [if_neg heven]
        push_cast
        constructor <;> linarith

/-- Rounding moves by at most half the spacing. -/
theorem abs_round_sub_le (q : ℚ) : |round q - q| ≤ 2 ^ quantumExponent q / 2 := by
  have hpos : (0 : ℚ) < 2 ^ quantumExponent q := zpow_pos (by norm_num) _
  have h := abs_roundHalfEven_sub_le (q / 2 ^ quantumExponent q)
  have hq : q = q / 2 ^ quantumExponent q * 2 ^ quantumExponent q :=
    (div_mul_cancel₀ q hpos.ne').symm
  calc |round q - q|
      = |(roundHalfEven (q / 2 ^ quantumExponent q) : ℚ) - q / 2 ^ quantumExponent q| *
          2 ^ quantumExponent q := by
        rw [← abs_of_pos hpos, ← abs_mul, abs_of_pos hpos, sub_mul, ← hq, round]
    _ ≤ 1 / 2 * 2 ^ quantumExponent q := mul_le_mul_of_nonneg_right h hpos.le
    _ = 2 ^ quantumExponent q / 2 := by ring

/-- The spacing around a normal number is at most one part in `2 ^ 52` of it. -/
theorem quantum_le {q : ℚ} (hq : 2 ^ (-1022 : ℤ) ≤ q) :
    (2 : ℚ) ^ quantumExponent q ≤ q / 2 ^ (52 : ℕ) := by
  have hq0 : 0 < q := lt_of_lt_of_le (zpow_pos (by norm_num) _) hq
  have hlog : (-1022 : ℤ) ≤ Int.log 2 q := by
    rw [← Int.zpow_le_iff_le_log (by norm_num) hq0]
    exact_mod_cast hq
  have hexp : quantumExponent q = Int.log 2 q - 52 := by
    rw [quantumExponent]
    omega
  have hle : (2 : ℚ) ^ Int.log 2 q ≤ q := by
    exact_mod_cast Int.zpow_log_le_self (b := 2) (by norm_num) hq0
  rw [hexp, zpow_sub₀ (by norm_num)]
  exact div_le_div_of_nonneg_right hle (by positivity)

/-- **Rounding moves a normal number up by at most one part in `2 ^ 53`.** -/
theorem round_le {q : ℚ} (hq : 2 ^ (-1022 : ℤ) ≤ q) : round q ≤ q * (1 + 1 / 2 ^ (53 : ℕ)) := by
  have h1 := (abs_le.mp (abs_round_sub_le q)).2
  have h2 := quantum_le hq
  have h3 : q / 2 ^ (52 : ℕ) / 2 = q * (1 / 2 ^ (53 : ℕ)) := by ring
  linarith

theorem le_round {q : ℚ} (hq : 2 ^ (-1022 : ℤ) ≤ q) : q * (1 - 1 / 2 ^ (53 : ℕ)) ≤ round q := by
  have h1 := (abs_le.mp (abs_round_sub_le q)).1
  have h2 := quantum_le hq
  have h3 : q / 2 ^ (52 : ℕ) / 2 = q * (1 / 2 ^ (53 : ℕ)) := by ring
  linarith

theorem round_zero : round 0 = 0 := by
  rw [round, zero_div]
  have h : roundHalfEven 0 = 0 := by simp [roundHalfEven]
  rw [h, Int.cast_zero, zero_mul]

end Binary64
