import Mathlib.Tactic.FieldSimp
import TypeDBDriver.Lib.Double

/-!
# Decimal rounding

The decimals of programming languages have a coefficient of a limited size. An operation is the
exact result, rounded to the nearest such decimal, ties going to the even coefficient.

* `roundPrecision`: a limited number of significant digits, and any exponent.
* `roundMantissa`: a coefficient below a bound and a limited number of decimals, of which as many
  are kept as fit.
* **`roundPrecision_eq_self_iff`**, **`roundMantissa_eq_self_iff`**: which numbers stay as they are.
* `fitsPrecision_div_iff`, `fitsMantissa_div_iff`: for fixed-point numbers, the condition on the
  digits.
-/

namespace DecimalRounding

open Binary64 (roundHalfEven roundHalfEven_intCast abs_roundHalfEven_sub_le)

/-- Towards zero. -/
def truncate (q : ℚ) : ℤ := if 0 ≤ q then ⌊q⌋ else ⌈q⌉

theorem truncate_natCast (n : ℕ) : truncate n = n := by
  rw [truncate, if_pos n.cast_nonneg, Int.floor_natCast]

theorem ten_zpow_pos (e : ℤ) : (0 : ℚ) < 10 ^ e := zpow_pos (by norm_num) e

theorem ten_pow_pos (n : ℕ) : (0 : ℚ) < 10 ^ n := pow_pos (by norm_num) n

theorem abs_mul_ten_pow (n : ℤ) (k : ℕ) : |n * 10 ^ k| = |n| * 10 ^ k := by
  have hpos : (0 : ℤ) < 10 ^ k := pow_pos (by norm_num) k
  rw [abs_mul, abs_of_pos hpos]

theorem abs_le_abs_mul_ten_pow (n : ℤ) (k : ℕ) : |n| ≤ |n * 10 ^ k| := by
  rw [abs_mul_ten_pow]
  exact le_mul_of_one_le_right (abs_nonneg n) (one_le_pow₀ (by norm_num))

theorem ten_zpow_add (a b : ℤ) : (10 : ℚ) ^ (a + b) = 10 ^ a * 10 ^ b :=
  zpow_add₀ (by norm_num) a b

/-! ## Significant digits -/

/-- The exponent of the last of the significant digits. -/
def lastExponent (precision : ℕ) (q : ℚ) : ℤ := Int.log 10 |q| + 1 - precision

/-- The nearest number with so many significant digits. -/
def roundPrecision (precision : ℕ) (q : ℚ) : ℚ :=
  roundHalfEven (q / 10 ^ lastExponent precision q) * 10 ^ lastExponent precision q

/-- The number has at most so many significant digits. -/
def FitsPrecision (precision : ℕ) (q : ℚ) : Prop :=
  ∃ coefficient exponent : ℤ, |coefficient| < 10 ^ precision ∧ q = coefficient * 10 ^ exponent

variable {precision : ℕ} {q : ℚ}

theorem abs_lt_lastExponent : |q| < 10 ^ (lastExponent precision q + precision) := by
  have h := Int.lt_zpow_succ_log_self (b := 10) (by norm_num) |q|
  rw [Nat.cast_ofNat] at h
  rw [lastExponent, Int.sub_add_cancel]
  exact h

/-- Rounding does not carry beyond the next power of ten. -/
theorem abs_coefficient_le :
    |roundHalfEven (q / 10 ^ lastExponent precision q)| ≤ 10 ^ precision := by
  have hpos := ten_zpow_pos (lastExponent precision q)
  have hq : |q / 10 ^ lastExponent precision q| < 10 ^ precision := by
    rw [abs_div, abs_of_pos hpos, div_lt_iff₀ hpos, ← zpow_natCast, ← ten_zpow_add, add_comm]
    exact abs_lt_lastExponent
  have hround := abs_roundHalfEven_sub_le (q / 10 ^ lastExponent precision q)
  have hlt : |(roundHalfEven (q / 10 ^ lastExponent precision q) : ℚ)| < 10 ^ precision + 1 := by
    have htri := abs_sub_abs_le_abs_sub
      (roundHalfEven (q / 10 ^ lastExponent precision q) : ℚ) (q / 10 ^ lastExponent precision q)
    linarith
  exact Int.lt_add_one_iff.mp (by exact_mod_cast hlt)

theorem fitsPrecision_roundPrecision (hp : 0 < precision) :
    FitsPrecision precision (roundPrecision precision q) := by
  have hle : |roundHalfEven (q / 10 ^ lastExponent precision q)| ≤ 10 ^ precision :=
    abs_coefficient_le
  rcases hle.lt_or_eq with hlt | heq
  · exact ⟨_, _, hlt, rfl⟩
  · obtain ⟨n, rfl⟩ := Nat.exists_eq_add_of_lt hp
    rw [Nat.zero_add] at heq ⊢
    have hlt : (10 : ℤ) ^ n < 10 ^ (n + 1) := pow_lt_pow_right₀ (by norm_num) n.lt_succ_self
    have hpos : (0 : ℤ) ≤ 10 ^ n := pow_nonneg (by norm_num) n
    rcases eq_or_eq_neg_of_abs_eq heq with hc | hc
    · refine ⟨10 ^ n, lastExponent (n + 1) q + 1, by rwa [abs_of_nonneg hpos], ?_⟩
      rw [roundPrecision, hc, ten_zpow_add]
      push_cast
      ring
    · refine ⟨-10 ^ n, lastExponent (n + 1) q + 1, by rwa [abs_neg, abs_of_nonneg hpos], ?_⟩
      rw [roundPrecision, hc, ten_zpow_add]
      push_cast
      ring

theorem roundPrecision_of_fits (h : FitsPrecision precision q) : roundPrecision precision q = q := by
  obtain ⟨c, e, hc, rfl⟩ := h
  by_cases hzero : c = 0
  · rw [roundPrecision, hzero, Int.cast_zero, zero_mul, zero_div]
    rw [show roundHalfEven 0 = 0 from roundHalfEven_intCast 0, Int.cast_zero, zero_mul]
  · have hpos : (0 : ℚ) < |(c : ℚ) * 10 ^ e| := by
      rw [abs_pos]
      exact mul_ne_zero (Int.cast_ne_zero.mpr hzero) (ten_zpow_pos e).ne'
    have habs : |(c : ℚ) * 10 ^ e| < 10 ^ (e + precision) := by
      have hcast : |(c : ℚ)| < 10 ^ (precision : ℤ) := by exact_mod_cast hc
      rw [abs_mul, abs_of_pos (ten_zpow_pos e), add_comm e, ten_zpow_add]
      exact mul_lt_mul_of_pos_right hcast (ten_zpow_pos e)
    have hlog : Int.log 10 |(c : ℚ) * 10 ^ e| < e + precision :=
      (Int.lt_zpow_iff_log_lt (by norm_num) hpos).mp (by exact_mod_cast habs)
    have hle : lastExponent precision ((c : ℚ) * 10 ^ e) ≤ e := by
      rw [lastExponent]
      omega
    obtain ⟨k, hk⟩ := Int.eq_ofNat_of_zero_le (Int.sub_nonneg_of_le hle)
    have hdiv : (c : ℚ) * 10 ^ e / 10 ^ lastExponent precision ((c : ℚ) * 10 ^ e) =
        (c * 10 ^ k : ℤ) := by
      rw [div_eq_iff (ten_zpow_pos _).ne']
      push_cast
      rw [mul_assoc, ← zpow_natCast, ← hk, ← ten_zpow_add, Int.sub_add_cancel]
    rw [roundPrecision, hdiv, roundHalfEven_intCast, ← hdiv,
      div_mul_cancel₀ _ (ten_zpow_pos _).ne']

/-- **The numbers with so many significant digits stay as they are.** -/
theorem roundPrecision_eq_self_iff (hp : 0 < precision) :
    roundPrecision precision q = q ↔ FitsPrecision precision q := by
  refine ⟨fun h => ?_, roundPrecision_of_fits⟩
  rw [← h]
  exact fitsPrecision_roundPrecision hp

/-! ## A bounded coefficient -/

/-- The nearest number with so many decimals, if its coefficient is below the bound. -/
def atScale (bound : ℕ) (q : ℚ) (scale : ℕ) : Option ℚ :=
  let mantissa := roundHalfEven (q * 10 ^ scale)
  if mantissa.natAbs < bound then some (mantissa / 10 ^ scale) else none

/-- The nearest number with as many decimals as fit, up to `scale`. -/
def roundMantissa (bound : ℕ) (q : ℚ) : ℕ → Option ℚ
  | 0 => atScale bound q 0
  | scale + 1 => (atScale bound q (scale + 1)).or (roundMantissa bound q scale)

/-- The number has a coefficient below the bound with at most so many decimals. -/
def FitsMantissa (bound : ℕ) (q : ℚ) (maxScale : ℕ) : Prop :=
  ∃ (mantissa : ℤ) (scale : ℕ), scale ≤ maxScale ∧ mantissa.natAbs < bound ∧
    q = mantissa / 10 ^ scale

variable {bound maxScale scale : ℕ} {q' : ℚ}

theorem fitsMantissa_of_atScale (h : atScale bound q scale = some q') :
    FitsMantissa bound q' scale := by
  rw [atScale] at h
  split at h
  case isTrue hlt =>
    obtain rfl := Option.some.inj h
    exact ⟨_, scale, le_rfl, hlt, rfl⟩
  case isFalse => cases h

/-- A number with so many decimals is itself, if it fits. -/
theorem atScale_of_multiple {n : ℤ} (h : q * 10 ^ scale = n) :
    atScale bound q scale = if n.natAbs < bound then some q else none := by
  rw [atScale, h, roundHalfEven_intCast, ← h, mul_div_cancel_right₀ _ (ten_pow_pos scale).ne']

theorem FitsMantissa.mono {maxScale' : ℕ} (h : FitsMantissa bound q maxScale)
    (hle : maxScale ≤ maxScale') : FitsMantissa bound q maxScale' := by
  obtain ⟨m, s, hs, hm, hq⟩ := h
  exact ⟨m, s, hs.trans hle, hm, hq⟩

theorem fitsMantissa_of_roundMantissa (h : roundMantissa bound q maxScale = some q') :
    FitsMantissa bound q' maxScale := by
  induction maxScale with
  | zero => exact fitsMantissa_of_atScale h
  | succ scale ih =>
    rcases Option.or_eq_some_iff.mp h with h | ⟨-, h⟩
    · exact fitsMantissa_of_atScale h
    · exact (ih h).mono scale.le_succ

theorem roundMantissa_of_fits (h : FitsMantissa bound q maxScale) :
    roundMantissa bound q maxScale = some q := by
  obtain ⟨m, s, hs, hm, rfl⟩ := h
  -- at more decimals than needed the number stays as it is or does not fit
  have hmultiple : ∀ scale, s ≤ scale →
      (m : ℚ) / 10 ^ s * 10 ^ scale = (m * 10 ^ (scale - s) : ℤ) := by
    intro scale hle
    obtain ⟨k, rfl⟩ := Nat.exists_eq_add_of_le hle
    rw [Nat.add_sub_cancel_left, pow_add, ← mul_assoc,
      div_mul_cancel₀ _ (ten_pow_pos s).ne']
    push_cast
    rfl
  have hexact : atScale bound ((m : ℚ) / 10 ^ s) s = some ((m : ℚ) / 10 ^ s) := by
    rw [atScale_of_multiple (hmultiple s le_rfl), Nat.sub_self, pow_zero, mul_one, if_pos hm]
  induction maxScale, hs using Nat.le_induction with
  | base =>
    cases s with
    | zero => exact hexact
    | succ s => rw [roundMantissa, hexact, Option.some_or]
  | succ scale hle ih =>
    rw [roundMantissa, atScale_of_multiple (hmultiple _ (Nat.le_succ_of_le hle)), ih]
    split <;> rfl

/-- **The numbers that fit stay as they are.** -/
theorem roundMantissa_eq_self_iff :
    roundMantissa bound q maxScale = some q ↔ FitsMantissa bound q maxScale :=
  ⟨fitsMantissa_of_roundMantissa, roundMantissa_of_fits⟩

/-! ## Fixed-point numbers -/

variable {v : ℤ} {decimals : ℕ}

/-- A fixed-point number fits just when it does without its trailing zeros. -/
theorem fitsPrecision_div_iff : FitsPrecision precision (v / 10 ^ decimals) ↔
    ∃ k : ℕ, 10 ^ k ∣ v ∧ |v| < 10 ^ (precision + k) := by
  constructor
  · rintro ⟨c, e, hc, heq⟩
    rw [div_eq_iff (ten_pow_pos decimals).ne', mul_assoc, ← zpow_natCast, ← ten_zpow_add] at heq
    by_cases hle : 0 ≤ e + decimals
    · obtain ⟨k, hk⟩ := Int.eq_ofNat_of_zero_le hle
      rw [hk, zpow_natCast] at heq
      have hv : v = c * 10 ^ k := by exact_mod_cast heq
      refine ⟨k, ⟨c, by rw [hv, mul_comm]⟩, ?_⟩
      rw [hv, abs_mul_ten_pow, pow_add]
      exact mul_lt_mul_of_pos_right hc (pow_pos (by norm_num) k)
    · obtain ⟨k, hk⟩ := Int.eq_ofNat_of_zero_le (a := -(e + decimals)) (by omega)
      rw [show e + decimals = -(k : ℤ) by omega, zpow_neg, zpow_natCast, ← div_eq_mul_inv,
        eq_div_iff (ten_pow_pos k).ne'] at heq
      have hv : v * 10 ^ k = c := by exact_mod_cast heq
      refine ⟨0, one_dvd v, ?_⟩
      calc |v| ≤ |v * 10 ^ k| := abs_le_abs_mul_ten_pow v k
        _ = |c| := by rw [hv]
        _ < 10 ^ precision := hc
  · rintro ⟨k, ⟨c, rfl⟩, hlt⟩
    refine ⟨c, k - decimals, ?_, ?_⟩
    · rw [mul_comm, abs_mul_ten_pow, pow_add] at hlt
      exact lt_of_mul_lt_mul_right hlt (pow_nonneg (by norm_num) k)
    · rw [sub_eq_add_neg, ten_zpow_add, zpow_neg, zpow_natCast, zpow_natCast]
      push_cast
      ring

theorem fitsMantissa_div_iff (hle : decimals ≤ maxScale) :
    FitsMantissa bound (v / 10 ^ decimals) maxScale ↔
      ∃ k ≤ decimals, 10 ^ k ∣ v ∧ |v| < bound * 10 ^ k := by
  constructor
  · rintro ⟨m, s, -, hm, heq⟩
    rw [div_eq_div_iff (ten_pow_pos _).ne' (ten_pow_pos _).ne'] at heq
    have hm' : |m| < bound := by
      rw [Int.abs_eq_natAbs]
      exact_mod_cast hm
    rcases le_total s decimals with hs | hs
    · obtain ⟨k, rfl⟩ := Nat.exists_eq_add_of_le hs
      rw [pow_add, mul_comm ((10 : ℚ) ^ s), ← mul_assoc] at heq
      have hv : v = m * 10 ^ k := by
        exact_mod_cast mul_right_cancel₀ (ten_pow_pos s).ne' heq
      refine ⟨k, Nat.le_add_left k s, ⟨m, by rw [hv, mul_comm]⟩, ?_⟩
      rw [hv, abs_mul_ten_pow]
      exact mul_lt_mul_of_pos_right hm' (pow_pos (by norm_num) k)
    · obtain ⟨k, rfl⟩ := Nat.exists_eq_add_of_le hs
      rw [pow_add, mul_comm ((10 : ℚ) ^ decimals), ← mul_assoc] at heq
      have hv : v * 10 ^ k = m := by
        exact_mod_cast mul_right_cancel₀ (ten_pow_pos decimals).ne' heq
      refine ⟨0, Nat.zero_le _, one_dvd v, ?_⟩
      rw [pow_zero, mul_one]
      calc |v| ≤ |v * 10 ^ k| := abs_le_abs_mul_ten_pow v k
        _ = |m| := by rw [hv]
        _ < bound := hm'
  · rintro ⟨k, hk, ⟨m, rfl⟩, hlt⟩
    refine ⟨m, decimals - k, (Nat.sub_le _ _).trans hle, ?_, ?_⟩
    · rw [mul_comm, abs_mul_ten_pow] at hlt
      have hm := lt_of_mul_lt_mul_right hlt (pow_nonneg (by norm_num) k)
      rw [Int.abs_eq_natAbs] at hm
      exact_mod_cast hm
    · obtain ⟨j, rfl⟩ := Nat.exists_eq_add_of_le hk
      rw [Nat.add_sub_cancel_left, pow_add]
      have hk10 := (ten_pow_pos k).ne'
      have hj10 := (ten_pow_pos j).ne'
      push_cast
      field_simp

end DecimalRounding
