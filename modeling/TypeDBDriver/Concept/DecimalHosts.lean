import TypeDBDriver.Concept.DecimalSyntax
import TypeDBDriver.Lib.DecimalRounding

/-!
# Decimals of the Python and C# drivers

A decimal of the native layer is handed out as a decimal of the host language, which is computed
from the two parts, and passed back in two parts.

* `Python.tryGetDecimal`, `Python.newDecimal`: in the default context of Python, 28 digits.
* `CSharp.tryGetDecimal`, `CSharp.newDecimal`: with the 96-bit decimals of .NET.
* `Python.Lossless`, `CSharp.Lossless`: the host's value is the native one, and goes back as it was.
* `Python.lossless_iff`, `CSharp.lossless_iff`: for one host.
* **`decimal_lossless_iff`**: both are lossless just for the decimals of at most 28 significant digits.
-/

namespace TypeDBDriver

open DecimalRounding

/-- An exact result as an unsigned integer of the native layer. -/
def asU64 (n : ℤ) : Option UInt64 := if 0 ≤ n then Checked.u64 n.toNat else none

theorem asU64_toNat (n : UInt64) : asU64 n.toNat = some n := by
  rw [asU64, if_pos (Int.natCast_nonneg _), Int.toNat_natCast]
  exact Checked.u64_eq_some.mpr rfl

namespace Decimal

/-- The fraction, as a part of the whole. -/
def fractionRat (d : Decimal) : ℚ := d.fractional.toNat / fractionalPartDenominator

theorem fractionRat_eq (d : Decimal) :
    d.fractionRat = ((d.fractional.toNat : ℤ) : ℚ) / 10 ^ fractionalPartDenominatorLog10 := by
  rw [fractionRat, fractionalPartDenominator]
  push_cast
  rfl

theorem toRat_eq_add (d : Decimal) : d.toRat = d.integer.toInt + d.fractionRat := rfl

theorem toRat_eq_div (d : Decimal) :
    d.toRat = (d.val : ℚ) / 10 ^ fractionalPartDenominatorLog10 := by
  rw [toRat_eq, fractionalPartDenominator]
  push_cast
  rfl

theorem toRat_sub_floor (d : Decimal) : d.toRat - (d.integer.toInt : ℚ) = d.fractionRat := by
  rw [toRat_eq_add, add_sub_cancel_left]

theorem fractionRat_mul (d : Decimal) :
    d.fractionRat * 10 ^ fractionalPartDenominatorLog10 = (d.fractional.toNat : ℤ) := by
  rw [fractionRat_eq, div_mul_cancel₀ _ (ten_pow_pos _).ne']

theorem Bounded.abs_lt_pow {d : Decimal} (hd : d.Bounded) :
    |(d.fractional.toNat : ℤ)| < 10 ^ fractionalPartDenominatorLog10 := by
  rw [abs_of_nonneg (Int.natCast_nonneg _)]
  exact_mod_cast hd

/-- At most 28 significant digits. -/
def SignificantDigits (d : Decimal) : Prop := ∃ k : ℕ, 10 ^ k ∣ d.val ∧ |d.val| < 10 ^ (28 + k)

/-- Without its trailing zeros after the point, the value is an integer of 96 bits. -/
def Mantissa96 (d : Decimal) : Prop :=
  ∃ k ≤ fractionalPartDenominatorLog10, 10 ^ k ∣ d.val ∧ |d.val| < (2 ^ 96 : ℕ) * 10 ^ k

end Decimal

/-! ## Python -/

namespace Python

def DECIMAL_SCALE : ℕ := 19

/-- The precision of the default context. -/
def prec : ℕ := 28

/-- A result of an operation on `decimal.Decimal`. -/
def inContext (exact : ℚ) : ℚ := roundPrecision prec exact

/-- `try_get_decimal`, of a concept that holds a decimal. -/
def tryGetDecimal (nativeDecimal : Decimal) : ℚ :=
  inContext (nativeDecimal.integer.toInt +
    inContext (nativeDecimal.fractional.toNat / 10 ^ DECIMAL_SCALE))

/-- `new_decimal`, up to the parts that the native layer is given. -/
def newDecimal (value : ℚ) : Option (Int64 × UInt64) := do
  let integerPart := ⌊value⌋
  let fractionalPart :=
    truncate (inContext (inContext (value - integerPart) * 10 ^ DECIMAL_SCALE))
  let integer ← Checked.i64 integerPart
  let fractional ← asU64 fractionalPart
  some (integer, fractional)

/-- The value is the native one, and goes back in the same parts. -/
def Lossless (d : Decimal) : Prop :=
  tryGetDecimal d = d.toRat ∧ newDecimal (tryGetDecimal d) = some (d.integer, d.fractional)

theorem inContext_fraction {d : Decimal} (hd : d.Bounded) :
    inContext d.fractionRat = d.fractionRat := by
  refine roundPrecision_of_fits ?_
  rw [Decimal.fractionRat_eq, fitsPrecision_div_iff]
  refine ⟨0, one_dvd _, hd.abs_lt_pow.trans ?_⟩
  norm_num [fractionalPartDenominatorLog10, prec]

theorem inContext_fractional {d : Decimal} (hd : d.Bounded) :
    inContext ((d.fractional.toNat : ℤ) : ℚ) = (d.fractional.toNat : ℤ) := by
  have hlt : |(d.fractional.toNat : ℤ)| < 10 ^ prec :=
    hd.abs_lt_pow.trans (by norm_num [fractionalPartDenominatorLog10, prec])
  exact roundPrecision_of_fits ⟨_, 0, hlt, by simp⟩

/-- The exact value goes back in the same parts. -/
theorem newDecimal_toRat {d : Decimal} (hd : d.Bounded) :
    newDecimal d.toRat = some (d.integer, d.fractional) := by
  have hfraction : inContext (inContext (d.toRat - (d.integer.toInt : ℚ)) * 10 ^ DECIMAL_SCALE) =
      (d.fractional.toNat : ℤ) := by
    rw [d.toRat_sub_floor, inContext_fraction hd]
    exact (congrArg inContext d.fractionRat_mul).trans (inContext_fractional hd)
  have htruncate : truncate ((d.fractional.toNat : ℤ) : ℚ) = d.fractional.toNat :=
    truncate_natCast d.fractional.toNat
  simp only [newDecimal, Decimal.floor_toRat hd, hfraction, htruncate, asU64_toNat,
    Checked.i64_eq_some.mpr rfl, Option.bind_eq_bind, Option.bind_some]

theorem tryGetDecimal_eq {d : Decimal} (hd : d.Bounded) : tryGetDecimal d = inContext d.toRat := by
  have hfraction : (d.fractional.toNat : ℚ) / 10 ^ DECIMAL_SCALE = d.fractionRat :=
    d.fractionRat_eq.symm
  rw [tryGetDecimal, hfraction, inContext_fraction hd, ← d.toRat_eq_add]

theorem lossless_iff {d : Decimal} (hd : d.Bounded) : Lossless d ↔ d.SignificantDigits := by
  have hget : tryGetDecimal d = d.toRat ↔ d.SignificantDigits := by
    rw [tryGetDecimal_eq hd, inContext, roundPrecision_eq_self_iff (by decide), d.toRat_eq_div]
    exact fitsPrecision_div_iff
  rw [Lossless, ← hget]
  refine ⟨And.left, fun h => ⟨h, ?_⟩⟩
  rw [h]
  exact newDecimal_toRat hd

end Python

/-! ## C# -/

namespace CSharp

def decimalScale : ℕ := 19

/-- A result of an operation on `decimal`; `none` is an `OverflowException`. -/
def asDecimal (exact : ℚ) : Option ℚ := roundMantissa (2 ^ 96) exact 28

/-- `TryGetDecimal`, of a concept that holds a decimal. -/
def tryGetDecimal (nativeDecimal : Decimal) : Option ℚ := do
  let quotient ← asDecimal (nativeDecimal.fractional.toNat / 10 ^ decimalScale)
  asDecimal (nativeDecimal.integer.toInt + quotient)

/-- `NewDecimal`, up to the parts that the native layer is given. -/
def newDecimal (value : ℚ) : Option (Int64 × UInt64) := do
  let integerPart ← Checked.i64 ⌊value⌋
  let fractional ← asDecimal (value - integerPart.toInt)
  let product ← asDecimal (fractional * 10 ^ decimalScale)
  let fractionalPart ← asU64 (truncate product)
  some (integerPart, fractionalPart)

/-- The value is the native one, and goes back in the same parts. -/
def Lossless (d : Decimal) : Prop :=
  tryGetDecimal d = some d.toRat ∧
    (tryGetDecimal d).bind newDecimal = some (d.integer, d.fractional)

theorem asDecimal_fraction {d : Decimal} (hd : d.Bounded) :
    asDecimal d.fractionRat = some d.fractionRat := by
  refine roundMantissa_of_fits ?_
  rw [Decimal.fractionRat_eq, fitsMantissa_div_iff (by decide)]
  refine ⟨0, Nat.zero_le _, one_dvd _, hd.abs_lt_pow.trans ?_⟩
  norm_num [fractionalPartDenominatorLog10]

theorem asDecimal_fractional {d : Decimal} (hd : d.Bounded) :
    asDecimal ((d.fractional.toNat : ℤ) : ℚ) = some ((d.fractional.toNat : ℤ) : ℚ) := by
  have hlt : d.fractional.toNat < 2 ^ 96 :=
    hd.trans (by norm_num [fractionalPartDenominator, fractionalPartDenominatorLog10])
  exact roundMantissa_of_fits ⟨d.fractional.toNat, 0, Nat.zero_le _, hlt, by simp⟩

theorem newDecimal_toRat {d : Decimal} (hd : d.Bounded) :
    newDecimal d.toRat = some (d.integer, d.fractional) := by
  have hproduct : asDecimal (d.fractionRat * 10 ^ decimalScale) =
      some ((d.fractional.toNat : ℤ) : ℚ) :=
    (congrArg asDecimal d.fractionRat_mul).trans (asDecimal_fractional hd)
  have htruncate : truncate ((d.fractional.toNat : ℤ) : ℚ) = d.fractional.toNat :=
    truncate_natCast d.fractional.toNat
  simp only [newDecimal, Decimal.floor_toRat hd, Checked.i64_eq_some.mpr rfl, Option.bind_eq_bind,
    Option.bind_some, d.toRat_sub_floor, asDecimal_fraction hd, hproduct, htruncate, asU64_toNat]

theorem tryGetDecimal_eq {d : Decimal} (hd : d.Bounded) : tryGetDecimal d = asDecimal d.toRat := by
  have hfraction : (d.fractional.toNat : ℚ) / 10 ^ decimalScale = d.fractionRat :=
    d.fractionRat_eq.symm
  simp only [tryGetDecimal, hfraction, asDecimal_fraction hd, Option.bind_eq_bind, Option.bind_some,
    ← d.toRat_eq_add]

theorem lossless_iff {d : Decimal} (hd : d.Bounded) : Lossless d ↔ d.Mantissa96 := by
  have hget : tryGetDecimal d = some d.toRat ↔ d.Mantissa96 := by
    rw [tryGetDecimal_eq hd, asDecimal, roundMantissa_eq_self_iff, d.toRat_eq_div]
    exact fitsMantissa_div_iff (by decide)
  rw [Lossless, ← hget]
  refine ⟨And.left, fun h => ⟨h, ?_⟩⟩
  rw [h]
  exact newDecimal_toRat hd

end CSharp

/-! ## Both -/

/-- What fits into 28 digits fits into 96 bits. -/
theorem Decimal.SignificantDigits.mantissa96 {d : Decimal} (hd : d.Bounded)
    (h : d.SignificantDigits) : d.Mantissa96 := by
  obtain ⟨k, hdvd, hlt⟩ := h
  by_cases hk : k ≤ fractionalPartDenominatorLog10
  · refine ⟨k, hk, hdvd, hlt.trans_le ?_⟩
    rw [pow_add]
    exact Int.mul_le_mul_of_nonneg_right (by norm_num) (pow_nonneg (by norm_num) k)
  · -- the value is an integer
    refine ⟨fractionalPartDenominatorLog10, le_rfl,
      (pow_dvd_pow 10 (Nat.le_of_not_le hk)).trans hdvd, ?_⟩
    have hl := d.integer.le_toInt
    have hh := d.integer.toInt_lt
    rw [Decimal.Bounded] at hd
    rw [Decimal.val, abs_lt]
    norm_num [fractionalPartDenominator, fractionalPartDenominatorLog10] at hl hh hd ⊢
    omega

/-- **Both hosts are lossless just for the decimals of at most 28 significant digits.** -/
theorem decimal_lossless_iff {d : Decimal} (hd : d.Bounded) :
    Python.Lossless d ∧ CSharp.Lossless d ↔ d.SignificantDigits := by
  rw [Python.lossless_iff hd, CSharp.lossless_iff hd]
  exact ⟨And.left, fun h => ⟨h, h.mantissa96 hd⟩⟩

/-- `-0.5` is a value of one digit. -/
theorem decimal_lossless_minusHalf :
    Python.Lossless Decimal.minusHalf ∧ CSharp.Lossless Decimal.minusHalf :=
  (decimal_lossless_iff (by decide)).mpr ⟨0, one_dvd _, by decide +kernel⟩

/-- `10000000000.0000000000000000001`. -/
def longDecimal : Decimal := ⟨10000000000, 1⟩

/-- Its last digit is lost. -/
theorem not_lossless : ¬∀ d : Decimal, d.Bounded → Python.Lossless d ∧ CSharp.Lossless d := by
  intro h
  have hd : longDecimal.Bounded := by decide
  obtain ⟨k, hdvd, hlt⟩ := (Python.lossless_iff hd).mp (h longDecimal hd).1
  have hval : longDecimal.val = 100000000000000000000000000001 := by decide +kernel
  rw [hval] at hdvd hlt
  cases k with
  | zero => norm_num at hlt
  | succ k =>
    have hten : (10 : ℤ) ∣ 100000000000000000000000000001 :=
      (dvd_pow_self 10 k.succ_ne_zero).trans hdvd
    omega

end TypeDBDriver
