import Mathlib.Order.Compare
import TypeDBDriver.Concept.Decimal

/-!
# Arithmetic and order of decimals

A decimal is the whole part and the remainder of its value by the denominator.

* `Representable`: the values with a whole part that is an `i64`; `exists_val_iff`: they are the
  values of decimals with the fraction in range.
* `cmp`: the derived order, on the integer parts first; `cmp_eq`: it is the order of the values.
* `add_exact_iff`, `sub_exact_iff`, `neg_exact_iff`: when a sum, a difference and a negation with a
  representable value are computed.
* **`arithmeticExact_iff`**: arithmetic and order are exact but where the integer parts alone leave
  the range that the carry brings them back into.
-/

namespace TypeDBDriver

namespace Decimal

/-! ## Values -/

/-- The whole part of the value, rounded down, is an `i64`. -/
def Representable (v : ℤ) : Prop :=
  -2 ^ 63 ≤ v / fractionalPartDenominator ∧ v / fractionalPartDenominator < 2 ^ 63

instance (v : ℤ) : Decidable (Representable v) := by unfold Representable; infer_instance

theorem val_ediv {d : Decimal} (hd : d.Bounded) :
    d.val / fractionalPartDenominator = d.integer.toInt := by
  simp only [Bounded, val] at *
  rw [denominator_eq] at *
  omega

theorem val_emod {d : Decimal} (hd : d.Bounded) :
    d.val % fractionalPartDenominator = d.fractional.toNat := by
  simp only [Bounded, val] at *
  rw [denominator_eq] at *
  omega

theorem val_inj {a b : Decimal} (ha : a.Bounded) (hb : b.Bounded) : a.val = b.val ↔ a = b := by
  constructor
  · intro h
    ext1
    · rw [← Int64.toInt_inj, ← val_ediv ha, ← val_ediv hb, h]
    · rw [← UInt64.toNat_inj, ← Int.natCast_inj, ← val_emod ha, ← val_emod hb, h]
  · rintro rfl
    rfl

theorem representable_val {d : Decimal} (hd : d.Bounded) : Representable d.val := by
  rw [Representable, val_ediv hd]
  exact ⟨d.integer.le_toInt, d.integer.toInt_lt⟩

/-- The representable values are those of decimals with the fraction in range. -/
theorem exists_val_iff {v : ℤ} : (∃ d : Decimal, d.Bounded ∧ d.val = v) ↔ Representable v := by
  constructor
  · rintro ⟨d, hd, rfl⟩
    exact representable_val hd
  · rintro ⟨hl, hh⟩
    obtain ⟨integer, -, hi⟩ := Checked.exists_i64 hl hh
    have hpos : (0 : ℤ) < fractionalPartDenominator := by decide
    have hmod := Int.emod_nonneg v hpos.ne'
    have hlt := Int.emod_lt_of_pos v hpos
    have hsplit := Int.mul_ediv_add_emod v fractionalPartDenominator
    obtain ⟨fractional, -, hf⟩ :=
      Checked.exists_u64 (n := (v % fractionalPartDenominator).toNat) (by
        rw [denominator_eq] at *
        omega)
    refine ⟨⟨integer, fractional⟩, ?_, ?_⟩
    · show fractional.toNat < fractionalPartDenominator
      omega
    · simp only [val, hi, hf]
      rw [denominator_eq] at *
      omega

/-! ## Order -/

/-- The derived order: the integer parts, then the fractions. -/
def cmp (a b : Decimal) : Ordering :=
  (compare a.integer b.integer).then (compare a.fractional b.fractional)

theorem compare_toInt (a b : Int64) : compare a b = compare a.toInt b.toInt := by
  show compareOfLessAndEq a b = compareOfLessAndEq a.toInt b.toInt
  simp only [compareOfLessAndEq, Int64.lt_iff_toInt_lt, ← Int64.toInt_inj]

theorem compare_toNat (a b : UInt64) : compare a b = compare a.toNat b.toNat := by
  show compareOfLessAndEq a b = compareOfLessAndEq a.toNat b.toNat
  simp only [compareOfLessAndEq, UInt64.lt_iff_toNat_lt, ← UInt64.toNat_inj]

/-- **The derived order is the order of the values.** -/
theorem cmp_eq {a b : Decimal} (ha : a.Bounded) (hb : b.Bounded) :
    cmp a b = compare a.val b.val := by
  simp only [Bounded, cmp, compare_toInt, compare_toNat, val] at *
  rw [denominator_eq] at *
  rcases lt_trichotomy a.integer.toInt b.integer.toInt with hi | hi | hi
  · rw [compare_lt_iff_lt.mpr hi]
    show Ordering.lt = _
    rw [compare_lt_iff_lt.mpr]
    omega
  · rw [compare_eq_iff_eq.mpr hi, Ordering.then, hi]
    rcases lt_trichotomy a.fractional.toNat b.fractional.toNat with hf | hf | hf
    · rw [compare_lt_iff_lt.mpr hf, compare_lt_iff_lt.mpr]
      omega
    · rw [compare_eq_iff_eq.mpr hf, compare_eq_iff_eq.mpr]
      omega
    · rw [compare_gt_iff_gt.mpr hf, compare_gt_iff_gt.mpr]
      omega
  · rw [compare_gt_iff_gt.mpr hi]
    show Ordering.gt = _
    rw [compare_gt_iff_gt.mpr]
    omega

/-! ## Arithmetic -/

section Arithmetic

variable {a b : Decimal} (ha : a.Bounded)
include ha

/-- A representable sum is computed unless the integer parts alone are one below the least, and
the fractions carry. -/
theorem add_exact_iff (hb : b.Bounded) (hr : Representable (a.val + b.val)) :
    (∃ c, add a b = some c ∧ c.Bounded ∧ c.val = a.val + b.val) ↔
      ¬ (a.integer.toInt + b.integer.toInt = -2 ^ 63 - 1 ∧
        fractionalPartDenominator ≤ a.fractional.toNat + b.fractional.toNat) := by
  obtain ⟨c, hc⟩ := exists_val_iff.mpr hr
  have hcomputed : (∃ c, add a b = some c ∧ c.Bounded ∧ c.val = a.val + b.val) ↔
      -2 ^ 63 ≤ a.integer.toInt + b.integer.toInt ∧
        a.integer.toInt + b.integer.toInt < 2 ^ 63 := by
    simp only [add_eq_some ha hb]
    exact ⟨fun ⟨_, h, _⟩ => h.1, fun h => ⟨c, ⟨h, hc⟩, hc⟩⟩
  rw [hcomputed]
  simp only [Bounded, Representable, val] at ha hb hr
  rw [denominator_eq] at *
  omega

/-- A representable difference is computed unless the integer parts alone are one above the
greatest, and the fraction borrows. -/
theorem sub_exact_iff (hb : b.Bounded) (hr : Representable (a.val - b.val)) :
    (∃ c, sub a b = some c ∧ c.Bounded ∧ c.val = a.val - b.val) ↔
      ¬ (a.integer.toInt - b.integer.toInt = 2 ^ 63 ∧
        a.fractional.toNat < b.fractional.toNat) := by
  obtain ⟨c, hc⟩ := exists_val_iff.mpr hr
  have hcomputed : (∃ c, sub a b = some c ∧ c.Bounded ∧ c.val = a.val - b.val) ↔
      -2 ^ 63 ≤ a.integer.toInt - b.integer.toInt ∧
        a.integer.toInt - b.integer.toInt < 2 ^ 63 := by
    simp only [sub_eq_some ha hb]
    exact ⟨fun ⟨_, h, _⟩ => h.1, fun h => ⟨c, ⟨h, hc⟩, hc⟩⟩
  rw [hcomputed]
  simp only [Bounded, Representable, val] at ha hb hr
  rw [denominator_eq] at *
  omega

/-- A representable negation is computed unless the integer part is the least. -/
theorem neg_exact_iff (hr : Representable (-a.val)) :
    (∃ c, neg a = some c ∧ c.Bounded ∧ c.val = -a.val) ↔ a.integer.toInt ≠ -2 ^ 63 := by
  obtain ⟨c, hc⟩ := exists_val_iff.mpr hr
  simp only [neg_eq_some ha]
  exact ⟨fun ⟨_, h, _⟩ => h.1, fun h => ⟨c, ⟨h, hc⟩, hc⟩⟩

/-- The negation of a decimal with the least integer part is representable when there is a
fraction. -/
theorem representable_neg_of_least (h : a.integer.toInt = -2 ^ 63) :
    Representable (-a.val) ↔ a.fractional.toNat ≠ 0 := by
  simp only [Bounded, Representable, val, h] at *
  rw [denominator_eq] at *
  omega

end Arithmetic

/-- Arithmetic on two decimals is exact where the result is representable, and so is their
order. -/
structure ArithmeticExact (a b : Decimal) : Prop where
  add : Representable (a.val + b.val) → ∃ c, add a b = some c ∧ c.Bounded ∧ c.val = a.val + b.val
  sub : Representable (a.val - b.val) → ∃ c, sub a b = some c ∧ c.Bounded ∧ c.val = a.val - b.val
  neg : Representable (-a.val) → ∃ c, neg a = some c ∧ c.Bounded ∧ c.val = -a.val
  cmp : cmp a b = compare a.val b.val
  eq : a = b ↔ a.val = b.val

/-- No carry or borrow is needed to bring the integer parts back into range. -/
structure CarryFree (a b : Decimal) : Prop where
  add : ¬ (a.integer.toInt + b.integer.toInt = -2 ^ 63 - 1 ∧
    fractionalPartDenominator ≤ a.fractional.toNat + b.fractional.toNat)
  sub : ¬ (a.integer.toInt - b.integer.toInt = 2 ^ 63 ∧ a.fractional.toNat < b.fractional.toNat)
  neg : ¬ (a.integer.toInt = -2 ^ 63 ∧ a.fractional.toNat ≠ 0)

/-- **Arithmetic is exact exactly where no carry brings the integer parts back into range.** -/
theorem arithmeticExact_iff {a b : Decimal} (ha : a.Bounded) (hb : b.Bounded) :
    ArithmeticExact a b ↔ CarryFree a b := by
  constructor
  · intro h
    refine ⟨?_, ?_, ?_⟩
    · rintro ⟨hi, hf⟩
      have hr : Representable (a.val + b.val) := by
        simp only [Bounded, Representable, val] at *
        rw [denominator_eq] at *
        omega
      exact (add_exact_iff ha hb hr).mp (h.add hr) ⟨hi, hf⟩
    · rintro ⟨hi, hf⟩
      have hr : Representable (a.val - b.val) := by
        simp only [Bounded, Representable, val] at *
        rw [denominator_eq] at *
        omega
      exact (sub_exact_iff ha hb hr).mp (h.sub hr) ⟨hi, hf⟩
    · rintro ⟨hi, hf⟩
      have hr := (representable_neg_of_least ha hi).mpr hf
      exact (neg_exact_iff ha hr).mp (h.neg hr) hi
  · intro h
    refine ⟨fun hr => (add_exact_iff ha hb hr).mpr h.add,
      fun hr => (sub_exact_iff ha hb hr).mpr h.sub,
      fun hr => (neg_exact_iff ha hr).mpr fun hi => ?_, cmp_eq ha hb, (val_inj ha hb).symm⟩
    exact h.neg ⟨hi, (representable_neg_of_least ha hi).mp hr⟩

/-- Two halves. -/
theorem arithmeticExact_iff_half :
    Bounded ⟨0, 5000000000000000000⟩ ∧ ArithmeticExact ⟨0, 5000000000000000000⟩ minusHalf := by
  have hhalf : Bounded ⟨0, 5000000000000000000⟩ := by decide
  refine ⟨hhalf, (arithmeticExact_iff hhalf (by decide)).mpr ⟨?_, ?_, ?_⟩⟩ <;> decide

/-- The least decimal and a half. -/
def leastAndHalf : Decimal := ⟨Int64.minValue, 5000000000000000000⟩

/-- Its sum with `-0.5` is the least decimal, its negation is representable, and neither is
computed. -/
theorem not_arithmeticExact :
    (leastAndHalf.Bounded ∧ minusHalf.Bounded) ∧
      Representable (leastAndHalf.val + minusHalf.val) ∧
      Representable (-leastAndHalf.val) ∧
      add leastAndHalf minusHalf = none ∧ neg leastAndHalf = none ∧
      ¬ ArithmeticExact leastAndHalf minusHalf := by
  have hr : Representable (leastAndHalf.val + minusHalf.val) := by decide +kernel
  have hnone : add leastAndHalf minusHalf = none := by decide +kernel
  refine ⟨by decide, hr, by decide +kernel, hnone, by decide +kernel, ?_⟩
  intro h
  obtain ⟨c, hc, -⟩ := h.add hr
  rw [hnone] at hc
  cases hc

end Decimal

end TypeDBDriver
