import Mathlib.Algebra.Order.Ring.Int
import Mathlib.Algebra.Order.Ring.Nat

/-!
# Checked machine arithmetic

An operation on machine integers that stops the program when its exact result does not fit is the
exact result followed by a conversion back; `none` is the stopped program.

* `i32`, `i64`, `u32`, `u64`: the conversions.
* **`i64_eq_some`**, **`u64_eq_some`**: a conversion returns exactly the machine integer with that
  value.
-/

namespace Checked

/-- An exact result as an `i32`. -/
def i32 (n : ℤ) : Option Int32 :=
  if -2 ^ 31 ≤ n ∧ n < 2 ^ 31 then some (Int32.ofInt n) else none

/-- An exact result as an `i64`. -/
def i64 (n : ℤ) : Option Int64 :=
  if -2 ^ 63 ≤ n ∧ n < 2 ^ 63 then some (Int64.ofInt n) else none

/-- An exact result as a `u32`. -/
def u32 (n : ℕ) : Option UInt32 :=
  if n < 2 ^ 32 then some (UInt32.ofNat n) else none

/-- An exact result as a `u64`. -/
def u64 (n : ℕ) : Option UInt64 :=
  if n < 2 ^ 64 then some (UInt64.ofNat n) else none

theorem i64_eq_some {n : ℤ} {a : Int64} : i64 n = some a ↔ a.toInt = n := by
  rw [i64]
  constructor
  · intro h
    by_cases hn : -2 ^ 63 ≤ n ∧ n < 2 ^ 63
    · rw [if_pos hn, Option.some.injEq] at h
      rw [← h]
      exact Int64.toInt_ofInt_of_le hn.1 hn.2
    · rw [if_neg hn] at h
      cases h
  · intro h
    rw [if_pos (by rw [← h]; exact ⟨a.le_toInt, a.toInt_lt⟩), ← h, Int64.ofInt_toInt]

theorem u64_eq_some {n : ℕ} {a : UInt64} : u64 n = some a ↔ a.toNat = n := by
  rw [u64]
  constructor
  · intro h
    by_cases hn : n < 2 ^ 64
    · rw [if_pos hn, Option.some.injEq] at h
      rw [← h]
      exact UInt64.toNat_ofNat_of_lt' hn
    · rw [if_neg hn] at h
      cases h
  · intro h
    rw [if_pos (by rw [← h]; exact a.toNat_lt), ← h, UInt64.ofNat_toNat]

theorem exists_i32 {n : ℤ} (hl : -2 ^ 31 ≤ n) (hh : n < 2 ^ 31) :
    ∃ a, i32 n = some a ∧ a.toInt = n :=
  ⟨Int32.ofInt n, by rw [i32, if_pos ⟨hl, hh⟩], Int32.toInt_ofInt_of_le hl hh⟩

theorem exists_i64 {n : ℤ} (hl : -2 ^ 63 ≤ n) (hh : n < 2 ^ 63) :
    ∃ a, i64 n = some a ∧ a.toInt = n :=
  ⟨Int64.ofInt n, by rw [i64, if_pos ⟨hl, hh⟩], Int64.toInt_ofInt_of_le hl hh⟩

theorem exists_u32 {n : ℕ} (h : n < 2 ^ 32) : ∃ a, u32 n = some a ∧ a.toNat = n :=
  ⟨UInt32.ofNat n, by rw [u32, if_pos h], UInt32.toNat_ofNat_of_lt' h⟩

theorem u32_eq_none {n : ℕ} : u32 n = none ↔ ¬ n < 2 ^ 32 := by
  rw [u32]
  split <;> simp_all

theorem u64_eq_none {n : ℕ} : u64 n = none ↔ ¬ n < 2 ^ 64 := by
  rw [u64]
  split <;> simp_all

theorem exists_u64 {n : ℕ} (h : n < 2 ^ 64) : ∃ a, u64 n = some a ∧ a.toNat = n :=
  ⟨UInt64.ofNat n, by rw [u64, if_pos h], UInt64.toNat_ofNat_of_lt' h⟩

end Checked
