import TypeDBDriver.Lib.Binary64

/-!
# Doubles

* `Double`: the values of binary64; `IsDouble` are the magnitudes it can represent.
* `ofInt64`: the nearest double of an integer, ties to even.
* `round_of_le`: multiples of a power of two by at most `2 ^ 53` are represented.
* **`round_round`**: a rounded number is represented.
* **`toRat_ofInt64`**: integers up to `2 ^ 53` are converted exactly.
-/

namespace Binary64

theorem two_zpow_pos (e : ℤ) : (0 : ℚ) < 2 ^ e := zpow_pos (by norm_num) e

theorem roundHalfEven_intCast (n : ℤ) : roundHalfEven n = n := by
  have h : ((n : ℚ) - ⌊(n : ℚ)⌋) < 1 / 2 := by
    rw [Int.floor_intCast, sub_self]
    norm_num
  rw [roundHalfEven, if_pos h, Int.floor_intCast]

/-- A multiple of the spacing is not moved. -/
theorem round_of_multiple {q : ℚ} {n : ℤ} (h : q = n * 2 ^ quantumExponent q) : round q = q := by
  have hpos : (2 : ℚ) ^ quantumExponent q ≠ 0 := zpow_ne_zero _ (by norm_num)
  have hdiv : q / 2 ^ quantumExponent q = n := by
    rw [div_eq_iff hpos]
    exact h
  rw [round, hdiv, roundHalfEven_intCast, ← h]

/-- Multiples of a power of two by at most `2 ^ 53` are represented. -/
theorem round_of_le {m : ℕ} {e : ℤ} (hm : m ≤ 2 ^ 53) (he : -1074 ≤ e) :
    round (m * 2 ^ e) = m * 2 ^ e := by
  have h2 : (2 : ℚ) ≠ 0 := by norm_num
  by_cases hzero : m = 0
  · rw [hzero, Nat.cast_zero, zero_mul, round_zero]
  · have hpos : (0 : ℚ) < m * 2 ^ e := by
      have : (0 : ℚ) < m := by exact_mod_cast Nat.pos_of_ne_zero hzero
      exact mul_pos this (two_zpow_pos e)
    by_cases hlt : m < 2 ^ 53
    · have hlog : Int.log 2 ((m : ℚ) * 2 ^ e) < e + 53 := by
        rw [← Int.lt_zpow_iff_log_lt (by norm_num) hpos]
        rw [Nat.cast_ofNat, zpow_add₀ h2, mul_comm]
        have hcast : (m : ℚ) < 2 ^ (53 : ℤ) := by exact_mod_cast hlt
        exact mul_lt_mul_of_pos_left hcast (two_zpow_pos e)
      have hq : quantumExponent ((m : ℚ) * 2 ^ e) ≤ e := by
        rw [quantumExponent]
        omega
      obtain ⟨k, hk⟩ := Int.eq_ofNat_of_zero_le (Int.sub_nonneg_of_le hq)
      refine round_of_multiple (n := m * 2 ^ k) ?_
      have hsplit : (2 : ℚ) ^ e = 2 ^ k * 2 ^ quantumExponent ((m : ℚ) * 2 ^ e) := by
        rw [← zpow_natCast, ← zpow_add₀ h2, ← hk]
        congr 1
        omega
      push_cast
      rw [mul_assoc, ← hsplit]
    · have hm' : m = 2 ^ 53 := by omega
      have hval : (m : ℚ) * 2 ^ e = 2 ^ (e + 53) := by
        rw [hm', zpow_add₀ h2, mul_comm]
        norm_num
      have hlog : Int.log 2 ((m : ℚ) * 2 ^ e) = e + 53 := by
        have h := Int.log_zpow (R := ℚ) (b := 2) (by norm_num) (e + 53)
        rw [hval]
        exact_mod_cast h
      have hq : quantumExponent ((m : ℚ) * 2 ^ e) = e + 1 := by
        rw [quantumExponent, hlog]
        omega
      refine round_of_multiple (n := 2 ^ 52) ?_
      have hcast : (((2 : ℤ) ^ 52 : ℤ) : ℚ) = 2 ^ (52 : ℤ) := by norm_num
      rw [hq, hval, hcast, ← zpow_add₀ h2]
      congr 1
      omega

/-- What a number is rounded to. -/
theorem exists_round {q : ℚ} (hq : 0 ≤ q) :
    ∃ m : ℕ, m ≤ 2 ^ 53 ∧ round q = m * 2 ^ quantumExponent q := by
  by_cases hzero : q = 0
  · exact ⟨0, by norm_num, by rw [hzero, round_zero, Nat.cast_zero, zero_mul]⟩
  · have h2 : (2 : ℚ) ≠ 0 := by norm_num
    have hpos : 0 < q := lt_of_le_of_ne hq (Ne.symm hzero)
    have hquantum := two_zpow_pos (quantumExponent q)
    have hlt : q < 2 ^ (quantumExponent q + 53) := by
      have h1 : q < 2 ^ (Int.log 2 q + 1) := by
        exact_mod_cast Int.lt_zpow_succ_log_self (b := 2) (by norm_num) q
      refine h1.trans_le (zpow_le_zpow_right₀ (by norm_num) ?_)
      rw [quantumExponent]
      omega
    have hdiv : q / 2 ^ quantumExponent q < 2 ^ (53 : ℕ) := by
      rw [div_lt_iff₀ hquantum, mul_comm, ← zpow_natCast, ← zpow_add₀ h2]
      exact_mod_cast hlt
    have hdiv0 : 0 ≤ q / 2 ^ quantumExponent q := div_nonneg hq hquantum.le
    obtain ⟨hlow, hhigh⟩ := abs_le.mp (abs_roundHalfEven_sub_le (q / 2 ^ quantumExponent q))
    have hnonneg : 0 ≤ roundHalfEven (q / 2 ^ quantumExponent q) := by
      by_contra hneg
      have h1 : roundHalfEven (q / 2 ^ quantumExponent q) ≤ -1 := by omega
      have h2 : ((roundHalfEven (q / 2 ^ quantumExponent q) : ℤ) : ℚ) ≤ -1 := by exact_mod_cast h1
      linarith
    have hle : roundHalfEven (q / 2 ^ quantumExponent q) ≤ 2 ^ 53 := by
      by_contra hgt
      have h1 : 2 ^ 53 + 1 ≤ roundHalfEven (q / 2 ^ quantumExponent q) := by omega
      have h2 : ((2 : ℚ) ^ (53 : ℕ) + 1) ≤ (roundHalfEven (q / 2 ^ quantumExponent q) : ℤ) := by
        exact_mod_cast h1
      linarith
    refine ⟨(roundHalfEven (q / 2 ^ quantumExponent q)).toNat, by omega, ?_⟩
    have hcast : (((roundHalfEven (q / 2 ^ quantumExponent q)).toNat : ℕ) : ℚ) =
        (roundHalfEven (q / 2 ^ quantumExponent q) : ℤ) := by
      exact_mod_cast congrArg (Int.cast (R := ℚ)) (Int.toNat_of_nonneg hnonneg)
    rw [round, hcast]

theorem neg_1074_le_quantumExponent (q : ℚ) : -1074 ≤ quantumExponent q := by
  rw [quantumExponent]
  omega

/-- **A rounded number is represented.** -/
theorem round_round {q : ℚ} (hq : 0 ≤ q) : round (round q) = round q := by
  obtain ⟨m, hm, hround⟩ := exists_round hq
  rw [hround]
  exact round_of_le hm (neg_1074_le_quantumExponent q)

/-- The magnitudes that a double can have. -/
def IsDouble (q : ℚ) : Prop := 0 ≤ q ∧ q < 2 ^ (1024 : ℕ) ∧ round q = q

/-- Rounding a number below `2 ^ 64` gives a magnitude. -/
theorem isDouble_round {q : ℚ} (hq : 0 ≤ q) (hlt : q < 2 ^ (64 : ℕ)) : IsDouble (round q) := by
  obtain ⟨m, hm, hround⟩ := exists_round hq
  refine ⟨?_, ?_, round_round hq⟩
  · rw [hround]
    exact mul_nonneg (Nat.cast_nonneg m) (two_zpow_pos _).le
  · have hexp : quantumExponent q ≤ 12 := by
      have hlog : Int.log 2 q ≤ 64 := by
        by_cases hzero : q = 0
        · rw [hzero, Int.log_of_right_le_zero 2 le_rfl]
          norm_num
        · have h := (Int.lt_zpow_iff_log_lt (b := 2) (x := 64) (by norm_num)
            (lt_of_le_of_ne hq (Ne.symm hzero))).mp (by exact_mod_cast hlt)
          omega
      rw [quantumExponent]
      omega
    have hpow : (2 : ℚ) ^ quantumExponent q ≤ 2 ^ (12 : ℤ) :=
      zpow_le_zpow_right₀ (by norm_num) hexp
    have hm' : (m : ℚ) ≤ 2 ^ (53 : ℕ) := by exact_mod_cast hm
    rw [hround]
    calc (m : ℚ) * 2 ^ quantumExponent q ≤ 2 ^ (53 : ℕ) * 2 ^ (12 : ℤ) :=
          mul_le_mul hm' hpow (two_zpow_pos _).le (by norm_num)
      _ = 2 ^ (65 : ℕ) := by norm_num
      _ < 2 ^ (1024 : ℕ) := pow_lt_pow_right₀ (by norm_num) (by norm_num)

end Binary64

/-- A double: not a number, an infinity, or a sign and a magnitude. -/
inductive Double
  | nan
  | infinite (negative : Bool)
  | finite (negative : Bool) (magnitude : ℚ) (isDouble : Binary64.IsDouble magnitude)

namespace Double

/-- The number a finite double stands for. -/
def toRat : Double → Option ℚ
  | finite negative magnitude _ => some (if negative then -magnitude else magnitude)
  | nan | infinite _ => none

theorem natAbs_lt (n : Int64) : ((n.toInt.natAbs : ℕ) : ℚ) < 2 ^ (64 : ℕ) := by
  have h1 := n.le_toInt
  have h2 := n.toInt_lt
  have h : n.toInt.natAbs < 2 ^ 64 := by omega
  exact_mod_cast h

/-- `n as f64`. -/
def ofInt64 (n : Int64) : Double :=
  finite (n.toInt < 0) (Binary64.round n.toInt.natAbs)
    (Binary64.isDouble_round (Nat.cast_nonneg _) (natAbs_lt n))

/-- **Integers up to `2 ^ 53` are converted exactly.** -/
theorem toRat_ofInt64 {n : Int64} (h : n.toInt.natAbs ≤ 2 ^ 53) :
    (ofInt64 n).toRat = some (n.toInt : ℚ) := by
  have hround := Binary64.round_of_le (e := 0) h (by norm_num)
  rw [zpow_zero, mul_one] at hround
  rw [ofInt64, toRat, hround, Option.some.injEq]
  by_cases hneg : n.toInt < 0
  · rw [if_pos (by simpa using hneg)]
    have : n.toInt = -(n.toInt.natAbs : ℤ) := by omega
    rw [this]
    push_cast
    simp
  · rw [if_neg (by simpa using hneg)]
    have : n.toInt = (n.toInt.natAbs : ℤ) := by omega
    rw [this]
    push_cast
    simp

/-- The first integer that is not converted exactly. -/
theorem toRat_ofInt64_ne : (ofInt64 9007199254740993).toRat ≠ some 9007199254740993 := by
  have hnat : (9007199254740993 : Int64).toInt.natAbs = 9007199254740993 := by decide
  have hlog : Int.log 2 ((9007199254740993 : ℕ) : ℚ) = 53 := by
    rw [Int.log_natCast]
    have h : Nat.log 2 9007199254740993 = 53 :=
      (Nat.log_eq_iff (Or.inl (by norm_num))).mpr ⟨by norm_num, by norm_num⟩
    rw [h]
    rfl
  obtain ⟨m, -, hround⟩ := Binary64.exists_round (q := ((9007199254740993 : ℕ) : ℚ))
    (Nat.cast_nonneg _)
  have hquantum : Binary64.quantumExponent ((9007199254740993 : ℕ) : ℚ) = 1 := by
    rw [Binary64.quantumExponent, hlog]
    rfl
  rw [hquantum, zpow_one] at hround
  intro h
  rw [ofInt64, toRat, hnat, hround, Option.some.injEq] at h
  have hneg : ¬(9007199254740993 : Int64).toInt < 0 := by decide
  rw [decide_eq_false hneg, if_neg (by simp)] at h
  have hnum : m * 2 = 9007199254740993 := by exact_mod_cast h
  omega

end Double
