import Mathlib.Algebra.Order.Field.Rat
import Mathlib.Tactic.FieldSimp
import Mathlib.Tactic.Linarith
import TypeDBDriver.Common.Error
import TypeDBDriver.Lib.Checked
import TypeDBDriver.Lib.Numeral

/-!
# Decimals

A fixed-point decimal number: a signed integer part and a fraction counted in multiples of
`10 ^ -19`, which is added to the integer part whatever its sign.

* `Decimal`, `fromParts`, `sub`, `neg`: the type and its arithmetic; `none` is a failed assertion
  or an overflow. `Bounded`: the fraction is one that `fromParts` accepts.
* `fromStr`, `display`: the parser and the printer.
* `denoted`: the number a decimal literal denotes.
* `sub_eq_some`: a difference, when there is one, is exact.
* `fromStr_display`, `denoted_display`: what a printed decimal parses to and denotes, when nothing
  follows a minus sign but the integer part.
* **`display_round_trip_iff`**: exactly which decimals survive printing.
-/

namespace TypeDBDriver

open Numeral

/-- `10 ^ FRACTIONAL_PART_DENOMINATOR_LOG10`. -/
def fractionalPartDenominatorLog10 : ℕ := 19

def fractionalPartDenominator : ℕ := 10 ^ fractionalPartDenominatorLog10

@[ext] structure Decimal where
  integer : Int64
  fractional : UInt64
  deriving DecidableEq

namespace Decimal

/-- From the raw parts; the fraction is asserted to be in range. -/
def fromParts (integer : Int64) (fractional : UInt64) : Option Decimal :=
  if fractional.toNat < fractionalPartDenominator then some ⟨integer, fractional⟩ else none

/-- The fraction is below the denominator, as in every decimal that `fromParts` makes. -/
def Bounded (d : Decimal) : Prop := d.fractional.toNat < fractionalPartDenominator

instance (d : Decimal) : Decidable d.Bounded := by unfold Bounded; infer_instance

/-- The value as a multiple of `10 ^ -19`. -/
def val (d : Decimal) : ℤ := d.integer.toInt * fractionalPartDenominator + d.fractional.toNat

/-- The exact value, `integer + fractional / 10 ^ 19`. -/
def toRat (d : Decimal) : ℚ := d.integer.toInt + d.fractional.toNat / fractionalPartDenominator

instance : Inhabited Decimal := ⟨⟨0, 0⟩⟩

/-- The fraction of `lhs + rhs`, and what it carries into the integer part. -/
def addFractional (lhs rhs : UInt64) : Option (UInt64 × ℤ) :=
  let denominator := UInt64.ofNat fractionalPartDenominator
  let frac := lhs + rhs
  let overflowed := 2 ^ 64 ≤ lhs.toNat + rhs.toNat
  if ¬ overflowed ∧ frac < denominator then some (frac, 0)
  else if overflowed ∧ frac < denominator then
    (Checked.u64 (frac.toNat + (0 - denominator).toNat)).map fun frac => (frac, 1)
  else if ¬ overflowed then some (frac - denominator, 1)
  else none -- unreachable

/-- `lhs + rhs`. -/
def add (lhs rhs : Decimal) : Option Decimal := do
  let (fractional, carry) ← addFractional lhs.fractional rhs.fractional
  let sum ← Checked.i64 (lhs.integer.toInt + rhs.integer.toInt)
  let integer ← Checked.i64 (sum.toInt + carry)
  fromParts integer fractional

/-- `lhs - rhs`. -/
def sub (lhs rhs : Decimal) : Option Decimal := do
  let (fractional, carry) : UInt64 × ℤ :=
    if rhs.fractional ≤ lhs.fractional then (lhs.fractional - rhs.fractional, 0)
    else (lhs.fractional - rhs.fractional + UInt64.ofNat fractionalPartDenominator, 1)
  let difference ← Checked.i64 (lhs.integer.toInt - rhs.integer.toInt)
  let integer ← Checked.i64 (difference.toInt - carry)
  fromParts integer fractional

/-- `-d`. -/
def neg (d : Decimal) : Option Decimal := sub default d

/-! ## Text -/

/-- `trim_end_matches("dec")`, on the reversed text. -/
def trimDec : List Char → List Char
  | 'c' :: 'e' :: 'd' :: cs => trimDec cs
  | cs => cs

/-- The error of a part that is not an integer. -/
def parsingError (unparsed : List Char) (reason : String) : Error :=
  .concept (.errorParsingDecimal (String.ofList unparsed) reason)

/-- The text after an optional sign, and whether the sign is a minus. -/
def splitSign : List Char → List Char × Bool
  | '-' :: cs => (cs, true)
  | '+' :: cs => (cs, false)
  | cs => (cs, false)

/-- What the parser does with the parts around the point. -/
def parseParts (str : List Char) (isNegative : Bool) (integerPart fractionalPart : List Char) :
    Option (Result Decimal) :=
  match parseSigned (2 ^ 63) (2 ^ 63 - 1) integerPart with
  | .error source =>
    some (.error (parsingError str ("Error parsing integer part: " ++ source.display)))
  | .ok integer =>
    match parseUnsigned (2 ^ 64 - 1) fractionalPart with
    | .error source =>
      some (.error (parsingError str ("Error parsing integer part: " ++ source.display)))
    | .ok parsedFractional =>
      -- the length is taken as a `u32`
      let numFractionalDigits := fractionalPart.length % 2 ^ 32
      if fractionalPartDenominatorLog10 < numFractionalDigits then
        some (.error (parsingError str
          "The value cannot be parsed without a loss of precision"))
      else do
        let fractional ← Checked.u64
          (parsedFractional * 10 ^ (fractionalPartDenominatorLog10 - numFractionalDigits))
        let parsed ← fromParts (Int64.ofInt integer) fractional
        if isNegative then (neg parsed).map .ok else some (.ok parsed)

/-- The parser. -/
def fromStr (str : List Char) : Option (Result Decimal) :=
  let str := (trimDec str.reverse).reverse
  let (str, isNegative) := splitSign str
  let (integerPart, fractionalPart) := (splitOnce '.' str).getD (str, ['0'])
  parseParts str isNegative integerPart fractionalPart

/-- The fraction without its trailing zeros, and how many there were. -/
def stripTail0s (fractional tail0s : ℕ) : ℕ × ℕ :=
  if fractional ≠ 0 ∧ fractional % 10 = 0 then stripTail0s (fractional / 10) (tail0s + 1)
  else (fractional, tail0s)
termination_by fractional

/-- The printer. -/
def display (d : Decimal) : List Char :=
  if d.fractional = 0 then displaySigned d.integer.toInt ++ ".0".toList
  else
    let (fractional, tail0s) := stripTail0s d.fractional.toNat 0
    let fractionalWidth := fractionalPartDenominatorLog10 - tail0s
    displaySigned d.integer.toInt ++ '.' :: padded fractionalWidth fractional ++ "dec".toList

/-- A text without the suffix `dec`. -/
def dropSuffix (str : List Char) : List Char :=
  match str.reverse with
  | 'c' :: 'e' :: 'd' :: cs => cs.reverse
  | _ => str

/-- The number denoted by a sign, an integer part, a point, a fraction and the suffix `dec`, of
which the sign and the suffix may be absent. -/
def denoted (str : List Char) : Option ℚ := do
  let (str, isNegative) := splitSign (dropSuffix str)
  let (integerPart, fractionalPart) ← splitOnce '.' str
  if integerPart ≠ [] ∧ fractionalPart ≠ [] ∧ AllDigits (integerPart ++ fractionalPart) then
    let magnitude : ℚ := Nat.ofDigitChars 10 integerPart 0 +
      Nat.ofDigitChars 10 fractionalPart 0 / 10 ^ fractionalPart.length
    some (if isNegative then -magnitude else magnitude)
  else none

/-! ## Arithmetic -/

theorem denominator_eq : fractionalPartDenominator = 10000000000000000000 := rfl

theorem fromParts_eq_some {integer : Int64} {fractional : UInt64} {d : Decimal} :
    fromParts integer fractional = some d ↔
      d.Bounded ∧ d.integer = integer ∧ d.fractional = fractional := by
  rw [fromParts]
  constructor
  · intro h
    split_ifs at h with hf
    obtain rfl := Option.some.inj h
    exact ⟨hf, rfl, rfl⟩
  · rintro ⟨hd, rfl, rfl⟩
    exact if_pos hd

theorem Bounded.fromParts {d : Decimal} (hd : d.Bounded) :
    fromParts d.integer d.fractional = some d :=
  fromParts_eq_some.mpr ⟨hd, rfl, rfl⟩

theorem isSome_fromParts (integer : Int64) (fractional : UInt64) :
    (fromParts integer fractional).isSome =
      decide (fractional.toNat < fractionalPartDenominator) := by
  rw [fromParts]
  split <;> simp_all

/-- The last steps of a sum and of a difference: the integer parts are combined, then the carry is
added. -/
theorem combined_eq_some {integers carry : ℤ} {fractional : UInt64} {d : Decimal} :
    (do
      let combined ← Checked.i64 integers
      let integer ← Checked.i64 (combined.toInt + carry)
      fromParts integer fractional) = some d ↔
    (-2 ^ 63 ≤ integers ∧ integers < 2 ^ 63) ∧ d.Bounded ∧
      d.integer.toInt = integers + carry ∧ d.fractional = fractional := by
  simp only [Option.bind_eq_bind, Option.bind_eq_some_iff, Checked.i64_eq_some, fromParts_eq_some]
  constructor
  · rintro ⟨combined, hc, integer, hi, hd, rfl, rfl⟩
    rw [← hc]
    exact ⟨⟨combined.le_toInt, combined.toInt_lt⟩, hd, hi, rfl⟩
  · rintro ⟨⟨hl, hh⟩, hd, hi, hf⟩
    obtain ⟨combined, -, hc⟩ := Checked.exists_i64 hl hh
    exact ⟨combined, hc, d.integer, by rw [hi, hc], hd, rfl, hf⟩

theorem addFractional_spec {a b : UInt64} (ha : a.toNat < fractionalPartDenominator)
    (hb : b.toNat < fractionalPartDenominator) :
    ∃ fractional carry, addFractional a b = some (fractional, carry) ∧
      fractional.toNat < fractionalPartDenominator ∧
      fractional.toNat + fractionalPartDenominator * carry = a.toNat + b.toNat := by
  have hsum := UInt64.toNat_add a b
  have hden : (UInt64.ofNat fractionalPartDenominator).toNat = fractionalPartDenominator := rfl
  have hneg : (0 - UInt64.ofNat fractionalPartDenominator).toNat =
      2 ^ 64 - fractionalPartDenominator := by decide
  unfold addFractional
  simp only [UInt64.lt_iff_toNat_lt, hden, hneg]
  rw [denominator_eq] at *
  by_cases ho : 2 ^ 64 ≤ a.toNat + b.toNat
  · obtain ⟨frac, hf, hv⟩ := Checked.exists_u64
      (n := (a + b).toNat + (2 ^ 64 - 10000000000000000000)) (by omega)
    rw [if_neg (by omega), if_pos (by omega), hf]
    exact ⟨frac, 1, rfl, by omega, by omega⟩
  · by_cases hlt : (a + b).toNat < 10000000000000000000
    · rw [if_pos ⟨ho, hlt⟩]
      exact ⟨a + b, 0, rfl, hlt, by omega⟩
    · rw [if_neg (by omega), if_neg (by omega), if_pos ho]
      refine ⟨_, 1, rfl, ?_⟩
      have hle : UInt64.ofNat 10000000000000000000 ≤ a + b := by
        rw [UInt64.le_iff_toNat_le, hden]
        omega
      rw [UInt64.toNat_sub_of_le _ _ hle, hden]
      omega

/-- **A sum is exact, and there is one when the integer parts can be added.** -/
theorem add_eq_some {a b c : Decimal} (ha : a.Bounded) (hb : b.Bounded) : add a b = some c ↔
    (-2 ^ 63 ≤ a.integer.toInt + b.integer.toInt ∧ a.integer.toInt + b.integer.toInt < 2 ^ 63) ∧
      c.Bounded ∧ c.val = a.val + b.val := by
  obtain ⟨fractional, carry, he, hlt, hv⟩ := addFractional_spec ha hb
  simp only [add, he, Option.bind_eq_bind, Option.bind_some]
  refine combined_eq_some.trans (and_congr_right fun _ => and_congr_right fun hc => ?_)
  rw [← UInt64.toNat_inj]
  simp only [Bounded, val] at *
  rw [denominator_eq] at *
  omega

/-- The fraction of a difference, and what it borrows from the integer part. -/
theorem toNat_borrow {a b : UInt64} (ha : a.toNat < fractionalPartDenominator)
    (hb : b.toNat < fractionalPartDenominator) (h : ¬ b ≤ a) :
    (a - b + UInt64.ofNat fractionalPartDenominator).toNat =
      a.toNat + fractionalPartDenominator - b.toNat := by
  rw [UInt64.le_iff_toNat_le] at h
  rw [UInt64.toNat_add, UInt64.toNat_sub, UInt64.toNat_ofNat_of_lt' (by decide)]
  rw [denominator_eq] at *
  omega

/-- **A difference is exact, and there is one when the integer parts can be subtracted.** -/
theorem sub_eq_some {a b c : Decimal} (ha : a.Bounded) (hb : b.Bounded) : sub a b = some c ↔
    (-2 ^ 63 ≤ a.integer.toInt - b.integer.toInt ∧ a.integer.toInt - b.integer.toInt < 2 ^ 63) ∧
      c.Bounded ∧ c.val = a.val - b.val := by
  simp only [sub, Int.sub_eq_add_neg]
  refine combined_eq_some.trans (and_congr_right fun _ => and_congr_right fun hc => ?_)
  rw [← UInt64.toNat_inj]
  simp only [Bounded, val] at *
  by_cases hle : b.fractional ≤ a.fractional
  · have hf := UInt64.toNat_sub_of_le _ _ hle
    have hle' := UInt64.le_iff_toNat_le.mp hle
    rw [if_pos hle, hf]
    rw [denominator_eq] at *
    omega
  · have hf := toNat_borrow ha hb hle
    have hle' := mt UInt64.le_iff_toNat_le.mpr hle
    rw [if_neg hle, hf]
    rw [denominator_eq] at *
    omega

theorem bounded_default : (default : Decimal).Bounded := by decide

theorem default_val : (default : Decimal).val = 0 := rfl

theorem Bounded.of_whole {d : Decimal} (hd : d.fractional = 0) : d.Bounded := by
  rw [Bounded, hd]
  decide

theorem neg_eq_some {d e : Decimal} (hd : d.Bounded) : neg d = some e ↔
    d.integer.toInt ≠ -2 ^ 63 ∧ e.Bounded ∧ e.val = -d.val := by
  have hl := d.integer.le_toInt
  have hh := d.integer.toInt_lt
  have h0 : (default : Decimal).integer.toInt = 0 := rfl
  rw [neg, sub_eq_some bounded_default hd, default_val, h0, zero_sub, zero_sub]
  exact and_congr_left' ⟨by omega, by omega⟩

theorem val_of_neg {d e : Decimal} (hd : d.Bounded) (h : neg d = some e) : e.val = -d.val :=
  ((neg_eq_some hd).mp h).2.2

/-- A whole number other than the least can be negated. -/
theorem neg_of_whole {d e : Decimal} (hd : d.fractional = 0) (he : e.fractional = 0)
    (hint : e.integer.toInt = -d.integer.toInt) : neg d = some e := by
  have hh := e.integer.toInt_lt
  rw [neg_eq_some (Bounded.of_whole hd)]
  refine ⟨by omega, Bounded.of_whole he, ?_⟩
  simp only [val, hd, he, hint]
  rw [denominator_eq]
  simp

/-! ## The text of a decimal -/

/-- A sign, an integer part, a point, a fraction and a suffix. -/
def literal (negative : Bool) (integerPart fractionalPart : List Char) (suffix : Bool) :
    List Char :=
  (if negative then ['-'] else []) ++ integerPart ++ '.' :: fractionalPart ++
    (if suffix then "dec".toList else [])

/-- The digits after the point of a printed decimal. -/
def fractionText (d : Decimal) : List Char :=
  if d.fractional = 0 then ['0']
  else
    padded (fractionalPartDenominatorLog10 - (stripTail0s d.fractional.toNat 0).2)
      (stripTail0s d.fractional.toNat 0).1

theorem display_eq_literal (d : Decimal) :
    display d = literal (decide (d.integer.toInt < 0)) (Nat.toDigits 10 d.integer.toInt.natAbs)
      (fractionText d) (decide (d.fractional ≠ 0)) := by
  by_cases hf : d.fractional = 0
  · by_cases hi : d.integer.toInt < 0
    · simp [display, literal, fractionText, displaySigned, hf, hi]
    · simp [display, literal, fractionText, displaySigned, hf, hi]
  · by_cases hi : d.integer.toInt < 0
    · simp [display, literal, fractionText, displaySigned, hf, hi]
    · simp [display, literal, fractionText, displaySigned, hf, hi]

/-- Stripping takes a power of ten out of the fraction. -/
theorem stripTail0s_spec {fractional : ℕ} (h : fractional ≠ 0) (tail0s : ℕ) :
    ∃ m k, stripTail0s fractional tail0s = (m, tail0s + k) ∧ m ≠ 0 ∧ m * 10 ^ k = fractional := by
  induction fractional, tail0s using stripTail0s.induct with
  | case1 fractional tail0s hc ih =>
    obtain ⟨m, k, hs, hm, hv⟩ := ih (by omega)
    refine ⟨m, k + 1, ?_, hm, ?_⟩
    · rw [stripTail0s, if_pos hc, hs]
      congr 1
      omega
    · rw [pow_succ, ← mul_assoc, hv]
      omega
  | case2 fractional tail0s hc =>
    refine ⟨fractional, 0, ?_, h, by simp⟩
    rw [stripTail0s, if_neg hc]
    rfl

/-- The digits after the point are one to nineteen digits and denote the fraction. -/
theorem fractionText_spec {d : Decimal} (hd : d.Bounded) :
    AllDigits (fractionText d) ∧ fractionText d ≠ [] ∧
      (fractionText d).length ≤ fractionalPartDenominatorLog10 ∧
      Nat.ofDigitChars 10 (fractionText d) 0 *
        10 ^ (fractionalPartDenominatorLog10 - (fractionText d).length) = d.fractional.toNat := by
  by_cases hf : d.fractional = 0
  · simp [fractionText, hf, fractionalPartDenominatorLog10, Nat.ofDigitChars_cons, AllDigits]
  · have hne : d.fractional.toNat ≠ 0 := by
      intro h0
      exact hf (UInt64.toNat_inj.mp h0)
    obtain ⟨m, k, hs, hm, hv⟩ := stripTail0s_spec hne 0
    have hlt : m * 10 ^ k < 10 ^ fractionalPartDenominatorLog10 := by
      rw [hv]
      exact hd
    have hk : k < fractionalPartDenominatorLog10 := by
      by_contra hk
      have h1 := Nat.pow_le_pow_right (n := 10) (by decide) (not_lt.mp hk)
      have h2 := Nat.le_mul_of_pos_left (10 ^ k) (Nat.pos_of_ne_zero hm)
      omega
    have hm' : m < 10 ^ (fractionalPartDenominatorLog10 - k) := by
      refine Nat.lt_of_mul_lt_mul_right (a := 10 ^ k) ?_
      rw [← pow_add, Nat.sub_add_cancel hk.le]
      exact hlt
    have hlen := length_padded (by omega) hm'
    simp only [fractionText, hf, if_false, hs, Nat.zero_add, hlen, ofDigitChars_padded]
    refine ⟨allDigits_padded _ _, padded_ne_nil _ _, by omega, ?_⟩
    rw [Nat.sub_sub_self hk.le, hv]

theorem trimDec_of_isDigit {c : Char} (hc : c.isDigit = true) (cs : List Char) :
    trimDec (c :: cs) = c :: cs := by
  have : c ≠ 'c' := ne_of_isDigit hc rfl
  rw [trimDec]
  simp [this]

/-- The suffix of a literal, and nothing else, is trimmed. -/
theorem trimDec_literal {fractionalPart : List Char} (hd : AllDigits fractionalPart)
    (hne : fractionalPart ≠ []) (front : List Char) (suffix : Bool) :
    (trimDec (front ++ fractionalPart ++ if suffix then "dec".toList else []).reverse).reverse =
      front ++ fractionalPart := by
  obtain ⟨c, cs, hr⟩ := List.exists_cons_of_ne_nil (List.reverse_ne_nil_iff.mpr hne)
  have hc : c.isDigit = true := hd c (List.mem_reverse.mp (by rw [hr]; exact List.mem_cons_self))
  have hfront : (front ++ fractionalPart).reverse = c :: (cs ++ front.reverse) := by
    rw [List.reverse_append, hr, List.cons_append]
  have htrim : (trimDec (front ++ fractionalPart).reverse).reverse = front ++ fractionalPart := by
    rw [hfront, trimDec_of_isDigit hc, ← hfront, List.reverse_reverse]
  cases suffix with
  | false => simpa using htrim
  | true =>
    rw [List.reverse_append]
    exact htrim

theorem dropSuffix_literal {fractionalPart : List Char} (hd : AllDigits fractionalPart)
    (hne : fractionalPart ≠ []) (front : List Char) (suffix : Bool) :
    dropSuffix (front ++ fractionalPart ++ if suffix then "dec".toList else []) =
      front ++ fractionalPart := by
  obtain ⟨c, cs, hr⟩ := List.exists_cons_of_ne_nil (List.reverse_ne_nil_iff.mpr hne)
  have hc : c.isDigit = true := hd c (List.mem_reverse.mp (by rw [hr]; exact List.mem_cons_self))
  have hcc : c ≠ 'c' := ne_of_isDigit hc rfl
  cases suffix with
  | false => simp [dropSuffix, hr, hcc]
  | true => simp [dropSuffix]

/-- The sign of a literal. -/
theorem splitSign_literal {integerPart : List Char} (hd : AllDigits integerPart)
    (hne : integerPart ≠ []) (negative : Bool) (rest : List Char) :
    splitSign ((if negative then ['-'] else []) ++ integerPart ++ rest) =
      (integerPart ++ rest, negative) := by
  cases negative with
  | true => rfl
  | false =>
    obtain ⟨c, cs, rfl⟩ := List.exists_cons_of_ne_nil hne
    have hc := (allDigits_cons.mp hd).1
    have hp : c ≠ '+' := ne_of_isDigit hc rfl
    have hm : c ≠ '-' := ne_of_isDigit hc rfl
    simp only [Bool.false_eq_true, if_false, List.nil_append, List.cons_append]
    rw [splitSign] <;> simp [hp, hm]

section Literal

variable {integerPart fractionalPart : List Char} (hi : AllDigits integerPart)
  (hin : integerPart ≠ []) (hf : AllDigits fractionalPart) (hfn : fractionalPart ≠ [])
include hi hin hf hfn

/-- What a literal is parsed to. -/
theorem fromStr_literal (hlen : fractionalPart.length ≤ fractionalPartDenominatorLog10)
    (negative suffix : Bool) :
    fromStr (literal negative integerPart fractionalPart suffix) =
      match readDigits (2 ^ 63 - 1) .posOverflow 0 integerPart with
      | .error source => some (.error (parsingError (integerPart ++ '.' :: fractionalPart)
          ("Error parsing integer part: " ++ source.display)))
      | .ok integer => (do
        let fractional ← Checked.u64 (Nat.ofDigitChars 10 fractionalPart 0 *
          10 ^ (fractionalPartDenominatorLog10 - fractionalPart.length))
        let parsed ← fromParts (Int64.ofInt integer) fractional
        if negative then (neg parsed).map .ok else some (.ok parsed)) := by
  have htrim := trimDec_literal hf hfn
    ((if negative then ['-'] else []) ++ integerPart ++ ['.']) suffix
  have hsign := splitSign_literal hi hin negative ('.' :: fractionalPart)
  have hsplit := splitOnce_append (not_mem_of_allDigits hi (c := '.') rfl) fractionalPart
  have hfrac : Nat.ofDigitChars 10 fractionalPart 0 ≤ 2 ^ 64 - 1 := by
    have h1 := ofDigitChars_lt hf
    have h2 := Nat.pow_le_pow_right (n := 10) (by decide) hlen
    have h3 : 10 ^ fractionalPartDenominatorLog10 ≤ 2 ^ 64 - 1 := by decide
    omega
  have hmod : fractionalPart.length % 2 ^ 32 = fractionalPart.length := by
    simp only [fractionalPartDenominatorLog10] at hlen
    omega
  simp only [List.append_assoc, List.cons_append, List.nil_append] at htrim hsign
  simp only [fromStr, parseParts, literal, List.append_assoc, List.cons_append, htrim, hsign, hsplit,
    Option.getD_some, parseSigned_of_allDigits hin hi, parseUnsigned_of_allDigits hfn hf,
    readDigits_of_allDigits hf hfrac, hmod, if_neg (not_lt.mpr hlen)]
  cases readDigits (2 ^ 63 - 1) .posOverflow 0 integerPart with
  | error source => rfl
  | ok integer => rfl

/-- What a literal denotes. -/
theorem denoted_literal (negative suffix : Bool) :
    denoted (literal negative integerPart fractionalPart suffix) =
      let magnitude : ℚ := Nat.ofDigitChars 10 integerPart 0 +
        Nat.ofDigitChars 10 fractionalPart 0 / 10 ^ fractionalPart.length
      some (if negative then -magnitude else magnitude) := by
  have hdrop := dropSuffix_literal hf hfn
    ((if negative then ['-'] else []) ++ integerPart ++ ['.']) suffix
  have hsign := splitSign_literal hi hin negative ('.' :: fractionalPart)
  have hsplit := splitOnce_append (not_mem_of_allDigits hi (c := '.') rfl) fractionalPart
  simp only [List.append_assoc, List.cons_append, List.nil_append] at hdrop hsign
  simp only [denoted, literal, List.append_assoc, List.cons_append, hdrop, hsign, hsplit,
    Option.bind_eq_bind, Option.bind_some, allDigits_append]
  rw [if_pos ⟨hin, hfn, hi, hf⟩]

end Literal

/-! ## Round trip -/

/-- The digits of a printed decimal are parsed to its magnitude, then negated after a minus. -/
theorem fromStr_display_eq {d e : Decimal} (hd : d.Bounded)
    (hint : e.integer.toInt = |d.integer.toInt|) (hfrac : e.fractional = d.fractional) :
    fromStr (display d) =
      if d.integer.toInt < 0 then (neg e).map .ok else some (.ok e) := by
  obtain ⟨hfd, hfn, hlen, hval⟩ := fractionText_spec hd
  have hbound := e.integer.toInt_lt
  have habs : (d.integer.toInt.natAbs : ℤ) = e.integer.toInt := by rw [hint, Int.abs_eq_natAbs]
  have hread : readDigits (2 ^ 63 - 1) .posOverflow 0 (Nat.toDigits 10 d.integer.toInt.natAbs) =
      .ok d.integer.toInt.natAbs := by
    rw [readDigits_of_allDigits (allDigits_toDigits _)] <;> rw [Nat.ofDigitChars_ten_toDigits]
    omega
  have hu64 : Checked.u64 d.fractional.toNat = some e.fractional := by
    rw [Checked.u64_eq_some, hfrac]
  have hparts : fromParts (Int64.ofInt d.integer.toInt.natAbs) e.fractional = some e := by
    rw [fromParts_eq_some]
    exact ⟨by rw [Bounded, hfrac]; exact hd, by rw [habs, Int64.ofInt_toInt], rfl⟩
  rw [display_eq_literal, fromStr_literal (allDigits_toDigits _) Nat.toDigits_ne_nil hfd hfn hlen,
    hread]
  simp only [hval, hu64, hparts, Option.bind_eq_bind, Option.bind_some, decide_eq_true_eq]

/-- The least integer part is refused: its magnitude is not an `i64`. -/
theorem fromStr_display_min {d : Decimal} (hd : d.Bounded) (h : d.integer.toInt = -2 ^ 63)
    (e : Decimal) : fromStr (display d) ≠ some (.ok e) := by
  obtain ⟨hfd, hfn, hlen, -⟩ := fractionText_spec hd
  rw [display_eq_literal, fromStr_literal (allDigits_toDigits _) Nat.toDigits_ne_nil hfd hfn hlen]
  have hread : ∀ n, readDigits (2 ^ 63 - 1) .posOverflow 0
      (Nat.toDigits 10 d.integer.toInt.natAbs) ≠ .ok n := by
    intro n
    refine readDigits_of_lt ?_ n
    rw [Nat.ofDigitChars_ten_toDigits, h]
    decide
  cases hr : readDigits (2 ^ 63 - 1) .posOverflow 0 (Nat.toDigits 10 d.integer.toInt.natAbs) with
  | error source => simp
  | ok n => exact absurd hr (hread n)

/-- A decimal that is not negative is parsed back. -/
theorem fromStr_display_of_nonneg {d : Decimal} (hd : d.Bounded) (h : 0 ≤ d.integer.toInt) :
    fromStr (display d) = some (.ok d) := by
  rw [fromStr_display_eq hd (abs_of_nonneg h).symm rfl, if_neg (not_lt.mpr h)]

/-- A negative integer other than the least is the negation of its magnitude. -/
theorem exists_magnitude {d : Decimal} (h : d.integer.toInt < 0)
    (hmin : d.integer.toInt ≠ -2 ^ 63) :
    ∃ e : Decimal, e.integer.toInt = |d.integer.toInt| ∧ e.fractional = d.fractional := by
  have hlow := d.integer.le_toInt
  have habs : |d.integer.toInt| = -d.integer.toInt := abs_of_neg h
  obtain ⟨a, -, ha⟩ := Checked.exists_i64 (n := -d.integer.toInt) (by omega) (by omega)
  exact ⟨⟨a, d.fractional⟩, by rw [ha, habs], rfl⟩

/-- A negative whole number is parsed back. -/
theorem fromStr_display_of_whole {d : Decimal} (h : d.integer.toInt < 0)
    (hmin : d.integer.toInt ≠ -2 ^ 63) (hf : d.fractional = 0) :
    fromStr (display d) = some (.ok d) := by
  obtain ⟨e, hint, hfrac⟩ := exists_magnitude h hmin
  have habs : |d.integer.toInt| = -d.integer.toInt := abs_of_neg h
  have hneg : neg e = some d := neg_of_whole (by rw [hfrac, hf]) hf (by rw [hint, habs, neg_neg])
  rw [fromStr_display_eq (Bounded.of_whole hf) hint hfrac, if_pos h, hneg]
  rfl

/-- A negative number with a fraction is not: its fraction counts upwards from the integer part,
and the printed one is read downwards. -/
theorem fromStr_display_of_fraction {d : Decimal} (hd : d.Bounded) (h : d.integer.toInt < 0)
    (hf : d.fractional ≠ 0) : fromStr (display d) ≠ some (.ok d) := by
  by_cases hmin : d.integer.toInt = -2 ^ 63
  · exact fromStr_display_min hd hmin d
  · obtain ⟨e, hint, hfrac⟩ := exists_magnitude h hmin
    have habs : |d.integer.toInt| = -d.integer.toInt := abs_of_neg h
    rw [fromStr_display_eq hd hint hfrac, if_pos h]
    intro hparsed
    obtain ⟨d', hneg, hok⟩ := Option.map_eq_some_iff.mp hparsed
    obtain rfl : d' = d := Except.ok.inj hok
    have hval := val_of_neg (by rw [Bounded, hfrac]; exact hd) hneg
    have hne : d'.fractional.toNat ≠ 0 := by
      intro h0
      exact hf (UInt64.toNat_inj.mp h0)
    simp only [val, hint, habs, hfrac, denominator_eq] at hval
    omega

/-- The digits after the point denote the fraction. -/
theorem fractionText_toRat {d : Decimal} (hd : d.Bounded) :
    (Nat.ofDigitChars 10 (fractionText d) 0 : ℚ) / 10 ^ (fractionText d).length =
      d.fractional.toNat / fractionalPartDenominator := by
  obtain ⟨-, -, hlen, hval⟩ := fractionText_spec hd
  have hpow : (10 : ℚ) ^ fractionalPartDenominatorLog10 =
      10 ^ (fractionalPartDenominatorLog10 - (fractionText d).length) *
        10 ^ (fractionText d).length := by
    rw [← pow_add, Nat.sub_add_cancel hlen]
  rw [← hval, fractionalPartDenominator]
  push_cast
  rw [hpow]
  field_simp

/-- A printed decimal denotes its value when nothing follows a minus but the integer part. -/
theorem denoted_display {d : Decimal} (hd : d.Bounded)
    (h : 0 ≤ d.integer.toInt ∨ d.fractional = 0) :
    denoted (display d) = some d.toRat := by
  obtain ⟨hfd, hfn, -, -⟩ := fractionText_spec hd
  rw [display_eq_literal, denoted_literal (allDigits_toDigits _) Nat.toDigits_ne_nil hfd hfn]
  simp only [fractionText_toRat hd, Nat.ofDigitChars_ten_toDigits, Option.some.injEq, toRat,
    decide_eq_true_eq]
  by_cases hneg : d.integer.toInt < 0
  · have hf : d.fractional.toNat = 0 := by
      rw [h.resolve_left (not_le.mpr hneg)]
      rfl
    have habs : ((d.integer.toInt.natAbs : ℤ) : ℚ) = -d.integer.toInt := by
      rw [← Int.abs_eq_natAbs, abs_of_neg hneg]
      push_cast
      rfl
    rw [if_pos hneg, hf, ← Int.cast_natCast, habs]
    simp
  · have habs : ((d.integer.toInt.natAbs : ℤ) : ℚ) = d.integer.toInt := by
      rw [← Int.abs_eq_natAbs, abs_of_nonneg (not_lt.mp hneg)]
    rw [if_neg hneg, ← Int.cast_natCast, habs]

/-- **A decimal survives printing exactly when it is not negative, or whole and not the least.** -/
theorem display_round_trip_iff {d : Decimal} (hd : d.Bounded) :
    (fromStr (display d) = some (.ok d) ∧ denoted (display d) = some d.toRat) ↔
      0 ≤ d.integer.toInt ∨ (d.fractional = 0 ∧ d.integer.toInt ≠ -2 ^ 63) := by
  constructor
  · rintro ⟨hparse, -⟩
    by_cases h : 0 ≤ d.integer.toInt
    · exact Or.inl h
    · right
      refine ⟨?_, ?_⟩
      · by_contra hf
        exact fromStr_display_of_fraction hd (not_le.mp h) hf hparse
      · intro hmin
        exact fromStr_display_min hd hmin d hparse
  · rintro (h | ⟨hf, hmin⟩)
    · exact ⟨fromStr_display_of_nonneg hd h, denoted_display hd (Or.inl h)⟩
    · by_cases h : 0 ≤ d.integer.toInt
      · exact ⟨fromStr_display_of_nonneg hd h, denoted_display hd (Or.inl h)⟩
      · exact ⟨fromStr_display_of_whole (not_le.mp h) hmin hf, denoted_display hd (Or.inr hf)⟩

/-- One and a half. -/
theorem display_round_trip_one_and_a_half :
    display ⟨1, 5000000000000000000⟩ = "1.5dec".toList ∧
      fromStr (display ⟨1, 5000000000000000000⟩) = some (.ok ⟨1, 5000000000000000000⟩) ∧
      denoted (display ⟨1, 5000000000000000000⟩) = some (toRat ⟨1, 5000000000000000000⟩) :=
  ⟨by decide +kernel, (display_round_trip_iff (by decide)).mpr (Or.inl (by decide))⟩

/-- `-0.5`, stored as `-1 + 0.5`. -/
def minusHalf : Decimal := ⟨-1, 5000000000000000000⟩

/-- It is printed as `-1.5dec`, which is another number. -/
theorem minusHalf_printed_wrong :
    minusHalf.Bounded ∧ display minusHalf = "-1.5dec".toList ∧
      fromStr (display minusHalf) = some (.ok ⟨-2, 5000000000000000000⟩) ∧
      ¬ (fromStr (display minusHalf) = some (.ok minusHalf) ∧
        denoted (display minusHalf) = some minusHalf.toRat) := by
  decide +kernel

end Decimal

end TypeDBDriver
