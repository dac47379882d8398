import Mathlib.Data.Rat.Floor
import TypeDBDriver.Concept.DecimalArithmetic

/-!
# The texts that are decimals

* `Written`: a text of the shape that the parser takes apart, two signs, a plus after the point and
  repeated suffixes included; `Written.text_injective`: it can be written in one way.
* `Written.Grammatical`, `Written.value`: the texts that the grammar has, and the number they
  denote.
* `Written.fromStr_text`, `exists_written`: what the parser does with such a text, and that it
  refuses every other.
* **`parsesExactly_iff`**: exactly the texts that are parsed as the grammar says.
-/

namespace TypeDBDriver

open Numeral

namespace Decimal

/-- Signs, digits, a point with digits after it, and suffixes. -/
structure Written where
  sign : Option Bool
  /-- a sign after the first -/
  second : Option Bool
  integerPart : List Char
  /-- the digits after the point, and is there a plus in front of them? -/
  fraction : Option (Bool × List Char)
  suffixes : ℕ
  second_none : sign = none → second = none
  integer_ne : integerPart ≠ []
  integer_digits : AllDigits integerPart
  fraction_ne : ∀ f ∈ fraction, f.2 ≠ []
  fraction_digits : ∀ f ∈ fraction, AllDigits f.2

namespace Written

variable (w : Written)

def plusText (plus : Bool) : List Char := signText (if plus then some false else none)

def pointText : List Char :=
  match w.fraction with
  | none => []
  | some (plus, ds) => '.' :: (plusText plus ++ ds)

/-- The text after the first sign. -/
def unsignedText : List Char := signText w.second ++ (w.integerPart ++ w.pointText)

def text : List Char :=
  signText w.sign ++ w.unsignedText ++ (List.replicate w.suffixes "dec".toList).flatten

/-- One sign, no plus after the point, at most nineteen digits there, and one suffix. -/
structure Grammatical : Prop where
  second : w.second = none
  plus : ∀ f ∈ w.fraction, f.1 = false
  length : ∀ f ∈ w.fraction, f.2.length ≤ fractionalPartDenominatorLog10
  suffixes : w.suffixes ≤ 1

/-- The digits after the point. -/
def fractionDigits : List Char :=
  match w.fraction with
  | none => ['0']
  | some (_, ds) => ds

/-- What the parser reads as the fraction. -/
def fractionalPart : List Char :=
  match w.fraction with
  | none => ['0']
  | some (plus, ds) => plusText plus ++ ds

/-- The number denoted by the digits before the point. -/
def integerNumber : ℕ := Nat.ofDigitChars 10 w.integerPart 0

/-- The number denoted by the digits after the point. -/
def fractionNumber : ℕ := Nat.ofDigitChars 10 w.fractionDigits 0

/-- The denoted number. -/
def value : ℚ :=
  let magnitude : ℚ := w.integerNumber + w.fractionNumber / 10 ^ w.fractionDigits.length
  if w.sign = some true then -magnitude else magnitude

/-! ## Reading a text -/

theorem fractionDigits_ne : w.fractionDigits ≠ [] := by
  unfold fractionDigits
  split
  · simp
  · rename_i f h
    exact w.fraction_ne _ h

theorem allDigits_fractionDigits : AllDigits w.fractionDigits := by
  unfold fractionDigits
  split
  · simp [AllDigits]
  · rename_i f h
    exact w.fraction_digits _ h

/-- The last character before the suffixes is a digit. -/
theorem exists_last_digit : ∃ front c, w.unsignedText = front ++ [c] ∧ c.isDigit = true := by
  have last : ∀ {ds : List Char}, ds ≠ [] → AllDigits ds →
      ∃ front c, ds = front ++ [c] ∧ c.isDigit = true := by
    intro ds hne hd
    refine ⟨ds.dropLast, ds.getLast hne, (List.dropLast_append_getLast hne).symm, ?_⟩
    exact hd _ (List.getLast_mem hne)
  unfold unsignedText pointText
  split
  · obtain ⟨front, c, he, hc⟩ := last w.integer_ne w.integer_digits
    exact ⟨signText w.second ++ front, c, by simp [he], hc⟩
  · rename_i plus ds h
    obtain ⟨front, c, he : ds = _, hc⟩ := last (w.fraction_ne _ h) (w.fraction_digits _ h)
    exact ⟨signText w.second ++ (w.integerPart ++ '.' :: (plusText plus ++ front)), c,
      by simp [he], hc⟩

end Written

theorem trimDec_suffixes (k : ℕ) (cs : List Char) :
    trimDec ((List.replicate k "ced".toList).flatten ++ cs) = trimDec cs := by
  induction k with
  | zero => rfl
  | succ k ih =>
    rw [List.replicate_succ, List.flatten_cons, List.append_assoc]
    exact ih

theorem reverse_suffixes (k : ℕ) :
    (List.replicate k "dec".toList).flatten.reverse = (List.replicate k "ced".toList).flatten := by
  rw [List.reverse_flatten, List.map_replicate, List.reverse_replicate]
  rfl

theorem length_suffixes (k : ℕ) : (List.replicate k "dec".toList).flatten.length = k * 3 := by
  induction k with
  | zero => rfl
  | succ k ih =>
    rw [List.replicate_succ, List.flatten_cons, List.length_append, ih, Nat.succ_mul, Nat.add_comm]
    rfl

/-- What is trimmed are suffixes. -/
theorem exists_suffixes (cs : List Char) :
    ∃ k, cs = (List.replicate k "ced".toList).flatten ++ trimDec cs := by
  induction cs using trimDec.induct with
  | case1 cs ih =>
    obtain ⟨k, hk⟩ := ih
    refine ⟨k + 1, ?_⟩
    rw [trimDec, List.replicate_succ, List.flatten_cons, List.append_assoc, ← hk]
    rfl
  | case2 cs h =>
    refine ⟨0, ?_⟩
    rw [trimDec]
    · rfl
    · exact h

theorem fromStr_eq (s : List Char) :
    fromStr s =
      let str := splitSign (trimDec s.reverse).reverse
      let parts := (splitOnce '.' str.1).getD (str.1, ['0'])
      parseParts str.1 str.2 parts.1 parts.2 :=
  rfl

namespace Written

variable (w : Written)

theorem trimDec_text : (trimDec w.text.reverse).reverse = signText w.sign ++ w.unsignedText := by
  obtain ⟨front, c, he, hc⟩ := w.exists_last_digit
  rw [text, List.reverse_append, reverse_suffixes, trimDec_suffixes, he, ← List.append_assoc,
    List.reverse_append, List.reverse_singleton, List.singleton_append, trimDec_of_isDigit hc]
  simp

theorem unsignedText_digit (h : w.sign = none) :
    ∃ c cs, w.unsignedText = c :: cs ∧ c.isDigit = true := by
  rw [unsignedText, w.second_none h]
  exact exists_digit w.integer_ne w.integer_digits _

theorem splitSign_text : splitSign (signText w.sign ++ w.unsignedText) =
    (w.unsignedText, decide (w.sign = some true)) := by
  match h : w.sign with
  | none =>
    obtain ⟨c, cs, he, hc⟩ := w.unsignedText_digit h
    have hp : c ≠ '+' := ne_of_isDigit hc rfl
    have hm : c ≠ '-' := ne_of_isDigit hc rfl
    rw [signText, List.nil_append, he, splitSign] <;> simp [hp, hm]
  | some false => rfl
  | some true => rfl

theorem not_mem_integerText : '.' ∉ signText w.second ++ w.integerPart := by
  have hd := not_mem_of_allDigits w.integer_digits (c := '.') rfl
  match w.second with
  | none => exact hd
  | some false | some true => simp [signText, hd]

theorem splitOnce_text :
    (splitOnce '.' w.unsignedText).getD (w.unsignedText, ['0']) =
      (signText w.second ++ w.integerPart, w.fractionalPart) := by
  have hn := w.not_mem_integerText
  unfold unsignedText pointText fractionalPart
  rw [← List.append_assoc]
  split
  · rw [List.append_nil, splitOnce_of_not_mem hn]
    rfl
  · rw [splitOnce_append hn]
    rfl

/-- **What a written text is parsed to.** -/
theorem fromStr_text : fromStr w.text =
    parseParts w.unsignedText (decide (w.sign = some true)) (signText w.second ++ w.integerPart)
      w.fractionalPart := by
  rw [fromStr_eq]
  simp only [w.trimDec_text, w.splitSign_text, w.splitOnce_text]

/-- The parts are within the bounds of the parser. -/
structure Readable : Prop where
  le_integer : -2 ^ 63 ≤ signedNumber w.second w.integerPart
  integer_lt : signedNumber w.second w.integerPart < 2 ^ 63
  fraction_lt : w.fractionNumber < 2 ^ 64
  length_le : w.fractionalPart.length % 2 ^ 32 ≤ fractionalPartDenominatorLog10

theorem parseSigned_integerText {n : ℤ} :
    parseSigned (2 ^ 63) (2 ^ 63 - 1) (signText w.second ++ w.integerPart) = .ok n ↔
      signedNumber w.second w.integerPart = n ∧ -2 ^ 63 ≤ n ∧ n < 2 ^ 63 := by
  rw [parseSigned_eq_ok]
  constructor
  · rintro ⟨sign, ds, he, hne, hd, hn, hl, hh⟩
    have hdigit := exists_digit w.integer_ne w.integer_digits []
    have hdigit' := exists_digit hne hd []
    rw [List.append_nil] at hdigit hdigit'
    obtain ⟨hs, hi⟩ := signText_append_inj (fun _ => hdigit) (fun _ => hdigit') he
    rw [hs, hi]
    exact ⟨hn, by omega, by omega⟩
  · rintro ⟨hn, hl, hh⟩
    exact ⟨_, _, rfl, w.integer_ne, w.integer_digits, hn, by omega, by omega⟩

/-- The fraction that the parser reads is a plus that may be absent, and the digits. -/
theorem exists_plus : ∃ plus, w.fractionalPart = plusText plus ++ w.fractionDigits := by
  unfold fractionalPart fractionDigits
  split
  · exact ⟨false, rfl⟩
  · exact ⟨_, rfl⟩

theorem parseUnsigned_fractionalPart {n : ℕ} :
    parseUnsigned (2 ^ 64 - 1) w.fractionalPart = .ok n ↔ w.fractionNumber = n ∧ n < 2 ^ 64 := by
  obtain ⟨plus, hp⟩ := w.exists_plus
  rw [parseUnsigned_eq_ok, hp]
  constructor
  · rintro ⟨plus', ds, he, hne, hd, hn, hh⟩
    have hdigit := exists_digit w.fractionDigits_ne w.allDigits_fractionDigits []
    have hdigit' := exists_digit hne hd []
    rw [List.append_nil] at hdigit hdigit'
    obtain ⟨-, hi⟩ := signText_append_inj (fun _ => hdigit) (fun _ => hdigit') he
    exact ⟨by rw [fractionNumber, hi, hn], by omega⟩
  · rintro ⟨hn, hh⟩
    exact ⟨plus, _, rfl, w.fractionDigits_ne, w.allDigits_fractionDigits, hn, by omega⟩

end Written

/-- The parts that are not refused. -/
theorem parseParts_error_or (str : List Char) (isNegative : Bool)
    (integerPart fractionalPart : List Char) :
    (∃ e, parseParts str isNegative integerPart fractionalPart = some (.error e)) ∨
      ∃ integer parsedFractional,
        parseSigned (2 ^ 63) (2 ^ 63 - 1) integerPart = .ok integer ∧
        parseUnsigned (2 ^ 64 - 1) fractionalPart = .ok parsedFractional ∧
        fractionalPart.length % 2 ^ 32 ≤ fractionalPartDenominatorLog10 ∧
        parseParts str isNegative integerPart fractionalPart = (do
          let fractional ← Checked.u64 (parsedFractional *
            10 ^ (fractionalPartDenominatorLog10 - fractionalPart.length % 2 ^ 32))
          let parsed ← fromParts (Int64.ofInt integer) fractional
          if isNegative then (neg parsed).map .ok else some (.ok parsed)) := by
  unfold parseParts
  cases hi : parseSigned (2 ^ 63) (2 ^ 63 - 1) integerPart with
  | error source => exact .inl ⟨_, rfl⟩
  | ok integer =>
    cases hf : parseUnsigned (2 ^ 64 - 1) fractionalPart with
    | error source => exact .inl ⟨_, rfl⟩
    | ok parsedFractional =>
      dsimp only
      split
      · exact .inl ⟨_, rfl⟩
      · rename_i hl
        exact .inr ⟨_, _, rfl, rfl, not_lt.mp hl, rfl⟩

theorem parseParts_not_error {str integerPart fractionalPart : List Char} {isNegative : Bool}
    {integer : ℤ} {parsedFractional : ℕ}
    (hi : parseSigned (2 ^ 63) (2 ^ 63 - 1) integerPart = .ok integer)
    (hf : parseUnsigned (2 ^ 64 - 1) fractionalPart = .ok parsedFractional)
    (hl : fractionalPart.length % 2 ^ 32 ≤ fractionalPartDenominatorLog10) (e : Error) :
    parseParts str isNegative integerPart fractionalPart ≠ some (.error e) := by
  unfold parseParts
  rw [hi, hf]
  dsimp only
  rw [if_neg (not_lt.mpr hl)]
  simp only [Option.bind_eq_bind, ne_eq, Option.bind_eq_some_iff, not_exists, not_and]
  intro fractional _ parsed _
  cases isNegative <;> simp

/-- A written text is refused exactly when its parts are out of bounds. -/
theorem Written.fromStr_text_error_iff (w : Written) :
    (∃ e, fromStr w.text = some (.error e)) ↔ ¬ w.Readable := by
  rw [w.fromStr_text]
  constructor
  · rintro ⟨e, he⟩ hr
    exact parseParts_not_error (w.parseSigned_integerText.mpr ⟨rfl, hr.le_integer, hr.integer_lt⟩)
      (w.parseUnsigned_fractionalPart.mpr ⟨rfl, hr.fraction_lt⟩) hr.length_le e he
  · intro hr
    obtain h | ⟨_, _, hi, hf, hl, -⟩ := parseParts_error_or w.unsignedText
      (decide (w.sign = some true)) (signText w.second ++ w.integerPart) w.fractionalPart
    · exact h
    · obtain ⟨rfl, hlow, hhigh⟩ := w.parseSigned_integerText.mp hi
      obtain ⟨rfl, hlt⟩ := w.parseUnsigned_fractionalPart.mp hf
      exact absurd ⟨hlow, hhigh, hlt, hl⟩ hr

/-! ## Other texts -/

/-- The first sign of a text. -/
theorem exists_sign (str : List Char) : ∃ sign, str = signText sign ++ (splitSign str).1 ∧
    (sign = none → ∀ second ds, (splitSign str).1 = signText second ++ ds → second = none) := by
  unfold splitSign
  split
  · exact ⟨some true, rfl, by simp⟩
  · exact ⟨some false, rfl, by simp⟩
  · rename_i hm hp
    refine ⟨none, rfl, ?_⟩
    rintro - second ds he
    match second with
    | none => rfl
    | some false => exact absurd he (hp ds)
    | some true => exact absurd he (hm ds)

/-- **A text that is not refused is a written one.** -/
theorem exists_written {s : List Char} (h : ∀ e, fromStr s ≠ some (.error e)) :
    ∃ w : Written, w.text = s := by
  obtain ⟨k, hk⟩ := exists_suffixes s.reverse
  have hs : s = (trimDec s.reverse).reverse ++ (List.replicate k "dec".toList).flatten := by
    rw [← List.reverse_inj, List.reverse_append, List.reverse_reverse, reverse_suffixes]
    exact hk
  obtain ⟨sign, hsign, hfirst⟩ := exists_sign (trimDec s.reverse).reverse
  rw [fromStr_eq] at h
  dsimp only at h
  obtain ⟨e, he⟩ | ⟨integer, parsedFractional, hi, hf, -, -⟩ := parseParts_error_or _ _ _ _
  · exact absurd he (h e)
  obtain ⟨second, integerPart, hip, hine, hid, -⟩ := parseSigned_eq_ok.mp hi
  obtain ⟨plus, ds, hfp, hfne, hfd, -⟩ := parseUnsigned_eq_ok.mp hf
  generalize (splitSign (trimDec s.reverse).reverse).1 = rest at *
  cases hsplit : splitOnce '.' rest with
  | none =>
    rw [hsplit] at hip
    have hrest : rest = signText second ++ integerPart := hip
    exact ⟨⟨sign, second, integerPart, none, k, fun hn => hfirst hn _ _ hrest, hine, hid,
      by simp, by simp⟩, by
        rw [hs, hsign, hrest]
        simp [Written.text, Written.unsignedText, Written.pointText]⟩
  | some p =>
    obtain ⟨ip, fp⟩ := p
    rw [hsplit] at hip hfp
    have hrest := append_of_splitOnce hsplit
    rw [show ip = _ from hip, show fp = _ from hfp, List.append_assoc] at hrest
    exact ⟨⟨sign, second, integerPart, some (plus, ds), k, fun hn => hfirst hn _ _ hrest, hine,
      hid, by simpa using hfne, by simpa using hfd⟩, by
        rw [hs, hsign, hrest]
        simp [Written.text, Written.unsignedText, Written.pointText, Written.plusText]⟩

/-- The digits after the point are found again. -/
theorem Written.fraction_eq_of_pointText {w v : Written} (h : w.pointText = v.pointText) :
    w.fraction = v.fraction := by
  unfold pointText at h
  match hw : w.fraction, hv : v.fraction with
  | none, none => rfl
  | none, some _ | some _, none =>
    rw [hw, hv] at h
    cases h
  | some (plus, ds), some (plus', ds') =>
    rw [hw, hv] at h
    have hdigit := exists_digit (w.fraction_ne _ hw) (w.fraction_digits _ hw) []
    have hdigit' := exists_digit (v.fraction_ne _ hv) (v.fraction_digits _ hv) []
    rw [List.append_nil] at hdigit hdigit'
    obtain ⟨hplus, hds⟩ :=
      signText_append_inj (fun _ => hdigit) (fun _ => hdigit') (List.cons.inj h).2
    cases plus <;> cases plus' <;> simp_all

/-- **A text is written in one way.** -/
theorem Written.text_injective : Function.Injective Written.text := by
  intro w v h
  have hfront := w.trimDec_text
  rw [h, v.trimDec_text] at hfront
  obtain ⟨hsign, hunsigned⟩ :=
    signText_append_inj v.unsignedText_digit w.unsignedText_digit hfront
  obtain ⟨hsecond, hrest⟩ := signText_append_inj
    (fun _ => exists_digit v.integer_ne v.integer_digits _)
    (fun _ => exists_digit w.integer_ne w.integer_digits _) hunsigned
  have hparts := w.splitOnce_text
  rw [← hunsigned, v.splitOnce_text, hsecond] at hparts
  have hinteger : v.integerPart = w.integerPart :=
    List.append_cancel_left (Prod.ext_iff.mp hparts).1
  rw [hinteger] at hrest
  have hfraction := fraction_eq_of_pointText (List.append_cancel_left hrest)
  have hsuffixes : w.suffixes = v.suffixes := by
    have hl := congrArg List.length h
    simp only [text, hsign, hunsigned, List.length_append, length_suffixes] at hl
    omega
  cases w
  cases v
  simp only at hsign hsecond hinteger hfraction hsuffixes
  subst hsign hsecond hinteger hfraction hsuffixes
  rfl

/-! ## Values -/

/-- The value rounded down is an `i64`. -/
def InRange (v : ℚ) : Prop := -2 ^ 63 ≤ ⌊v⌋ ∧ ⌊v⌋ < 2 ^ 63

theorem toRat_eq (d : Decimal) : d.toRat = d.val / fractionalPartDenominator := by
  have hne : (fractionalPartDenominator : ℚ) ≠ 0 := by decide +kernel
  rw [toRat, val]
  push_cast
  field_simp

theorem floor_toRat {d : Decimal} (hd : d.Bounded) : ⌊d.toRat⌋ = d.integer.toInt := by
  rw [toRat_eq, ← val_ediv hd]
  exact Rat.floor_intCast_div_natCast _ _

theorem inRange_toRat {d : Decimal} (hd : d.Bounded) : InRange d.toRat := by
  rw [InRange, floor_toRat hd]
  exact ⟨d.integer.le_toInt, d.integer.toInt_lt⟩

namespace Written

variable {w : Written}

theorem Grammatical.fractionalPart (h : w.Grammatical) : w.fractionalPart = w.fractionDigits := by
  unfold Written.fractionalPart fractionDigits
  split
  · rfl
  · rename_i plus ds hf
    obtain rfl : plus = false := h.plus _ hf
    rfl

theorem Grammatical.fraction_length (h : w.Grammatical) :
    w.fractionDigits.length ≤ fractionalPartDenominatorLog10 := by
  unfold fractionDigits
  split
  · decide
  · rename_i f hf
    exact h.length _ hf

theorem Grammatical.readable_iff (h : w.Grammatical) :
    w.Readable ↔ w.integerNumber < 2 ^ 63 := by
  have hl := h.fraction_length
  have hnum : signedNumber w.second w.integerPart = w.integerNumber := by
    rw [h.second]
    rfl
  constructor
  · intro hr
    have := hr.integer_lt
    omega
  · intro hlt
    refine ⟨by omega, by omega, ?_, ?_⟩
    · have h1 := ofDigitChars_lt w.allDigits_fractionDigits
      have h2 := Nat.pow_le_pow_right (n := 10) (by decide) hl
      have h3 : 10 ^ fractionalPartDenominatorLog10 < 2 ^ 64 := by decide
      rw [fractionNumber]
      omega
    · rw [h.fractionalPart]
      exact le_trans (Nat.mod_le _ _) hl

/-- A decimal of the denoted magnitude, with the parts that the parser computes. -/
theorem Grammatical.exists_magnitude (h : w.Grammatical) (hlt : w.integerNumber < 2 ^ 63) :
    ∃ parsed : Decimal, parsed.Bounded ∧ parsed.integer = Int64.ofInt w.integerNumber ∧
      0 ≤ parsed.integer.toInt ∧
      parsed.fractional.toNat = w.fractionNumber *
        10 ^ (fractionalPartDenominatorLog10 - w.fractionDigits.length) ∧
      parsed.toRat = w.integerNumber + w.fractionNumber / 10 ^ w.fractionDigits.length := by
  have hl := h.fraction_length
  have hpow : 10 ^ w.fractionDigits.length *
      10 ^ (fractionalPartDenominatorLog10 - w.fractionDigits.length) =
        fractionalPartDenominator := by
    rw [← pow_add, Nat.add_sub_cancel' hl, fractionalPartDenominator]
  have hscaled : w.fractionNumber *
      10 ^ (fractionalPartDenominatorLog10 - w.fractionDigits.length) <
        fractionalPartDenominator := by
    rw [← hpow]
    exact Nat.mul_lt_mul_of_pos_right (ofDigitChars_lt w.allDigits_fractionDigits)
      (Nat.pow_pos (by decide))
  obtain ⟨integer, hi, hiv⟩ := Checked.exists_i64 (n := w.integerNumber) (by omega) (by omega)
  obtain ⟨fractional, -, hfv⟩ := Checked.exists_u64 (lt_trans hscaled (by decide))
  refine ⟨⟨integer, fractional⟩, hfv.trans_lt hscaled, ?_, ?_, hfv, ?_⟩
  · rw [← hiv, Int64.ofInt_toInt]
  · rw [hiv]
    omega
  · have hne : (10 : ℚ) ^ w.fractionDigits.length ≠ 0 := pow_ne_zero _ (by norm_num)
    have hne' : (10 : ℚ) ^ (fractionalPartDenominatorLog10 - w.fractionDigits.length) ≠ 0 :=
      pow_ne_zero _ (by norm_num)
    simp only [toRat, hiv, hfv, ← hpow]
    push_cast
    field_simp

/-- **A grammatical text within the bounds is parsed to the number it denotes.** -/
theorem Grammatical.fromStr_text (h : w.Grammatical) (hlt : w.integerNumber < 2 ^ 63) :
    ∃ d, fromStr w.text = some (.ok d) ∧ d.Bounded ∧ d.toRat = w.value := by
  have hl := h.fraction_length
  have hr := h.readable_iff.mpr hlt
  obtain ⟨parsed, hbounded, hpi, hpos, hpf, hpr⟩ := h.exists_magnitude hlt
  obtain he | ⟨integer, parsedFractional, hi, hf, -, hparsed⟩ := parseParts_error_or
    w.unsignedText (decide (w.sign = some true)) (signText w.second ++ w.integerPart)
    w.fractionalPart
  · rw [← w.fromStr_text, w.fromStr_text_error_iff] at he
    exact absurd hr he
  obtain ⟨rfl, -, -⟩ := w.parseSigned_integerText.mp hi
  obtain ⟨rfl, -⟩ := w.parseUnsigned_fractionalPart.mp hf
  have hnum : signedNumber w.second w.integerPart = w.integerNumber := by
    rw [h.second]
    rfl
  have hmod : w.fractionDigits.length % 2 ^ 32 = w.fractionDigits.length := by
    simp only [fractionalPartDenominatorLog10] at hl
    omega
  have hu64 := Checked.u64_eq_some.mpr hpf
  have hparts : fromParts (Int64.ofInt w.integerNumber) parsed.fractional = some parsed := by
    rw [fromParts_eq_some]
    exact ⟨hbounded, hpi, rfl⟩
  rw [w.fromStr_text, hparsed, hnum, h.fractionalPart, hmod]
  simp only [hu64, hparts, Option.bind_eq_bind, Option.bind_some, decide_eq_true_eq]
  by_cases hs : w.sign = some true
  · have hrep : Representable (-parsed.val) := by
      have hh := parsed.integer.toInt_lt
      simp only [Bounded, Representable, val] at *
      rw [denominator_eq] at *
      omega
    obtain ⟨d, hd, hv⟩ := exists_val_iff.mpr hrep
    have hneg : neg parsed = some d := (neg_eq_some hbounded).mpr ⟨by omega, hd, hv⟩
    rw [if_pos hs, hneg]
    refine ⟨d, rfl, hd, ?_⟩
    simp only [value, if_pos hs]
    rw [← hpr, toRat_eq, toRat_eq, hv]
    push_cast
    ring
  · rw [if_neg hs]
    refine ⟨parsed, rfl, hbounded, ?_⟩
    simp only [value, if_neg hs]
    exact hpr

/-- Of the grammatical texts out of the bounds, only the least whole number is in range. -/
theorem inRange_value_iff (hle : 2 ^ 63 ≤ w.integerNumber) : InRange w.value ↔
    w.sign = some true ∧ w.integerNumber = 2 ^ 63 ∧ w.fractionNumber = 0 := by
  have hle' : (2 ^ 63 : ℚ) ≤ w.integerNumber := by exact_mod_cast hle
  have hx : (0 : ℚ) ≤ w.fractionNumber / 10 ^ w.fractionDigits.length := by positivity
  rw [InRange, Int.le_floor, Int.floor_lt, value]
  push_cast
  by_cases hs : w.sign = some true
  · simp only [hs, if_true, true_and]
    constructor
    · rintro ⟨hlow, -⟩
      have hint : (w.integerNumber : ℚ) = 2 ^ 63 := by linarith
      have hfrac : (w.fractionNumber : ℚ) / 10 ^ w.fractionDigits.length = 0 := by linarith
      have hpow : (10 : ℚ) ^ w.fractionDigits.length ≠ 0 := pow_ne_zero _ (by norm_num)
      refine ⟨by exact_mod_cast hint, ?_⟩
      exact_mod_cast (div_eq_zero_iff.mp hfrac).resolve_right hpow
    · rintro ⟨hint, hfrac⟩
      rw [hint, hfrac]
      norm_num
  · simp only [hs, if_false, false_and, iff_false, not_and, not_lt]
    intro _
    linarith

end Written

/-! ## What the parser accepts -/

/-- A text is parsed as the grammar says: it does not panic, and returns a decimal exactly for a
grammatical text that denotes a number in range, namely that number. -/
structure ParsesExactly (s : List Char) : Prop where
  returns : fromStr s ≠ none
  accepts : (∃ d, fromStr s = some (.ok d)) ↔
    ∃ w : Written, w.text = s ∧ w.Grammatical ∧ InRange w.value
  exact : ∀ (w : Written) (d : Decimal), w.text = s → w.Grammatical →
    fromStr s = some (.ok d) → d.toRat = w.value

/-- A written text does not mislead the parser: it is not the least whole number, and when its
parts are within the bounds it is grammatical. -/
structure Written.Plain (w : Written) : Prop where
  least : w.Grammatical →
    ¬ (w.sign = some true ∧ w.integerNumber = 2 ^ 63 ∧ w.fractionNumber = 0)
  grammatical : w.Readable → w.Grammatical

theorem Written.plain_of_parsesExactly {w : Written} (h : ParsesExactly w.text) : w.Plain := by
  constructor
  · rintro hg ⟨hs, hi, hf⟩
    have hrange := (inRange_value_iff hi.ge).mpr ⟨hs, hi, hf⟩
    obtain ⟨d, hd⟩ := h.accepts.mpr ⟨w, rfl, hg, hrange⟩
    have hr : ¬ w.Readable := by
      rw [hg.readable_iff, hi]
      exact lt_irrefl _
    obtain ⟨e, he⟩ := w.fromStr_text_error_iff.mpr hr
    rw [hd] at he
    cases he
  · intro hr
    match hparsed : fromStr w.text with
    | none => exact absurd hparsed h.returns
    | some (.error e) => exact absurd hr (w.fromStr_text_error_iff.mp ⟨e, hparsed⟩)
    | some (.ok d) =>
      obtain ⟨v, hv, hg, -⟩ := h.accepts.mp ⟨d, hparsed⟩
      obtain rfl := text_injective hv
      exact hg

theorem Written.parsesExactly_of_plain {w : Written} (h : w.Plain) : ParsesExactly w.text := by
  by_cases hr : w.Readable
  · have hg := h.grammatical hr
    obtain ⟨d, hd, hbounded, hv⟩ := hg.fromStr_text (hg.readable_iff.mp hr)
    refine ⟨by simp [hd], ⟨fun _ => ⟨w, rfl, hg, ?_⟩, fun _ => ⟨d, hd⟩⟩, ?_⟩
    · rw [← hv]
      exact inRange_toRat hbounded
    · intro v e ht _ he
      obtain rfl := text_injective ht
      rw [hd] at he
      cases he
      exact hv
  · obtain ⟨e, he⟩ := w.fromStr_text_error_iff.mpr hr
    refine ⟨by simp [he], ⟨by simp [he], ?_⟩, by simp [he]⟩
    rintro ⟨v, ht, hg, hrange⟩
    obtain rfl := text_injective ht
    rw [hg.readable_iff, not_lt] at hr
    exact absurd ((inRange_value_iff hr).mp hrange) (h.least hg)

/-- **The decimal parser**: a text is parsed as the grammar says exactly when it is not written so
as to mislead the parser. -/
theorem parsesExactly_iff (s : List Char) :
    ParsesExactly s ↔ ∀ w : Written, w.text = s → w.Plain := by
  constructor
  · rintro h w rfl
    exact Written.plain_of_parsesExactly h
  · intro h
    by_cases hw : ∃ w : Written, w.text = s
    · obtain ⟨w, rfl⟩ := hw
      exact Written.parsesExactly_of_plain (h w rfl)
    · have herror : ∃ e, fromStr s = some (.error e) := by
        by_contra hn
        exact hw (exists_written fun e he => hn ⟨e, he⟩)
      obtain ⟨e, he⟩ := herror
      refine ⟨by simp [he], ⟨by simp [he], ?_⟩, by simp [he]⟩
      rintro ⟨w, ht, -⟩
      exact absurd ⟨w, ht⟩ hw

/-- The least whole number. -/
def leastText : Written where
  sign := some true
  second := none
  integerPart := "9223372036854775808".toList
  fraction := none
  suffixes := 0
  second_none := by simp
  integer_ne := by decide
  integer_digits := by simp [AllDigits]
  fraction_ne := by simp
  fraction_digits := by simp

/-- Two suffixes. -/
def twiceSuffixed : Written where
  sign := none
  second := none
  integerPart := ['1']
  fraction := some (false, ['5'])
  suffixes := 2
  second_none := by simp
  integer_ne := by decide
  integer_digits := by simp [AllDigits]
  fraction_ne := by simp
  fraction_digits := by simp [AllDigits]

/-- The least whole number is refused, a repeated suffix is accepted, and two minus signs before
the least whole number are a panic. -/
theorem not_parsesExactly :
    ¬ ParsesExactly "-9223372036854775808".toList ∧ ¬ ParsesExactly "1.5decdec".toList ∧
      fromStr "1.5decdec".toList = some (.ok ⟨1, 5000000000000000000⟩) ∧
      ¬ ParsesExactly "--9223372036854775808".toList := by
  refine ⟨?_, ?_, by decide +kernel, ?_⟩
  · intro h
    have ht : leastText.text = "-9223372036854775808".toList := by decide
    rw [← ht] at h
    refine (Written.plain_of_parsesExactly h).least ?_ (by decide +kernel)
    exact ⟨rfl, by simp [leastText], by simp [leastText], by decide⟩
  · intro h
    have ht : twiceSuffixed.text = "1.5decdec".toList := by decide
    rw [← ht] at h
    have hg := (Written.plain_of_parsesExactly h).grammatical
      ⟨by decide +kernel, by decide +kernel, by decide +kernel, by decide +kernel⟩
    exact absurd hg.suffixes (by decide)
  · intro h
    exact h.returns (by decide +kernel)

end Decimal

end TypeDBDriver
