import Mathlib.Algebra.Order.Ring.Int
import Mathlib.Algebra.Order.Ring.Nat
import Mathlib.Tactic.Push

/-!
# Decimal numerals

Text is a list of characters. `Nat.toDigits 10` writes a natural number and `Nat.ofDigitChars 10`
is the number that digits denote; both come with the core library.

* `padded`: a number written with leading zeros up to a width.
* `ParseIntError`, `parseUnsigned`, `parseSigned`: bounded integers read with checked arithmetic,
  a single optional sign in front.
* `displaySigned`: a signed integer as it is printed.
* `splitOnce`, `splitAll`: the text around the first separator, and around every one.
* **`readDigits_eq_ok`**: what is read is what the digits denote, and it is within the bound.
-/

namespace Numeral

/-! ## Digits -/

/-- Every character is a decimal digit. -/
def AllDigits (cs : List Char) : Prop := ∀ c ∈ cs, c.isDigit = true

instance (cs : List Char) : Decidable (AllDigits cs) :=
  inferInstanceAs (Decidable (∀ c ∈ cs, c.isDigit = true))

@[simp] theorem allDigits_nil : AllDigits [] := by simp [AllDigits]

@[simp] theorem allDigits_cons {c : Char} {cs : List Char} :
    AllDigits (c :: cs) ↔ c.isDigit = true ∧ AllDigits cs := by simp [AllDigits]

@[simp] theorem allDigits_append {cs ds : List Char} :
    AllDigits (cs ++ ds) ↔ AllDigits cs ∧ AllDigits ds := by
  simp [AllDigits, or_imp, forall_and]

@[simp] theorem allDigits_toDigits (n : ℕ) : AllDigits (Nat.toDigits 10 n) :=
  fun _ hc => Nat.isDigit_of_mem_toDigits (by decide) (by decide) hc

@[simp] theorem allDigits_replicate_zero (k : ℕ) : AllDigits (List.replicate k '0') := by
  intro c hc
  rw [List.eq_of_mem_replicate hc]
  rfl

theorem not_mem_of_allDigits {cs : List Char} (h : AllDigits cs) {c : Char}
    (hc : c.isDigit = false) : c ∉ cs := by
  intro hm
  rw [h c hm] at hc
  exact Bool.noConfusion hc

theorem ne_of_isDigit {c d : Char} (hc : c.isDigit = true) (hd : d.isDigit = false) : c ≠ d := by
  rintro rfl
  rw [hc] at hd
  exact Bool.noConfusion hd

theorem le_ofDigitChars (cs : List Char) (acc : ℕ) : acc ≤ Nat.ofDigitChars 10 cs acc := by
  induction cs generalizing acc with
  | nil => simp
  | cons c cs ih =>
    rw [Nat.ofDigitChars_cons]
    have := ih (10 * acc + (c.toNat - '0'.toNat))
    omega

theorem toNat_lt_of_isDigit {c : Char} (hc : c.isDigit = true) : c.toNat < 58 := by
  simp only [Char.isDigit, Bool.and_eq_true, decide_eq_true_eq] at hc
  have h := hc.2
  rw [UInt32.le_iff_toNat_le] at h
  have : c.toNat ≤ 57 := h
  omega

theorem digit_sub_lt {c : Char} (hc : c.isDigit = true) : c.toNat - '0'.toNat < 10 := by
  have := toNat_lt_of_isDigit hc
  have : '0'.toNat = 48 := rfl
  omega

theorem ofDigitChars_lt {cs : List Char} (h : AllDigits cs) :
    Nat.ofDigitChars 10 cs 0 < 10 ^ cs.length := by
  induction cs with
  | nil => simp
  | cons c cs ih =>
    have hc := digit_sub_lt (h c List.mem_cons_self)
    have hcs := ih (allDigits_cons.mp h).2
    rw [Nat.ofDigitChars_cons, Nat.ofDigitChars_eq_ofDigitChars_zero, Nat.mul_zero, Nat.zero_add,
      List.length_cons, Nat.pow_succ]
    have := Nat.mul_le_mul_left (10 ^ cs.length) (Nat.le_of_lt_succ hc)
    omega

/-- `n` with leading zeros up to `width` digits. -/
def padded (width n : ℕ) : List Char :=
  List.replicate (width - (Nat.toDigits 10 n).length) '0' ++ Nat.toDigits 10 n

@[simp] theorem allDigits_padded (width n : ℕ) : AllDigits (padded width n) := by
  simp [padded]

@[simp] theorem ofDigitChars_padded (width n : ℕ) : Nat.ofDigitChars 10 (padded width n) 0 = n := by
  simp [padded, Nat.ofDigitChars_append]

@[simp] theorem padded_ne_nil (width n : ℕ) : padded width n ≠ [] := by
  simp [padded]

theorem length_padded {width n : ℕ} (hw : 0 < width) (hn : n < 10 ^ width) :
    (padded width n).length = width := by
  have := (Nat.length_toDigits_le_iff (by decide) hw).mpr hn
  simp only [padded, List.length_append, List.length_replicate]
  omega

/-! ## Bounded integers -/

/-- Why a text is not an integer of the wanted type. -/
inductive ParseIntError
  | empty
  | invalidDigit
  | posOverflow
  | negOverflow
  deriving DecidableEq, Repr

def ParseIntError.display : ParseIntError → String
  | empty => "cannot parse integer from empty string"
  | invalidDigit => "invalid digit found in string"
  | posOverflow => "number too large to fit in target type"
  | negOverflow => "number too small to fit in target type"

/-- Read digits onto `acc`; no intermediate value may pass `limit`. -/
def readDigits (limit : ℕ) (overflow : ParseIntError) : ℕ → List Char → Except ParseIntError ℕ
  | acc, [] => .ok acc
  | acc, c :: cs =>
    if c.isDigit = true then
      let next := 10 * acc + (c.toNat - '0'.toNat)
      if next ≤ limit then readDigits limit overflow next cs else .error overflow
    else .error .invalidDigit

/-- An unsigned integer of at most `limit`. -/
def parseUnsigned (limit : ℕ) : List Char → Except ParseIntError ℕ
  | [] => .error .empty
  | ['+'] | ['-'] => .error .invalidDigit
  | '+' :: cs => readDigits limit .posOverflow 0 cs
  | cs => readDigits limit .posOverflow 0 cs

/-- A signed integer between `-low` and `high`. -/
def parseSigned (low high : ℕ) : List Char → Except ParseIntError ℤ
  | [] => .error .empty
  | ['+'] | ['-'] => .error .invalidDigit
  | '+' :: cs => (readDigits high .posOverflow 0 cs).map fun n => (n : ℤ)
  | '-' :: cs => (readDigits low .negOverflow 0 cs).map fun n => -(n : ℤ)
  | cs => (readDigits high .posOverflow 0 cs).map fun n => (n : ℤ)

/-- A signed integer as it is printed. -/
def displaySigned (n : ℤ) : List Char :=
  if n < 0 then '-' :: Nat.toDigits 10 n.natAbs else Nat.toDigits 10 n.natAbs

variable {limit : ℕ} {overflow : ParseIntError}

/-- **Reading digits gives the number they denote, when it is within the bound.** -/
theorem readDigits_eq_ok {cs : List Char} {acc n : ℕ} (hacc : acc ≤ limit) :
    readDigits limit overflow acc cs = .ok n ↔
      AllDigits cs ∧ Nat.ofDigitChars 10 cs acc = n ∧ n ≤ limit := by
  induction cs generalizing acc with
  | nil =>
    simp only [readDigits, Except.ok.injEq, allDigits_nil, Nat.ofDigitChars_nil, true_and]
    constructor
    · rintro rfl
      exact ⟨rfl, hacc⟩
    · exact And.left
  | cons c cs ih =>
    rw [readDigits, allDigits_cons, Nat.ofDigitChars_cons]
    by_cases hc : c.isDigit = true
    · rw [if_pos hc]
      by_cases hl : 10 * acc + (c.toNat - '0'.toNat) ≤ limit
      · simp only [if_pos hl, ih hl, hc, true_and]
      · have := le_ofDigitChars cs (10 * acc + (c.toNat - '0'.toNat))
        simp only [if_neg hl, reduceCtorEq, false_iff]
        rintro ⟨-, rfl, hn⟩
        exact hl (Nat.le_trans this hn)
    · simp [hc]

theorem readDigits_of_allDigits {cs : List Char} (hd : AllDigits cs)
    (hl : Nat.ofDigitChars 10 cs 0 ≤ limit) :
    readDigits limit overflow 0 cs = .ok (Nat.ofDigitChars 10 cs 0) :=
  (readDigits_eq_ok (Nat.zero_le _)).mpr ⟨hd, rfl, hl⟩

/-- Digits denoting too large a number are refused. -/
theorem readDigits_of_lt {cs : List Char} (hl : limit < Nat.ofDigitChars 10 cs 0) (n : ℕ) :
    readDigits limit overflow 0 cs ≠ .ok n := by
  rw [ne_eq, readDigits_eq_ok (Nat.zero_le _)]
  rintro ⟨-, rfl, h⟩
  omega

/-- Digits without a sign go straight to the digit loop. -/
theorem parseUnsigned_of_allDigits {cs : List Char} (hne : cs ≠ []) (hd : AllDigits cs) :
    parseUnsigned limit cs = readDigits limit .posOverflow 0 cs := by
  cases cs with
  | nil => exact absurd rfl hne
  | cons c cs =>
    have hc := (allDigits_cons.mp hd).1
    have hp : c ≠ '+' := ne_of_isDigit hc rfl
    have hm : c ≠ '-' := ne_of_isDigit hc rfl
    rw [parseUnsigned] <;> simp [hp, hm]

theorem parseSigned_of_allDigits {low high : ℕ} {cs : List Char} (hne : cs ≠ [])
    (hd : AllDigits cs) :
    parseSigned low high cs = (readDigits high .posOverflow 0 cs).map fun n => (n : ℤ) := by
  cases cs with
  | nil => exact absurd rfl hne
  | cons c cs =>
    have hc := (allDigits_cons.mp hd).1
    have hp : c ≠ '+' := ne_of_isDigit hc rfl
    have hm : c ≠ '-' := ne_of_isDigit hc rfl
    rw [parseSigned] <;> simp [hp, hm]

theorem parseSigned_minus {low high : ℕ} {cs : List Char} (hne : cs ≠ []) :
    parseSigned low high ('-' :: cs) =
      (readDigits low .negOverflow 0 cs).map fun n => -(n : ℤ) := by
  cases cs with
  | nil => exact absurd rfl hne
  | cons c cs => rfl

/-! ## Signs -/

/-- A sign that may be absent: is it a minus? -/
def signText : Option Bool → List Char
  | none => []
  | some false => ['+']
  | some true => ['-']

/-- The text after a sign is found again when it starts with a digit where the sign is absent. -/
theorem signText_append_inj {sign sign' : Option Bool} {rest rest' : List Char}
    (hd : sign = none → ∃ c cs, rest = c :: cs ∧ c.isDigit = true)
    (hd' : sign' = none → ∃ c cs, rest' = c :: cs ∧ c.isDigit = true)
    (h : signText sign ++ rest = signText sign' ++ rest') : sign = sign' ∧ rest = rest' := by
  match sign, sign' with
  | none, none => exact ⟨rfl, h⟩
  | none, some false | none, some true =>
    obtain ⟨c, cs, rfl, hc⟩ := hd rfl
    cases h
    cases hc
  | some false, none | some true, none =>
    obtain ⟨c, cs, rfl, hc⟩ := hd' rfl
    cases h
    cases hc
  | some false, some false | some true, some true =>
    cases h
    exact ⟨rfl, rfl⟩
  | some false, some true | some true, some false => cases h

theorem exists_digit {cs : List Char} (hne : cs ≠ []) (hd : AllDigits cs) (rest : List Char) :
    ∃ d ds, cs ++ rest = d :: ds ∧ d.isDigit = true := by
  obtain ⟨d, ds, rfl⟩ := List.exists_cons_of_ne_nil hne
  exact ⟨d, ds ++ rest, rfl, (allDigits_cons.mp hd).1⟩

/-- A bounded unsigned integer is a plus that may be absent, and digits. -/
theorem parseUnsigned_eq_ok {cs : List Char} {n : ℕ} :
    parseUnsigned limit cs = .ok n ↔ ∃ (plus : Bool) (ds : List Char),
      cs = signText (if plus then some false else none) ++ ds ∧ ds ≠ [] ∧ AllDigits ds ∧
        Nat.ofDigitChars 10 ds 0 = n ∧ n ≤ limit := by
  constructor
  · intro h
    unfold parseUnsigned at h
    split at h
    · cases h
    · cases h
    · cases h
    · rename_i cs hne
      rw [readDigits_eq_ok (Nat.zero_le _)] at h
      exact ⟨true, cs, rfl, fun hnil => hne (by rw [hnil]), h⟩
    · rename_i hne _ _ _
      rw [readDigits_eq_ok (Nat.zero_le _)] at h
      exact ⟨false, cs, rfl, hne, h⟩
  · rintro ⟨plus, ds, rfl, hne, hd, hn⟩
    cases plus with
    | false =>
      show parseUnsigned limit ds = .ok n
      rw [parseUnsigned_of_allDigits hne hd, readDigits_eq_ok (Nat.zero_le _)]
      exact ⟨hd, hn⟩
    | true =>
      show parseUnsigned limit ('+' :: ds) = .ok n
      have hplus : parseUnsigned limit ('+' :: ds) = readDigits limit .posOverflow 0 ds := by
        cases ds with
        | nil => exact absurd rfl hne
        | cons => rfl
      rw [hplus, readDigits_eq_ok (Nat.zero_le _)]
      exact ⟨hd, hn⟩

/-- The integer that digits denote after a sign. -/
def signedNumber (sign : Option Bool) (ds : List Char) : ℤ :=
  if sign = some true then -(Nat.ofDigitChars 10 ds 0 : ℤ) else Nat.ofDigitChars 10 ds 0

theorem readDigits_map_eq_ok {cs : List Char} (f : ℤ → ℤ) {n : ℤ} :
    Except.map f (do
      let magnitude ← readDigits limit overflow 0 cs
      pure (magnitude : ℤ)) = .ok n ↔
      AllDigits cs ∧ f (Nat.ofDigitChars 10 cs 0) = n ∧ Nat.ofDigitChars 10 cs 0 ≤ limit := by
  constructor
  · intro h
    cases hr : readDigits limit overflow 0 cs with
    | error e =>
      rw [hr] at h
      cases h
    | ok m =>
      rw [hr] at h
      obtain ⟨hd, rfl, hl⟩ := (readDigits_eq_ok (Nat.zero_le _)).mp hr
      exact ⟨hd, Except.ok.inj h, hl⟩
  · rintro ⟨hd, rfl, hl⟩
    rw [readDigits_of_allDigits hd hl]
    rfl

theorem parseSigned_plus {low high : ℕ} {cs : List Char} (hne : cs ≠ []) :
    parseSigned low high ('+' :: cs) =
      (readDigits high .posOverflow 0 cs).map fun n => (n : ℤ) := by
  cases cs with
  | nil => exact absurd rfl hne
  | cons c cs => rfl

/-- A bounded signed integer is a sign that may be absent, and digits. -/
theorem parseSigned_eq_ok {low high : ℕ} {cs : List Char} {n : ℤ} :
    parseSigned low high cs = .ok n ↔ ∃ (sign : Option Bool) (ds : List Char),
      cs = signText sign ++ ds ∧ ds ≠ [] ∧ AllDigits ds ∧ signedNumber sign ds = n ∧
        -(low : ℤ) ≤ n ∧ n ≤ high := by
  constructor
  · intro h
    unfold parseSigned at h
    split at h
    · cases h
    · cases h
    · cases h
    · rename_i cs hne
      obtain ⟨hd, rfl, hl⟩ := (readDigits_map_eq_ok _).mp h
      exact ⟨some false, cs, rfl, fun hnil => hne (by rw [hnil]), hd, rfl, by omega, by omega⟩
    · rename_i cs hne
      obtain ⟨hd, rfl, hl⟩ := (readDigits_map_eq_ok _).mp h
      exact ⟨some true, cs, rfl, fun hnil => hne (by rw [hnil]), hd, rfl, by omega, by omega⟩
    · rename_i hne _ _ _ _
      obtain ⟨hd, rfl, hl⟩ := (readDigits_map_eq_ok _).mp h
      exact ⟨none, cs, rfl, hne, hd, rfl, by omega, by omega⟩
  · rintro ⟨sign, ds, rfl, hne, hd, rfl, hl, hh⟩
    match sign with
    | none =>
      show parseSigned low high ds = _
      rw [parseSigned_of_allDigits hne hd, readDigits_map_eq_ok]
      exact ⟨hd, rfl, Int.ofNat_le.mp hh⟩
    | some false =>
      show parseSigned low high ('+' :: ds) = _
      rw [parseSigned_plus hne, readDigits_map_eq_ok]
      exact ⟨hd, rfl, Int.ofNat_le.mp hh⟩
    | some true =>
      show parseSigned low high ('-' :: ds) = _
      rw [parseSigned_minus hne, readDigits_map_eq_ok]
      exact ⟨hd, rfl, Int.ofNat_le.mp (Int.neg_le_neg_iff.mp hl)⟩

/-! ## Separators -/

/-- The text before and after the first `sep`. -/
def splitOnce (sep : Char) : List Char → Option (List Char × List Char)
  | [] => none
  | c :: cs =>
    if c = sep then some ([], cs) else (splitOnce sep cs).map fun p => (c :: p.1, p.2)

theorem splitOnce_append {sep : Char} {before : List Char} (h : sep ∉ before)
    (after : List Char) : splitOnce sep (before ++ sep :: after) = some (before, after) := by
  induction before with
  | nil => simp [splitOnce]
  | cons c cs ih =>
    rw [List.mem_cons, not_or] at h
    simp [splitOnce, Ne.symm h.1, ih h.2]

theorem splitOnce_of_not_mem {sep : Char} {text : List Char} (h : sep ∉ text) :
    splitOnce sep text = none := by
  induction text with
  | nil => rfl
  | cons c cs ih =>
    rw [List.mem_cons, not_or] at h
    simp [splitOnce, Ne.symm h.1, ih h.2]

theorem append_of_splitOnce {sep : Char} {text before after : List Char}
    (h : splitOnce sep text = some (before, after)) : text = before ++ sep :: after := by
  induction text generalizing before with
  | nil => cases h
  | cons c cs ih =>
    rw [splitOnce] at h
    split at h
    · rename_i hc
      cases h
      rw [hc, List.nil_append]
    · obtain ⟨⟨before, after⟩, hs, he⟩ := Option.map_eq_some_iff.mp h
      cases he
      rw [ih hs, List.cons_append]

/-- The texts between the separators. -/
def splitAll (sep : Char) : List Char → List (List Char)
  | [] => [[]]
  | c :: cs =>
    if c = sep then [] :: splitAll sep cs
    else
      match splitAll sep cs with
      | [] => [[c]]
      | part :: parts => (c :: part) :: parts

theorem splitAll_of_not_mem {sep : Char} {text : List Char} (h : sep ∉ text) :
    splitAll sep text = [text] := by
  induction text with
  | nil => rfl
  | cons c cs ih =>
    rw [List.mem_cons, not_or] at h
    simp [splitAll, Ne.symm h.1, ih h.2]

theorem splitAll_append {sep : Char} {before : List Char} (h : sep ∉ before)
    (after : List Char) : splitAll sep (before ++ sep :: after) = before :: splitAll sep after := by
  induction before with
  | nil => simp [splitAll]
  | cons c cs ih =>
    rw [List.mem_cons, not_or] at h
    simp [splitAll, Ne.symm h.1, ih h.2]

end Numeral
