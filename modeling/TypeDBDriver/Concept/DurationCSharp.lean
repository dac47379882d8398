import TypeDBDriver.Concept.DurationSyntax
import TypeDBDriver.Lib.Binary64

/-!
# The duration parser of the C# driver

The texts that are parsed here are printed by `Duration.display`, so `\d` stands for the ASCII
digits only; `none` is an exception.

* `CSharp.parse`: the parser, which reads the seconds as a `double`.
* `readNanos`: the nanoseconds that come out of the two roundings.
* `searchFrom_component`, `searchFrom_component_self`: what is found in a printed part.
* **`csharp_parse_iff`**: exactly which printed durations are read back.
-/

namespace TypeDBDriver

open Numeral Regex

namespace CSharp

/-- A duration of the C# driver. -/
structure Duration where
  months : ℤ
  days : ℤ
  nanos : ℤ
  deriving DecidableEq

/-- `(\d+)Y`. -/
def component (symbol : Char) : Pattern :=
  (Pattern.group 1 (.plus Char.isDigit)).seq (.lit symbol)

/-- `^P(\d+)W$`. -/
def weekPattern : Pattern :=
  Pattern.bol.seq <| (Pattern.lit 'P').seq <| (Pattern.group 1 (.plus Char.isDigit)).seq <|
    (Pattern.lit 'W').seq .eol

/-- `[\d.]`. -/
def isDigitOrPoint (c : Char) : Bool := c.isDigit || c == '.'

/-- `([\d.]+)S`. -/
def secPattern : Pattern := (Pattern.group 1 (.plus isDigitOrPoint)).seq (.lit 'S')

/-- `int.Parse` and `long.Parse` of digits. -/
def parseInteger (bits : ℕ) (text : List Char) : Option ℤ :=
  match parseSigned (2 ^ (bits - 1)) (2 ^ (bits - 1) - 1) text with
  | .ok n => some n
  | .error _ => none

/-- `double.Parse` of digits and points, the point being the decimal separator. -/
def parseDouble (text : List Char) : Option ℚ :=
  let (whole, fraction) := (splitOnce '.' text).getD (text, [])
  if AllDigits (whole ++ fraction) ∧ whole ++ fraction ≠ [] then
    some (Binary64.round (Nat.ofDigitChars 10 (whole ++ fraction) 0 / 10 ^ fraction.length))
  else none

/-- A `double` that is not negative, cast to `long`; the result is unspecified beyond its range. -/
def toLong (value : ℚ) : Option ℤ := if value < 2 ^ 63 then some ⌊value⌋ else none

def wrapInt (n : ℤ) : ℤ := n.bmod (2 ^ 32)

def wrapLong (n : ℤ) : ℤ := n.bmod (2 ^ 64)

/-- The number of a component, zero when there is none. -/
def find (bits : ℕ) (symbol : Char) (text : List Char) : Option ℤ :=
  match search (component symbol) text with
  | some group => parseInteger bits ((group 1).getD [])
  | none => some 0

/-- The nanoseconds of the seconds of the time part. -/
def findSeconds (text : List Char) : Option ℤ :=
  match search secPattern text with
  | some group => do
    let seconds ← parseDouble ((group 1).getD [])
    toLong (Binary64.round (seconds * 1000000000))
  | none => some 0

/-- `Duration.Parse`. -/
def parse (durationString : List Char) : Option Duration :=
  match durationString with
  | 'P' :: parts =>
    match search weekPattern durationString with
    | some group => do
      let weeks ← parseInteger 32 ((group 1).getD [])
      some ⟨0, wrapInt (weeks * 7), 0⟩
    | none => do
      let parts := splitAll 'T' parts
      let datePart := parts.headD []
      let timePart := parts.tail.headD []
      let years ← find 32 'Y' datePart
      let months ← find 32 'M' datePart
      let days ← find 32 'D' datePart
      let hours ← find 64 'H' timePart
      let minutes ← find 64 'M' timePart
      let nanos ← findSeconds timePart
      some ⟨wrapInt (wrapInt (years * 12) + months), days,
        wrapLong (wrapLong (wrapLong (wrapLong (hours * 3600) * 1000000000) +
          wrapLong (wrapLong (minutes * 60) * 1000000000)) + nanos)⟩
  | _ => none


/-! ## Printed durations -/

/-- A group of characters and a designator. -/
def numbered (p : Char → Bool) (symbol : Char) : Pattern :=
  (Pattern.group 1 (.plus p)).seq (.lit symbol)

variable {p : Char → Bool} {c d : Char}

theorem needs_numbered (p : Char → Bool) (c : Char) : Needs c (numbered p c) := by
  right
  intro x hx
  simpa [Pattern.lit] using hx

/-- Nothing is found before the end of a number with another designator. -/
theorem searchFrom_skip (hp : ∀ x, x.isDigit = true → p x = true) (hpc : p c = false)
    (hpd : p d = false) (hne : d ≠ c) {w : List Char} (hw : AllDigits w) (rest : List Char)
    (atStart : Bool) :
    searchFrom (numbered p c) atStart (w ++ d :: rest) = searchFrom (numbered p c) false rest := by
  have hend : ∀ x, (x == c) = true → p x = false := by
    intro x hx
    rw [beq_iff_eq] at hx
    rw [hx, hpc]
  have hstop : ∀ x ∈ (d :: rest).head?, p x = false ∧ (x == c) = false := by
    intro x hx
    cases hx
    exact ⟨hpd, by simpa using hne⟩
  induction w generalizing atStart with
  | nil =>
    have hfail := fails_of_consumes (w := []) (consumes_plus fun _ h => h) 1 hend (by simp)
      hstop atStart (fun _ => none)
    exact searchFrom_cons hfail
  | cons x w ih =>
    have hfail := fails_of_consumes (consumes_plus fun _ h => h) 1 hend
      (fun y hy => hp y (hw y hy)) hstop atStart (fun _ => none)
    exact (searchFrom_cons hfail).trans (ih (fun y hy => hw y (List.mem_cons_of_mem x hy)) false)

/-- A printed component with another designator is skipped. -/
theorem searchFrom_component (hp : ∀ x, x.isDigit = true → p x = true) (hpc : p c = false)
    (hpd : p d = false) (hne : d ≠ c) {rest : List Char} {r : Option (ℕ → Option (List Char))}
    (h : ∀ atStart, searchFrom (numbered p c) atStart rest = r) (k : ℕ) (atStart : Bool) :
    searchFrom (numbered p c) atStart (TypeDBDriver.Duration.component k d ++ rest) = r := by
  by_cases hk : 0 < k
  · rw [TypeDBDriver.Duration.component_pos hk, List.append_assoc]
    exact (searchFrom_skip hp hpc hpd hne (allDigits_toDigits k) rest atStart).trans (h false)
  · rw [Nat.eq_zero_of_not_pos hk]
    exact h atStart

/-- The groups of a match of `k` and its designator, if it was printed. -/
def found (k : ℕ) : Option (ℕ → Option (List Char)) :=
  if 0 < k then some (Function.update (fun _ => none) 1 (some (Nat.toDigits 10 k))) else none

/-- A printed component is found. -/
theorem searchFrom_component_self (hc : c.isDigit = false) {rest : List Char} (h : c ∉ rest)
    (k : ℕ) (atStart : Bool) :
    searchFrom (component c) atStart (TypeDBDriver.Duration.component k c ++ rest) = found k := by
  unfold found
  by_cases hk : 0 < k
  · rw [if_pos hk, TypeDBDriver.Duration.component_pos hk, List.append_assoc]
    exact search_of_first (First.seq (First.group 1 (first_plus Nat.toDigits_ne_nil
      (allDigits_toDigits k) (ends_cons hc) atStart _)) (first_lit c false rest _))
  · rw [if_neg hk, Nat.eq_zero_of_not_pos hk]
    exact searchFrom_of_needs (needs_numbered Char.isDigit c) h atStart

theorem find_of_found {bits k : ℕ} {text : List Char}
    (h : searchFrom (component c) true text = found k) (hk : k < 2 ^ (bits - 1)) :
    find bits c text = some (k : ℤ) := by
  rw [find, search, h, found]
  by_cases hpos : 0 < k
  · have hread : readDigits (2 ^ (bits - 1) - 1) .posOverflow 0 (Nat.toDigits 10 k) = .ok k := by
      rw [readDigits_of_allDigits (allDigits_toDigits k)] <;> rw [Nat.ofDigitChars_ten_toDigits]
      omega
    simp only [if_pos hpos, Function.update_self, Option.getD_some, parseInteger,
      parseSigned_of_allDigits Nat.toDigits_ne_nil (allDigits_toDigits k), hread, Except.map]
    rfl
  · rw [if_neg hpos, Nat.eq_zero_of_not_pos hpos]
    rfl

/-- The three components of a printed date part. -/
theorem find_date {months days : ℕ} (hm : months * 12 < 2 ^ 31) (hd : days * 12 < 2 ^ 31) :
    find 32 'Y' (TypeDBDriver.Duration.dateText months days) = some ((months / 12 : ℕ) : ℤ) ∧
      find 32 'M' (TypeDBDriver.Duration.dateText months days) = some ((months % 12 : ℕ) : ℤ) ∧
      find 32 'D' (TypeDBDriver.Duration.dateText months days) = some (days : ℤ) := by
  have hdigit : ∀ x : Char, x.isDigit = true → x.isDigit = true := fun _ h => h
  have hMY : 'Y' ∉ TypeDBDriver.Duration.component (months % 12) 'M' ++
      TypeDBDriver.Duration.component days 'D' := by
    rw [List.mem_append, not_or]
    exact ⟨TypeDBDriver.Duration.not_mem_component rfl (by decide) _,
      TypeDBDriver.Duration.not_mem_component rfl (by decide) _⟩
  have hDM : 'M' ∉ TypeDBDriver.Duration.component days 'D' :=
    TypeDBDriver.Duration.not_mem_component rfl (by decide) _
  have htext : TypeDBDriver.Duration.dateText months days =
      TypeDBDriver.Duration.component (months / 12) 'Y' ++
        (TypeDBDriver.Duration.component (months % 12) 'M' ++
          (TypeDBDriver.Duration.component days 'D' ++ [])) := by
    rw [TypeDBDriver.Duration.dateText, List.append_assoc, List.append_nil]
    rfl
  rw [htext]
  refine ⟨?_, ?_, ?_⟩
  · refine find_of_found ?_ (by omega)
    rw [List.append_nil]
    exact searchFrom_component_self rfl hMY _ true
  · refine find_of_found ?_ (by omega)
    rw [List.append_nil]
    exact searchFrom_component hdigit rfl rfl (by decide)
      (searchFrom_component_self rfl hDM _) _ true
  · refine find_of_found ?_ (by omega)
    exact searchFrom_component hdigit rfl rfl (by decide) (searchFrom_component hdigit rfl rfl
      (by decide) (searchFrom_component_self rfl List.not_mem_nil _) _) _ true

/-- The hours and minutes of a printed time part. -/
theorem find_time {nanos : ℕ} (hn : nanos < 2 ^ 63) :
    find 64 'H' (TypeDBDriver.Duration.timeText nanos) =
        some ((nanos / 3600000000000 : ℕ) : ℤ) ∧
      find 64 'M' (TypeDBDriver.Duration.timeText nanos) =
        some ((nanos % 3600000000000 / 60000000000 : ℕ) : ℤ) := by
  have hSM : 'M' ∉ TypeDBDriver.Duration.secondsText (nanos % 60000000000 / 1000000000)
      (nanos % 1000000000) :=
    TypeDBDriver.Duration.not_mem_secondsText rfl (by decide) (by decide) _ _
  have hMH : 'H' ∉ TypeDBDriver.Duration.component (nanos % 3600000000000 / 60000000000) 'M' ++
      TypeDBDriver.Duration.secondsText (nanos % 60000000000 / 1000000000)
        (nanos % 1000000000) := by
    rw [List.mem_append, not_or]
    exact ⟨TypeDBDriver.Duration.not_mem_component rfl (by decide) _,
      TypeDBDriver.Duration.not_mem_secondsText rfl (by decide) (by decide) _ _⟩
  rw [TypeDBDriver.Duration.timeText, List.append_assoc]
  constructor
  · exact find_of_found (searchFrom_component_self rfl hMH _ true) (by omega)
  · refine find_of_found ?_ (by omega)
    exact searchFrom_component (fun _ h => h) rfl rfl (by decide)
      (searchFrom_component_self rfl hSM _) _ true

/-- What `double.Parse` makes of a number of billionths. -/
def seconds (nanos : ℕ) : ℚ := Binary64.round ((nanos : ℚ) / 1000000000)

theorem parseDouble_toDigits (n : ℕ) :
    parseDouble (Nat.toDigits 10 n) = some (seconds (n * 1000000000)) := by
  have hnone : splitOnce '.' (Nat.toDigits 10 n) = none :=
    splitOnce_of_not_mem (not_mem_of_allDigits (allDigits_toDigits n) rfl)
  have hcond : AllDigits (Nat.toDigits 10 n) ∧ Nat.toDigits 10 n ≠ [] :=
    ⟨allDigits_toDigits n, Nat.toDigits_ne_nil⟩
  have hval : ((n * 1000000000 : ℕ) : ℚ) / 1000000000 = n := by
    push_cast
    ring
  simp only [parseDouble, hnone, Option.getD_none, List.append_nil, if_pos hcond,
    Nat.ofDigitChars_ten_toDigits, List.length_nil, pow_zero, div_one, seconds, hval]

theorem parseDouble_fraction (n : ℕ) {k : ℕ} (hk : k < 1000000000) :
    parseDouble (Nat.toDigits 10 n ++ '.' :: padded 9 k) =
      some (seconds (n * 1000000000 + k)) := by
  have hsplit := splitOnce_append (not_mem_of_allDigits (c := '.') (allDigits_toDigits n) rfl)
    (padded 9 k)
  have hcond : AllDigits (Nat.toDigits 10 n ++ padded 9 k) ∧
      Nat.toDigits 10 n ++ padded 9 k ≠ [] := by
    rw [allDigits_append]
    exact ⟨⟨allDigits_toDigits n, allDigits_padded 9 k⟩, by simp [Nat.toDigits_ne_nil]⟩
  have hlen : (padded 9 k).length = 9 := length_padded (by decide) hk
  have hval : Nat.ofDigitChars 10 (Nat.toDigits 10 n ++ padded 9 k) 0 = n * 1000000000 + k := by
    rw [Nat.ofDigitChars_append, Nat.ofDigitChars_ten_toDigits,
      Nat.ofDigitChars_eq_ofDigitChars_zero, ofDigitChars_padded, hlen]
    ring
  have hpow : (10 : ℚ) ^ 9 = 1000000000 := by norm_num
  simp only [parseDouble, hsplit, Option.getD_some, if_pos hcond, hlen, hval, seconds, hpow]

/-- The nanoseconds that are read for the seconds of a printed time. -/
def readNanos (nanos : ℕ) : ℚ := Binary64.round (seconds nanos * 1000000000)

/-- Seconds at the end of a text are read. -/
theorem findSeconds_of_digits {text : List Char} (digits : List Char) {nanos : ℕ}
    (hne : digits ≠ []) (hdigits : ∀ x ∈ digits, isDigitOrPoint x = true)
    (hskip : ∀ r, (∀ atStart, searchFrom secPattern atStart (digits ++ ['S']) = r) →
      searchFrom secPattern true text = r)
    (hd : parseDouble digits = some (seconds nanos)) :
    findSeconds text = toLong (readNanos nanos) := by
  have h : searchFrom secPattern true text =
      some (Function.update (fun _ => none) 1 (some digits)) := by
    apply hskip
    intro atStart
    exact search_of_first (First.seq (First.group 1 (first_plus hne hdigits (ends_cons rfl)
      atStart _)) (first_lit 'S' false [] _))
  simp only [findSeconds, search, h, Function.update_self, Option.getD_some, hd,
    Option.bind_eq_bind, Option.bind_some, readNanos]

/-- The seconds of a printed time part, zero when there are none. -/
theorem findSeconds_time (nanos : ℕ) :
    findSeconds (TypeDBDriver.Duration.timeText nanos) =
      toLong (readNanos (nanos % 60000000000)) := by
  have hp : ∀ x : Char, x.isDigit = true → isDigitOrPoint x = true := by
    intro x hx
    simp [isDigitOrPoint, hx]
  have hskip : ∀ r, (∀ atStart, searchFrom secPattern atStart (TypeDBDriver.Duration.secondsText
      (nanos % 60000000000 / 1000000000) (nanos % 1000000000)) = r) →
      searchFrom secPattern true (TypeDBDriver.Duration.timeText nanos) = r := by
    intro r hr
    rw [TypeDBDriver.Duration.timeText, List.append_assoc]
    exact searchFrom_component hp (by decide) (by decide) (by decide)
      (searchFrom_component hp (by decide) (by decide) (by decide) hr _) _ true
  have hmin : nanos % 60000000000 / 1000000000 * 1000000000 + nanos % 1000000000 =
      nanos % 60000000000 := by omega
  by_cases hn : nanos % 1000000000 > 0
  · rw [TypeDBDriver.Duration.secondsText, if_neg (by omega), if_pos hn] at hskip
    refine findSeconds_of_digits (Nat.toDigits 10 (nanos % 60000000000 / 1000000000) ++
      '.' :: padded 9 (nanos % 1000000000)) (by simp) ?_ hskip ?_
    · intro x hx
      rw [List.mem_append, List.mem_cons] at hx
      rcases hx with hx | rfl | hx
      · exact hp x (allDigits_toDigits _ x hx)
      · rfl
      · exact hp x (allDigits_padded 9 _ x hx)
    · rw [parseDouble_fraction _ (Nat.mod_lt nanos (by decide)), hmin]
  · by_cases hs : nanos % 60000000000 / 1000000000 > 0
    · rw [TypeDBDriver.Duration.secondsText, if_pos ⟨hs, by omega⟩] at hskip
      refine findSeconds_of_digits (Nat.toDigits 10 (nanos % 60000000000 / 1000000000))
        Nat.toDigits_ne_nil (fun x hx => hp x (allDigits_toDigits _ x hx)) hskip ?_
      have h0 : nanos % 1000000000 = 0 := Nat.eq_zero_of_not_pos hn
      rw [h0, Nat.add_zero] at hmin
      rw [parseDouble_toDigits, hmin]
    · rw [TypeDBDriver.Duration.secondsText, if_neg (by omega), if_neg hn] at hskip
      have hzero : nanos % 60000000000 = 0 := by omega
      have hnone : searchFrom secPattern true (TypeDBDriver.Duration.timeText nanos) = none :=
        hskip none fun atStart => rfl
      have hread : toLong (readNanos 0) = some 0 := by
        rw [readNanos, seconds, Nat.cast_zero, zero_div, Binary64.round_zero, zero_mul,
          Binary64.round_zero]
        rfl
      rw [findSeconds, search, hnone, hzero, hread]

/-- Rounding twice adds less than a nanosecond. -/
theorem readNanos_mem {nanos : ℕ} (h : nanos < 60000000000) :
    0 ≤ readNanos nanos ∧ readNanos nanos < nanos + 1 := by
  by_cases h0 : nanos = 0
  · rw [h0, readNanos, seconds, Nat.cast_zero, zero_div, Binary64.round_zero, zero_mul,
      Binary64.round_zero]
    norm_num
  · have hpos : (1 : ℚ) ≤ nanos := by exact_mod_cast Nat.one_le_iff_ne_zero.mpr h0
    have hlt : (nanos : ℚ) < 60000000000 := by exact_mod_cast h
    have htiny : (2 : ℚ) ^ (-1022 : ℤ) ≤ 1 / 2 ^ (31 : ℕ) := by
      have h := zpow_le_zpow_right₀ (a := (2 : ℚ)) (by norm_num) (show (-1022 : ℤ) ≤ -31 by decide)
      rw [zpow_neg _ 31] at h
      rw [one_div]
      exact_mod_cast h
    have h1 : (2 : ℚ) ^ (-1022 : ℤ) ≤ nanos / 1000000000 := by
      refine htiny.trans ?_
      rw [div_le_div_iff₀ (by norm_num) (by norm_num)]
      linarith
    have hle := Binary64.round_le h1
    have hge := Binary64.le_round h1
    have h2 : (2 : ℚ) ^ (-1022 : ℤ) ≤ seconds nanos * 1000000000 := by
      refine htiny.trans ?_
      rw [seconds]
      linarith
    have hread := Binary64.round_le h2
    have hread' := Binary64.le_round h2
    rw [← readNanos] at hread hread'
    rw [← seconds] at hle hge
    constructor <;> linarith

theorem wrapInt_of_lt {n : ℕ} (h : n < 2 ^ 31) : wrapInt n = n :=
  Int.bmod_eq_of_le (by omega) (by omega)

theorem wrapLong_of_lt {n : ℕ} (h : n < 2 ^ 63) : wrapLong n = n :=
  Int.bmod_eq_of_le (by omega) (by omega)

/-- `Duration.Parse` from the components of a text without weeks. -/
theorem parse_of_find {text datePart timePart : List Char} {parts : List (List Char)}
    {years months days hours minutes nanos : ℕ} (hW : 'W' ∉ 'P' :: text)
    (hsplit : splitAll 'T' text = datePart :: parts) (htime : parts.headD [] = timePart)
    (hyears : find 32 'Y' datePart = some (years : ℤ))
    (hmonths : find 32 'M' datePart = some (months : ℤ))
    (hdays : find 32 'D' datePart = some (days : ℤ))
    (hhours : find 64 'H' timePart = some (hours : ℤ))
    (hminutes : find 64 'M' timePart = some (minutes : ℤ))
    (hnanos : findSeconds timePart = some (nanos : ℤ)) (hm : years * 12 + months < 2 ^ 31)
    (hn : hours * 3600 * 1000000000 + minutes * 60 * 1000000000 + nanos < 2 ^ 63) :
    parse ('P' :: text) = some ⟨(years * 12 + months : ℕ), days,
      (hours * 3600 * 1000000000 + minutes * 60 * 1000000000 + nanos : ℕ)⟩ := by
  have hweek : search weekPattern ('P' :: text) = none :=
    searchFrom_of_needs (by simp [weekPattern, Needs, Pattern.lit]) hW true
  have h1 := wrapInt_of_lt (show years * 12 < 2 ^ 31 by omega)
  have h2 := wrapInt_of_lt hm
  have h3 := wrapLong_of_lt (show hours * 3600 < 2 ^ 63 by linarith)
  have h4 := wrapLong_of_lt (show hours * 3600 * 1000000000 < 2 ^ 63 by linarith)
  have h5 := wrapLong_of_lt (show minutes * 60 < 2 ^ 63 by linarith)
  have h6 := wrapLong_of_lt (show minutes * 60 * 1000000000 < 2 ^ 63 by linarith)
  have h7 := wrapLong_of_lt
    (show hours * 3600 * 1000000000 + minutes * 60 * 1000000000 < 2 ^ 63 by linarith)
  have h8 := wrapLong_of_lt hn
  push_cast at h1 h2 h3 h4 h5 h6 h7 h8
  rw [parse, hweek]
  simp only [hsplit, List.headD_cons, List.tail_cons, htime, hyears, hmonths, hdays, hhours,
    hminutes, hnanos, Option.bind_eq_bind, Option.bind_some, h1, h2, h3, h4, h5, h6, h7, h8]
  push_cast
  rfl

/-- The nanoseconds that are read: whole minutes exactly, the seconds below a minute rounded. -/
theorem findSeconds_eq (nanos : ℕ) : ∃ v : ℕ, (v = nanos % 60000000000 ↔
      ((nanos % 60000000000 : ℕ) : ℚ) ≤ readNanos (nanos % 60000000000)) ∧
    v ≤ nanos % 60000000000 ∧
      findSeconds (TypeDBDriver.Duration.timeText nanos) = some (v : ℤ) := by
  have hlt : nanos % 60000000000 < 60000000000 := Nat.mod_lt nanos (by decide)
  obtain ⟨h1, h2⟩ := readNanos_mem hlt
  have hx : ((nanos % 60000000000 : ℕ) : ℚ) < 60000000000 := by exact_mod_cast hlt
  have hv : ((⌊readNanos (nanos % 60000000000)⌋.toNat : ℕ) : ℤ) =
      ⌊readNanos (nanos % 60000000000)⌋ := Int.toNat_of_nonneg (Int.floor_nonneg.mpr h1)
  have hle : ⌊readNanos (nanos % 60000000000)⌋ ≤ (nanos % 60000000000 : ℕ) := by
    rw [Int.floor_le_iff]
    exact_mod_cast h2
  refine ⟨⌊readNanos (nanos % 60000000000)⌋.toNat, ?_, by omega, ?_⟩
  · have hfloor := Int.le_floor (z := ((nanos % 60000000000 : ℕ) : ℤ))
      (a := readNanos (nanos % 60000000000))
    rw [Int.cast_natCast] at hfloor
    rw [← hfloor]
    omega
  · rw [findSeconds_time, toLong, if_pos (by norm_num; linarith), hv]

/-- Both parts of a printed duration, when it is not empty. -/
theorem split_display {d : TypeDBDriver.Duration}
    (hpos : 0 < d.nanos.toNat ∨ 0 < d.months.toNat ∨ 0 < d.days.toNat) :
    ∃ text parts, d.display = 'P' :: text ∧ 'W' ∉ 'P' :: text ∧
      splitAll 'T' text = TypeDBDriver.Duration.dateText d.months.toNat d.days.toNat :: parts ∧
      parts.headD [] = TypeDBDriver.Duration.timeText d.nanos.toNat := by
  have hdate : ∀ c : Char, c.isDigit = false → c ≠ 'Y' → c ≠ 'M' → c ≠ 'D' →
      c ∉ TypeDBDriver.Duration.dateText d.months.toNat d.days.toNat :=
    fun c hc hY hM hD => TypeDBDriver.Duration.not_mem_dateText hc hY hM hD _ _
  have htime : ∀ c : Char, c.isDigit = false → c ≠ 'H' → c ≠ 'M' → c ≠ '.' → c ≠ 'S' →
      c ∉ TypeDBDriver.Duration.timeText d.nanos.toNat :=
    fun c hc hH hM hp hS => TypeDBDriver.Duration.not_mem_timeText hc hH hM hp hS _
  have hdT := hdate 'T' rfl (by decide) (by decide) (by decide)
  have hdW := hdate 'W' rfl (by decide) (by decide) (by decide)
  have htT := htime 'T' rfl (by decide) (by decide) (by decide) (by decide)
  have htW := htime 'W' rfl (by decide) (by decide) (by decide) (by decide)
  by_cases hn : 0 < d.nanos.toNat
  · refine ⟨_, [TypeDBDriver.Duration.timeText d.nanos.toNat],
      TypeDBDriver.Duration.display_of_nanos_pos hn, ?_, ?_, rfl⟩
    · rw [List.mem_cons, List.mem_append, List.mem_cons, not_or, not_or, not_or]
      exact ⟨by decide, hdW, by decide, htW⟩
    · rw [splitAll_append hdT, splitAll_of_not_mem htT]
  · have hn0 : d.nanos.toNat = 0 := by omega
    refine ⟨_, [], TypeDBDriver.Duration.display_of_nanos_zero hn0 (by omega), ?_,
      splitAll_of_not_mem hdT, by rw [hn0]; rfl⟩
    rw [List.mem_cons, not_or]
    exact ⟨by decide, hdW⟩

/-- **What the C# driver makes of a printed duration.** -/
theorem csharp_parse_iff (d : TypeDBDriver.Duration) (hm : d.months.toNat * 12 < 2 ^ 31)
    (hd : d.days.toNat * 12 < 2 ^ 31) (hn : d.nanos.toNat < 2 ^ 63) :
    parse d.display = some ⟨d.months.toNat, d.days.toNat, d.nanos.toNat⟩ ↔
      ((d.nanos.toNat % 60000000000 : ℕ) : ℚ) ≤ readNanos (d.nanos.toNat % 60000000000) := by
  by_cases hpos : 0 < d.nanos.toNat ∨ 0 < d.months.toNat ∨ 0 < d.days.toNat
  · obtain ⟨text, parts, htext, hW, hsplit, hparts⟩ := split_display hpos
    obtain ⟨hy, hmo, hda⟩ := find_date hm hd
    obtain ⟨hh, hmi⟩ := find_time hn
    obtain ⟨v, hv, hle, hsec⟩ := findSeconds_eq d.nanos.toNat
    have htotal : d.nanos.toNat / 3600000000000 * 3600 * 1000000000 +
        d.nanos.toNat % 3600000000000 / 60000000000 * 60 * 1000000000 +
        d.nanos.toNat % 60000000000 = d.nanos.toNat := by
      have h : d.nanos.toNat / 3600000000000 * 3600000000000 +
          d.nanos.toNat % 3600000000000 / 60000000000 * 60000000000 +
          d.nanos.toNat % 60000000000 / 1000000000 * 1000000000 + d.nanos.toNat % 1000000000 =
          d.nanos.toNat := TypeDBDriver.Duration.time_eq d.nanos.toNat
      have hmin : d.nanos.toNat % 60000000000 / 1000000000 * 1000000000 +
          d.nanos.toNat % 1000000000 = d.nanos.toNat % 60000000000 :=
        TypeDBDriver.Duration.minute_eq d.nanos.toNat
      linarith
    have hmonths : d.months.toNat / 12 * 12 + d.months.toNat % 12 = d.months.toNat := by omega
    rw [htext, parse_of_find hW hsplit hparts hy hmo hda hh hmi hsec (by omega) (by linarith),
      ← hv, hmonths]
    simp only [Option.some.injEq, Duration.mk.injEq, Int.natCast_inj]
    constructor
    · rintro ⟨-, -, h⟩
      linarith
    · intro h
      refine ⟨trivial, trivial, ?_⟩
      linarith
  · have hm0 : d.months.toNat = 0 := by omega
    have hd0 : d.days.toNat = 0 := by omega
    have hn0 : d.nanos.toNat = 0 := by omega
    have hzero : readNanos 0 = 0 := by
      rw [readNanos, seconds, Nat.cast_zero, zero_div, Binary64.round_zero, zero_mul,
        Binary64.round_zero]
    have hskip : ∀ r, (∀ atStart, searchFrom secPattern atStart (['0'] ++ ['S']) = r) →
        searchFrom secPattern true ['0', 'S'] = r := fun r hr => hr true
    have hsec : findSeconds ['0', 'S'] = some ((0 : ℕ) : ℤ) := by
      have h := findSeconds_of_digits ['0'] (by simp) (List.forall_mem_singleton.mpr rfl) hskip
        (parseDouble_toDigits 0)
      rw [Nat.zero_mul, hzero] at h
      exact h
    have hsplit : splitAll 'T' "T0S".toList = [] :: [['0', 'S']] := by decide
    have hfind : ∀ bits symbol, find bits symbol [] = some ((0 : ℕ) : ℤ) := by
      intro bits symbol
      rfl
    have hlacks : ∀ symbol, symbol ∉ ['0', 'S'] → find 64 symbol ['0', 'S'] = some ((0 : ℕ) : ℤ) := by
      intro symbol h
      have hnone : searchFrom (component symbol) true ['0', 'S'] = none :=
        searchFrom_of_needs (needs_numbered Char.isDigit symbol) h true
      rw [find, search, hnone]
      rfl
    have hparse := parse_of_find (by decide) hsplit rfl (hfind 32 'Y') (hfind 32 'M')
      (hfind 32 'D') (hlacks 'H' (by decide)) (hlacks 'M' (by decide)) hsec (by decide) (by decide)
    rw [TypeDBDriver.Duration.display_empty hm0 hd0 hn0, hm0, hd0, hn0, Nat.zero_mod, hzero,
      Nat.cast_zero]
    exact iff_of_true hparse (le_refl 0)

end CSharp

end TypeDBDriver
