import Mathlib.Data.List.DropRight
import Mathlib.Tactic.Linarith
import Mathlib.Tactic.NormNum
import Mathlib.Tactic.Positivity
import TypeDBDriver.Concept.DurationSyntax

/-!
# The duration parser of the Java driver

The texts that are parsed here are printed by `Duration.display`, so `\d` stands for the ASCII
digits only; `none` is an exception.

* `Java.Period.parse`, `Java.TimeDuration.parse`: `java.time`, from its documented patterns.
* `Java.parse`: the parser of the driver.
* **`period_parse`**, **`time_parse`**: what `java.time` makes of the two printed parts.
* **`java_parse_iff`**: exactly which printed durations are read back.
-/

namespace TypeDBDriver

open Numeral Regex

namespace Java

/-- A number that fits `n` bits, or an arithmetic exception. -/
def exact (bits : ℕ) (n : ℤ) : Option ℤ :=
  if -2 ^ (bits - 1) ≤ n ∧ n < 2 ^ (bits - 1) then some n else none

/-- `[-+]`. -/
def isSign (c : Char) : Bool := c == '-' || c == '+'

/-- `[-+]?[0-9]+`. -/
def number : Pattern := (Pattern.opt (.char isSign)).seq (.plus Char.isDigit)

/-- A letter in either case. -/
def letter (symbol c : Char) : Bool := c == symbol || c == symbol.toLower

/-- `(?:([-+]?[0-9]+)Y)?`. -/
def optional (n : ℕ) (symbol : Char) : Pattern :=
  .opt ((number.group n).seq (.char (letter symbol)))

/-- `parseNumber`: a group as an integer, times a factor, all exact. -/
def parseNumber (bits : ℕ) (group : Option (List Char)) (multiplier : ℤ) : Option ℤ :=
  match group with
  | none => some 0
  | some text =>
    match parseSigned (2 ^ (bits - 1)) (2 ^ (bits - 1) - 1) text with
    | .ok val => exact bits (val * multiplier)
    | .error _ => none

structure Period where
  years : ℤ
  months : ℤ
  days : ℤ
  deriving DecidableEq

/-- The pattern of `Period.parse`. -/
def Period.pattern : Pattern :=
  (Pattern.group 1 (.opt (.char isSign))).seq <| (Pattern.char (letter 'P')).seq <|
    (optional 2 'Y').seq <| (optional 3 'M').seq <| (optional 4 'W').seq <| optional 5 'D'

/-- `Period.parse`. -/
def Period.parse (text : List Char) : Option Period := do
  let group ← fullmatch Period.pattern text
  let negate : ℤ := if group 1 = some ['-'] then -1 else 1
  if (group 2).isSome || (group 3).isSome || (group 4).isSome || (group 5).isSome then
    let years ← parseNumber 32 (group 2) negate
    let months ← parseNumber 32 (group 3) negate
    let weeks ← parseNumber 32 (group 4) negate
    let days ← parseNumber 32 (group 5) negate
    let weekDays ← exact 32 (weeks * 7)
    let days ← exact 32 (days + weekDays)
    some ⟨years, months, days⟩
  else none

/-- `java.time.Duration`. -/
structure TimeDuration where
  seconds : ℤ
  nano : ℤ
  deriving DecidableEq

/-- The pattern of `Duration.parse`. -/
def TimeDuration.pattern : Pattern :=
  (Pattern.group 1 (.opt (.char isSign))).seq <| (Pattern.char (letter 'P')).seq <|
    (optional 2 'D').seq <|
    .opt (.group 3 ((Pattern.char (letter 'T')).seq <|
      (optional 4 'H').seq <| (optional 5 'M').seq <|
      .opt ((number.group 6).seq
        ((Pattern.opt ((Pattern.char fun c => c == '.' || c == ',').seq
          (.group 7 (.many Char.isDigit (some 9))))).seq (.char (letter 'S'))))))

/-- `parseFraction`: the digits of a fraction as nanoseconds. -/
def parseFraction (group : Option (List Char)) (sign : ℤ) : ℤ :=
  match group with
  | none => 0
  | some digits => sign * (Nat.ofDigitChars 10 digits 0 * 10 ^ (9 - digits.length) : ℕ)

/-- `Duration.ofSeconds`. -/
def TimeDuration.ofSeconds (seconds nanoAdjustment : ℤ) : Option TimeDuration := do
  let seconds ← exact 64 (seconds + nanoAdjustment.fdiv 1000000000)
  some ⟨seconds, nanoAdjustment.fmod 1000000000⟩

/-- `negated`. -/
def TimeDuration.negated (d : TimeDuration) : Option TimeDuration := do
  let total := -(d.seconds * 1000000000 + d.nano)
  let seconds ← exact 64 (total.fdiv 1000000000)
  some ⟨seconds, total.fmod 1000000000⟩

/-- `Duration.parse`. -/
def TimeDuration.parse (text : List Char) : Option TimeDuration := do
  let group ← fullmatch TimeDuration.pattern text
  if group 3 = some ['T'] then none
  else if (group 2).isSome || (group 4).isSome || (group 5).isSome || (group 6).isSome then
    let daysAsSecs ← parseNumber 64 (group 2) 86400
    let hoursAsSecs ← parseNumber 64 (group 4) 3600
    let minsAsSecs ← parseNumber 64 (group 5) 60
    let secs ← parseNumber 64 (group 6) 1
    let nanos := parseFraction (group 7) (if ((group 6).getD []).head? = some '-' then -1 else 1)
    let seconds ← exact 64 (minsAsSecs + secs)
    let seconds ← exact 64 (hoursAsSecs + seconds)
    let seconds ← exact 64 (daysAsSecs + seconds)
    let duration ← TimeDuration.ofSeconds seconds nanos
    if group 1 = some ['-'] then duration.negated else some duration
  else none

/-- A duration of the Java driver; its date part has no years. -/
structure Duration where
  datePart : Period
  timePart : TimeDuration
  deriving DecidableEq

/-- The constructor, which turns years into months with `int` arithmetic. -/
def Duration.new (datePart : Period) (timePart : TimeDuration) : Duration :=
  ⟨⟨0, (datePart.years * 12 + datePart.months).bmod (2 ^ 32), datePart.days⟩, timePart⟩

/-- `String.split`, which drops empty texts at the end. -/
def split (sep : Char) (text : List Char) : List (List Char) :=
  (splitAll sep text).rdropWhile List.isEmpty

/-- `Duration.parse` of the driver. -/
def parse (durationString : List Char) : Option Duration :=
  match split 'T' durationString with
  | [] => none
  | [date] => do
    let period ← Period.parse date
    some (.new period ⟨0, 0⟩)
  | date :: time :: _ => do
    let period ← Period.parse date
    let duration ← TimeDuration.parse ("PT".toList ++ time)
    some (.new period duration)

def Duration.getMonths (d : Duration) : ℤ := d.datePart.months
def Duration.getDays (d : Duration) : ℤ := d.datePart.days

/-- The time part in nanoseconds. -/
def Duration.totalNanos (d : Duration) : ℤ := d.timePart.seconds * 1000000000 + d.timePart.nano


/-! ## Printed durations -/

theorem isSign_of_isDigit {c : Char} (h : c.isDigit = true) : isSign c = false := by
  have hm : c ≠ '-' := ne_of_isDigit h rfl
  have hp : c ≠ '+' := ne_of_isDigit h rfl
  simp [isSign, hm, hp]

/-- Digits are a number without a sign. -/
theorem first_number {w rest : List Char} (hne : w ≠ []) (hw : AllDigits w)
    (hr : Ends Char.isDigit rest) (atStart : Bool) (groups : ℕ → Option (List Char)) :
    First number ⟨atStart, w ++ rest, groups⟩ ⟨false, rest, groups⟩ := by
  refine First.seq (Fails.opt ?_) (first_plus hne hw hr atStart groups)
  cases w with
  | nil => exact absurd rfl hne
  | cons c w => exact fails_char (isSign_of_isDigit (hw c List.mem_cons_self)) atStart _ groups

/-- The numbers and designators of the `java.time` patterns. -/
def durationSyntax : DurationSyntax where
  number := number
  numberChar c := c.isDigit || isSign c
  symbol := letter
  point c := c == '.' || c == ','
  fraction := .many Char.isDigit (some 9)
  first_number := first_number
  fails_number_nil groups := rfl
  consumes_number := (consumes_char fun c h => by simp [h]).opt.seq (consumes_plus fun c h => by
    simp [h])
  numberChar_digit h := by simp [h]
  numberChar_letter := by
    rw [forall_letters, forall_designators]
    decide
  symbol_self := by
    rw [forall_designators]
    decide
  symbol_other := by simp [forall_designators, letter]
  symbol_number := by
    intro c hc d hd
    have hletters : ∀ c ∈ designators, (c.isDigit || isSign c) = false ∧
        (c.toLower.isDigit || isSign c.toLower) = false := by
      rw [forall_designators]
      decide
    simp only [letter, Bool.or_eq_true, beq_iff_eq] at hd
    rcases hd with rfl | rfl
    · exact (hletters d hc).1
    · exact (hletters c hc).2
  point_point := rfl
  point_second := rfl
  first_fraction _ hw hlen hr groups := first_many hw hr hlen groups

/-- No sign in front of the `P`. -/
theorem first_noSign (rest : List Char) (groups : ℕ → Option (List Char)) :
    First (Pattern.group 1 (.opt (.char isSign))) ⟨true, 'P' :: rest, groups⟩
      ⟨true, 'P' :: rest, Function.update groups 1 (some [])⟩ :=
  First.group (w := []) 1 (Fails.opt (fails_char rfl true rest groups))

/-- The groups that matching a printed date part sets. -/
def dateGroups (months days : ℕ) : ℕ → Option (List Char) :=
  capture days 5 (capture (months % 12) 3 (capture (months / 12) 2
    (Function.update (fun _ => none) 1 (some []))))

theorem fullmatch_date (months days : ℕ) :
    fullmatch Period.pattern ('P' :: TypeDBDriver.Duration.dateText months days) =
      some (dateGroups months days) := by
  have hlacks : ∀ c ∈ designators, durationSyntax.Lacks c [] :=
    fun c hc => DurationSyntax.lacks_nil hc
  have hW := DurationSyntax.lacks_component (c := 'W') (d := 'D') (by decide) (by decide)
    (by decide) days (hlacks 'W' (by decide))
  have hM := DurationSyntax.lacks_component (c := 'M') (d := 'D') (by decide) (by decide)
    (by decide) days (hlacks 'M' (by decide))
  have hYD := DurationSyntax.lacks_component (c := 'Y') (d := 'D') (by decide)
    (by decide) (by decide) days (hlacks 'Y' (by decide))
  have hY := DurationSyntax.lacks_component (c := 'Y') (d := 'M') (by decide)
    (by decide) (by decide) (months % 12) hYD
  have htext : TypeDBDriver.Duration.dateText months days =
      TypeDBDriver.Duration.component (months / 12) 'Y' ++
        (TypeDBDriver.Duration.component (months % 12) 'M' ++
          (TypeDBDriver.Duration.component days 'D' ++ [])) := by
    rw [TypeDBDriver.Duration.dateText, List.append_assoc, List.append_nil]
    rfl
  rw [htext]
  exact fullmatch_of_first false
    (First.seq (first_noSign _ _) (First.seq (first_char rfl true _ _)
      (First.seq (DurationSyntax.first_part (by decide) 2 _ hY _)
        (First.seq (DurationSyntax.first_part (by decide) 3 _ hM _)
          (First.seq (Fails.opt (hW 4 _))
            (DurationSyntax.first_part (by decide) 5 _ (hlacks 'D' (by decide)) _))))))

theorem exact_of_mem {bits : ℕ} {n : ℤ} (h1 : -2 ^ (bits - 1) ≤ n) (h2 : n < 2 ^ (bits - 1)) :
    exact bits n = some n := if_pos ⟨h1, h2⟩

theorem bind_of_eq {α β : Type} {x : Option α} {a : α} (h : x = some a) (f : α → Option β) :
    x >>= f = f a := by
  rw [h]
  rfl

/-- A captured number is parsed exactly, zero when it was not printed. -/
theorem parseNumber_capture {bits k n : ℕ} {groups : ℕ → Option (List Char)}
    (h : groups n = none) {multiplier : ℤ} (hk : k ≤ 2 ^ (bits - 1) - 1)
    (h1 : 0 ≤ k * multiplier) (h2 : k * multiplier < 2 ^ (bits - 1)) :
    parseNumber bits (capture k n groups n) multiplier = some (k * multiplier) := by
  rw [capture_self h]
  by_cases hpos : k > 0
  · have hread : readDigits (2 ^ (bits - 1) - 1) .posOverflow 0 (Nat.toDigits 10 k) = .ok k := by
      rw [readDigits_of_allDigits (allDigits_toDigits k)] <;> rw [Nat.ofDigitChars_ten_toDigits]
      exact hk
    have hlow : -2 ^ (bits - 1) ≤ (k : ℤ) * multiplier := by
      have : (0 : ℤ) < 2 ^ (bits - 1) := by positivity
      omega
    rw [if_pos hpos]
    simp only [parseNumber, parseSigned_of_allDigits Nat.toDigits_ne_nil (allDigits_toDigits k),
      hread, Except.map]
    exact exact_of_mem hlow h2
  · rw [if_neg hpos]
    have h0 : k = 0 := by omega
    rw [h0, Nat.cast_zero, zero_mul]
    rfl

theorem isSome_capture {k n : ℕ} {groups : ℕ → Option (List Char)} (h : groups n = none) :
    (capture k n groups n).isSome = decide (0 < k) := by
  rw [capture_self h]
  by_cases hk : k > 0
  · simp [hk]
  · simp [hk]

/-- `Period.parse` of a text without a sign and weeks. -/
theorem period_parse_of_groups {text : List Char} {group : ℕ → Option (List Char)}
    {years months days : ℤ} (hmatch : fullmatch Period.pattern text = some group)
    (hsign : group 1 = some []) (hweeks : group 4 = none)
    (hy : parseNumber 32 (group 2) 1 = some years) (hm : parseNumber 32 (group 3) 1 = some months)
    (hd : parseNumber 32 (group 5) 1 = some days) (hex : exact 32 days = some days) :
    Period.parse text =
      if (group 2).isSome || (group 3).isSome || (group 5).isSome then some ⟨years, months, days⟩
      else none := by
  have hne : ¬ some ([] : List Char) = some ['-'] := by simp
  have hw : parseNumber 32 none 1 = some 0 := rfl
  have hex0 : exact 32 (0 * 7) = some 0 := exact_of_mem (by norm_num) (by norm_num)
  simp only [Period.parse, hmatch, Option.bind_eq_bind, Option.bind_some, hsign, if_neg hne,
    hweeks, Option.isSome_none, Bool.or_false, hy, hm, hw, hd, hex0, add_zero, hex]

/-- **A printed date part is read back, unless it is empty.** -/
theorem period_parse {months days : ℕ} (hm : months * 12 < 2 ^ 31) (hd : days * 12 < 2 ^ 31) :
    Period.parse ('P' :: TypeDBDriver.Duration.dateText months days) =
      if 0 < months ∨ 0 < days then some ⟨(months / 12 : ℕ), (months % 12 : ℕ), days⟩
      else none := by
  have hsign : dateGroups months days 1 = some [] := by simp [dateGroups, capture_of_ne]
  have hweek : dateGroups months days 4 = none := by simp [dateGroups, capture_of_ne]
  have hg2 : dateGroups months days 2 = capture (months / 12) 2
      (Function.update (fun _ => none) 1 (some [])) 2 := by simp [dateGroups, capture_of_ne]
  have hg3 : dateGroups months days 3 = capture (months % 12) 3 (capture (months / 12) 2
      (Function.update (fun _ => none) 1 (some []))) 3 := by simp [dateGroups, capture_of_ne]
  have hs2 : (dateGroups months days 2).isSome = decide (0 < months / 12) := by
    rw [hg2, isSome_capture (by simp)]
  have hs3 : (dateGroups months days 3).isSome = decide (0 < months % 12) := by
    rw [hg3, isSome_capture (by simp [capture_of_ne])]
  have hs5 : (dateGroups months days 5).isSome = decide (0 < days) := by
    rw [dateGroups, isSome_capture (by simp [capture_of_ne])]
  have hy : parseNumber 32 (dateGroups months days 2) 1 = some (((months / 12 : ℕ) : ℤ) * 1) := by
    rw [hg2]
    exact parseNumber_capture (by simp) (by omega) (by omega) (by omega)
  have hmo : parseNumber 32 (dateGroups months days 3) 1 =
      some (((months % 12 : ℕ) : ℤ) * 1) := by
    rw [hg3]
    exact parseNumber_capture (by simp [capture_of_ne]) (by omega) (by omega) (by omega)
  have hda : parseNumber 32 (dateGroups months days 5) 1 = some ((days : ℤ) * 1) :=
    parseNumber_capture (by simp [capture_of_ne]) (by omega) (by omega) (by omega)
  have hex : exact 32 ((days : ℤ) * 1) = some ((days : ℤ) * 1) :=
    exact_of_mem (by omega) (by omega)
  rw [period_parse_of_groups (fullmatch_date months days) hsign hweek hy hmo hda hex, hs2, hs3,
    hs5, mul_one, mul_one, mul_one]
  have hany : (decide (0 < months / 12) || decide (0 < months % 12) || decide (0 < days)) =
      decide (0 < months ∨ 0 < days) := by
    rw [← Bool.decide_or, ← Bool.decide_or, decide_eq_decide]
    omega
  rw [hany]
  by_cases hpos : 0 < months ∨ 0 < days
  · rw [if_pos hpos, if_pos (decide_eq_true hpos)]
  · rw [if_neg hpos, if_neg (by simpa using hpos)]

/-- The groups that matching a printed time part sets. -/
def timeGroups (nanos : ℕ) : ℕ → Option (List Char) :=
  Function.update (captureSeconds (nanos % 60000000000 / 1000000000) (nanos % 1000000000)
    (capture (nanos % 3600000000000 / 60000000000) 5 (capture (nanos / 3600000000000) 4
      (Function.update (fun _ => none) 1 (some []))))) 3
    (some ('T' :: TypeDBDriver.Duration.timeText nanos))

theorem fullmatch_time (nanos : ℕ) :
    fullmatch TimeDuration.pattern ("PT".toList ++ TypeDBDriver.Duration.timeText nanos) =
      some (timeGroups nanos) := by
  have hM := DurationSyntax.lacks_seconds (S := durationSyntax) (c := 'M') (by decide)
    (by decide) (nanos % 60000000000 / 1000000000) (nanos % 1000000000)
  have hH := DurationSyntax.lacks_seconds (S := durationSyntax) (c := 'H') (by decide)
    (by decide) (nanos % 60000000000 / 1000000000) (nanos % 1000000000)
  have hHM := DurationSyntax.lacks_component (d := 'M') (by decide) (by decide) (by decide)
    (nanos % 3600000000000 / 60000000000) hH
  have hD : durationSyntax.Lacks 'D' ('T' :: TypeDBDriver.Duration.timeText nanos ++ []) :=
    DurationSyntax.lacks_time (by decide)
  have hn : nanos % 1000000000 < 10 ^ 9 := Nat.mod_lt nanos (by decide)
  have htext : "PT".toList ++ TypeDBDriver.Duration.timeText nanos =
      'P' :: ('T' :: TypeDBDriver.Duration.timeText nanos ++ []) := by
    rw [List.append_nil]
    rfl
  rw [htext]
  have happ : (TypeDBDriver.Duration.timeText nanos).append [] =
      TypeDBDriver.Duration.timeText nanos := List.append_nil _
  refine fullmatch_of_first false (First.seq (first_noSign _ _)
    (First.seq (first_char rfl true _ _) (First.seq (Fails.opt (hD 2 _))
      (First.opt (First.group 3 (First.seq (first_char rfl false _ _) ?_))))))
  rw [happ, TypeDBDriver.Duration.timeText, List.append_assoc]
  exact First.seq (DurationSyntax.first_part (by decide) 4 _ hHM _)
    (First.seq (DurationSyntax.first_part (by decide) 5 _ hM _)
      (DurationSyntax.first_secondsPart (S := durationSyntax) hn _))

/-- A whole number of seconds and the nanoseconds of its fraction. -/
theorem ofSeconds_of_lt {seconds nanos : ℕ} (hs : seconds < 2 ^ 63) (hn : nanos < 1000000000) :
    TimeDuration.ofSeconds seconds nanos = some ⟨seconds, nanos⟩ := by
  have hdiv : (nanos : ℤ).fdiv 1000000000 = 0 := by
    rw [Int.fdiv_eq_ediv_of_nonneg _ (by decide)]
    omega
  have hmod : (nanos : ℤ).fmod 1000000000 = nanos := by
    rw [Int.fmod_eq_emod_of_nonneg _ (by decide)]
    omega
  have hex : exact 64 (seconds : ℤ) = some (seconds : ℤ) := exact_of_mem (by omega) (by omega)
  simp only [TimeDuration.ofSeconds, hdiv, hmod, add_zero, hex, Option.bind_eq_bind,
    Option.bind_some]

/-- `Duration.parse` of a time part without signs and days. -/
theorem time_parse_of_groups {text : List Char} {group : ℕ → Option (List Char)} {h m s n : ℕ}
    (hmatch : fullmatch TimeDuration.pattern text = some group) (hsign : group 1 = some [])
    (hday : group 2 = none) (hT : group 3 ≠ some ['T'])
    (hhour : parseNumber 64 (group 4) 3600 = some (h : ℤ))
    (hmin : parseNumber 64 (group 5) 60 = some (m : ℤ))
    (hsec : parseNumber 64 (group 6) 1 = some (s : ℤ))
    (hhead : ((group 6).getD []).head? ≠ some '-') (hfrac : parseFraction (group 7) 1 = (n : ℤ))
    (hsome : (group 4).isSome || (group 5).isSome || (group 6).isSome)
    (hlt : h + (m + s) < 2 ^ 63) (hn : n < 1000000000) :
    TimeDuration.parse text = some ⟨h + (m + s), n⟩ := by
  have hne : ¬ some ([] : List Char) = some ['-'] := by simp
  have hzero : parseNumber 64 none 86400 = some 0 := rfl
  have hex1 : exact 64 ((m : ℤ) + s) = some ((m : ℤ) + s) := exact_of_mem (by omega) (by omega)
  have hex2 : exact 64 ((h : ℤ) + (m + s)) = some ((h : ℤ) + (m + s)) :=
    exact_of_mem (by omega) (by omega)
  have hof := ofSeconds_of_lt hlt hn
  push_cast at hof
  have hany : ((group 2).isSome || (group 4).isSome || (group 5).isSome || (group 6).isSome) =
      true := by
    rw [hday]
    simpa using hsome
  rw [TimeDuration.parse, bind_of_eq hmatch, if_neg hT, if_pos hany, hday, hsign,
    bind_of_eq hzero, bind_of_eq hhour, bind_of_eq hmin, bind_of_eq hsec, if_neg hhead, hfrac,
    bind_of_eq hex1, bind_of_eq hex2, zero_add, bind_of_eq hex2, bind_of_eq hof, if_neg hne]

theorem parseFraction_captureSeconds {seconds nanos : ℕ} {groups : ℕ → Option (List Char)}
    (h : groups 7 = none) (hn : nanos < 10 ^ 9) :
    parseFraction (captureSeconds seconds nanos groups 7) 1 = (nanos : ℤ) := by
  rw [captureSeconds_seven h]
  by_cases hpos : nanos > 0
  · rw [if_pos hpos, parseFraction, ofDigitChars_padded, length_padded (by decide) hn,
      Nat.sub_self, pow_zero, mul_one, one_mul]
  · have h0 : nanos = 0 := by omega
    rw [if_neg hpos, h0]
    rfl

theorem parseNumber_captureSeconds {seconds nanos : ℕ} {groups : ℕ → Option (List Char)}
    (h : groups 6 = none) (hs : seconds < 60) :
    parseNumber 64 (captureSeconds seconds nanos groups 6) 1 = some (seconds : ℤ) := by
  have hcap : captureSeconds seconds nanos groups 6 =
      if seconds > 0 ∨ nanos > 0 then some (Nat.toDigits 10 seconds) else none :=
    captureSeconds_six h
  by_cases hpos : seconds > 0 ∨ nanos > 0
  · have hread : readDigits (2 ^ (64 - 1) - 1) .posOverflow 0 (Nat.toDigits 10 seconds) =
        .ok seconds := by
      rw [readDigits_of_allDigits (allDigits_toDigits seconds)] <;>
        rw [Nat.ofDigitChars_ten_toDigits]
      omega
    rw [hcap, if_pos hpos]
    simp only [parseNumber, parseSigned_of_allDigits Nat.toDigits_ne_nil
      (allDigits_toDigits seconds), hread, Except.map, mul_one]
    exact exact_of_mem (by omega) (by omega)
  · have h0 : seconds = 0 := by omega
    rw [hcap, if_neg hpos, h0]
    rfl

/-- **A printed time part is read back.** -/
theorem time_parse {nanos : ℕ} (hpos : 0 < nanos) (hlt : nanos < 2 ^ 63) :
    TimeDuration.parse ("PT".toList ++ TypeDBDriver.Duration.timeText nanos) =
      some ⟨(nanos / 1000000000 : ℕ), (nanos % 1000000000 : ℕ)⟩ := by
  have hsign : timeGroups nanos 1 = some [] := by
    simp [timeGroups, captureSeconds_of_ne, capture_of_ne]
  have hday : timeGroups nanos 2 = none := by
    simp [timeGroups, captureSeconds_of_ne, capture_of_ne]
  have hT : timeGroups nanos 3 ≠ some ['T'] := by
    simp [timeGroups, TypeDBDriver.Duration.timeText_ne_nil hpos]
  have hg4 : timeGroups nanos 4 = capture (nanos / 3600000000000) 4
      (Function.update (fun _ => none) 1 (some [])) 4 := by
    simp [timeGroups, captureSeconds_of_ne, capture_of_ne]
  have hg5 : timeGroups nanos 5 = capture (nanos % 3600000000000 / 60000000000) 5
      (capture (nanos / 3600000000000) 4 (Function.update (fun _ => none) 1 (some []))) 5 := by
    simp [timeGroups, captureSeconds_of_ne]
  have hg6 : timeGroups nanos 6 = captureSeconds (nanos % 60000000000 / 1000000000)
      (nanos % 1000000000) (capture (nanos % 3600000000000 / 60000000000) 5
        (capture (nanos / 3600000000000) 4 (Function.update (fun _ => none) 1 (some [])))) 6 := by
    simp [timeGroups]
  have hg7 : timeGroups nanos 7 = captureSeconds (nanos % 60000000000 / 1000000000)
      (nanos % 1000000000) (capture (nanos % 3600000000000 / 60000000000) 5
        (capture (nanos / 3600000000000) 4 (Function.update (fun _ => none) 1 (some [])))) 7 := by
    simp [timeGroups]
  have hhour : parseNumber 64 (timeGroups nanos 4) 3600 =
      some ((nanos / 3600000000000 * 3600 : ℕ) : ℤ) := by
    rw [hg4, Nat.cast_mul]
    exact parseNumber_capture (by simp) (by omega) (by omega) (by omega)
  have hmin : parseNumber 64 (timeGroups nanos 5) 60 =
      some ((nanos % 3600000000000 / 60000000000 * 60 : ℕ) : ℤ) := by
    rw [hg5, Nat.cast_mul]
    exact parseNumber_capture (by simp [capture_of_ne]) (by omega) (by omega) (by omega)
  have hsec : parseNumber 64 (timeGroups nanos 6) 1 =
      some ((nanos % 60000000000 / 1000000000 : ℕ) : ℤ) := by
    rw [hg6]
    exact parseNumber_captureSeconds (by simp [capture_of_ne]) (by omega)
  have hhead : ((timeGroups nanos 6).getD []).head? ≠ some '-' := by
    rw [hg6, captureSeconds_six (by simp [capture_of_ne])]
    by_cases h : nanos % 60000000000 / 1000000000 > 0 ∨ nanos % 1000000000 > 0
    · rw [if_pos h, Option.getD_some]
      intro hc
      have hmem := List.mem_of_mem_head? hc
      have hd := allDigits_toDigits (nanos % 60000000000 / 1000000000) '-' hmem
      exact absurd hd (by decide)
    · rw [if_neg h]
      simp
  have hfrac : parseFraction (timeGroups nanos 7) 1 = ((nanos % 1000000000 : ℕ) : ℤ) := by
    rw [hg7]
    exact parseFraction_captureSeconds (by simp [capture_of_ne]) (Nat.mod_lt nanos (by decide))
  have hs4 : (timeGroups nanos 4).isSome = decide (0 < nanos / 3600000000000) := by
    rw [hg4, isSome_capture (by simp)]
  have hs5 : (timeGroups nanos 5).isSome =
      decide (0 < nanos % 3600000000000 / 60000000000) := by
    rw [hg5, isSome_capture (by simp [capture_of_ne])]
  have hs6 : (timeGroups nanos 6).isSome =
      decide (nanos % 60000000000 / 1000000000 > 0 ∨ nanos % 1000000000 > 0) := by
    rw [hg6, captureSeconds_six (by simp [capture_of_ne])]
    by_cases h : nanos % 60000000000 / 1000000000 > 0 ∨ nanos % 1000000000 > 0
    · rw [if_pos h, decide_eq_true h]
      rfl
    · rw [if_neg h, decide_eq_false h]
      rfl
  have hsome : (timeGroups nanos 4).isSome || (timeGroups nanos 5).isSome ||
      (timeGroups nanos 6).isSome := by
    simp only [hs4, hs5, hs6, Bool.or_eq_true, decide_eq_true_eq]
    omega
  have htotal : nanos / 3600000000000 * 3600 + (nanos % 3600000000000 / 60000000000 * 60 +
      nanos % 60000000000 / 1000000000) = nanos / 1000000000 := by omega
  have hparse := time_parse_of_groups (fullmatch_time nanos) hsign hday hT hhour hmin hsec hhead
    hfrac hsome (by omega) (Nat.mod_lt nanos (by decide))
  rw [hparse, ← htotal]
  push_cast
  rfl

/-- The years and months of a printed date part make up its months. -/
theorem new_period {months days : ℕ} (hm : months * 12 < 2 ^ 31) (timePart : TimeDuration) :
    Duration.new ⟨(months / 12 : ℕ), (months % 12 : ℕ), days⟩ timePart =
      ⟨⟨0, months, days⟩, timePart⟩ := by
  have hsum : ((months / 12 : ℕ) : ℤ) * 12 + (months % 12 : ℕ) = months := by omega
  have hbmod : (months : ℤ).bmod (2 ^ 32) = months := Int.bmod_eq_of_le (by omega) (by omega)
  simp only [Duration.new, hsum, hbmod]

theorem split_of_not_mem {text : List Char} (hne : text ≠ []) (h : 'T' ∉ text) :
    split 'T' text = [text] := by
  rw [split, splitAll_of_not_mem h, List.rdropWhile_singleton, if_neg (by simpa using hne)]

theorem split_append {before after : List Char} (hb : 'T' ∉ before) (ha : 'T' ∉ after)
    (hne : after ≠ []) : split 'T' (before ++ 'T' :: after) = [before, after] := by
  have hlast := List.rdropWhile_concat_neg List.isEmpty [before] after (by simpa using hne)
  rw [split, splitAll_append hb, splitAll_of_not_mem ha]
  exact hlast

theorem not_mem_date (months days : ℕ) :
    'T' ∉ 'P' :: TypeDBDriver.Duration.dateText months days := by
  rw [List.mem_cons, not_or]
  exact ⟨by decide, TypeDBDriver.Duration.not_mem_dateText rfl (by decide) (by decide)
    (by decide) _ _⟩

/-- **What the Java driver makes of a printed duration.** -/
theorem java_parse_iff (d : TypeDBDriver.Duration) (hm : d.months.toNat * 12 < 2 ^ 31)
    (hd : d.days.toNat * 12 < 2 ^ 31) (hn : d.nanos.toNat < 2 ^ 63) :
    (∃ j, parse d.display = some j ∧ j.getMonths = d.months.toNat ∧ j.getDays = d.days.toNat ∧
      j.totalNanos = d.nanos.toNat) ↔ 0 < d.months.toNat ∨ 0 < d.days.toNat := by
  have hT := not_mem_date d.months.toNat d.days.toNat
  by_cases hpos : 0 < d.months.toNat ∨ 0 < d.days.toNat
  · have hperiod := period_parse hm hd
    rw [if_pos hpos] at hperiod
    simp only [hpos, iff_true]
    by_cases hnanos : 0 < d.nanos.toNat
    · have hsplit := split_append hT (TypeDBDriver.Duration.not_mem_timeText rfl (by decide)
        (by decide) (by decide) (by decide) d.nanos.toNat)
        (TypeDBDriver.Duration.timeText_ne_nil hnanos)
      rw [List.cons_append, ← TypeDBDriver.Duration.display_of_nanos_pos hnanos] at hsplit
      have htotal : ((d.nanos.toNat / 1000000000 : ℕ) : ℤ) * 1000000000 +
          (d.nanos.toNat % 1000000000 : ℕ) = d.nanos.toNat := by omega
      refine ⟨⟨⟨0, d.months.toNat, d.days.toNat⟩, ⟨(d.nanos.toNat / 1000000000 : ℕ),
        (d.nanos.toNat % 1000000000 : ℕ)⟩⟩, ?_, rfl, rfl, htotal⟩
      rw [parse, hsplit]
      simp only [hperiod, time_parse hnanos hn, Option.bind_eq_bind, Option.bind_some,
        new_period hm]
    · have hn0 : d.nanos.toNat = 0 := by omega
      have hsplit := split_of_not_mem (by simp) hT
      rw [← TypeDBDriver.Duration.display_of_nanos_zero hn0 hpos] at hsplit
      refine ⟨⟨⟨0, d.months.toNat, d.days.toNat⟩, ⟨0, 0⟩⟩, ?_, rfl, rfl, by rw [hn0]; rfl⟩
      rw [parse, hsplit]
      simp only
      rw [TypeDBDriver.Duration.display_of_nanos_zero hn0 hpos, bind_of_eq hperiod,
        new_period hm]
  · have hm0 : d.months.toNat = 0 := by omega
    have hd0 : d.days.toNat = 0 := by omega
    have hP : Period.parse ['P'] = none := by
      have hzero : 0 * 12 < 2 ^ 31 := by decide
      have h := period_parse hzero hzero
      rw [if_neg (by decide)] at h
      exact h
    simp only [hpos, iff_false, not_exists, not_and]
    intro j hj
    have hnone : parse d.display = none := by
      by_cases hnanos : 0 < d.nanos.toNat
      · have hsplit := split_append hT (TypeDBDriver.Duration.not_mem_timeText rfl (by decide)
          (by decide) (by decide) (by decide) d.nanos.toNat)
          (TypeDBDriver.Duration.timeText_ne_nil hnanos)
        rw [List.cons_append, ← TypeDBDriver.Duration.display_of_nanos_pos hnanos, hm0, hd0,
          TypeDBDriver.Duration.dateText_zero] at hsplit
        rw [parse, hsplit]
        simp only [hP, Option.bind_eq_bind, Option.bind_none]
      · have hsplit : split 'T' d.display = [['P'], ['0', 'S']] := by
          rw [TypeDBDriver.Duration.display_empty hm0 hd0 (by omega)]
          decide
        rw [parse, hsplit]
        simp only [hP, Option.bind_eq_bind, Option.bind_none]
    rw [hnone] at hj
    cases hj

end Java

end TypeDBDriver
