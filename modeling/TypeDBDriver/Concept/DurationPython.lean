import Mathlib.Tactic.Linarith
import TypeDBDriver.Concept.DurationSyntax

/-!
# The duration parser of the Python driver

The texts that are parsed here are printed by `Duration.display`, so `\d` stands for the ASCII
digits only; `none` is an exception.

* `Python.fromstring`: the parser.
* `fullmatch_of_nanos_pos`: the groups that a printed duration with a time part sets.
* **`fromstring_iff`**: exactly which printed durations are read back.
-/

namespace TypeDBDriver

open Numeral Regex

namespace Python

/-- A duration of the Python driver. -/
structure Duration where
  months : ℤ
  days : ℤ
  nanos : ℤ
  deriving DecidableEq

/-- `(?:(\d+)Y)?`. -/
def optional (n : ℕ) (symbol : Char) : Pattern :=
  .opt ((Pattern.group n (.plus Char.isDigit)).seq (.lit symbol))

/-- `DATETIME_REGEX`. -/
def datetimeRegex : Pattern :=
  (Pattern.lit 'P').seq <| (optional 1 'Y').seq <| (optional 2 'M').seq <| (optional 3 'D').seq <|
    (Pattern.lit 'T').seq <| (optional 4 'H').seq <| (optional 5 'M').seq <|
    .opt ((Pattern.group 6 (.plus Char.isDigit)).seq
      ((Pattern.opt ((Pattern.lit '.').seq (.group 7 (.plus Char.isDigit)))).seq (.lit 'S')))

/-- `WEEK_REGEX`. -/
def weekRegex : Pattern :=
  (Pattern.lit 'P').seq ((Pattern.group 1 (.plus Char.isDigit)).seq (.lit 'W'))

/-- `int(group or 0)` of a group of digits. -/
def int (group : Option (List Char)) : ℕ :=
  match group with
  | none => 0
  | some digits => Nat.ofDigitChars 10 digits 0

/-- `str.ljust`, filling with zeros. -/
def ljust (width : ℕ) (str : List Char) : List Char :=
  str ++ List.replicate (width - str.length) '0'

/-- `Duration.fromstring`. -/
def fromstring (durationStr : List Char) : Option Duration :=
  match fullmatch datetimeRegex durationStr with
  | some group =>
    let years := int (group 1)
    let months := int (group 2)
    let days := int (group 3)
    let hours := int (group 4)
    let minutes := int (group 5)
    let seconds := int (group 6)
    let nanos := int (some ((ljust 9 ((group 7).getD ['0'])).take 9))
    let months := months + years * 12
    let minutes := minutes + hours * 60
    let seconds := seconds + minutes * 60
    let nanos := nanos + seconds * 1000000000
    some ⟨months, days, nanos⟩
  | none =>
    match fullmatch weekRegex durationStr with
    | some group => some ⟨0, int (group 1) * 7, 0⟩
    | none => none


/-! ## Printed durations -/

/-- The numbers and designators of the Python pattern. -/
def durationSyntax : DurationSyntax where
  number := .plus Char.isDigit
  numberChar := Char.isDigit
  symbol c d := d == c
  point d := d == '.'
  fraction := .plus Char.isDigit
  first_number hne hw hr atStart groups := first_plus hne hw hr atStart groups
  fails_number_nil groups := rfl
  consumes_number := consumes_plus fun _ h => h
  numberChar_digit h := h
  numberChar_letter := by
    rw [forall_letters, forall_designators]
    decide
  symbol_self := by
    rw [forall_designators]
    decide
  symbol_other := by simp
  symbol_number := by
    intro c hc d hd
    have hletters : ∀ c ∈ designators, c.isDigit = false := by
      rw [forall_designators]
      decide
    rw [beq_iff_eq] at hd
    rw [hd]
    exact hletters c hc
  point_point := rfl
  point_second := rfl
  first_fraction hne hw _ hr groups := first_plus hne hw hr false groups

/-- A printed date part with anything after it that is not part of it. -/
theorem first_date {months days : ℕ} {rest : List Char}
    (hY : durationSyntax.Lacks 'Y' rest) (hM : durationSyntax.Lacks 'M' rest)
    (hD : durationSyntax.Lacks 'D' rest) (groups : ℕ → Option (List Char)) {b : Pattern}
    {t : State}
    (hb : First b ⟨false, rest, capture days 3 (capture (months % 12) 2
      (capture (months / 12) 1 groups))⟩ t) :
    First ((optional 1 'Y').seq ((optional 2 'M').seq ((optional 3 'D').seq b)))
      ⟨false, TypeDBDriver.Duration.dateText months days ++ rest, groups⟩ t := by
  rw [TypeDBDriver.Duration.dateText, List.append_assoc, List.append_assoc]
  have hYD := DurationSyntax.lacks_component (S := durationSyntax) (c := 'Y') (d := 'D')
    (by decide) (by decide) (by decide) days hY
  have hMD := DurationSyntax.lacks_component (S := durationSyntax) (c := 'M') (d := 'D')
    (by decide) (by decide) (by decide) days hM
  have hYM := DurationSyntax.lacks_component (S := durationSyntax) (c := 'Y') (d := 'M')
    (by decide) (by decide) (by decide) (months % TypeDBDriver.Duration.monthsPerYear) hYD
  exact First.seq (DurationSyntax.first_part (by decide) 1 _ hYM groups)
    (First.seq (DurationSyntax.first_part (by decide) 2 _ hMD _)
      (First.seq (DurationSyntax.first_part (by decide) 3 _ hD _) hb))

/-- The groups that matching a printed duration sets. -/
def printedGroups (months days nanos : ℕ) : ℕ → Option (List Char) :=
  captureSeconds (nanos % 60000000000 / 1000000000) (nanos % 1000000000)
    (capture (nanos % 3600000000000 / 60000000000) 5 (capture (nanos / 3600000000000) 4
      (capture days 3 (capture (months % 12) 2 (capture (months / 12) 1 fun _ => none)))))

/-- A duration with a time part is matched. -/
theorem fullmatch_of_nanos_pos (months days nanos : ℕ) :
    fullmatch datetimeRegex ('P' :: (TypeDBDriver.Duration.dateText months days ++
      'T' :: TypeDBDriver.Duration.timeText nanos)) = some (printedGroups months days nanos) := by
  have hM := DurationSyntax.lacks_seconds (S := durationSyntax) (c := 'M') (by decide)
    (by decide) (nanos % 60000000000 / 1000000000) (nanos % 1000000000)
  have hH := DurationSyntax.lacks_seconds (S := durationSyntax) (c := 'H') (by decide)
    (by decide) (nanos % 60000000000 / 1000000000) (nanos % 1000000000)
  have hHM := DurationSyntax.lacks_component (d := 'M') (by decide) (by decide) (by decide)
    (nanos % 3600000000000 / 60000000000) hH
  have hn : nanos % 1000000000 < 10 ^ 9 := Nat.mod_lt nanos (by decide)
  refine fullmatch_of_first false (First.seq (first_lit 'P' true _ _)
    (first_date (DurationSyntax.lacks_time (by decide)) (DurationSyntax.lacks_time (by decide))
      (DurationSyntax.lacks_time (by decide)) _ (First.seq (first_lit 'T' false _ _) ?_)))
  rw [TypeDBDriver.Duration.timeText, List.append_assoc]
  exact First.seq (DurationSyntax.first_part (by decide) 4 _ hHM _)
    (First.seq (DurationSyntax.first_part (by decide) 5 _ hM _)
      (DurationSyntax.first_secondsPart (S := durationSyntax) hn _))

theorem int_capture {k n : ℕ} {groups : ℕ → Option (List Char)} (h : groups n = none) :
    int (capture k n groups n) = k := by
  rw [capture_self h]
  by_cases hk : k > 0
  · rw [if_pos hk, int, Nat.ofDigitChars_ten_toDigits]
  · rw [if_neg hk, int]
    omega

/-- The groups hold the numbers that were printed. -/
theorem int_printedGroups (months days nanos : ℕ) :
    int (printedGroups months days nanos 1) = months / 12 ∧
      int (printedGroups months days nanos 2) = months % 12 ∧
      int (printedGroups months days nanos 3) = days ∧
      int (printedGroups months days nanos 4) = nanos / 3600000000000 ∧
      int (printedGroups months days nanos 5) = nanos % 3600000000000 / 60000000000 ∧
      int (printedGroups months days nanos 6) = nanos % 60000000000 / 1000000000 := by
  have hsec : int (captureSeconds (nanos % 60000000000 / 1000000000) (nanos % 1000000000)
      (capture (nanos % 3600000000000 / 60000000000) 5 (capture (nanos / 3600000000000) 4
        (capture days 3 (capture (months % 12) 2 (capture (months / 12) 1 fun _ => none))))) 6) =
      nanos % 60000000000 / 1000000000 := by
    rw [captureSeconds_six (by simp [capture_of_ne])]
    by_cases h : nanos % 60000000000 / 1000000000 > 0 ∨ nanos % 1000000000 > 0
    · rw [if_pos h, int, Nat.ofDigitChars_ten_toDigits]
    · rw [if_neg h, int]
      omega
  refine ⟨?_, ?_, ?_, ?_, ?_, hsec⟩
  · simp [printedGroups, captureSeconds_of_ne, capture_of_ne, int_capture]
  · simp [printedGroups, captureSeconds_of_ne, capture_of_ne, int_capture]
  · simp [printedGroups, captureSeconds_of_ne, capture_of_ne, int_capture]
  · simp [printedGroups, captureSeconds_of_ne, capture_of_ne, int_capture]
  · simp [printedGroups, captureSeconds_of_ne, capture_of_ne, int_capture]

/-- The fraction is read as nine digits. -/
theorem int_fraction (months days nanos : ℕ) :
    int (some ((ljust 9 ((printedGroups months days nanos 7).getD ['0'])).take 9)) =
      nanos % 1000000000 := by
  rw [printedGroups, captureSeconds_seven (by simp [capture_of_ne])]
  by_cases h : nanos % 1000000000 > 0
  · have hlen : (padded 9 (nanos % 1000000000)).length = 9 :=
      length_padded (by decide) (Nat.mod_lt nanos (by decide))
    rw [if_pos h, Option.getD_some, ljust, hlen, Nat.sub_self, List.replicate_zero,
      List.append_nil, List.take_of_length_le (by omega), int, ofDigitChars_padded]
  · rw [if_neg h]
    have h0 : nanos % 1000000000 = 0 := by omega
    rw [h0]
    rfl

/-- **What the Python driver makes of a printed duration.** -/
theorem fromstring_iff (d : TypeDBDriver.Duration) :
    fromstring d.display = some ⟨d.months.toNat, d.days.toNat, d.nanos.toNat⟩ ↔
      0 < d.nanos.toNat ∨ (d.months.toNat = 0 ∧ d.days.toNat = 0) := by
  by_cases hn : 0 < d.nanos.toNat
  · obtain ⟨h1, h2, h3, h4, h5, h6⟩ :=
      int_printedGroups d.months.toNat d.days.toNat d.nanos.toNat
    have h7 := int_fraction d.months.toNat d.days.toNat d.nanos.toNat
    rw [TypeDBDriver.Duration.display_of_nanos_pos hn, fromstring, fullmatch_of_nanos_pos]
    simp only [h1, h2, h3, h4, h5, h6, h7, hn, true_or, iff_true, Option.some.injEq,
      Duration.mk.injEq]
    have htime : d.nanos.toNat / 3600000000000 * 3600000000000 +
        d.nanos.toNat % 3600000000000 / 60000000000 * 60000000000 +
        d.nanos.toNat % 60000000000 / 1000000000 * 1000000000 + d.nanos.toNat % 1000000000 =
        d.nanos.toNat := TypeDBDriver.Duration.time_eq d.nanos.toNat
    refine ⟨by omega, trivial, ?_⟩
    rw [Int.natCast_inj]
    linarith
  · have hn0 : d.nanos.toNat = 0 := by omega
    by_cases hd : d.months.toNat = 0 ∧ d.days.toNat = 0
    · rw [TypeDBDriver.Duration.display_empty hd.1 hd.2 hn0, hd.1, hd.2, hn0]
      decide
    · have hpos : 0 < d.months.toNat ∨ 0 < d.days.toNat := by omega
      have hT : 'T' ∉ 'P' :: TypeDBDriver.Duration.dateText d.months.toNat d.days.toNat := by
        rw [List.mem_cons, not_or]
        exact ⟨by decide, TypeDBDriver.Duration.not_mem_dateText rfl (by decide) (by decide)
          (by decide) _ _⟩
      have hW : 'W' ∉ 'P' :: TypeDBDriver.Duration.dateText d.months.toNat d.days.toNat := by
        rw [List.mem_cons, not_or]
        exact ⟨by decide, TypeDBDriver.Duration.not_mem_dateText rfl (by decide) (by decide)
          (by decide) _ _⟩
      have hneedsT : Needs 'T' datetimeRegex := by simp [datetimeRegex, Needs, Pattern.lit]
      have hneedsW : Needs 'W' weekRegex := by simp [weekRegex, Needs, Pattern.lit]
      rw [TypeDBDriver.Duration.display_of_nanos_zero hn0 hpos, fromstring,
        fullmatch_of_needs hneedsT hT, fullmatch_of_needs hneedsW hW]
      simp only [reduceCtorEq, false_iff]
      omega

end Python

end TypeDBDriver
