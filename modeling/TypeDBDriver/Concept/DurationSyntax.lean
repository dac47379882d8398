import Mathlib.Tactic.SplitIfs
import TypeDBDriver.Concept.Duration
import TypeDBDriver.Lib.Regex

/-!
# Patterns of durations

What the duration patterns of the drivers share: optional parts, each a number and a designator,
in a fixed order.

* `DurationSyntax`: how a number, a designator and a fraction are matched, with what the matching
  of a printed duration rests on.
* `part`, `secondsPart`: an optional part, and the seconds with their optional fraction.
* `capture`, `captureSeconds`: the groups that matching a printed component sets.
* `Lacks`: a text in which no part with a given designator comes next.
* **`first_part`**, **`first_secondsPart`**: a printed component is matched by its part.
-/

namespace TypeDBDriver

open Numeral Regex

/-- The letters that follow a number. -/
def designators : List Char := ['Y', 'M', 'W', 'D', 'H', 'S']

theorem forall_designators {p : Char → Prop} :
    (∀ c ∈ designators, p c) ↔ p 'Y' ∧ p 'M' ∧ p 'W' ∧ p 'D' ∧ p 'H' ∧ p 'S' := by
  simp [designators]

/-- The characters that may follow a number. -/
theorem forall_letters {p : Char → Prop} :
    (∀ c ∈ '.' :: 'T' :: designators, p c) ↔ p '.' ∧ p 'T' ∧ ∀ c ∈ designators, p c := by
  simp

/-- The parts of a duration pattern. -/
structure DurationSyntax where
  number : Pattern
  numberChar : Char → Bool
  symbol : Char → Char → Bool
  point : Char → Bool
  fraction : Pattern
  first_number {w rest : List Char} (hne : w ≠ []) (hw : AllDigits w)
    (hr : Ends Char.isDigit rest) (atStart : Bool) (groups : ℕ → Option (List Char)) :
    First number ⟨atStart, w ++ rest, groups⟩ ⟨false, rest, groups⟩
  fails_number_nil (groups : ℕ → Option (List Char)) : Fails number ⟨false, [], groups⟩
  consumes_number : Consumes number numberChar
  numberChar_digit {c : Char} (hc : c.isDigit = true) : numberChar c = true
  numberChar_letter : ∀ c ∈ '.' :: 'T' :: designators, numberChar c = false
  symbol_self : ∀ c ∈ designators, symbol c c = true
  symbol_other : ∀ c ∈ designators, ∀ d ∈ '.' :: 'T' :: designators, d ≠ c → symbol c d = false
  symbol_number : ∀ c ∈ designators, ∀ d, symbol c d = true → numberChar d = false
  point_point : point '.' = true
  point_second : point 'S' = false
  first_fraction {w rest : List Char} (hne : w ≠ []) (hw : AllDigits w) (hlen : w.length ≤ 9)
    (hr : Ends Char.isDigit rest) (groups : ℕ → Option (List Char)) :
    First fraction ⟨false, w ++ rest, groups⟩ ⟨false, rest, groups⟩

/-- The groups after a number was matched, or skipped because it is zero. -/
def capture (k n : ℕ) (groups : ℕ → Option (List Char)) : ℕ → Option (List Char) :=
  if k > 0 then Function.update groups n (some (Nat.toDigits 10 k)) else groups

/-- The groups 6 and 7 after the seconds. -/
def captureSeconds (seconds nanos : ℕ) (groups : ℕ → Option (List Char)) :
    ℕ → Option (List Char) :=
  if nanos > 0 then
    Function.update (Function.update groups 6 (some (Nat.toDigits 10 seconds))) 7
      (some (padded 9 nanos))
  else capture seconds 6 groups

theorem capture_of_ne {k n m : ℕ} (h : m ≠ n) (groups : ℕ → Option (List Char)) :
    capture k n groups m = groups m := by
  unfold capture
  split_ifs
  · exact Function.update_of_ne h _ _
  · rfl

theorem capture_self {k n : ℕ} {groups : ℕ → Option (List Char)} (h : groups n = none) :
    capture k n groups n = if k > 0 then some (Nat.toDigits 10 k) else none := by
  unfold capture
  split_ifs
  · exact Function.update_self _ _ _
  · exact h

theorem captureSeconds_of_ne {seconds nanos m : ℕ} (h6 : m ≠ 6) (h7 : m ≠ 7)
    (groups : ℕ → Option (List Char)) : captureSeconds seconds nanos groups m = groups m := by
  unfold captureSeconds
  split_ifs
  · rw [Function.update_of_ne h7, Function.update_of_ne h6]
  · exact capture_of_ne h6 groups

theorem captureSeconds_six {seconds nanos : ℕ} {groups : ℕ → Option (List Char)}
    (h : groups 6 = none) : captureSeconds seconds nanos groups 6 =
      if seconds > 0 ∨ nanos > 0 then some (Nat.toDigits 10 seconds) else none := by
  unfold captureSeconds
  by_cases hn : nanos > 0
  · rw [if_pos hn, if_pos (Or.inr hn), Function.update_of_ne (by decide), Function.update_self]
  · rw [if_neg hn, capture_self h]
    simp [hn]

theorem captureSeconds_seven {seconds nanos : ℕ} {groups : ℕ → Option (List Char)}
    (h : groups 7 = none) : captureSeconds seconds nanos groups 7 =
      if nanos > 0 then some (padded 9 nanos) else none := by
  unfold captureSeconds
  by_cases hn : nanos > 0
  · rw [if_pos hn, if_pos hn, Function.update_self]
  · rw [if_neg hn, if_neg hn, capture_of_ne (by decide), h]

namespace DurationSyntax

variable (S : DurationSyntax)

/-- An optional number and its designator. -/
def part (n : ℕ) (symbol : Char) : Pattern :=
  .opt ((S.number.group n).seq (.char (S.symbol symbol)))

/-- Optional seconds, with an optional fraction. -/
def secondsPart : Pattern :=
  .opt ((S.number.group 6).seq
    ((Pattern.opt ((Pattern.char S.point).seq (S.fraction.group 7))).seq
      (.char (S.symbol 'S'))))

/-- No number with the designator `symbol` comes next. -/
def Lacks (symbol : Char) (rest : List Char) : Prop :=
  ∀ (n : ℕ) (groups : ℕ → Option (List Char)),
    Fails ((S.number.group n).seq (.char (S.symbol symbol))) ⟨false, rest, groups⟩

variable {S} {c d : Char} {rest : List Char}

/-- Digits before anything but the designator. -/
theorem lacks_of_digits (hs : c ∈ designators) {w : List Char} (hw : AllDigits w)
    (hr : ∀ x ∈ rest.head?, S.numberChar x = false ∧ S.symbol c x = false) :
    S.Lacks c (w ++ rest) := fun n groups =>
  fails_of_consumes S.consumes_number n (S.symbol_number c hs)
    (fun x hx => S.numberChar_digit (hw x hx)) hr false groups

theorem lacks_nil (hs : c ∈ designators) : S.Lacks c [] := by
  have hr : ∀ x ∈ ([] : List Char).head?, S.numberChar x = false ∧ S.symbol c x = false := by
    intro x hx
    cases hx
  exact lacks_of_digits (w := []) hs allDigits_nil hr

/-- Digits and another letter. -/
theorem lacks_of_letter (hs : c ∈ designators) {w : List Char} (hw : AllDigits w)
    (ho : d ∈ '.' :: 'T' :: designators) (hne : d ≠ c) :
    S.Lacks c (w ++ d :: rest) := by
  refine lacks_of_digits hs hw ?_
  intro x hx
  cases hx
  exact ⟨S.numberChar_letter d ho, S.symbol_other c hs d ho hne⟩

theorem lacks_component (hs : c ∈ designators) (ho : d ∈ designators)
    (hne : d ≠ c) (k : ℕ) (hr : S.Lacks c rest) :
    S.Lacks c (Duration.component k d ++ rest) := by
  by_cases hk : k > 0
  · rw [Duration.component_pos hk, List.append_assoc]
    exact lacks_of_letter hs (allDigits_toDigits k) (by simp [ho]) hne
  · rw [Nat.eq_zero_of_not_pos hk]
    exact hr

theorem lacks_time (hs : c ∈ designators) : S.Lacks c ('T' :: rest) := by
  have hne : 'T' ≠ c := by
    rintro rfl
    exact absurd hs (by decide)
  exact lacks_of_letter (w := []) (d := 'T') hs allDigits_nil (by simp) hne

theorem lacks_seconds (hs : c ∈ designators) (hne : 'S' ≠ c) (seconds nanos : ℕ) :
    S.Lacks c (Duration.secondsText seconds nanos) := by
  have hpoint : '.' ≠ c := by
    rintro rfl
    exact absurd hs (by decide)
  unfold Duration.secondsText
  split_ifs
  · exact lacks_of_letter hs (allDigits_toDigits seconds) (by decide) hne
  · rw [List.append_assoc]
    exact lacks_of_letter hs (allDigits_toDigits seconds) (by decide) hpoint
  · exact lacks_nil hs

/-- The digits of a number end where a letter comes. -/
theorem ends_letter (hs : d ∈ '.' :: 'T' :: designators) : Ends Char.isDigit (d :: rest) := by
  refine ends_cons ?_
  revert hs
  simp only [designators, List.mem_cons, List.not_mem_nil, or_false]
  rintro (rfl | rfl | rfl | rfl | rfl | rfl | rfl | rfl) <;> rfl

/-- **A printed component is matched by its part, and skipped when it was not printed.** -/
theorem first_part (hs : c ∈ designators) (n k : ℕ) (hr : S.Lacks c rest)
    (groups : ℕ → Option (List Char)) :
    First (S.part n c) ⟨false, Duration.component k c ++ rest, groups⟩
      ⟨false, rest, capture k n groups⟩ := by
  by_cases hk : k > 0
  · rw [Duration.component_pos hk, List.append_assoc, capture, if_pos hk]
    refine First.opt (First.seq (First.group n (S.first_number Nat.toDigits_ne_nil
      (allDigits_toDigits k) (ends_letter (by simp [hs])) false groups)) ?_)
    exact first_char (S.symbol_self c hs) false rest _
  · rw [Nat.eq_zero_of_not_pos hk, capture, if_neg (by decide)]
    exact Fails.opt (hr n groups)

/-- **Printed seconds are matched by their part.** -/
theorem first_secondsPart {seconds nanos : ℕ} (hn : nanos < 10 ^ 9)
    (groups : ℕ → Option (List Char)) :
    First S.secondsPart ⟨false, Duration.secondsText seconds nanos, groups⟩
      ⟨false, [], captureSeconds seconds nanos groups⟩ := by
  have hS : 'S' ∈ designators := by decide
  unfold Duration.secondsText
  by_cases hpos : nanos > 0
  · rw [if_neg (by omega), if_pos hpos, captureSeconds, if_pos hpos]
    refine First.opt (First.seq (t := ⟨false, '.' :: (padded 9 nanos ++ ['S']),
      Function.update groups 6 (some (Nat.toDigits 10 seconds))⟩) ?_ (First.seq (t := ⟨false, ['S'],
      Function.update (Function.update groups 6 (some (Nat.toDigits 10 seconds))) 7
        (some (padded 9 nanos))⟩) ?_ ?_))
    · have hends : Ends Char.isDigit ('.' :: (padded 9 nanos ++ ['S'])) := ends_letter (by decide)
      rw [List.append_assoc, List.cons_append]
      exact First.group 6 (S.first_number Nat.toDigits_ne_nil (allDigits_toDigits seconds) hends
        false groups)
    · refine First.opt (First.seq (first_char S.point_point false _ _) ?_)
      exact First.group 7 (S.first_fraction (padded_ne_nil 9 nanos) (allDigits_padded 9 nanos)
        (Nat.le_of_eq (length_padded (by decide) hn)) (ends_letter (by decide)) _)
    · exact first_char (S.symbol_self 'S' hS) false [] _
  · have hcap : captureSeconds seconds nanos groups = capture seconds 6 groups := if_neg hpos
    rw [hcap]
    by_cases hsec : seconds > 0
    · rw [if_pos ⟨hsec, by omega⟩, capture, if_pos hsec]
      refine First.opt (First.seq (First.group 6 (S.first_number Nat.toDigits_ne_nil
        (allDigits_toDigits seconds) (ends_letter (by decide)) false groups)) ?_)
      exact First.seq (Fails.opt (Fails.seq (fails_char S.point_second false [] _)))
        (first_char (S.symbol_self 'S' hS) false [] _)
    · rw [if_neg (by omega), if_neg hpos, capture, if_neg hsec]
      exact Fails.opt (Fails.seq (Fails.group 6 (S.fails_number_nil groups)))

end DurationSyntax

end TypeDBDriver
