import Mathlib.Data.Int.Notation
import Mathlib.Data.Int.Order.Basic
import Mathlib.Tactic.SplitIfs

/-!
# Local time

A time zone is the history of its offset: the seconds that its clocks are ahead of UTC, at every
second of UTC. The reading of a clock is counted in seconds too, as if the clock showed UTC; there
are readings from the year 1 to the year 9999.

* `readingAt`: the reading at a time.
* `mktime`: the time of a reading, found in two guesses. `fold` asks for the later of two times.
* **`reading_of_mktime`**: the time that is found has the reading, unless neither guess has.
* **`mktime_eq_self_iff`**: exactly which readings are their own time.
-/

namespace LocalTime

/-- The first second of the year 1 and the last one of the year 9999. -/
def minTime : ℤ := -62135596800
def maxTime : ℤ := 253402300799

def InRange (t : ℤ) : Prop := minTime ≤ t ∧ t ≤ maxTime

instance (t : ℤ) : Decidable (InRange t) := inferInstanceAs (Decidable (_ ∧ _))

/-- A clock may be set back by up to a day. -/
def maxFoldSeconds : ℤ := 86400

section Zone

variable (offset : ℤ → ℤ)

/-- The reading at the time `u`; `none` where there is no such reading. -/
def readingAt (u : ℤ) : Option ℤ := if InRange (u + offset u) then some (u + offset u) else none

/-- The second guess, with the offset `b`, after the first one, `u1`, gave the reading `t1`. -/
def secondGuess (fold : Bool) (t u1 t1 b : ℤ) : Option ℤ := do
  let u2 := t - b
  let t2 ← readingAt offset u2
  if t2 = t then some u2
  else if t1 = t then some u1
  -- the clock was set forward past the reading
  else some (if fold then min u1 u2 else max u1 u2)

/-- Where to look for another time of a reading: a day later, or a day earlier. -/
def probe (fold : Bool) (u : ℤ) : ℤ := if fold then u + maxFoldSeconds else u - maxFoldSeconds

/-- The time of the reading `t`. -/
def mktime (fold : Bool) (t : ℤ) : Option ℤ := do
  let lt ← readingAt offset t
  let a := lt - t
  let u1 := t - a
  let t1 ← readingAt offset u1
  if t1 = t then
    let u2 := probe fold u1
    let lt ← readingAt offset u2
    let b := lt - u2
    if a = b then some u1 else secondGuess offset fold t u1 t1 b
  else secondGuess offset fold t u1 t1 (t1 - u1)

/-- The reading `t` is found to be its own time. Either the clock shows UTC at `t` and the offset
`b` of a day before does not give an earlier time, or the clock was set forward from UTC past
`t`. -/
def IsOwnTime (t : ℤ) : Prop :=
  (offset t = 0 ∧ InRange t ∧ InRange (t - maxFoldSeconds + offset (t - maxFoldSeconds)) ∧
    (offset (t - maxFoldSeconds) = 0 ∨
      InRange (t - offset (t - maxFoldSeconds) + offset (t - offset (t - maxFoldSeconds))) ∧
        offset (t - offset (t - maxFoldSeconds)) ≠ offset (t - maxFoldSeconds))) ∨
  (0 < offset t ∧ InRange t ∧ InRange (t + offset t) ∧ InRange (t - offset t) ∧
    offset (t - offset t) = 0)

end Zone

variable {offset : ℤ → ℤ} {fold : Bool} {t u r : ℤ}

theorem readingAt_eq_some : readingAt offset u = some r ↔ u + offset u = r ∧ InRange r := by
  rw [readingAt]
  split_ifs with h
  · rw [Option.some.injEq]
    constructor
    · rintro rfl
      exact ⟨rfl, h⟩
    · exact And.left
  · constructor
    · nofun
    · rintro ⟨rfl, hr⟩
      exact absurd hr h

theorem readingAt_of_inRange (h : InRange (u + offset u)) :
    readingAt offset u = some (u + offset u) := if_pos h

theorem readingAt_of_not_inRange (h : ¬ InRange (u + offset u)) : readingAt offset u = none :=
  if_neg h

/-- What the second guess finds. -/
theorem secondGuess_eq_some {u1 t1 b : ℤ} : secondGuess offset fold t u1 t1 b = some r ↔
    InRange (t - b + offset (t - b)) ∧
      r = if offset (t - b) = b then t - b
        else if t1 = t then u1
        else if fold then min u1 (t - b) else max u1 (t - b) := by
  rw [secondGuess, Option.bind_eq_bind, Option.bind_eq_some_iff]
  constructor
  · rintro ⟨t2, ht2, h⟩
    obtain ⟨rfl, hr⟩ := readingAt_eq_some.mp ht2
    refine ⟨hr, ?_⟩
    have hiff : t - b + offset (t - b) = t ↔ offset (t - b) = b := by omega
    simp only [hiff] at h
    split_ifs at h ⊢ <;> exact (Option.some.inj h).symm
  · rintro ⟨hr, rfl⟩
    refine ⟨_, readingAt_of_inRange hr, ?_⟩
    have hiff : t - b + offset (t - b) = t ↔ offset (t - b) = b := by omega
    simp only [hiff]
    split_ifs <;> rfl

/-- What both guesses find. -/
theorem mktime_eq_some : mktime offset fold t = some r ↔
    InRange (t + offset t) ∧ InRange (t - offset t + offset (t - offset t)) ∧
      if offset (t - offset t) = offset t then
        InRange (probe fold (t - offset t) + offset (probe fold (t - offset t))) ∧
          if offset (probe fold (t - offset t)) = offset t then r = t - offset t
          else secondGuess offset fold t (t - offset t) t (offset (probe fold (t - offset t))) = some r
      else secondGuess offset fold t (t - offset t) (t - offset t + offset (t - offset t))
        (offset (t - offset t)) = some r := by
  have hsub : ∀ x y : ℤ, x + y - x = y := by omega
  have hiff : t - offset t + offset (t - offset t) = t ↔ offset (t - offset t) = offset t := by
    omega
  rw [mktime, Option.bind_eq_bind]
  by_cases hr : InRange (t + offset t)
  · rw [readingAt_of_inRange hr, Option.bind_some]
    simp only [hsub]
    by_cases hr1 : InRange (t - offset t + offset (t - offset t))
    · rw [readingAt_of_inRange hr1, Option.bind_some]
      simp only [hsub, hiff, hr, hr1, true_and]
      by_cases h1 : offset (t - offset t) = offset t
      · rw [if_pos h1, if_pos h1]
        generalize probe fold (t - offset t) = v
        by_cases hr2 : InRange (v + offset v)
        · rw [readingAt_of_inRange hr2, Option.bind_some, hsub]
          have ht1 : t - offset t + offset (t - offset t) = t := hiff.mpr h1
          rw [ht1]
          simp only [hr2, true_and]
          by_cases hb : offset v = offset t
          · rw [if_pos hb, if_pos hb.symm, Option.some.injEq, eq_comm]
          · rw [if_neg hb, if_neg (Ne.symm hb)]
        · rw [readingAt_of_not_inRange hr2]
          simp [hr2]
      · rw [if_neg h1, if_neg h1]
    · rw [readingAt_of_not_inRange hr1]
      simp [hr1]
  · rw [readingAt_of_not_inRange hr]
    simp [hr]

/-- **Whatever is found is a time of the reading, or neither guess is.** -/
theorem reading_of_mktime (h : mktime offset fold t = some r) :
    r + offset r = t ∨
      (offset (t - offset t) ≠ offset t ∧
        offset (t - offset (t - offset t)) ≠ offset (t - offset t)) := by
  obtain ⟨-, -, h⟩ := mktime_eq_some.mp h
  by_cases h1 : offset (t - offset t) = offset t
  · left
    rw [if_pos h1] at h
    by_cases h2 : offset (probe fold (t - offset t)) = offset t
    · rw [if_pos h2] at h
      rw [h.2, h1, Int.sub_add_cancel]
    · rw [if_neg h2, secondGuess_eq_some] at h
      generalize offset (probe fold (t - offset t)) = b at h
      by_cases h3 : offset (t - b) = b
      · rw [if_pos h3] at h
        rw [h.2.2, h3, Int.sub_add_cancel]
      · rw [if_neg h3, if_pos rfl] at h
        rw [h.2.2, h1, Int.sub_add_cancel]
  · rw [if_neg h1, secondGuess_eq_some] at h
    by_cases h3 : offset (t - offset (t - offset t)) = offset (t - offset t)
    · left
      rw [if_pos h3] at h
      rw [h.2, h3, Int.sub_add_cancel]
    · exact .inr ⟨h1, h3⟩

/-- **Which readings are their own time.** -/
theorem mktime_eq_self_iff : mktime offset false t = some t ↔ IsOwnTime offset t := by
  rw [mktime_eq_some, IsOwnTime]
  by_cases h0 : offset t = 0
  · -- the first guess is the reading itself
    have hprobe : probe false t = t - maxFoldSeconds := rfl
    simp only [h0, Int.sub_zero, Int.add_zero, if_true, hprobe, lt_irrefl, false_and, or_false,
      true_and]
    generalize offset (t - maxFoldSeconds) = b
    by_cases hb : b = 0
    · simp [hb]
    · simp only [hb, if_false, false_or, secondGuess_eq_some, if_true]
      by_cases h3 : offset (t - b) = b
      · simp only [h3, if_true, ne_eq, not_true_eq_false, and_false, iff_false]
        rintro ⟨-, -, -, -, ht⟩
        omega
      · simp only [h3, if_false, and_true, ne_eq, not_false_eq_true, and_self_left]
  · simp only [h0, false_and, false_or]
    by_cases h1 : offset (t - offset t) = offset t
    · have hne : offset (t - offset t) ≠ 0 := by rwa [h1]
      simp only [hne, and_false, iff_false]
      rintro ⟨-, -, h⟩
      rw [if_pos h1] at h
      by_cases h2 : offset (probe false (t - offset t)) = offset t
      · rw [if_pos h2] at h
        omega
      · rw [if_neg h2, secondGuess_eq_some, if_pos rfl] at h
        generalize offset (probe false (t - offset t)) = b at h
        by_cases h3 : offset (t - b) = b
        · rw [if_pos h3] at h
          obtain rfl : b = 0 := by omega
          rw [Int.sub_zero] at h3
          exact h0 h3
        · rw [if_neg h3] at h
          omega
    · rw [if_neg h1, secondGuess_eq_some]
      generalize hb : offset (t - offset t) = b at h1
      constructor
      · rintro ⟨hr, hr1, -, ht⟩
        by_cases h3 : offset (t - b) = b
        · rw [if_pos h3] at ht
          obtain rfl : b = 0 := by omega
          rw [Int.sub_zero] at h3
          exact absurd h3 h0
        · rw [if_neg h3, if_neg (by omega), if_neg (by simp)] at ht
          obtain rfl : b = 0 := by omega
          have hpos : 0 < offset t := by omega
          rw [Int.add_zero] at hr1
          have hmid : InRange t := by
            obtain ⟨h4, -⟩ := hr1
            obtain ⟨-, h5⟩ := hr
            exact ⟨by omega, by omega⟩
          exact ⟨hpos, hmid, hr, hr1, rfl⟩
      · rintro ⟨hpos, -, hr, hr1, rfl⟩
        rw [Int.sub_zero, if_neg h0, if_neg (by omega), if_neg (by simp), Int.add_zero]
        exact ⟨hr, hr1, hr, by omega⟩

end LocalTime
