import Mathlib.Tactic.SplitIfs
import Mathlib.Tactic.ByContra
import TypeDBDriver.Lib.Numeral

/-!
# Durations

A relative duration of calendar months, days and nanoseconds, and its ISO 8601 text.

* `Duration`, `display`: the type and its printer.
* `component`: a number and its designator, left out when the number is zero.
* `dateText`, `timeText`: the two parts of the text.
* `display_of_nanos_zero`, `display_of_nanos_pos`: the text of a duration that is not empty.
* `minute_eq`, `time_eq`: the parts that are printed make up the whole.
-/

namespace TypeDBDriver

open Numeral

structure Duration where
  months : UInt32
  days : UInt32
  nanos : UInt64
  deriving DecidableEq

namespace Duration

def nanosPerSec : ℕ := 1000000000
def nanosPerMinute : ℕ := 60 * nanosPerSec
def nanosPerHour : ℕ := 60 * 60 * nanosPerSec
def daysPerWeek : ℕ := 7
def monthsPerYear : ℕ := 12

def isEmpty (d : Duration) : Bool := d.months == 0 && d.days == 0 && d.nanos == 0

/-- A number and its designator, unless the number is zero. -/
def component (n : ℕ) (symbol : Char) : List Char :=
  if n > 0 then Nat.toDigits 10 n ++ [symbol] else []

/-- The seconds, with nine digits of fraction when there is one. -/
def secondsText (seconds nanos : ℕ) : List Char :=
  if seconds > 0 ∧ nanos = 0 then Nat.toDigits 10 seconds ++ ['S']
  else if nanos > 0 then Nat.toDigits 10 seconds ++ '.' :: padded 9 nanos ++ ['S']
  else []

/-- `Display`. -/
def display (d : Duration) : List Char :=
  if d.isEmpty then "PT0S".toList
  else
    'P' ::
      (if d.months > 0 ∨ d.days > 0 then
        let years := d.months.toNat / monthsPerYear
        let months := d.months.toNat % monthsPerYear
        let days := d.days.toNat
        component years 'Y' ++ component months 'M' ++ component days 'D'
      else []) ++
      (if d.nanos > 0 then
        let hours := d.nanos.toNat / nanosPerHour
        let minutes := d.nanos.toNat % nanosPerHour / nanosPerMinute
        let seconds := d.nanos.toNat % nanosPerMinute / nanosPerSec
        let nanos := d.nanos.toNat % nanosPerSec
        'T' :: component hours 'H' ++ component minutes 'M' ++ secondsText seconds nanos
      else [])

/-! ## The two parts of the text -/

/-- The date part of the text. -/
def dateText (months days : ℕ) : List Char :=
  component (months / monthsPerYear) 'Y' ++ component (months % monthsPerYear) 'M' ++
    component days 'D'

/-- The time part of the text, after the `T`. -/
def timeText (nanos : ℕ) : List Char :=
  component (nanos / nanosPerHour) 'H' ++ component (nanos % nanosPerHour / nanosPerMinute) 'M' ++
    secondsText (nanos % nanosPerMinute / nanosPerSec) (nanos % nanosPerSec)

@[simp] theorem component_zero (symbol : Char) : component 0 symbol = [] := rfl

theorem component_pos {n : ℕ} (h : 0 < n) (symbol : Char) :
    component n symbol = Nat.toDigits 10 n ++ [symbol] := if_pos h

theorem dateText_zero : dateText 0 0 = [] := rfl

theorem date_display (d : Duration) :
    (if d.months > 0 ∨ d.days > 0 then
      component (d.months.toNat / monthsPerYear) 'Y' ++
        component (d.months.toNat % monthsPerYear) 'M' ++ component d.days.toNat 'D'
    else []) = dateText d.months.toNat d.days.toNat := by
  by_cases h : d.months > 0 ∨ d.days > 0
  · rw [if_pos h, dateText]
  · rw [not_or] at h
    have hm : d.months.toNat = 0 := by
      have := h.1
      rw [gt_iff_lt, UInt32.lt_iff_toNat_lt] at this
      simpa using this
    have hd : d.days.toNat = 0 := by
      have := h.2
      rw [gt_iff_lt, UInt32.lt_iff_toNat_lt] at this
      simpa using this
    rw [if_neg (by rw [not_or]; exact h), hm, hd, dateText_zero]

theorem isEmpty_iff (d : Duration) :
    d.isEmpty = true ↔ d.months.toNat = 0 ∧ d.days.toNat = 0 ∧ d.nanos.toNat = 0 := by
  simp only [isEmpty, Bool.and_eq_true, beq_iff_eq, ← UInt32.toNat_inj, ← UInt64.toNat_inj]
  simp [and_assoc]

/-- A duration without nanoseconds has no time part. -/
theorem display_of_nanos_zero {d : Duration} (hn : d.nanos.toNat = 0)
    (hd : 0 < d.months.toNat ∨ 0 < d.days.toNat) :
    display d = 'P' :: dateText d.months.toNat d.days.toNat := by
  have he : ¬ d.isEmpty = true := by
    rw [isEmpty_iff]
    omega
  have hpos : ¬ d.nanos > 0 := by
    rw [gt_iff_lt, UInt64.lt_iff_toNat_lt]
    simpa using hn
  rw [display, if_neg he, if_neg hpos]
  simp only [date_display, List.append_nil]

/-- A duration with nanoseconds has both parts, the date part maybe empty. -/
theorem display_of_nanos_pos {d : Duration} (hn : 0 < d.nanos.toNat) :
    display d = 'P' :: (dateText d.months.toNat d.days.toNat ++ 'T' :: timeText d.nanos.toNat) := by
  have he : ¬ d.isEmpty = true := by
    rw [isEmpty_iff]
    omega
  have hpos : d.nanos > 0 := by
    rw [gt_iff_lt, UInt64.lt_iff_toNat_lt]
    simpa using hn
  rw [display, if_neg he, if_pos hpos]
  simp only [date_display, timeText]
  simp only [List.cons_append, List.append_assoc]

theorem display_empty {d : Duration} (hm : d.months.toNat = 0) (hd : d.days.toNat = 0)
    (hn : d.nanos.toNat = 0) : display d = "PT0S".toList := by
  rw [display, if_pos ((isEmpty_iff d).mpr ⟨hm, hd, hn⟩)]

/-! ## The characters of the text -/

theorem not_mem_component {c symbol : Char} (hc : c.isDigit = false) (hne : c ≠ symbol) (k : ℕ) :
    c ∉ component k symbol := by
  unfold component
  split_ifs
  · rw [List.mem_append, List.mem_singleton, not_or]
    exact ⟨not_mem_of_allDigits (allDigits_toDigits k) hc, hne⟩
  · exact List.not_mem_nil

theorem not_mem_secondsText {c : Char} (hc : c.isDigit = false) (hp : c ≠ '.') (hs : c ≠ 'S')
    (seconds nanos : ℕ) : c ∉ secondsText seconds nanos := by
  unfold secondsText
  split_ifs
  · rw [List.mem_append, List.mem_singleton, not_or]
    exact ⟨not_mem_of_allDigits (allDigits_toDigits seconds) hc, hs⟩
  · rw [List.mem_append, List.mem_append, List.mem_cons, List.mem_singleton, not_or, not_or,
      not_or]
    exact ⟨⟨not_mem_of_allDigits (allDigits_toDigits seconds) hc, hp,
      not_mem_of_allDigits (allDigits_padded 9 nanos) hc⟩, hs⟩
  · exact List.not_mem_nil

theorem not_mem_dateText {c : Char} (hc : c.isDigit = false) (hY : c ≠ 'Y') (hM : c ≠ 'M')
    (hD : c ≠ 'D') (months days : ℕ) : c ∉ dateText months days := by
  rw [dateText, List.mem_append, List.mem_append, not_or, not_or]
  exact ⟨⟨not_mem_component hc hY _, not_mem_component hc hM _⟩, not_mem_component hc hD _⟩

theorem not_mem_timeText {c : Char} (hc : c.isDigit = false) (hH : c ≠ 'H') (hM : c ≠ 'M')
    (hp : c ≠ '.') (hS : c ≠ 'S') (nanos : ℕ) : c ∉ timeText nanos := by
  rw [timeText, List.mem_append, List.mem_append, not_or, not_or]
  exact ⟨⟨not_mem_component hc hH _, not_mem_component hc hM _⟩,
    not_mem_secondsText hc hp hS _ _⟩

theorem component_ne_nil {k : ℕ} (hk : 0 < k) (symbol : Char) : component k symbol ≠ [] := by
  rw [component_pos hk]
  simp

/-- A positive time is printed as something. -/
theorem timeText_ne_nil {nanos : ℕ} (h : 0 < nanos) : timeText nanos ≠ [] := by
  intro h0
  rw [timeText, List.append_eq_nil_iff, List.append_eq_nil_iff] at h0
  obtain ⟨⟨hh, hm⟩, hs⟩ := h0
  have h1 : nanos / nanosPerHour = 0 := by
    by_contra hne
    exact component_ne_nil (Nat.pos_of_ne_zero hne) 'H' hh
  have h2 : nanos % nanosPerHour / nanosPerMinute = 0 := by
    by_contra hne
    exact component_ne_nil (Nat.pos_of_ne_zero hne) 'M' hm
  have h3 : nanos % nanosPerMinute / nanosPerSec = 0 ∧ nanos % nanosPerSec = 0 := by
    unfold secondsText at hs
    split_ifs at hs with h4 h5
    · simp at hs
    · simp at hs
    · simp only [nanosPerMinute, nanosPerSec] at h4 h5 ⊢
      omega
  simp only [nanosPerHour, nanosPerMinute, nanosPerSec] at h1 h2 h3
  omega

/-! ## The parts make up the whole -/

theorem minute_eq (nanos : ℕ) :
    nanos % nanosPerMinute / nanosPerSec * nanosPerSec + nanos % nanosPerSec =
      nanos % nanosPerMinute := by
  simp only [nanosPerMinute, nanosPerSec]
  omega

/-- Hours, minutes, seconds and nanoseconds make up the nanoseconds. -/
theorem time_eq (nanos : ℕ) :
    nanos / nanosPerHour * nanosPerHour + nanos % nanosPerHour / nanosPerMinute * nanosPerMinute +
      nanos % nanosPerMinute / nanosPerSec * nanosPerSec + nanos % nanosPerSec = nanos := by
  have hsec := minute_eq nanos
  have hhour := Nat.div_add_mod' nanos nanosPerHour
  have hmin := Nat.div_add_mod' (nanos % nanosPerHour) nanosPerMinute
  have hdvd : nanosPerMinute ∣ nanosPerHour := ⟨60, rfl⟩
  rw [Nat.mod_mod_of_dvd nanos hdvd] at hmin
  rw [Nat.add_assoc, hsec, Nat.add_assoc, hmin, hhour]

end Duration

end TypeDBDriver
