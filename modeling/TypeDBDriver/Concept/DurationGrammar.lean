import TypeDBDriver.Concept.DurationParser

/-!
# The texts that are durations

* `Form`: a duration as ISO 8601 writes it, each component at most once and in order; `Form.text`
  and `Form.denoted`: its text, and what it adds up to.
* `Form.components`: the components that the parser reads; `Form.legible`, `Form.totals_components`:
  they may stand where they do, and add up to what is denoted.
* **`fromStr_form`**: a form that denotes a duration is parsed to it.
* **`parse_display`**: a printed duration is parsed back.
* **`parsedAsWritten_iff`**: exactly the texts that are parsed as the grammar says.
-/

namespace TypeDBDriver

open Numeral

namespace Duration

/-- Decimal digits, at least one. -/
structure Digits where
  chars : List Char
  ne : chars ≠ []
  allDigits : AllDigits chars

def Digits.number (ds : Digits) : ℕ := Nat.ofDigitChars 10 ds.chars 0

/-- The number of a component, zero where it is absent. -/
def numberOf (part : Option Digits) : ℕ := (part.map Digits.number).getD 0

/-- A duration as ISO 8601 writes it. -/
structure Form where
  years : Option Digits
  months : Option Digits
  weeks : Option Digits
  days : Option Digits
  hours : Option Digits
  minutes : Option Digits
  /-- the seconds, with the digits of a fraction -/
  seconds : Option (Digits × Option Digits)
  fraction_length : ∀ s ∈ seconds, ∀ f ∈ s.2, f.chars.length ≤ 9
  some_component : years.isSome ∨ months.isSome ∨ weeks.isSome ∨ days.isSome ∨ hours.isSome ∨
    minutes.isSome ∨ seconds.isSome

def partText (part : Option Digits) (symbol : Char) : List Char :=
  match part with
  | none => []
  | some ds => ds.chars ++ [symbol]

@[simp] theorem partText_none (symbol : Char) : partText none symbol = [] := rfl

/-- What a fraction of a second adds, in nanoseconds. -/
def fractionNanos (fraction : Option Digits) : ℕ :=
  match fraction with
  | none => 0
  | some f => f.number * 10 ^ (9 - f.chars.length)

namespace Form

variable (f : Form)

def dateText : List Char :=
  partText f.years 'Y' ++ partText f.months 'M' ++ partText f.weeks 'W' ++ partText f.days 'D'

def secondsText : List Char :=
  match f.seconds with
  | none => []
  | some (s, none) => s.chars ++ ['S']
  | some (s, some fraction) => s.chars ++ '.' :: (fraction.chars ++ ['S'])

def timeText : List Char :=
  partText f.hours 'H' ++ partText f.minutes 'M' ++ f.secondsText

def text : List Char :=
  'P' :: (f.dateText ++ if f.timeText = [] then [] else 'T' :: f.timeText)

def secondsNanos : ℕ :=
  match f.seconds with
  | none => 0
  | some (s, fraction) => s.number * nanosPerSec + fractionNanos fraction

/-- The months, days and nanoseconds that the text denotes. -/
def denoted : Totals where
  months := numberOf f.years * monthsPerYear + numberOf f.months
  days := numberOf f.weeks * daysPerWeek + numberOf f.days
  nanos := numberOf f.hours * nanosPerHour + numberOf f.minutes * nanosPerMinute + f.secondsNanos

/-- The text denotes the duration; its fields fit their types. -/
def Denotes (d : Duration) : Prop := f.denoted = ⟨d.months.toNat, d.days.toNat, d.nanos.toNat⟩

end Form

/-! ## The components of a form -/

def partComponents (part : Option Digits) (symbol : Char) : List Component :=
  match part with
  | none => []
  | some ds => [⟨false, ds.chars, symbol, ds.ne, ds.allDigits⟩]

/-- The first component of the time has the letter in front. -/
def markFirst : List Component → List Component
  | [] => []
  | c :: cs => { c with time := true } :: cs

namespace Form

variable (f : Form)

def dateComponents : List Component :=
  partComponents f.years 'Y' ++ (partComponents f.months 'M' ++
    (partComponents f.weeks 'W' ++ partComponents f.days 'D'))

def secondsComponents : List Component :=
  match f.seconds with
  | none => []
  | some (s, none) => [⟨false, s.chars, 'S', s.ne, s.allDigits⟩]
  | some (s, some fraction) => [⟨false, s.chars, '.', s.ne, s.allDigits⟩,
      ⟨false, fraction.chars, 'S', fraction.ne, fraction.allDigits⟩]

def timeComponents : List Component :=
  partComponents f.hours 'H' ++ (partComponents f.minutes 'M' ++ f.secondsComponents)

def components : List Component := f.dateComponents ++ markFirst f.timeComponents

end Form

/-! ### Their text -/

@[simp] theorem texts_partComponents (part : Option Digits) (symbol : Char) :
    texts (partComponents part symbol) = partText part symbol := by
  cases part with
  | none => rfl
  | some ds => simp [partComponents, partText, Component.text, timeMark]

theorem Form.texts_secondsComponents (f : Form) : texts f.secondsComponents = f.secondsText := by
  unfold secondsComponents secondsText
  split <;> simp [Component.text, timeMark]

theorem Component.text_ne_nil (c : Component) : c.text ≠ [] := by
  simp [Component.text]

theorem texts_markFirst {cs : List Component} (h : ∀ c ∈ cs, c.time = false) :
    texts (markFirst cs) = if texts cs = [] then [] else 'T' :: texts cs := by
  cases cs with
  | nil => rfl
  | cons c cs =>
    have hc := h c List.mem_cons_self
    rw [markFirst, texts_cons, texts_cons, if_neg (by simp [c.text_ne_nil])]
    simp [Component.text, timeMark, hc]

theorem time_of_mem_partComponents {part : Option Digits} {symbol : Char} {c : Component}
    (h : c ∈ partComponents part symbol) : c.time = false := by
  cases part with
  | none => cases h
  | some ds =>
    obtain rfl := List.mem_singleton.mp h
    rfl

theorem Form.time_of_mem_timeComponents (f : Form) : ∀ c ∈ f.timeComponents, c.time = false := by
  intro c hc
  simp only [timeComponents, List.mem_append] at hc
  obtain hc | hc | hc := hc
  · exact time_of_mem_partComponents hc
  · exact time_of_mem_partComponents hc
  · unfold secondsComponents at hc
    split at hc
    · cases hc
    · obtain rfl := List.mem_singleton.mp hc
      rfl
    · simp only [List.mem_cons, List.not_mem_nil, or_false] at hc
      obtain rfl | rfl := hc <;> rfl

theorem Form.text_eq (f : Form) : f.text = 'P' :: texts f.components := by
  have htime : texts f.timeComponents = f.timeText := by
    simp [timeComponents, timeText, f.texts_secondsComponents]
  have hdate : texts f.dateComponents = f.dateText := by
    simp [dateComponents, dateText]
  rw [text, components, texts_append, texts_markFirst f.time_of_mem_timeComponents, htime, hdate]

/-! ### What they add up to -/

/-- What a component that may be absent adds. -/
def partTotal (parsingTime : Bool) (part : Option Digits) (symbol : Char) : Totals :=
  match part with
  | none => 0
  | some ds => (⟨false, ds.chars, symbol, ds.ne, ds.allDigits⟩ : Component).total parsingTime false

theorem totals_partComponents {symbol : Char} (hs : symbol ≠ '.') (parsingTime : Bool)
    (part : Option Digits) (cs : List Component) :
    totals parsingTime false (partComponents part symbol ++ cs) =
      partTotal parsingTime part symbol + totals parsingTime false cs := by
  cases part with
  | none => exact (Totals.zero_add _).symm
  | some ds =>
    have hpoint : (symbol == '.') = false := by simpa using hs
    simp [partComponents, partTotal, totals, hpoint]

theorem legible_partComponents {symbol : Char} (hmem : symbol ∈ symbols) (hs : symbol ≠ '.')
    {part : Option Digits} (hn : numberOf part < 2 ^ 64) {cs : List Component}
    (h : Legible false cs) : Legible false (partComponents part symbol ++ cs) := by
  cases part with
  | none => exact h
  | some ds =>
    have hpoint : (symbol == '.') = false := by simpa using hs
    refine ⟨⟨hmem, by simp⟩, hn, by simp [FractionFits], ?_⟩
    rw [hpoint]
    exact h

theorem totals_markFirst (cs : List Component) :
    totals false false (markFirst cs) = totals true false cs := by
  cases cs with
  | nil => rfl
  | cons c cs => rfl

theorem legible_markFirst {cs : List Component} (h : Legible false cs) :
    Legible false (markFirst cs) := by
  cases cs with
  | nil => trivial
  | cons c cs => exact h

/-- A component adds what its designator makes of its number, and so nothing when it is absent. -/
theorem partTotal_eq (parsingTime : Bool) (symbol : Char) (t : ℕ → Totals) (h0 : t 0 = 0)
    (h : ∀ ds : Digits, (⟨false, ds.chars, symbol, ds.ne, ds.allDigits⟩ : Component).total
      parsingTime false = t ds.number) (part : Option Digits) :
    partTotal parsingTime part symbol = t (numberOf part) := by
  cases part with
  | none => exact h0.symm
  | some ds => exact h ds

namespace Form

variable {f : Form} {d : Duration}

/-- The numbers of a form that denotes a duration are short enough. -/
theorem Denotes.bounds (h : f.Denotes d) :
    (numberOf f.years < 2 ^ 32 ∧ numberOf f.months < 2 ^ 32 ∧ numberOf f.weeks < 2 ^ 32 ∧
      numberOf f.days < 2 ^ 32) ∧
    numberOf f.hours < 2 ^ 64 ∧ numberOf f.minutes < 2 ^ 64 ∧ f.secondsNanos < 2 ^ 64 := by
  have hm := congrArg Totals.months h
  have hd := congrArg Totals.days h
  have hn := congrArg Totals.nanos h
  have hmb := d.months.toNat_lt
  have hdb := d.days.toNat_lt
  have hnb := d.nanos.toNat_lt
  simp only [denoted, monthsPerYear, daysPerWeek, nanosPerHour, nanosPerMinute, nanosPerSec]
    at hm hd hn
  omega

theorem totals_secondsComponents (f : Form) :
    totals true false f.secondsComponents = ⟨0, 0, f.secondsNanos⟩ := by
  have hlen := f.fraction_length
  unfold secondsComponents secondsNanos
  match hs : f.seconds with
  | none => rfl
  | some (s, none) =>
    simp [totals, Component.total, fractionNanos, Component.number, Digits.number]
  | some (s, some fraction) =>
    have hl : fraction.chars.length ≤ 9 := hlen _ hs _ rfl
    have hmod : fraction.chars.length % 2 ^ 32 = fraction.chars.length := by omega
    simp only [totals]
    ext1
    · rfl
    · rfl
    · simp only [Totals.nanos_add, Totals.nanos_zero, Component.total, Component.number,
        fractionNanos, Digits.number, hmod, Nat.add_zero, beq_self_eq_true, if_true]

/-- **The components of a form that denotes a duration add up to it.** -/
theorem Denotes.totals_components (h : f.Denotes d) :
    totals false false f.components = ⟨d.months.toNat, d.days.toNat, d.nanos.toNat⟩ := by
  obtain ⟨⟨hy, hm, hw, hd⟩, -⟩ := h.bounds
  rw [← show f.denoted = _ from h, components, dateComponents, timeComponents]
  simp only [List.append_assoc]
  rw [totals_partComponents (by decide), totals_partComponents (by decide),
    totals_partComponents (by decide), totals_partComponents (by decide), totals_markFirst,
    totals_partComponents (by decide), totals_partComponents (by decide),
    totals_secondsComponents,
    partTotal_eq false 'Y' (fun n => ⟨n % 2 ^ 32 * monthsPerYear, 0, 0⟩) rfl fun _ => rfl,
    partTotal_eq false 'M' (fun n => ⟨n % 2 ^ 32, 0, 0⟩) rfl fun _ => rfl,
    partTotal_eq false 'W' (fun n => ⟨0, n % 2 ^ 32 * daysPerWeek, 0⟩) rfl fun _ => rfl,
    partTotal_eq false 'D' (fun n => ⟨0, n % 2 ^ 32, 0⟩) rfl fun _ => rfl,
    partTotal_eq true 'H' (fun n => ⟨0, 0, n * nanosPerHour⟩) (by simp; rfl) fun _ => rfl,
    partTotal_eq true 'M' (fun n => ⟨0, 0, n * nanosPerMinute⟩) (by simp; rfl) fun _ => rfl,
    Nat.mod_eq_of_lt hy, Nat.mod_eq_of_lt hm, Nat.mod_eq_of_lt hw, Nat.mod_eq_of_lt hd]
  ext1
  · simp [denoted]
  · simp [denoted]
  · simp [denoted]
    omega

theorem legible_secondsComponents (h : f.secondsNanos < 2 ^ 64) :
    Legible false f.secondsComponents := by
  have hlen := f.fraction_length
  unfold secondsComponents
  unfold secondsNanos at h
  match hs : f.seconds with
  | none => trivial
  | some (s, none) =>
    rw [hs] at h
    simp only [nanosPerSec] at h
    have hn : s.number < 2 ^ 64 := by omega
    exact ⟨(by decide : Designates false 'S'), hn, by simp [FractionFits], trivial⟩
  | some (s, some fraction) =>
    rw [hs] at h
    simp only [nanosPerSec] at h
    have hn : s.number < 2 ^ 64 := by omega
    have hl : fraction.chars.length ≤ 9 := hlen _ hs _ rfl
    have hf : fraction.number < 2 ^ 64 := by
      have h1 := ofDigitChars_lt fraction.allDigits
      have h2 := Nat.pow_le_pow_right (n := 10) (by decide) hl
      rw [Digits.number]
      omega
    refine ⟨(by decide : Designates false '.'), hn, by simp [FractionFits],
      (by decide : Designates true 'S'), hf, fun _ => ?_, trivial⟩
    exact Nat.le_trans (Nat.mod_le _ _) hl

theorem Denotes.legible (h : f.Denotes d) : Legible false f.components := by
  obtain ⟨⟨hy, hm, hw, hd⟩, hh, hmin, hs⟩ := h.bounds
  simp only [components, dateComponents, timeComponents, List.append_assoc]
  refine legible_partComponents (by decide) (by decide) (by omega) ?_
  refine legible_partComponents (by decide) (by decide) (by omega) ?_
  refine legible_partComponents (by decide) (by decide) (by omega) ?_
  refine legible_partComponents (by decide) (by decide) (by omega) (legible_markFirst ?_)
  refine legible_partComponents (by decide) (by decide) hh ?_
  exact legible_partComponents (by decide) (by decide) hmin (legible_secondsComponents hs)

end Form

/-- **A form that denotes a duration is parsed to it.** -/
theorem fromStr_form {f : Form} {d : Duration} (h : f.Denotes d) :
    fromStr f.text = some (.ok d) := by
  rw [f.text_eq]
  exact fromStr_texts h.legible h.totals_components

/-! ## Printed durations -/

/-- A number as digits, absent when it is zero. -/
def digitsOf (n : ℕ) : Option Digits :=
  if n > 0 then some ⟨Nat.toDigits 10 n, Nat.toDigits_ne_nil, allDigits_toDigits n⟩ else none

@[simp] theorem numberOf_digitsOf (n : ℕ) : numberOf (digitsOf n) = n := by
  unfold digitsOf numberOf
  split_ifs with h
  · simp [Digits.number]
  · simp
    omega

@[simp] theorem partText_digitsOf (n : ℕ) (symbol : Char) :
    partText (digitsOf n) symbol = component n symbol := by
  unfold digitsOf component
  split_ifs <;> rfl

/-- The seconds as they are printed, after a zero duration or not. -/
def secondsOf (empty : Bool) (seconds nanos : ℕ) : Option (Digits × Option Digits) :=
  if empty ∨ (seconds > 0 ∧ nanos = 0) then
    some (⟨Nat.toDigits 10 seconds, Nat.toDigits_ne_nil, allDigits_toDigits _⟩, none)
  else if nanos > 0 then
    some (⟨Nat.toDigits 10 seconds, Nat.toDigits_ne_nil, allDigits_toDigits _⟩,
      some ⟨padded 9 nanos, padded_ne_nil _ _, allDigits_padded _ _⟩)
  else none

theorem isSome_digitsOf (n : ℕ) : (digitsOf n).isSome = decide (n > 0) := by
  unfold digitsOf
  split_ifs with h <;> simp [h]

theorem length_padded_nine {nanos : ℕ} (h : nanos < 10 ^ 9) : (padded 9 nanos).length = 9 :=
  length_padded (by decide) h

/-- The form in which a duration is printed. -/
def Form.ofDuration (d : Duration) : Form where
  years := digitsOf (d.months.toNat / monthsPerYear)
  months := digitsOf (d.months.toNat % monthsPerYear)
  weeks := none
  days := digitsOf d.days.toNat
  hours := digitsOf (d.nanos.toNat / nanosPerHour)
  minutes := digitsOf (d.nanos.toNat % nanosPerHour / nanosPerMinute)
  seconds := secondsOf d.isEmpty (d.nanos.toNat % nanosPerMinute / nanosPerSec)
    (d.nanos.toNat % nanosPerSec)
  fraction_length := by
    unfold secondsOf
    split_ifs
    · simp
    · have hlt : d.nanos.toNat % nanosPerSec < 10 ^ 9 := Nat.mod_lt _ (by decide)
      simp [length_padded_nine hlt]
    · simp
  some_component := by
    by_contra h
    simp only [not_or, isSome_digitsOf, decide_eq_true_eq, gt_iff_lt, Nat.not_lt,
      Nat.le_zero] at h
    obtain ⟨hy, hm, -, hd, hh, hmin, hs⟩ := h
    have hsec : ¬ (d.isEmpty = true ∨ (d.nanos.toNat % nanosPerMinute / nanosPerSec > 0 ∧
        d.nanos.toNat % nanosPerSec = 0)) ∧ ¬ d.nanos.toNat % nanosPerSec > 0 := by
      unfold secondsOf at hs
      split_ifs at hs with h1 h2
      · simp at hs
      · simp at hs
      · exact ⟨h1, h2⟩
    rw [isEmpty_iff] at hsec
    simp only [monthsPerYear, nanosPerHour, nanosPerMinute, nanosPerSec] at hy hm hh hmin hsec
    omega

namespace Form

theorem secondsText_ofDuration {d : Duration} (h : d.isEmpty = false) :
    (ofDuration d).secondsText = Duration.secondsText (d.nanos.toNat % nanosPerMinute / nanosPerSec)
      (d.nanos.toNat % nanosPerSec) := by
  simp only [secondsText, ofDuration, secondsOf, Duration.secondsText, h, Bool.false_eq_true,
    false_or]
  split_ifs
  · rfl
  · simp
  · rfl

/-- The form's text is what is printed. -/
theorem text_ofDuration (d : Duration) : (ofDuration d).text = display d := by
  have hdate : (ofDuration d).dateText = Duration.dateText d.months.toNat d.days.toNat := by
    simp [dateText, ofDuration, Duration.dateText]
  cases he : d.isEmpty with
  | true =>
    obtain ⟨hm, hd, hn⟩ := (isEmpty_iff d).mp he
    rw [display_empty hm hd hn, text, hdate, hm, hd]
    simp [timeText, ofDuration, secondsText, secondsOf, he, hn, Duration.dateText]
  | false =>
    have htime : (ofDuration d).timeText = Duration.timeText d.nanos.toNat := by
      rw [timeText, secondsText_ofDuration he]
      simp [ofDuration, Duration.timeText]
    rw [text, hdate, htime]
    by_cases hn : d.nanos.toNat = 0
    · have hpos : 0 < d.months.toNat ∨ 0 < d.days.toNat := by
        have := (isEmpty_iff d).not.mp (by simp [he])
        omega
      have hnil : Duration.timeText 0 = [] := by decide
      rw [display_of_nanos_zero hn hpos, hn, hnil]
      simp
    · rw [display_of_nanos_pos (by omega), if_neg (timeText_ne_nil (by omega))]

theorem secondsNanos_ofDuration (d : Duration) : (ofDuration d).secondsNanos =
    d.nanos.toNat % nanosPerMinute / nanosPerSec * nanosPerSec + d.nanos.toNat % nanosPerSec := by
  have hlen : (padded 9 (d.nanos.toNat % nanosPerSec)).length = 9 :=
    length_padded_nine (Nat.mod_lt _ (by decide))
  simp only [secondsNanos, ofDuration, secondsOf]
  split_ifs with h1 h2
  · have hn : d.nanos.toNat % nanosPerSec = 0 := by
      rcases h1 with he | ⟨-, hn⟩
      · rw [((isEmpty_iff d).mp he).2.2]
        rfl
      · exact hn
    simp [Digits.number, fractionNanos, hn]
  · simp [Digits.number, fractionNanos, hlen]
  · simp only [nanosPerMinute, nanosPerSec] at h1 h2 ⊢
    omega

theorem denotes_ofDuration (d : Duration) : (ofDuration d).Denotes d := by
  have htime := time_eq d.nanos.toNat
  rw [Denotes, denoted, secondsNanos_ofDuration]
  simp only [ofDuration, numberOf_digitsOf, Totals.mk.injEq]
  refine ⟨Nat.div_add_mod' _ _, ?_, by omega⟩
  simp [numberOf]

end Form

/-- **A printed duration is parsed back**, and nothing overflows on the way. -/
theorem parse_display (d : Duration) : fromStr (display d) = some (.ok d) := by
  rw [← Form.text_ofDuration]
  exact fromStr_form (Form.denotes_ofDuration d)

/-! ## What the parser accepts -/

/-- A text is parsed as the grammar says: it does not panic, and returns a duration exactly when a
form with this text denotes it. -/
structure ParsedAsWritten (s : List Char) : Prop where
  returns : fromStr s ≠ none
  accepts : ∀ d, fromStr s = some (.ok d) ↔ ∃ f : Form, f.text = s ∧ f.Denotes d

/-- **The duration parser**: a text is parsed as the grammar says exactly when it is a form that
denotes a duration, or is refused for what it is. -/
theorem parsedAsWritten_iff (s : List Char) :
    ParsedAsWritten s ↔ (∃ (f : Form) (d : Duration), f.text = s ∧ f.Denotes d) ∨ Refusable s := by
  constructor
  · intro h
    match hs : fromStr s with
    | none => exact absurd hs h.returns
    | some (.error .mk) => exact .inr ((fromStr_error_iff s).mp hs)
    | some (.ok d) =>
      obtain ⟨f, hf, hd⟩ := (h.accepts d).mp hs
      exact .inl ⟨f, d, hf, hd⟩
  · rintro (⟨f, d, rfl, hd⟩ | hr)
    · have hparsed := fromStr_form hd
      refine ⟨by simp [hparsed], fun e => ⟨?_, ?_⟩⟩
      · intro he
        rw [hparsed] at he
        cases he
        exact ⟨f, rfl, hd⟩
      · rintro ⟨g, hg, he⟩
        rw [← hg]
        exact fromStr_form he
    · have herror := (fromStr_error_iff s).mpr hr
      refine ⟨by simp [herror], fun e => ⟨by simp [herror], ?_⟩⟩
      rintro ⟨g, rfl, he⟩
      rw [fromStr_form he] at herror
      cases herror

/-- The empty text, a letter of two bytes after a number, a fraction of ten digits and too many
years are panics; the number of days is cut to a `u32`, and components stand in any order. -/
theorem not_parsedAsWritten :
    ¬ ParsedAsWritten [] ∧ ¬ ParsedAsWritten "P1é".toList ∧
      ¬ ParsedAsWritten "PT0.0000000001S".toList ∧ ¬ ParsedAsWritten "P400000000Y".toList ∧
      fromStr "P4294967297D".toList = some (.ok ⟨0, 1, 0⟩) ∧
      fromStr "PT1S2Y".toList = some (.ok ⟨24, 0, 1000000000⟩) := by
  refine ⟨fun h => h.returns rfl, fun h => h.returns ?_, fun h => h.returns ?_,
    fun h => h.returns ?_, rfl, rfl⟩ <;> decide +kernel

end Duration

end TypeDBDriver
