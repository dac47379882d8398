import TypeDBDriver.Concept.Duration
import TypeDBDriver.Lib.Checked

/-!
# The duration parser

The parser of the driver itself: a loop over numbers with a designator, each added to a counter.

* `readU32`, `addSegment`, `parseLoop`, `fromStr`: the parser; `none` is a panic, by an overflow, an
  index out of bounds or a cut inside a character.
* `Component`, `Totals`: a number with its designator, and what some of them add up to.
* `readU32_component`, `addSegment_spec`: what one pass of the loop does.
* **`parseLoop_components`**: components that are allowed are added up, as long as the totals fit.
* **`fromStr_error_iff`**: exactly the texts that are refused.
-/

namespace TypeDBDriver

open Numeral

/-- The error of a text that is not a duration. -/
inductive DurationParseError
  | mk
  deriving DecidableEq

namespace Duration

/-! ## The parser -/

structure Segment where
  number : UInt64
  symbol : Char
  numberLen : ℕ

/-- The digits in front, at least one character being left after them. -/
def digitsEnd : List Char → ℕ
  | c :: d :: cs => if c.isDigit then digitsEnd (d :: cs) + 1 else 0
  | _ => 0

/-- `read_u32` -/
def readU32 (str : List Char) : Option (Except DurationParseError (Segment × List Char)) :=
  let i := digitsEnd str
  if i = 0 then some (.error .mk)
  else
    match parseUnsigned (2 ^ 64 - 1) (str.take i) with
    | .error _ => some (.error .mk)
    | .ok value =>
      match str.drop i with
      | [] => none
      | symbol :: tail =>
        -- the text is cut one byte after the digits
        if symbol.toNat < 128 then some (.ok (⟨UInt64.ofNat value, symbol, i⟩, tail)) else none

/-- The variables of the loop. -/
structure ParseState where
  months : UInt32 := 0
  days : UInt32 := 0
  nanos : UInt64 := 0
  parsingTime : Bool := false
  previousSymbol : Option Char := none

/-- `acc += number as u32 * unit`; where the source has no unit, it is one. -/
def plusU32 (acc : UInt32) (number : UInt64) (unit : ℕ) : Option UInt32 := do
  let product ← Checked.u32 (number.toNat % 2 ^ 32 * unit)
  Checked.u32 (acc.toNat + product.toNat)

/-- `acc += number * unit` -/
def plusU64 (acc number : UInt64) (unit : ℕ) : Option UInt64 := do
  let product ← Checked.u64 (number.toNat * unit)
  Checked.u64 (acc.toNat + product.toNat)

/-- The unit of a fraction, `10u64.pow(9 - number_len as u32)`. -/
def fractionUnit (numberLen : ℕ) : Option ℕ :=
  let len := numberLen % 2 ^ 32
  if len ≤ 9 then some (10 ^ (9 - len)) else none

/-- The body of the loop after a segment was read. -/
def addSegment (st : ParseState) (segment : Segment) :
    Option (Except DurationParseError ParseState) :=
  let number := segment.number
  let setMonths := Option.map fun months => Except.ok { st with months }
  let setDays := Option.map fun days => Except.ok { st with days }
  let setNanos := Option.map fun nanos => Except.ok { st with nanos }
  if st.previousSymbol = some '.' ∧ segment.symbol ≠ 'S' then some (.error .mk)
  else
    match segment.symbol with
    | 'Y' => setMonths (plusU32 st.months number monthsPerYear)
    | 'M' =>
      if st.parsingTime then setNanos (plusU64 st.nanos number nanosPerMinute)
      else setMonths (plusU32 st.months number 1)
    | 'W' => setDays (plusU32 st.days number daysPerWeek)
    | 'D' => setDays (plusU32 st.days number 1)
    | 'H' => setNanos (plusU64 st.nanos number nanosPerHour)
    | '.' => setNanos (plusU64 st.nanos number nanosPerSec)
    | 'S' =>
      if st.previousSymbol = some '.' then
        setNanos ((fractionUnit segment.numberLen).bind fun unit => plusU64 st.nanos number unit)
      else setNanos (plusU64 st.nanos number nanosPerSec)
    | _ => some (.error .mk)

/-- The loop, with the number of passes left. -/
def parseLoop : ℕ → ParseState → List Char → Option (Except DurationParseError Duration)
  | _, st, [] => some (.ok ⟨st.months, st.days, st.nanos⟩)
  | 0, _, _ :: _ => none
  | left + 1, st, c :: cs =>
    let (parsingTime, str) := if c = 'T' then (true, cs) else (st.parsingTime, c :: cs)
    match readU32 str with
    | none => none
    | some (.error e) => some (.error e)
    | some (.ok (segment, tail)) =>
      match addSegment { st with parsingTime } segment with
      | none => none
      | some (.error e) => some (.error e)
      | some (.ok st) => parseLoop left { st with previousSymbol := some segment.symbol } tail

/-- The parser. -/
def fromStr (str : List Char) : Option (Except DurationParseError Duration) :=
  match str with
  | [] => none
  | c :: cs => if c ≠ 'P' then some (.error .mk) else parseLoop cs.length {} cs

/-! ## Components -/

/-- A `T` that may be absent, a number and its designator. -/
structure Component where
  time : Bool
  digits : List Char
  designator : Char
  digits_ne : digits ≠ []
  allDigits : AllDigits digits

/-- What components add up to. -/
@[ext] structure Totals where
  months : ℕ
  days : ℕ
  nanos : ℕ

namespace Totals

instance : Zero Totals := ⟨⟨0, 0, 0⟩⟩

instance : Add Totals := ⟨fun a b => ⟨a.months + b.months, a.days + b.days, a.nanos + b.nanos⟩⟩

@[simp] theorem months_zero : (0 : Totals).months = 0 := rfl
@[simp] theorem days_zero : (0 : Totals).days = 0 := rfl
@[simp] theorem nanos_zero : (0 : Totals).nanos = 0 := rfl
@[simp] theorem months_add (a b : Totals) : (a + b).months = a.months + b.months := rfl
@[simp] theorem days_add (a b : Totals) : (a + b).days = a.days + b.days := rfl
@[simp] theorem nanos_add (a b : Totals) : (a + b).nanos = a.nanos + b.nanos := rfl

/-- The totals fit the fields of a duration. -/
structure Fits (t : Totals) : Prop where
  months : t.months < 2 ^ 32
  days : t.days < 2 ^ 32
  nanos : t.nanos < 2 ^ 64

theorem Fits.of_add {a b : Totals} (h : (a + b).Fits) : a.Fits :=
  ⟨Nat.lt_of_le_of_lt (Nat.le_add_right _ _) h.months,
    Nat.lt_of_le_of_lt (Nat.le_add_right _ _) h.days,
    Nat.lt_of_le_of_lt (Nat.le_add_right _ _) h.nanos⟩

end Totals

def ParseState.totals (st : ParseState) : Totals := ⟨st.months.toNat, st.days.toNat, st.nanos.toNat⟩

/-- The letter before the first component of the time. -/
def timeMark (time : Bool) : List Char := if time then ['T'] else []

namespace Component

variable (c : Component)

def text : List Char := timeMark c.time ++ (c.digits ++ [c.designator])

def number : ℕ := Nat.ofDigitChars 10 c.digits 0

/-- What a component adds, in the date or the time and maybe after a point; the numbers of a date
are cut to a `u32`. -/
def total (parsingTime afterPoint : Bool) : Totals :=
  match c.designator with
  | 'Y' => ⟨c.number % 2 ^ 32 * monthsPerYear, 0, 0⟩
  | 'M' =>
    if parsingTime then ⟨0, 0, c.number * nanosPerMinute⟩ else ⟨c.number % 2 ^ 32, 0, 0⟩
  | 'W' => ⟨0, c.number % 2 ^ 32 * daysPerWeek, 0⟩
  | 'D' => ⟨0, c.number % 2 ^ 32, 0⟩
  | 'H' => ⟨0, 0, c.number * nanosPerHour⟩
  | '.' => ⟨0, 0, c.number * nanosPerSec⟩
  | 'S' =>
    if afterPoint then ⟨0, 0, c.number * 10 ^ (9 - c.digits.length % 2 ^ 32)⟩
    else ⟨0, 0, c.number * nanosPerSec⟩
  | _ => 0

end Component

/-- The designators, and the point. -/
def symbols : List Char := ['Y', 'M', 'W', 'D', 'H', '.', 'S']

/-- The designator may stand there: after a point, only that of seconds may. -/
def Designates (afterPoint : Bool) (symbol : Char) : Prop :=
  symbol ∈ symbols ∧ (afterPoint = true → symbol = 'S')

instance (afterPoint : Bool) (symbol : Char) : Decidable (Designates afterPoint symbol) := by
  unfold Designates; infer_instance

/-! ## One pass -/

theorem plusU32_spec (acc : UInt32) (number : UInt64) (unit : ℕ) :
    (∃ a, plusU32 acc number unit = some a ∧
      a.toNat = acc.toNat + number.toNat % 2 ^ 32 * unit) ∨
    (plusU32 acc number unit = none ∧
      ¬ acc.toNat + number.toNat % 2 ^ 32 * unit < 2 ^ 32) := by
  unfold plusU32
  by_cases hp : number.toNat % 2 ^ 32 * unit < 2 ^ 32
  · obtain ⟨product, he, hv⟩ := Checked.exists_u32 hp
    by_cases hs : acc.toNat + product.toNat < 2 ^ 32
    · obtain ⟨a, ha, hav⟩ := Checked.exists_u32 hs
      exact .inl ⟨a, by rw [he]; exact ha, by rw [hav, hv]⟩
    · refine .inr ⟨?_, by rw [← hv]; exact hs⟩
      rw [he]
      exact Checked.u32_eq_none.mpr hs
  · refine .inr ⟨?_, by omega⟩
    rw [Checked.u32_eq_none.mpr hp]
    rfl

theorem plusU64_spec (acc number : UInt64) (unit : ℕ) :
    (∃ a, plusU64 acc number unit = some a ∧ a.toNat = acc.toNat + number.toNat * unit) ∨
    (plusU64 acc number unit = none ∧ ¬ acc.toNat + number.toNat * unit < 2 ^ 64) := by
  unfold plusU64
  by_cases hp : number.toNat * unit < 2 ^ 64
  · obtain ⟨product, he, hv⟩ := Checked.exists_u64 hp
    by_cases hs : acc.toNat + product.toNat < 2 ^ 64
    · obtain ⟨a, ha, hav⟩ := Checked.exists_u64 hs
      exact .inl ⟨a, by rw [he]; exact ha, by rw [hav, hv]⟩
    · refine .inr ⟨?_, by rw [← hv]; exact hs⟩
      rw [he]
      exact Checked.u64_eq_none.mpr hs
  · refine .inr ⟨?_, by omega⟩
    rw [Checked.u64_eq_none.mpr hp]
    rfl

/-- The state is after a point. -/
def ParseState.afterPoint (st : ParseState) : Bool := st.previousSymbol == some '.'

/-- After a point, the digits are at most nine, their number cut to a `u32`. -/
def FractionFits (afterPoint : Bool) (digits : List Char) : Prop :=
  afterPoint = true → digits.length % 2 ^ 32 ≤ 9

theorem afterPoint_iff {st : ParseState} :
    st.afterPoint = true ↔ st.previousSymbol = some '.' := by simp [ParseState.afterPoint]

theorem addSegment_error {st : ParseState} {segment : Segment}
    (h : ¬ Designates st.afterPoint segment.symbol) :
    addSegment st segment = some (.error .mk) := by
  unfold addSegment
  dsimp only
  by_cases hp : st.previousSymbol = some '.' ∧ segment.symbol ≠ 'S'
  · rw [if_pos hp]
  · have hn : segment.symbol ∉ symbols := by
      intro hs
      refine h ⟨hs, fun ha => ?_⟩
      by_contra hS
      exact hp ⟨afterPoint_iff.mp ha, hS⟩
    rw [if_neg hp]
    split
    case h_8 => rfl
    all_goals
      rename_i hc
      rw [hc] at hn
      exact absurd (by decide) hn

/-- The state after a component was added to it. -/
structure Added (st : ParseState) (c : Component) (st' : ParseState) : Prop where
  totals : st'.totals = st.totals + c.total st.parsingTime st.afterPoint
  parsingTime : st'.parsingTime = st.parsingTime

/-- A component can be added: the totals fit, and so does the length of a fraction. -/
structure Addable (st : ParseState) (c : Component) : Prop where
  fits : (st.totals + c.total st.parsingTime st.afterPoint).Fits
  fraction : FractionFits st.afterPoint c.digits

/-- The result of adding a component: the new state, or a panic if it cannot be added. -/
def Adds (st : ParseState) (c : Component) (res : Option (Except DurationParseError ParseState)) :
    Prop :=
  (∃ st', res = some (.ok st') ∧ Added st c st' ∧ Addable st c) ∨ (res = none ∧ ¬ Addable st c)

section Setters

variable {st : ParseState} {c : Component} {number : UInt64} {unit : ℕ}

theorem fits_of_added {st' : ParseState} (h : Added st c st') :
    (st.totals + c.total st.parsingTime st.afterPoint).Fits := by
  rw [← h.totals]
  exact ⟨st'.months.toNat_lt, st'.days.toNat_lt, st'.nanos.toNat_lt⟩

theorem adds_months (hf : FractionFits st.afterPoint c.digits)
    (ht : c.total st.parsingTime st.afterPoint = ⟨number.toNat % 2 ^ 32 * unit, 0, 0⟩) :
    Adds st c ((plusU32 st.months number unit).map fun months => .ok { st with months }) := by
  obtain ⟨months, he, hv⟩ | ⟨he, hn⟩ := plusU32_spec st.months number unit
  · have hadded : Added st c { st with months } := by
      refine ⟨?_, rfl⟩
      rw [ht]
      exact Totals.ext hv rfl rfl
    exact .inl ⟨_, by rw [he]; rfl, hadded, fits_of_added hadded, hf⟩
  · refine .inr ⟨by rw [he]; rfl, fun h => hn ?_⟩
    have := h.fits.months
    rw [ht] at this
    exact this

theorem adds_days (hf : FractionFits st.afterPoint c.digits)
    (ht : c.total st.parsingTime st.afterPoint = ⟨0, number.toNat % 2 ^ 32 * unit, 0⟩) :
    Adds st c ((plusU32 st.days number unit).map fun days => .ok { st with days }) := by
  obtain ⟨days, he, hv⟩ | ⟨he, hn⟩ := plusU32_spec st.days number unit
  · have hadded : Added st c { st with days } := by
      refine ⟨?_, rfl⟩
      rw [ht]
      exact Totals.ext rfl hv rfl
    exact .inl ⟨_, by rw [he]; rfl, hadded, fits_of_added hadded, hf⟩
  · refine .inr ⟨by rw [he]; rfl, fun h => hn ?_⟩
    have := h.fits.days
    rw [ht] at this
    exact this

theorem adds_nanos (hf : FractionFits st.afterPoint c.digits)
    (ht : c.total st.parsingTime st.afterPoint = ⟨0, 0, number.toNat * unit⟩) :
    Adds st c ((plusU64 st.nanos number unit).map fun nanos => .ok { st with nanos }) := by
  obtain ⟨nanos, he, hv⟩ | ⟨he, hn⟩ := plusU64_spec st.nanos number unit
  · have hadded : Added st c { st with nanos } := by
      refine ⟨?_, rfl⟩
      rw [ht]
      exact Totals.ext rfl rfl hv
    exact .inl ⟨_, by rw [he]; rfl, hadded, fits_of_added hadded, hf⟩
  · refine .inr ⟨by rw [he]; rfl, fun h => hn ?_⟩
    have := h.fits.nanos
    rw [ht] at this
    exact this

end Setters

/-- The segment that is read from a component. -/
def Component.segment (c : Component) : Segment :=
  ⟨UInt64.ofNat c.number, c.designator, c.digits.length⟩

/-- **What adding a component does**, where it may stand. -/
theorem addSegment_spec {st : ParseState} {c : Component} (hlt : c.number < 2 ^ 64)
    (hd : Designates st.afterPoint c.designator) : Adds st c (addSegment st c.segment) := by
  have hnum : c.number = c.segment.number.toNat := (UInt64.toNat_ofNat_of_lt' hlt).symm
  have hsym : c.segment.symbol = c.designator := rfl
  have hlen : c.segment.numberLen = c.digits.length := rfl
  have hguard : ¬ (st.previousSymbol = some '.' ∧ c.segment.symbol ≠ 'S') := by
    rintro ⟨hp, hS⟩
    exact hS (hd.2 (afterPoint_iff.mpr hp))
  have hfree : c.designator ≠ 'S' → FractionFits st.afterPoint c.digits :=
    fun hS ha => absurd (hd.2 ha) hS
  have hsymbol := hd.1
  simp only [symbols, List.mem_cons, List.not_mem_nil, or_false] at hsymbol
  unfold addSegment
  dsimp only
  rw [if_neg hguard, hsym]
  obtain hs | hs | hs | hs | hs | hs | hs := hsymbol
  case inr.inl =>
    rw [hs]
    have hfits := hfree (by rw [hs]; decide)
    by_cases hp : st.parsingTime = true
    · rw [if_pos hp]
      exact adds_nanos hfits (by simp only [Component.total, hs, hp, if_true, ← hnum])
    · rw [if_neg hp]
      exact adds_months hfits (by simp only [Component.total, hs, hp, ← hnum, Nat.mul_one]; rfl)
  case inr.inr.inr.inr.inr.inr =>
    rw [hs]
    by_cases hp : st.previousSymbol = some '.'
    · have ha := afterPoint_iff.mpr hp
      rw [if_pos hp, hlen]
      by_cases hl : c.digits.length % 2 ^ 32 ≤ 9
      · simp only [fractionUnit, if_pos hl, Option.bind_some]
        exact adds_nanos (fun _ => hl) (by simp only [Component.total, hs, ha, if_true, ← hnum])
      · simp only [fractionUnit, if_neg hl, Option.bind_none]
        exact .inr ⟨rfl, fun h => hl (h.fraction ha)⟩
    · have ha : ¬ st.afterPoint = true := mt afterPoint_iff.mp hp
      rw [if_neg hp]
      exact adds_nanos (fun h => absurd h ha)
        (by simp only [Component.total, hs, ha, ← hnum]; rfl)
  all_goals
    have hfits := hfree (by rw [hs]; decide)
    rw [hs]
  · exact adds_months hfits (by simp only [Component.total, hs, ← hnum])
  · exact adds_days hfits (by simp only [Component.total, hs, ← hnum])
  · exact adds_days hfits (by simp only [Component.total, hs, ← hnum, Nat.mul_one])
  · exact adds_nanos hfits (by simp only [Component.total, hs, ← hnum])
  · exact adds_nanos hfits (by simp only [Component.total, hs, ← hnum])

/-! ## Reading a component -/

theorem digitsEnd_append {ds : List Char} (hd : AllDigits ds) {x : Char} (hx : x.isDigit = false)
    (tail : List Char) : digitsEnd (ds ++ x :: tail) = ds.length := by
  induction ds with
  | nil => cases tail <;> simp [digitsEnd, hx]
  | cons d ds ih =>
    obtain ⟨hdd, hds⟩ := allDigits_cons.mp hd
    have ih := ih hds
    cases ds with
    | nil => simpa [digitsEnd, hdd] using ih
    | cons e ds => simpa [digitsEnd, hdd] using ih

/-- Of digits to the end, the last is left. -/
theorem digitsEnd_allDigits {ds : List Char} (hd : AllDigits ds) :
    digitsEnd ds = ds.length - 1 := by
  induction ds with
  | nil => rfl
  | cons d ds ih =>
    obtain ⟨hdd, hds⟩ := allDigits_cons.mp hd
    have ih := ih hds
    cases ds with
    | nil => rfl
    | cons e ds => simpa [digitsEnd, hdd] using ih

theorem parseUnsigned_digits {ds : List Char} (hne : ds ≠ []) (hd : AllDigits ds) {n : ℕ} :
    parseUnsigned (2 ^ 64 - 1) ds = .ok n ↔ Nat.ofDigitChars 10 ds 0 = n ∧ n < 2 ^ 64 := by
  rw [parseUnsigned_of_allDigits hne hd, readDigits_eq_ok (Nat.zero_le _)]
  constructor
  · rintro ⟨-, hn, hl⟩
    exact ⟨hn, by omega⟩
  · rintro ⟨hn, hl⟩
    exact ⟨hd, hn, by omega⟩

/-- Digits and another character: the number must be a `u64`, and the character one byte long. -/
theorem readU32_digits {ds : List Char} (hne : ds ≠ []) (hd : AllDigits ds) {x : Char}
    (hx : x.isDigit = false) (tail : List Char) :
    readU32 (ds ++ x :: tail) =
      if Nat.ofDigitChars 10 ds 0 < 2 ^ 64 then
        if x.toNat < 128 then
          some (.ok (⟨UInt64.ofNat (Nat.ofDigitChars 10 ds 0), x, ds.length⟩, tail))
        else none
      else some (.error .mk) := by
  have hpos : ds.length ≠ 0 := by simpa using hne
  unfold readU32
  dsimp only
  rw [digitsEnd_append hd hx, if_neg hpos, List.take_left', List.drop_left']
  · by_cases hlt : Nat.ofDigitChars 10 ds 0 < 2 ^ 64
    · rw [(parseUnsigned_digits hne hd).mpr ⟨rfl, hlt⟩, if_pos hlt]
    · rw [if_neg hlt]
      cases hp : parseUnsigned (2 ^ 64 - 1) ds with
      | error => rfl
      | ok n =>
        obtain ⟨rfl, hn⟩ := (parseUnsigned_digits hne hd).mp hp
        exact absurd hn hlt
  · rfl
  · rfl

/-- **A component is read.** -/
theorem readU32_component {c : Component}
    (hx : c.designator.isDigit = false) (ha : c.designator.toNat < 128) (hn : c.number < 2 ^ 64)
    (tail : List Char) :
    readU32 (c.digits ++ c.designator :: tail) = some (.ok (c.segment, tail)) := by
  have hn' : Nat.ofDigitChars 10 c.digits 0 < 2 ^ 64 := hn
  rw [readU32_digits c.digits_ne c.allDigits hx, if_pos hn', if_pos ha]
  rfl

/-- No component can be read: there are no digits, nothing follows them, they are no `u64`, or
what follows them is no designator there. -/
inductive Unreadable (afterPoint : Bool) : List Char → Prop
  | noDigits {body : List Char} (h : ∀ c ∈ body.head?, c.isDigit = false) :
    Unreadable afterPoint body
  | noDesignator {ds : List Char} (h : AllDigits ds) : Unreadable afterPoint ds
  | tooLarge {ds : List Char} {x : Char} {tail : List Char} (h : AllDigits ds)
      (hx : x.isDigit = false) (hn : 2 ^ 64 ≤ Nat.ofDigitChars 10 ds 0) :
    Unreadable afterPoint (ds ++ x :: tail)
  | misplaced {ds : List Char} {x : Char} {tail : List Char} (h : AllDigits ds)
      (hx : x.isDigit = false) (ha : x.toNat < 128) (hn : ¬ Designates afterPoint x) :
    Unreadable afterPoint (ds ++ x :: tail)

theorem not_designates_of_isDigit {afterPoint : Bool} {x : Char} (hx : x.isDigit = true) :
    ¬ Designates afterPoint x := by
  rintro ⟨hs, -⟩
  simp only [symbols, List.mem_cons, List.not_mem_nil, or_false] at hs
  obtain rfl | rfl | rfl | rfl | rfl | rfl | rfl := hs <;> cases hx

theorem Designates.isDigit {afterPoint : Bool} {x : Char} (h : Designates afterPoint x) :
    x.isDigit = false := by
  by_contra hx
  exact not_designates_of_isDigit (by simpa using hx) h

theorem Designates.ascii {afterPoint : Bool} {x : Char} (h : Designates afterPoint x) :
    x.toNat < 128 := by
  have hs := h.1
  simp only [symbols, List.mem_cons, List.not_mem_nil, or_false] at hs
  obtain rfl | rfl | rfl | rfl | rfl | rfl | rfl := hs <;> decide

theorem digitsEnd_of_head {body : List Char} (h : ∀ c ∈ body.head?, c.isDigit = false) :
    digitsEnd body = 0 := by
  match body with
  | [] | [_] => rfl
  | c :: d :: cs => simp [digitsEnd, h c rfl]

/-- Of digits to the end, the last is taken for the designator. -/
theorem readU32_allDigits {ds : List Char} (h : AllDigits ds) :
    readU32 ds = some (.error .mk) ∨ ∃ segment tail, readU32 ds = some (.ok (segment, tail)) ∧
      segment.symbol.isDigit = true := by
  unfold readU32
  dsimp only
  rw [digitsEnd_allDigits h]
  by_cases hz : ds.length - 1 = 0
  · exact .inl (if_pos hz)
  · rw [if_neg hz]
    have hlt : ds.length - 1 < ds.length := by omega
    have hdigit : (ds.get ⟨ds.length - 1, hlt⟩).isDigit = true := h _ (List.get_mem _ _)
    have hdrop : ds.drop (ds.length - 1) = [ds.get ⟨ds.length - 1, hlt⟩] := by
      rw [List.drop_eq_getElem_cons hlt, List.drop_of_length_le (by omega)]
      rfl
    have hascii := toNat_lt_of_isDigit hdigit
    cases parseUnsigned (2 ^ 64 - 1) (ds.take (ds.length - 1)) with
    | error => exact .inl rfl
    | ok value =>
      rw [hdrop]
      dsimp only
      rw [if_pos (by omega)]
      exact .inr ⟨_, _, rfl, hdigit⟩

theorem readU32_unreadable {afterPoint : Bool} {body : List Char}
    (h : Unreadable afterPoint body) : readU32 body = some (.error .mk) ∨
      ∃ segment tail, readU32 body = some (.ok (segment, tail)) ∧
        ¬ Designates afterPoint segment.symbol := by
  cases h with
  | noDigits h =>
    left
    rw [readU32, digitsEnd_of_head h]
    rfl
  | noDesignator h =>
    refine (readU32_allDigits h).imp_right ?_
    rintro ⟨segment, tail, he, hs⟩
    exact ⟨segment, tail, he, not_designates_of_isDigit hs⟩
  | @tooLarge ds x tail h hx hn =>
    left
    have hne : ds ≠ [] := by
      rintro rfl
      simp at hn
    rw [readU32_digits hne h hx, if_neg (by omega)]
  | @misplaced ds x tail h hx ha hn =>
    by_cases hne : ds = []
    · left
      subst hne
      rw [readU32, digitsEnd_of_head (by simpa using hx)]
      rfl
    · rw [readU32_digits hne h hx, if_pos ha]
      split
      · exact .inr ⟨_, _, rfl, hn⟩
      · exact .inl rfl

/-! ## The loop -/

/-- One pass: the letter before the time is skipped, a segment read, and added. -/
theorem parseLoop_succ (left : ℕ) (st : ParseState) {time : Bool} {body : List Char}
    (hb : time = false → ∃ c cs, body = c :: cs ∧ c ≠ 'T') :
    parseLoop (left + 1) st (timeMark time ++ body) =
      match readU32 body with
      | none => none
      | some (.error e) => some (.error e)
      | some (.ok (segment, tail)) =>
        match addSegment { st with parsingTime := st.parsingTime || time } segment with
        | none => none
        | some (.error e) => some (.error e)
        | some (.ok st) => parseLoop left { st with previousSymbol := some segment.symbol } tail := by
  cases time with
  | true =>
    rw [Bool.or_true]
    rfl
  | false =>
    obtain ⟨c, cs, rfl, hc⟩ := hb rfl
    rw [Bool.or_false]
    show parseLoop (left + 1) st (c :: cs) = _
    rw [parseLoop]
    simp only [if_neg hc]

/-- The text of components. -/
def texts (cs : List Component) : List Char := (cs.map Component.text).flatten

@[simp] theorem texts_nil : texts [] = [] := rfl

@[simp] theorem texts_cons (c : Component) (cs : List Component) :
    texts (c :: cs) = c.text ++ texts cs := rfl

@[simp] theorem texts_append (cs ds : List Component) : texts (cs ++ ds) = texts cs ++ texts ds := by
  simp [texts]

/-- Every component may stand where it does, and its number and its fraction are short enough to
be read. -/
def Legible : Bool → List Component → Prop
  | _, [] => True
  | afterPoint, c :: cs => Designates afterPoint c.designator ∧ c.number < 2 ^ 64 ∧
      FractionFits afterPoint c.digits ∧ Legible (c.designator == '.') cs

/-- The totals of components, in the date or the time and maybe after a point. -/
def totals : Bool → Bool → List Component → Totals
  | _, _, [] => 0
  | parsingTime, afterPoint, c :: cs =>
    c.total (parsingTime || c.time) afterPoint +
      totals (parsingTime || c.time) (c.designator == '.') cs

/-- Do the components end with a point? -/
def endsPoint : Bool → List Component → Bool
  | afterPoint, [] => afterPoint
  | _, c :: cs => endsPoint (c.designator == '.') cs

theorem Totals.add_assoc (a b c : Totals) : a + b + c = a + (b + c) :=
  Totals.ext (Nat.add_assoc _ _ _) (Nat.add_assoc _ _ _) (Nat.add_assoc _ _ _)

@[simp] theorem Totals.add_zero (a : Totals) : a + 0 = a := rfl

theorem Component.body_ne (c : Component) (tail : List Char) (_ : c.time = false) :
    ∃ d ds, c.digits ++ c.designator :: tail = d :: ds ∧ d ≠ 'T' := by
  obtain ⟨d, ds, he, hd⟩ := exists_digit c.digits_ne c.allDigits (c.designator :: tail)
  exact ⟨d, ds, he, ne_of_isDigit hd rfl⟩

/-- A pass over a component that may stand there adds it, or panics if it cannot be added. -/
theorem parseLoop_component (left : ℕ) (st : ParseState) (c : Component) (tail : List Char)
    (hd : Designates st.afterPoint c.designator) (hn : c.number < 2 ^ 64) :
    (∃ st', parseLoop (left + 1) st (c.text ++ tail) = parseLoop left st' tail ∧
      st'.totals = st.totals + c.total (st.parsingTime || c.time) st.afterPoint ∧
      st'.parsingTime = (st.parsingTime || c.time) ∧
      st'.afterPoint = (c.designator == '.') ∧ FractionFits st.afterPoint c.digits) ∨
    (parseLoop (left + 1) st (c.text ++ tail) = none ∧
      ¬ ((st.totals + c.total (st.parsingTime || c.time) st.afterPoint).Fits ∧
        FractionFits st.afterPoint c.digits)) := by
  have htext : c.text ++ tail = timeMark c.time ++ (c.digits ++ c.designator :: tail) := by
    simp [Component.text]
  rw [htext, parseLoop_succ left st (c.body_ne tail), readU32_component hd.isDigit hd.ascii hn]
  dsimp only
  obtain ⟨st', he, hadded, haddable⟩ | ⟨he, hnot⟩ :=
    @addSegment_spec { st with parsingTime := st.parsingTime || c.time } c hn hd
  · rw [he]
    exact .inl ⟨_, rfl, hadded.totals, hadded.parsingTime, rfl, haddable.fraction⟩
  · rw [he]
    exact .inr ⟨rfl, fun ⟨hf, hl⟩ => hnot ⟨hf, hl⟩⟩

theorem Component.length_text (c : Component) : 0 < c.text.length := by
  rw [Component.text, List.length_append, List.length_append, List.length_singleton]
  omega

/-- **Components that are allowed are added up**, as long as the totals fit. -/
theorem parseLoop_components (rest : List Char) (cs : List Component) :
    ∀ (st : ParseState) (left : ℕ), Legible st.afterPoint cs →
      (st.totals + totals st.parsingTime st.afterPoint cs).Fits →
      (texts cs ++ rest).length ≤ left →
      ∃ (st' : ParseState) (left' : ℕ),
        parseLoop left st (texts cs ++ rest) = parseLoop left' st' rest ∧ rest.length ≤ left' ∧
        st'.totals = st.totals + totals st.parsingTime st.afterPoint cs ∧
        st'.afterPoint = endsPoint st.afterPoint cs := by
  induction cs with
  | nil =>
    intro st left _ _ hl
    exact ⟨st, left, rfl, hl, rfl, rfl⟩
  | cons c cs ih =>
    rintro st left ⟨hd, hn, hfrac, hcs⟩ hfits hl
    have hlen := c.length_text
    rw [texts_cons, List.append_assoc] at hl ⊢
    rw [List.length_append] at hl
    obtain ⟨left, rfl⟩ := Nat.exists_eq_succ_of_ne_zero (show left ≠ 0 by omega)
    rw [totals, ← Totals.add_assoc] at hfits ⊢
    obtain ⟨st', he, ht, hp, ha, -⟩ | ⟨-, hnot⟩ :=
      parseLoop_component left st c (texts cs ++ rest) hd hn
    · rw [he, ← ht, ← hp, ← ha]
      rw [← ht, ← hp, ← ha] at hfits
      rw [← ha] at hcs
      obtain ⟨st'', left', he', hl', ht', ha'⟩ := ih st' left hcs hfits (by omega)
      exact ⟨st'', left', he', hl', ht', by rw [ha', endsPoint, ha]⟩
    · exact absurd ⟨hfits.of_add, hfrac⟩ hnot

/-! ## Texts that are refused -/

/-- No component can be read where a text goes on, after the letter of the time if it is there. -/
def Malformed (afterPoint : Bool) (rest : List Char) : Prop :=
  ∃ time body, rest = timeMark time ++ body ∧
    (time = false → ∃ c cs, body = c :: cs ∧ c ≠ 'T') ∧ Unreadable afterPoint body

theorem parseLoop_malformed {st : ParseState} {rest : List Char} {left : ℕ}
    (h : Malformed st.afterPoint rest) (hl : rest.length ≤ left) :
    parseLoop left st rest = some (.error .mk) := by
  obtain ⟨time, body, rfl, hb, hu⟩ := h
  have hpos : left ≠ 0 := by
    rintro rfl
    cases time with
    | true => simp [timeMark] at hl
    | false =>
      obtain ⟨c, cs, rfl, -⟩ := hb rfl
      simp [timeMark] at hl
  obtain ⟨left, rfl⟩ := Nat.exists_eq_succ_of_ne_zero hpos
  rw [parseLoop_succ left st hb]
  obtain he | ⟨segment, tail, he, hn⟩ := readU32_unreadable hu
  · rw [he]
  · rw [he]
    dsimp only
    rw [@addSegment_error { st with parsingTime := st.parsingTime || time } segment hn]

theorem exists_mark {str : List Char} (hne : str ≠ []) : ∃ time body, str = timeMark time ++ body ∧
    (time = false → ∃ c cs, body = c :: cs ∧ c ≠ 'T') := by
  obtain ⟨c, cs, rfl⟩ := List.exists_cons_of_ne_nil hne
  by_cases hc : c = 'T'
  · subst hc
    exact ⟨true, cs, rfl, by simp⟩
  · exact ⟨false, c :: cs, rfl, fun _ => ⟨c, cs, rfl, hc⟩⟩

/-- What is not unreadable is a number and a character that designates, or is not one byte. -/
theorem unreadable_or (afterPoint : Bool) (body : List Char) : Unreadable afterPoint body ∨
    ∃ ds x tail, body = ds ++ x :: tail ∧ ds ≠ [] ∧ AllDigits ds ∧ x.isDigit = false ∧
      Nat.ofDigitChars 10 ds 0 < 2 ^ 64 ∧ (x.toNat < 128 → Designates afterPoint x) := by
  have hsplit := List.takeWhile_append_dropWhile (p := Char.isDigit) (l := body)
  have hds : AllDigits (body.takeWhile Char.isDigit) := List.all_eq_true.mp List.all_takeWhile
  generalize body.takeWhile Char.isDigit = ds at hsplit hds
  match hdrop : body.dropWhile Char.isDigit with
  | [] =>
    rw [hdrop, List.append_nil] at hsplit
    rw [← hsplit]
    exact .inl (.noDesignator hds)
  | x :: tail =>
    have hx : x.isDigit = false := by
      have := List.head?_dropWhile_not Char.isDigit body
      rw [hdrop] at this
      simpa using this
    rw [hdrop] at hsplit
    rw [← hsplit]
    by_cases hne : ds = []
    · exact .inl (.noDigits (by simpa [hne] using hx))
    · by_cases hn : Nat.ofDigitChars 10 ds 0 < 2 ^ 64
      · by_cases ha : x.toNat < 128 → Designates afterPoint x
        · exact .inr ⟨ds, x, tail, rfl, hne, hds, hx, hn, ha⟩
        · rw [Classical.not_imp] at ha
          exact .inl (.misplaced hds hx ha.1 ha.2)
      · exact .inl (.tooLarge hds hx (by omega))

/-- **A text that is refused is components that are added up and a malformed rest.** -/
theorem exists_of_parseLoop_error {e : DurationParseError} :
    ∀ (left : ℕ) (st : ParseState) (str : List Char), parseLoop left st str = some (.error e) →
      ∃ cs rest, str = texts cs ++ rest ∧ Legible st.afterPoint cs ∧
        (st.totals + totals st.parsingTime st.afterPoint cs).Fits ∧
        Malformed (endsPoint st.afterPoint cs) rest := by
  intro left
  induction left with
  | zero =>
    intro st str h
    cases str <;> cases h
  | succ left ih =>
    intro st str h
    have hne : str ≠ [] := by
      rintro rfl
      cases h
    obtain ⟨time, body, rfl, hb⟩ := exists_mark hne
    obtain hu | ⟨ds, x, tail, rfl, hdne, hds, hx, hn, hd⟩ := unreadable_or st.afterPoint body
    · refine ⟨[], _, rfl, trivial, ?_, time, body, rfl, hb, hu⟩
      exact ⟨st.months.toNat_lt, st.days.toNat_lt, st.nanos.toNat_lt⟩
    · have htext : timeMark time ++ (ds ++ x :: tail) =
          (Component.mk time ds x hdne hds).text ++ tail := by simp [Component.text]
      by_cases ha : x.toNat < 128
      · rw [htext] at h ⊢
        obtain ⟨st', he, ht, hp, hpoint, hfrac⟩ | ⟨he, -⟩ :=
          parseLoop_component left st (Component.mk time ds x hdne hds) tail (hd ha) hn
        · rw [he] at h
          obtain ⟨cs, rest, rfl, hlegible, hfits, hmal⟩ := ih st' tail h
          rw [ht, hp, hpoint, Totals.add_assoc] at hfits
          rw [hpoint] at hlegible hmal
          refine ⟨Component.mk time ds x hdne hds :: cs, rest, ?_, ?_, hfits, hmal⟩
          · rw [texts_cons, List.append_assoc]
          · exact ⟨hd ha, hn, hfrac, hlegible⟩
        · rw [he] at h
          cases h
      · rw [parseLoop_succ left st hb, readU32_digits hdne hds hx, if_pos hn, if_neg ha] at h
        cases h

/-- The text is refused for what it is: it does not begin with a `P`, or after components that
may stand where they do and that add up to a duration, it goes on with no component. -/
def Refusable (s : List Char) : Prop :=
  (∃ c cs, s = c :: cs ∧ c ≠ 'P') ∨
    ∃ cs rest, s = 'P' :: (texts cs ++ rest) ∧ Legible false cs ∧ (totals false false cs).Fits ∧
      Malformed (endsPoint false cs) rest

theorem initial_totals : ({} : ParseState).totals = 0 := rfl

theorem Totals.zero_add (a : Totals) : 0 + a = a :=
  Totals.ext (Nat.zero_add _) (Nat.zero_add _) (Nat.zero_add _)

/-- The loop after `P`, over components that are added up. -/
theorem fromStr_components {cs : List Component} (hl : Legible false cs)
    (hf : (totals false false cs).Fits) (rest : List Char) : ∃ (st : ParseState) (left : ℕ),
      fromStr ('P' :: (texts cs ++ rest)) = parseLoop left st rest ∧ rest.length ≤ left ∧
      st.totals = totals false false cs ∧ st.afterPoint = endsPoint false cs := by
  obtain ⟨st, left, he, hlen, ht, ha⟩ := parseLoop_components rest cs {} _ hl
    (by rw [initial_totals, Totals.zero_add]; exact hf) (Nat.le_refl _)
  rw [initial_totals, Totals.zero_add] at ht
  exact ⟨st, left, he, hlen, ht, ha⟩

/-- **Components that add up to a duration are parsed to it.** -/
theorem fromStr_texts {cs : List Component} {d : Duration} (hl : Legible false cs)
    (ht : totals false false cs = ⟨d.months.toNat, d.days.toNat, d.nanos.toNat⟩) :
    fromStr ('P' :: texts cs) = some (.ok d) := by
  obtain ⟨st, left, he, -, hst, -⟩ := fromStr_components hl
    (by rw [ht]; exact ⟨d.months.toNat_lt, d.days.toNat_lt, d.nanos.toNat_lt⟩) []
  rw [List.append_nil] at he
  rw [ht, ParseState.totals, Totals.mk.injEq, UInt32.toNat_inj, UInt32.toNat_inj,
    UInt64.toNat_inj] at hst
  rw [he, parseLoop, hst.1, hst.2.1, hst.2.2]

/-- **Exactly the texts that are refused.** -/
theorem fromStr_error_iff (s : List Char) :
    fromStr s = some (.error .mk) ↔ Refusable s := by
  constructor
  · intro h
    match s with
    | [] => cases h
    | c :: cs =>
      by_cases hc : c = 'P'
      · subst hc
        obtain ⟨cs', rest, rfl, hl, hf, hm⟩ := exists_of_parseLoop_error _ {} _ h
        rw [initial_totals, Totals.zero_add] at hf
        exact .inr ⟨cs', rest, rfl, hl, hf, hm⟩
      · exact .inl ⟨c, cs, rfl, hc⟩
  · rintro (⟨c, cs, rfl, hc⟩ | ⟨cs, rest, rfl, hl, hf, hm⟩)
    · exact if_pos hc
    · obtain ⟨st, left, he, hlen, -, ha⟩ := fromStr_components hl hf rest
      rw [he]
      exact parseLoop_malformed (by rw [ha]; exact hm) hlen

end Duration

end TypeDBDriver
