import TypeDBDriver.Concept.Chrono
import TypeDBDriver.Lib.LocalTime

/-!
# Datetimes of the Python driver

A `Datetime` is a datetime of the standard library, in full seconds, and nanoseconds. The standard
library's datetime is a reading of a clock: of the host's clock when it has no time zone.

* `StdDatetime`, `TzInfo`: the standard library, its time zones being parameters.
* `Datetime.init`, `Datetime.toSecondsAndNanos`: the class, and its way back to a timestamp.
* `tryGetDatetime`, `newDatetime`: a datetime taken from the native layer, and passed to it.
* **`datetime_round_trip_iff`**: exactly when a datetime without a zone comes back.
* `zoned_round_trip`: one with a zone always does.
* `Datetime.isoformat`, `Datetime.Complete`: the text, and what it has to say.
* **`isoformat_complete_iff`**: the text of a zoned datetime is complete just when its offset is a
  number of full minutes.
-/

namespace TypeDBDriver.Python

open LocalTime (InRange mktime IsOwnTime)
open Numeral

/-! ## The standard library -/

/-- What is raised. -/
inductive Exception
  | valueError (message : String)
  | zoneInfoNotFoundError (key : String)
  /-- an exception of the standard library for what it cannot represent -/
  | outOfRange
  deriving DecidableEq

/-- A time zone: the reading of its clocks with the `fold`, and the offset of a reading. -/
structure TzInfo where
  fromutc : ℤ → ℤ × Bool
  utcoffset : ℤ → Bool → ℤ
  inverse (u : ℤ) : (fromutc u).1 - utcoffset (fromutc u).1 (fromutc u).2 = u
  bounded (t : ℤ) (fold : Bool) : (utcoffset t fold).natAbs < 86400

/-- The `repr` of a `timedelta` of at least a day. -/
def reprTimedelta (offset : ℤ) : String :=
  "datetime.timedelta(days=" ++ toString (offset / 86400) ++
    (if offset % 86400 = 0 then "" else ", seconds=" ++ toString (offset % 86400)) ++ ")"

/-- `timezone` of a `timedelta` of `offset` seconds, which has at most 999999999 days. -/
def timezone (offset : ℤ) : Except Exception TzInfo :=
  if h : offset.natAbs < 86400 then
    .ok {
      fromutc u := (u + offset, false)
      utcoffset _ _ := offset
      inverse u := Int.add_sub_cancel u offset
      bounded _ _ := h }
  else if (offset / 86400).natAbs ≤ 999999999 then
    .error (.valueError ("offset must be a timedelta strictly between -timedelta(hours=24) and " ++
      "timedelta(hours=24), not " ++ reprTimedelta offset ++ "."))
  else .error .outOfRange

example : reprTimedelta (-100000) = "datetime.timedelta(days=-2, seconds=72800)" := by
  decide +kernel

/-- `datetime.datetime`, without a fraction of a second. -/
structure StdDatetime where
  reading : ℤ
  fold : Bool
  tzinfo : Option TzInfo
  inRange : InRange reading

namespace StdDatetime

def utcfromtimestamp (timestamp : ℤ) : Except Exception StdDatetime :=
  if h : InRange timestamp then
    .ok { reading := timestamp, fold := false, tzinfo := none, inRange := h }
  else .error .outOfRange

def fromtimestamp (timestamp : ℤ) (tz : TzInfo) : Except Exception StdDatetime :=
  if InRange timestamp then
    if h : InRange (tz.fromutc timestamp).1 then
      .ok {
        reading := (tz.fromutc timestamp).1
        fold := (tz.fromutc timestamp).2
        tzinfo := some tz
        inRange := h }
    else .error .outOfRange
  else .error .outOfRange

def replaceTzinfo (d : StdDatetime) (tz : TzInfo) : StdDatetime := { d with tzinfo := some tz }

def utcoffset (d : StdDatetime) : Option ℤ := d.tzinfo.map fun tz => tz.utcoffset d.reading d.fold

/-- The seconds since the epoch. A datetime without a zone is a reading of the host's clock, whose
offset is `localOffset`. -/
def timestamp (localOffset : ℤ → ℤ) (d : StdDatetime) : Except Exception ℤ :=
  match d.utcoffset with
  | some offset => .ok (d.reading - offset)
  | none =>
    match mktime localOffset d.fold d.reading with
    | some seconds => .ok seconds
    | none => .error .outOfRange

end StdDatetime

/-! ## The class -/

def NANOS_IN_SECOND : ℕ := 10 ^ 9

structure Datetime where
  tzName : Option String
  offsetSeconds : Option ℤ
  datetimeOfSeconds : StdDatetime
  nanos : ℕ
  nanos_lt : nanos < NANOS_IN_SECOND

namespace Datetime

section

variable (zoneInfo : String → Option TzInfo)

/-- The time zone of a name or an offset. -/
def timezoneInfo (tzName : Option String) (offsetSeconds : Option ℤ) :
    Except Exception (Option TzInfo) :=
  match offsetSeconds, tzName with
  | some offset, _ => (timezone offset).map some
  | none, some name =>
    match zoneInfo name with
    | some tz => .ok (some tz)
    | none => .error (.zoneInfoNotFoundError name)
  | none, none => .ok none

/-- The datetime of a timestamp in a time zone: adjusted to it, or put into it as it is. -/
def datetimeOf (timestampSeconds : ℤ) (tzAdjustTimestamp : Bool) :
    Option TzInfo → Except Exception StdDatetime
  | some tz =>
    if tzAdjustTimestamp then StdDatetime.fromtimestamp timestampSeconds tz
    else (StdDatetime.utcfromtimestamp timestampSeconds).map (·.replaceTzinfo tz)
  | none => StdDatetime.utcfromtimestamp timestampSeconds

/-- `__init__`. -/
def init (timestampSeconds subsecNanos : ℤ) (tzName : Option String) (offsetSeconds : Option ℤ)
    (tzAdjustTimestamp : Bool) : Except Exception Datetime :=
  if h : 0 ≤ subsecNanos ∧ subsecNanos < NANOS_IN_SECOND then
    if offsetSeconds.isSome ∧ tzName.isSome then
      .error (.valueError ("Either 'tz_name' or 'offset_seconds' should be used to set time zone " ++
        "info. Please, provide a single parameter."))
    else do
      let timezoneInfo ← timezoneInfo zoneInfo tzName offsetSeconds
      let datetimeOfSeconds ← datetimeOf timestampSeconds tzAdjustTimestamp timezoneInfo
      .ok {
        tzName := tzName
        offsetSeconds := offsetSeconds
        datetimeOfSeconds := datetimeOfSeconds
        nanos := subsecNanos.toNat
        nanos_lt := by omega }
  else .error (.valueError "subsec_nanos must be between 0 and 999,999,999")

def utcfromtimestamp (timestampSeconds subsecNanos : ℤ) (tzName : Option String)
    (offsetSeconds : Option ℤ) : Except Exception Datetime :=
  init zoneInfo timestampSeconds subsecNanos tzName offsetSeconds false

def fromtimestamp (timestampSeconds subsecNanos : ℤ) (tzName : Option String)
    (offsetSeconds : Option ℤ) : Except Exception Datetime :=
  if tzName = none ∧ offsetSeconds = none then
    .error (.valueError ("Either 'tz_name' or 'offset_seconds' should be provided. Consider " ++
      "using 'utcfromtimestamp' for naive datetime."))
  else init zoneInfo timestampSeconds subsecNanos tzName offsetSeconds true

end

/-- `_to_seconds_and_nanos`. The seconds pass through a float, which holds all of them. -/
def toSecondsAndNanos (localOffset : ℤ → ℤ) (d : Datetime) : Except Exception (ℤ × ℤ) :=
  (d.datetimeOfSeconds.timestamp localOffset).map fun seconds => (seconds, (d.nanos : ℤ))

end Datetime

section RoundTrip

variable (zoneInfo : String → Option TzInfo) (localOffset : ℤ → ℤ)

/-- `try_get_datetime`, of the seconds and nanoseconds of the native layer. -/
def tryGetDatetime (seconds subsecNanos : ℤ) : Except Exception Datetime :=
  Datetime.utcfromtimestamp zoneInfo seconds subsecNanos none none

/-- `new_datetime`, as the seconds and nanoseconds passed to the native layer. -/
def newDatetime (value : Datetime) : Except Exception (ℤ × ℤ) :=
  value.toSecondsAndNanos localOffset

variable {zoneInfo localOffset}

theorem bind_eq_ok {α β : Type} {x : Except Exception α} {f : α → Except Exception β} {b : β}
    (h : (do let a ← x; f a) = .ok b) : ∃ a, x = .ok a ∧ f a = .ok b := by
  cases x with
  | error e => cases h
  | ok a => exact ⟨a, rfl, h⟩

theorem map_eq_ok {α β : Type} {x : Except Exception α} {f : α → β} {b : β}
    (h : x.map f = .ok b) : ∃ a, x = .ok a ∧ f a = b := by
  cases x with
  | error e => cases h
  | ok a => exact ⟨a, rfl, Except.ok.inj h⟩

/-- Without a time zone neither was given. -/
theorem Datetime.timezoneInfo_eq_none {tzName : Option String} {offsetSeconds : Option ℤ}
    (h : timezoneInfo zoneInfo tzName offsetSeconds = .ok none) :
    tzName = none ∧ offsetSeconds = none := by
  cases offsetSeconds with
  | some offset =>
    obtain ⟨_, -, hsome⟩ := map_eq_ok h
    cases hsome
  | none =>
    cases tzName with
    | some name =>
      rw [timezoneInfo] at h
      split at h
      · cases Except.ok.inj h
      · cases h
    | none => exact ⟨rfl, rfl⟩

/-- What the constructor makes of its arguments. -/
theorem Datetime.init_eq_ok {s n : ℤ} {tzName : Option String} {offsetSeconds : Option ℤ}
    {adjust : Bool} {d : Datetime} (h : init zoneInfo s n tzName offsetSeconds adjust = .ok d) :
    d.tzName = tzName ∧ d.offsetSeconds = offsetSeconds ∧ (d.nanos : ℤ) = n ∧
      ∃ tz, timezoneInfo zoneInfo tzName offsetSeconds = .ok tz ∧
        d.datetimeOfSeconds.tzinfo = tz ∧
        (∀ z, tz = some z → adjust = true →
          StdDatetime.fromtimestamp s z = .ok d.datetimeOfSeconds) := by
  rw [init] at h
  split_ifs at h with hn hboth
  obtain ⟨tz, htz, h⟩ := bind_eq_ok h
  obtain ⟨datetime, hdatetime, h⟩ := bind_eq_ok h
  obtain rfl := Except.ok.inj h
  refine ⟨rfl, rfl, by simp only; omega, tz, htz, ?_⟩
  cases tz with
  | none =>
    rw [datetimeOf, StdDatetime.utcfromtimestamp] at hdatetime
    split_ifs at hdatetime
    obtain rfl := Except.ok.inj hdatetime
    exact ⟨rfl, nofun⟩
  | some z =>
    rw [datetimeOf] at hdatetime
    split_ifs at hdatetime with hadjust
    · refine ⟨?_, fun z' hz' _ => by rwa [← Option.some.inj hz']⟩
      rw [StdDatetime.fromtimestamp] at hdatetime
      split_ifs at hdatetime
      obtain rfl := Except.ok.inj hdatetime
      rfl
    · obtain ⟨u, -, hu⟩ := map_eq_ok hdatetime
      obtain rfl := hu
      exact ⟨rfl, fun _ _ hadj => absurd hadj hadjust⟩

theorem tryGetDatetime_eq (zoneInfo : String → Option TzInfo) {s n : ℤ} (hs : InRange s)
    (hn : 0 ≤ n ∧ n < NANOS_IN_SECOND) :
    ∃ d : Datetime, tryGetDatetime zoneInfo s n = .ok d ∧ (d.nanos : ℤ) = n ∧
      d.datetimeOfSeconds = { reading := s, fold := false, tzinfo := none, inRange := hs } := by
  refine ⟨⟨none, none, ⟨s, false, none, hs⟩, n.toNat, by omega⟩, ?_, by simp only; omega, rfl⟩
  rw [tryGetDatetime, Datetime.utcfromtimestamp, Datetime.init, dif_pos hn, if_neg (by simp)]
  have hstd : StdDatetime.utcfromtimestamp s = .ok ⟨s, false, none, hs⟩ := dif_pos hs
  simp only [Datetime.timezoneInfo, bind, Except.bind, Datetime.datetimeOf, hstd]

/-- **A datetime without a zone comes back just when its seconds, read from the host's clock, are
their own time.** -/
theorem datetime_round_trip_iff {s n : ℤ} (hs : InRange s) (hn : 0 ≤ n ∧ n < NANOS_IN_SECOND) :
    (do newDatetime localOffset (← tryGetDatetime zoneInfo s n)) = .ok (s, n) ↔
      IsOwnTime localOffset s := by
  obtain ⟨d, hd, hnanos, hstd⟩ := tryGetDatetime_eq zoneInfo hs hn
  rw [hd, ← LocalTime.mktime_eq_self_iff]
  have hback : (do newDatetime localOffset (← Except.ok d)) = newDatetime localOffset d := rfl
  rw [hback, newDatetime, Datetime.toSecondsAndNanos, hstd, hnanos, StdDatetime.timestamp]
  simp only [StdDatetime.utcoffset, Option.map_none]
  cases mktime localOffset false s with
  | none => simp [Except.map]
  | some seconds => simp [Except.map]

/-- A host whose clock shows UTC, at the epoch. -/
theorem datetime_round_trip_iff_utc :
    (do newDatetime (fun _ => 0) (← tryGetDatetime (fun _ => none) 0 5)) = .ok (0, 5) ↔
      IsOwnTime (fun _ => 0) 0 :=
  datetime_round_trip_iff (by decide) (by decide)

/-- On a host an hour ahead of UTC the epoch comes back an hour early. -/
theorem not_datetime_round_trip :
    ¬ ∀ (localOffset : ℤ → ℤ) (s n : ℤ), InRange s → 0 ≤ n ∧ n < NANOS_IN_SECOND →
      (do newDatetime localOffset (← tryGetDatetime (fun _ => none) s n)) = .ok (s, n) := by
  intro h
  have hepoch := h (fun _ => 3600) 0 0 (by decide) (by decide)
  have hearly : (do newDatetime (fun _ => 3600) (← tryGetDatetime (fun _ => none) 0 0)) =
      .ok (-3600, 0) := rfl
  cases hearly.symm.trans hepoch

/-- **A datetime with a zone comes back, whatever the host's clock.** -/
theorem zoned_round_trip {s n : ℤ} {tzName : Option String} {offsetSeconds : Option ℤ}
    {d : Datetime} (h : Datetime.fromtimestamp zoneInfo s n tzName offsetSeconds = .ok d) :
    newDatetime localOffset d = .ok (s, n) := by
  rw [Datetime.fromtimestamp] at h
  split_ifs at h with hnone
  obtain ⟨-, -, hnanos, tz, htz, htzinfo, hfrom⟩ := Datetime.init_eq_ok h
  cases tz with
  | none =>
    obtain ⟨hname, hoffset⟩ := Datetime.timezoneInfo_eq_none htz
    rw [hname, hoffset] at hnone
    exact absurd ⟨rfl, rfl⟩ hnone
  | some z =>
    have hstd := hfrom z rfl rfl
    rw [newDatetime, Datetime.toSecondsAndNanos, hnanos, StdDatetime.timestamp,
      StdDatetime.utcoffset, htzinfo]
    rw [StdDatetime.fromtimestamp] at hstd
    split_ifs at hstd
    rw [← Except.ok.inj hstd]
    simp only [Option.map_some, Except.map, z.inverse]

end RoundTrip

/-! ## Text -/

/-- The date and time of a reading. -/
def isoReading (reading : ℤ) : List Char :=
  Gregorian.displayDate (reading / 86400 + Gregorian.UNIX_EPOCH_DAY) ++
    'T' :: padded 2 (reading % 86400 / 3600).toNat ++
    ':' :: padded 2 (reading % 86400 / 60 % 60).toNat ++
    ':' :: padded 2 (reading % 86400 % 60).toNat

/-- Seconds in hours and minutes, and in seconds when there are any. -/
def formatClock (n : ℕ) : List Char :=
  padded 2 (n / 3600) ++ ':' :: padded 2 (n / 60 % 60) ++
    if n % 60 = 0 then [] else ':' :: padded 2 (n % 60)

/-- `_format_offset`. -/
def formatOffset (offset : ℤ) : List Char :=
  (if offset < 0 then '-' else '+') :: formatClock offset.natAbs

/-- `datetime.isoformat`, without a fraction of a second. -/
def StdDatetime.isoformat (d : StdDatetime) : List Char :=
  match d.utcoffset with
  | some offset => isoReading d.reading ++ formatOffset offset
  | none => isoReading d.reading

namespace Datetime

def ISO_TZ_LEN : ℕ := 6

def isoformat (d : Datetime) : List Char :=
  let datetimePart := d.datetimeOfSeconds.isoformat
  if d.tzName.isSome ∨ d.offsetSeconds.isSome then
    datetimePart.take (datetimePart.length - ISO_TZ_LEN) ++ '.' :: padded 9 d.nanos ++
      datetimePart.drop (datetimePart.length - ISO_TZ_LEN)
  else datetimePart ++ '.' :: padded 9 d.nanos

end Datetime

/-- A number of two digits. -/
def twoDigits (cs : List Char) : Option ℕ :=
  if cs.length = 2 ∧ AllDigits cs then some (Nat.ofDigitChars 10 cs 0) else none

/-- The seconds of hours and minutes, and seconds if there are any. -/
def readClock (cs : List Char) : Option ℕ :=
  match splitAll ':' cs with
  | [h, m] => do
    let h ← twoDigits h
    let m ← twoDigits m
    some (h * 3600 + m * 60)
  | [h, m, s] => do
    let h ← twoDigits h
    let m ← twoDigits m
    let s ← twoDigits s
    some (h * 3600 + m * 60 + s)
  | _ => none

/-- The offset that a text means. -/
def readOffset : List Char → Option ℤ
  | '+' :: cs => (readClock cs).map fun n : ℕ => (n : ℤ)
  | '-' :: cs => (readClock cs).map fun n : ℕ => -(n : ℤ)
  | _ => none

/-- The text is the reading, nine digits of nanoseconds and the offset, from which the time of the
datetime follows. -/
def Datetime.Complete (d : Datetime) : Prop :=
  ∃ (fraction tz : List Char) (offset : ℤ),
    d.isoformat = isoReading d.datetimeOfSeconds.reading ++ '.' :: fraction ++ tz ∧
      fraction.length = 9 ∧ AllDigits fraction ∧ Nat.ofDigitChars 10 fraction 0 = d.nanos ∧
      readOffset tz = some offset ∧
      ∀ localOffset, d.datetimeOfSeconds.timestamp localOffset =
        .ok (d.datetimeOfSeconds.reading - offset)

theorem twoDigits_padded {n : ℕ} (h : n < 100) : twoDigits (padded 2 n) = some n := by
  rw [twoDigits, if_pos ⟨length_padded (by decide) h, allDigits_padded 2 n⟩, ofDigitChars_padded]

theorem colon_not_mem_padded (n : ℕ) : ':' ∉ padded 2 n :=
  not_mem_of_allDigits (allDigits_padded 2 n) rfl

theorem readClock_formatClock {n : ℕ} (h : n < 86400) : readClock (formatClock n) = some n := by
  have hh := twoDigits_padded (n := n / 3600) (by omega)
  have hm := twoDigits_padded (n := n / 60 % 60) (by omega)
  have hs := twoDigits_padded (n := n % 60) (by omega)
  rw [readClock, formatClock, List.append_assoc, List.cons_append,
    splitAll_append (colon_not_mem_padded _)]
  split_ifs with h0
  · rw [List.append_nil, splitAll_of_not_mem (colon_not_mem_padded _)]
    simp only [hh, hm, Option.bind_eq_bind, Option.bind_some, Option.some.injEq]
    omega
  · rw [splitAll_append (colon_not_mem_padded _), splitAll_of_not_mem (colon_not_mem_padded _)]
    simp only [hh, hm, hs, Option.bind_eq_bind, Option.bind_some, Option.some.injEq]
    omega

/-- **A printed offset means itself.** -/
theorem readOffset_formatOffset {offset : ℤ} (h : offset.natAbs < 86400) :
    readOffset (formatOffset offset) = some offset := by
  rw [formatOffset]
  split_ifs with hneg
  · rw [readOffset, readClock_formatClock h, Option.map_some, Option.some.injEq]
    omega
  · rw [readOffset, readClock_formatClock h, Option.map_some, Option.some.injEq]
    omega

theorem length_formatOffset {offset : ℤ} (h : offset.natAbs < 86400) :
    (formatOffset offset).length = if offset.natAbs % 60 = 0 then 6 else 9 := by
  have htwo : ∀ m < 100, (padded 2 m).length = 2 := fun m hm => length_padded (by decide) hm
  have hh := htwo (offset.natAbs / 3600) (by omega)
  have hm := htwo (offset.natAbs / 60 % 60) (by omega)
  have hs := htwo (offset.natAbs % 60) (by omega)
  rw [formatOffset, formatClock]
  split_ifs <;> simp [hh, hm, hs]

section Zoned

variable {zoneInfo : String → Option TzInfo} {s n : ℤ} {tzName : Option String}
  {offsetSeconds : Option ℤ} {adjust : Bool} {d : Datetime}

/-- A zoned datetime has an offset, of less than a day. -/
theorem exists_utcoffset (h : Datetime.init zoneInfo s n tzName offsetSeconds adjust = .ok d)
    (hzone : tzName.isSome ∨ offsetSeconds.isSome) :
    ∃ offset, d.datetimeOfSeconds.utcoffset = some offset ∧ offset.natAbs < 86400 := by
  obtain ⟨-, -, -, tz, htz, htzinfo, -⟩ := Datetime.init_eq_ok h
  cases tz with
  | none =>
    obtain ⟨hname, hoffset⟩ := Datetime.timezoneInfo_eq_none htz
    simp [hname, hoffset] at hzone
  | some z =>
    rw [StdDatetime.utcoffset, htzinfo]
    exact ⟨_, rfl, z.bounded _ _⟩

/-- The text of a zoned datetime, cut six characters before its end. -/
theorem isoformat_eq (h : Datetime.init zoneInfo s n tzName offsetSeconds adjust = .ok d)
    (hzone : tzName.isSome ∨ offsetSeconds.isSome) {offset : ℤ}
    (hoffset : d.datetimeOfSeconds.utcoffset = some offset) (hbound : offset.natAbs < 86400) :
    d.isoformat = isoReading d.datetimeOfSeconds.reading ++
      (formatOffset offset).take ((formatOffset offset).length - 6) ++ '.' :: padded 9 d.nanos ++
      (formatOffset offset).drop ((formatOffset offset).length - 6) := by
  obtain ⟨hname, hseconds, -⟩ := Datetime.init_eq_ok h
  have hlen := length_formatOffset hbound
  have hsix : 6 ≤ (formatOffset offset).length := by
    rw [hlen]
    split_ifs <;> omega
  rw [← hname, ← hseconds] at hzone
  have hsub : (isoReading d.datetimeOfSeconds.reading ++ formatOffset offset).length -
      Datetime.ISO_TZ_LEN = (isoReading d.datetimeOfSeconds.reading).length +
        ((formatOffset offset).length - 6) := by
    rw [List.length_append, Datetime.ISO_TZ_LEN]
    omega
  rw [Datetime.isoformat, if_pos hzone, StdDatetime.isoformat, hoffset]
  dsimp only
  rw [hsub, List.take_length_add_append, List.drop_length_add_append]

/-- **The text of a zoned datetime is complete just when its offset is a number of full minutes.** -/
theorem isoformat_complete_iff
    (h : Datetime.init zoneInfo s n tzName offsetSeconds adjust = .ok d)
    (hzone : tzName.isSome ∨ offsetSeconds.isSome) :
    ∃ offset, d.datetimeOfSeconds.utcoffset = some offset ∧ (d.Complete ↔ 60 ∣ offset) := by
  obtain ⟨offset, hoffset, hbound⟩ := exists_utcoffset h hzone
  refine ⟨offset, hoffset, ?_⟩
  have htext := isoformat_eq h hzone hoffset hbound
  have hlen := length_formatOffset hbound
  constructor
  · rintro ⟨fraction, tz, o, hiso, -⟩
    by_contra hdvd
    have hmod : offset.natAbs % 60 ≠ 0 := by omega
    rw [if_neg hmod] at hlen
    -- the sign of the offset stands where the fraction begins
    rw [htext, hlen, formatOffset] at hiso
    simp only [List.append_assoc, List.append_cancel_left_eq] at hiso
    have hsign := (List.cons.inj hiso).1
    split_ifs at hsign <;> cases hsign
  · intro hdvd
    have hmod : offset.natAbs % 60 = 0 := by omega
    rw [if_pos hmod] at hlen
    rw [hlen, List.take_zero, List.drop_zero, List.append_nil] at htext
    refine ⟨padded 9 d.nanos, formatOffset offset, offset, htext,
      length_padded (by decide) d.nanos_lt, allDigits_padded 9 d.nanos, ofDigitChars_padded 9 d.nanos,
      readOffset_formatOffset hbound, fun localOffset => ?_⟩
    rw [StdDatetime.timestamp, hoffset]

end Zoned

/-- The epoch, an hour east. -/
theorem isoformat_complete_iff_hour :
    ∃ d, Datetime.init (fun _ => none) 0 5 none (some 3600) true = .ok d ∧
      ∃ offset, d.datetimeOfSeconds.utcoffset = some offset ∧ (d.Complete ↔ 60 ∣ offset) := by
  obtain ⟨d, hd⟩ : ∃ d, Datetime.init (fun _ => none) 0 5 none (some 3600) true = .ok d := ⟨_, rfl⟩
  exact ⟨d, hd, isoformat_complete_iff hd (.inr rfl)⟩

/-- The epoch in the local mean time of Amsterdam: the nanoseconds stand inside the offset. -/
theorem not_complete :
    ∃ d, Datetime.init (fun _ => none) 0 0 none (some 1172) true = .ok d ∧
      d.isoformat = "1970-01-01T00:19:32+00.000000000:19:32".toList ∧ ¬ d.Complete := by
  refine ⟨_, rfl, by decide +kernel, ?_⟩
  rintro ⟨fraction, tz, o, hiso, -⟩
  have hdot := congrArg (fun text => text[19]?) hiso
  cases hdot

end TypeDBDriver.Python
