import TypeDBDriver.Concept.Value

/-!
# The proleptic Gregorian calendar

The date and time library at work: dates are day counts from the first of January of the year 1,
datetimes are seconds of the Unix epoch and nanoseconds, of which a second before a full minute
may have up to two billion.

* `civil`: the year, month and day of a day count.
* `Gregorian.chrono`: the library, with two zones of its database.
* **`Gregorian.inverse`**: its conversions are inverse on what it can represent.
-/

namespace TypeDBDriver

namespace Gregorian

open Numeral

/-- The first of January 262144 BCE and the last of December 262142. -/
def minDays : ℤ := -95746129
def maxDays : ℤ := 95745399

/-- The day count of the Unix epoch. -/
def UNIX_EPOCH_DAY : ℤ := 719163

def NaiveDate : Type := { days : Int32 // minDays ≤ days.toInt ∧ days.toInt ≤ maxDays }

/-- The seconds lie on a day that there is, and only the last second of a minute is longer. -/
def ValidTimestamp (seconds : Int64) (nanos : UInt32) : Prop :=
  minDays ≤ seconds.toInt / 86400 + UNIX_EPOCH_DAY ∧
    seconds.toInt / 86400 + UNIX_EPOCH_DAY ≤ maxDays ∧ nanos.toNat < 2000000000 ∧
    (1000000000 ≤ nanos.toNat → seconds.toInt % 60 = 59)

instance (seconds : Int64) (nanos : UInt32) : Decidable (ValidTimestamp seconds nanos) :=
  inferInstanceAs (Decidable (_ ∧ _))

def NaiveDateTime : Type := { t : Int64 × UInt32 // ValidTimestamp t.1 t.2 }

inductive Tz
  | utc
  | gmtMinus9
  deriving DecidableEq

def Tz.fromStr (name : String) : Option Tz :=
  if name = "UTC" then some .utc
  else if name = "Etc/GMT-9" then some .gmtMinus9
  else none

def Tz.name : Tz → String
  | utc => "UTC"
  | gmtMinus9 => "Etc/GMT-9"

/-- Seconds east of UTC. -/
def Tz.offset : Tz → ℤ
  | utc => 0
  | gmtMinus9 => 32400

/-- The year, month and day of a day count; years are counted from the first of March. -/
def civil (days : ℤ) : ℤ × ℤ × ℤ :=
  let z := days + 305
  let era := z / 146097
  let doe := z % 146097
  let yoe := (doe - doe / 1460 + doe / 36524 - doe / 146096) / 365
  let doy := doe - (365 * yoe + yoe / 4 - yoe / 100)
  let mp := (5 * doy + 2) / 153
  let day := doy - (153 * mp + 2) / 5 + 1
  let month := if mp < 10 then mp + 3 else mp - 9
  (yoe + era * 400 + (if month ≤ 2 then 1 else 0), month, day)

/-- `%Y`: years of more than four digits and negative years are written with their sign. -/
def displayYear (year : ℤ) : List Char :=
  if 0 ≤ year ∧ year ≤ 9999 then padded 4 year.toNat
  else (if year < 0 then '-' else '+') :: padded 4 year.natAbs

/-- `%F`. -/
def displayDate (days : ℤ) : List Char :=
  let (year, month, day) := civil days
  displayYear year ++ '-' :: padded 2 month.toNat ++ '-' :: padded 2 day.toNat

/-- `%FT%T%.9f`. -/
def displayDatetime (seconds : ℤ) (nanos : ℕ) : List Char :=
  let second := seconds % 86400
  displayDate (seconds / 86400 + UNIX_EPOCH_DAY) ++ 'T' :: padded 2 (second / 3600).toNat ++
    ':' :: padded 2 (second / 60 % 60).toNat ++
    ':' :: padded 2 ((second % 60).toNat + nanos / 1000000000) ++
    '.' :: padded 9 (nanos % 1000000000)

/-- `%:z`, to the nearest minute. -/
def displayOffset (offset : ℤ) : List Char :=
  let minutes := (offset.natAbs + 30) / 60
  (if offset < 0 then '-' else '+') :: padded 2 (minutes / 60) ++ ':' :: padded 2 (minutes % 60)

/-- The library on this calendar. -/
def chrono : Chrono where
  NaiveDate := NaiveDate
  NaiveDateTime := NaiveDateTime
  Tz := Tz
  fromNumDaysFromCeOpt days :=
    if h : minDays ≤ days.toInt ∧ days.toInt ≤ maxDays then some ⟨days, h⟩ else none
  numDaysFromCe date := date.val
  fromTimestamp seconds nanos :=
    if h : ValidTimestamp seconds nanos then some ⟨(seconds, nanos), h⟩ else none
  timestamp datetime := datetime.val.1
  nanosecond datetime := datetime.val.2
  tzFromStr := Tz.fromStr
  tzName := Tz.name
  formatDate date := String.ofList (displayDate date.val.toInt)
  formatDatetime datetime :=
    String.ofList (displayDatetime datetime.val.1.toInt datetime.val.2.toNat)
  formatIANA datetime tz :=
    String.ofList (displayDatetime (datetime.val.1.toInt + tz.offset) datetime.val.2.toNat)
  formatFixed datetime offset :=
    String.ofList (displayDatetime (datetime.val.1.toInt + offset.localMinusUtc.toInt)
      datetime.val.2.toNat ++ displayOffset offset.localMinusUtc.toInt)

/-- The day before the Unix epoch, one second and a half before its end, nine hours east. -/
example : displayDatetime (-2 + 32400) 500000000 ++ displayOffset 32400 =
    "1970-01-01T08:59:58.500000000+09:00".toList := by
  decide

/-- **The conversions are inverse on what the library can represent.** -/
theorem inverse : chrono.Inverse where
  date_of_days d := dif_pos d.2
  days_of_date n d h := by
    simp only [chrono] at h
    split at h
    · cases h
      rfl
    · cases h
  datetime_of_timestamp t := dif_pos t.2
  timestamp_of_datetime s n t h := by
    simp only [chrono] at h
    split at h
    · cases h
      exact ⟨rfl, rfl⟩
    · cases h
  zone_of_name z := by
    cases z with
    | utc => simp [chrono, Tz.name, Tz.fromStr]
    | gmtMinus9 => simp [chrono, Tz.name, Tz.fromStr]

end Gregorian

end TypeDBDriver
