import TypeDBDriver.Concept.Chrono
import TypeDBDriver.Concept.Proto
import TypeDBDriver.Ffi.Memory

/-!
# Values that cross the C interface

* `ChronoFfi`: what the interface uses of the date and time library besides the driver's own uses.
* `conceptGetBoolean` and so on: a value taken apart; `conceptNewBoolean` and so on: a value rebuilt
  from its parts. `none` is a panic.
* `rebuild`: a value taken apart and rebuilt by the functions of its type.
* **`rebuild_iff`**: exactly the values that are no text with a NUL come back, when a decimal has its
  fraction in range.
-/

namespace TypeDBDriver.Ffi

/-- What the C interface uses of the date and time library besides. -/
structure ChronoFfi (C : Chrono) where
  /-- `and_time(NaiveTime::MIN)` -/
  midnight : C.NaiveDate → C.NaiveDateTime
  /-- `date_naive` -/
  date : C.NaiveDateTime → C.NaiveDate
  fromStrInsensitive : String → Option C.Tz

/-- The conversions are inverse on what the library can represent, and zones have plain names. -/
structure ChronoFfi.Inverse {C : Chrono} (L : ChronoFfi C) : Prop where
  date_midnight : ∀ d, L.date (L.midnight d) = d
  nanosecond_midnight : ∀ d, C.nanosecond (L.midnight d) = 0
  zone_of_name : ∀ z, L.fromStrInsensitive (C.tzName z) = some z
  name_noNul : ∀ z, NUL ∉ (C.tzName z).toList

variable {C : Chrono} (L : ChronoFfi C)

/-! ## Taking apart -/

def tryGetValue : Concept C → Option (Value C)
  | .attribute attr => some attr.value
  | .value value => some value
  | _ => none

/-- Seconds since the Unix epoch, and nanoseconds since the last full second. -/
structure DatetimeInNanos where
  seconds : Int64
  subsecNanos : UInt32

def DatetimeInNanos.new (datetime : C.NaiveDateTime) : DatetimeInNanos :=
  ⟨C.timestamp datetime, C.nanosecond datetime⟩

/-- Either the name of the zone or its offset is set. -/
structure DatetimeAndTimeZone where
  datetimeInNanos : DatetimeInNanos
  zoneName : CString
  localMinusUtcOffset : Int32
  isFixedOffset : Bool

def DatetimeAndTimeZone.new (datetimeTz : DateTime C) : Option DatetimeAndTimeZone := do
  let (zoneName, offset, isFixedOffset) : String × Int32 × Bool :=
    match datetimeTz.timezone with
    | .IANA tz => (C.tzName tz, 0, false)
    | .fixed offset => ("", offset.localMinusUtc, true)
  some ⟨.new datetimeTz.naiveUtc, ← releaseString zoneName, offset, isFixedOffset⟩

def conceptGetBoolean (concept : Concept C) : Option Bool :=
  match tryGetValue concept with
  | some (.boolean v) => some v
  | _ => none

def conceptGetInteger (concept : Concept C) : Option Int64 :=
  match tryGetValue concept with
  | some (.integer v) => some v
  | _ => none

def conceptGetDouble (concept : Concept C) : Option Double :=
  match tryGetValue concept with
  | some (.double v) => some v
  | _ => none

def conceptGetDecimal (concept : Concept C) : Option Decimal :=
  match tryGetValue concept with
  | some (.decimal v) => some v
  | _ => none

def conceptGetString (concept : Concept C) : Option CString :=
  match tryGetValue concept with
  | some (.string v) => releaseString v
  | _ => none

def conceptGetDateAsSeconds (concept : Concept C) : Option Int64 :=
  match tryGetValue concept with
  | some (.date v) => some (C.timestamp (L.midnight v))
  | _ => none

def conceptGetDatetime (concept : Concept C) : Option DatetimeInNanos :=
  match tryGetValue concept with
  | some (.datetime v) => some (.new v)
  | _ => none

def conceptGetDatetimeTz (concept : Concept C) : Option DatetimeAndTimeZone :=
  match tryGetValue concept with
  | some (.datetimeTZ v) => DatetimeAndTimeZone.new v
  | _ => none

def conceptGetDuration (concept : Concept C) : Option Duration :=
  match tryGetValue concept with
  | some (.duration v) => some v
  | _ => none

/-! ## Rebuilding -/

def conceptNewBoolean (value : Bool) : Option (Concept C) := some (.value (.boolean value))

def conceptNewInteger (value : Int64) : Option (Concept C) := some (.value (.integer value))

def conceptNewDouble (value : Double) : Option (Concept C) := some (.value (.double value))

def conceptNewString (value : CString) : Option (Concept C) := do
  some (.value (.string (← stringView value)))

def conceptNewDecimal (integer : Int64) (fractional : UInt64) : Option (Concept C) := do
  some (.value (.decimal (← Decimal.fromParts integer fractional)))

def conceptNewDateFromSeconds (secondsSinceEpoch : Int64) : Option (Concept C) := do
  some (.value (.date (L.date (← C.fromTimestamp secondsSinceEpoch 0))))

def conceptNewDatetime (seconds : Int64) (subsecNanos : UInt32) : Option (Concept C) := do
  some (.value (.datetime (← C.fromTimestamp seconds subsecNanos)))

def conceptNewDatetimeTzIana (seconds : Int64) (subsecNanos : UInt32) (zoneName : CString) :
    Option (Concept C) := do
  let naiveDatetime ← C.fromTimestamp seconds subsecNanos
  let tz ← L.fromStrInsensitive (← stringView zoneName)
  some (.value (.datetimeTZ ⟨naiveDatetime, .IANA tz⟩))

def conceptNewDatetimeTzOffset (seconds : Int64) (subsecNanos : UInt32) (offsetSeconds : Int32) :
    Option (Concept C) := do
  let naiveDatetime ← C.fromTimestamp seconds subsecNanos
  let offset ← FixedOffset.eastOpt offsetSeconds
  some (.value (.datetimeTZ ⟨naiveDatetime, .fixed offset⟩))

def conceptNewDuration (months days : UInt32) (nanos : UInt64) : Option (Concept C) :=
  some (.value (.duration ⟨months, days, nanos⟩))

/-- A value taken apart and rebuilt by the functions of its type; there are none for structs. -/
def rebuild (value : Value C) : Option (Concept C) :=
  let concept := Concept.value value
  match value with
  | .boolean _ => do conceptNewBoolean (← conceptGetBoolean concept)
  | .integer _ => do conceptNewInteger (← conceptGetInteger concept)
  | .double _ => do conceptNewDouble (← conceptGetDouble concept)
  | .decimal _ => do
    let decimal ← conceptGetDecimal concept
    conceptNewDecimal decimal.integer decimal.fractional
  | .string _ => do conceptNewString (← conceptGetString concept)
  | .date _ => do conceptNewDateFromSeconds L (← conceptGetDateAsSeconds L concept)
  | .datetime _ => do
    let datetime ← conceptGetDatetime concept
    conceptNewDatetime datetime.seconds datetime.subsecNanos
  | .datetimeTZ _ => do
    let ⟨⟨seconds, subsecNanos⟩, zoneName, offset, isFixedOffset⟩ ← conceptGetDatetimeTz concept
    if isFixedOffset then conceptNewDatetimeTzOffset seconds subsecNanos offset
    else conceptNewDatetimeTzIana L seconds subsecNanos zoneName
  | .duration _ => do
    let duration ← conceptGetDuration concept
    conceptNewDuration duration.months duration.days duration.nanos
  | .struct _ _ => none

/-! ## The round trip -/

variable {L}

/-- A date is rebuilt from the seconds of its midnight. -/
theorem rebuild_date (hC : C.Inverse) (hL : L.Inverse) (v : C.NaiveDate) :
    rebuild L (.date v) = some (.value (.date v)) := by
  have hdatetime := hC.datetime_of_timestamp (L.midnight v)
  rw [hL.nanosecond_midnight] at hdatetime
  show conceptNewDateFromSeconds L (C.timestamp (L.midnight v)) = _
  rw [conceptNewDateFromSeconds, hdatetime]
  exact congrArg (fun d => some (Concept.value (Value.date d))) (hL.date_midnight v)

theorem rebuild_datetime (hC : C.Inverse) (v : C.NaiveDateTime) :
    rebuild L (.datetime v) = some (.value (.datetime v)) := by
  show conceptNewDatetime (C.timestamp v) (C.nanosecond v) = _
  rw [conceptNewDatetime, hC.datetime_of_timestamp v]
  rfl

/-- The zone is rebuilt from its name, or from its offset. -/
theorem rebuild_datetimeTZ (hC : C.Inverse) (hL : L.Inverse) (v : DateTime C) :
    rebuild L (.datetimeTZ v) = some (.value (.datetimeTZ v)) := by
  obtain ⟨naiveUtc, timezone⟩ := v
  cases timezone with
  | IANA tz =>
    obtain ⟨name, hname⟩ :=
      Option.isSome_iff_exists.mp (isSome_releaseString.mpr (hL.name_noNul tz))
    have hparts : conceptGetDatetimeTz (.value (.datetimeTZ ⟨naiveUtc, .IANA tz⟩)) =
        some ⟨.new naiveUtc, name, 0, false⟩ := by
      simp [conceptGetDatetimeTz, tryGetValue, DatetimeAndTimeZone.new, hname]
    have hzone : conceptNewDatetimeTzIana L (C.timestamp naiveUtc) (C.nanosecond naiveUtc) name =
        some (.value (.datetimeTZ ⟨naiveUtc, .IANA tz⟩)) := by
      rw [conceptNewDatetimeTzIana, hC.datetime_of_timestamp, stringView_of_releaseString hname]
      simp [hL.zone_of_name]
    rw [rebuild, hparts]
    exact hzone
  | fixed offset =>
    obtain ⟨name, hname⟩ := Option.isSome_iff_exists.mp
      (isSome_releaseString.mpr (show NUL ∉ "".toList by decide))
    have hparts : conceptGetDatetimeTz (.value (.datetimeTZ ⟨naiveUtc, .fixed offset⟩)) =
        some ⟨.new naiveUtc, name, offset.localMinusUtc, true⟩ := by
      simp [conceptGetDatetimeTz, tryGetValue, DatetimeAndTimeZone.new, hname]
    have hoffset : conceptNewDatetimeTzOffset (C.timestamp naiveUtc) (C.nanosecond naiveUtc)
        offset.localMinusUtc = some (.value (.datetimeTZ ⟨naiveUtc, .fixed offset⟩)) := by
      rw [conceptNewDatetimeTzOffset, hC.datetime_of_timestamp, FixedOffset.eastOpt_localMinusUtc]
      rfl
    rw [rebuild, hparts]
    exact hoffset

/-- The parts of a decimal are asserted to be in range when it is rebuilt. -/
theorem rebuild_decimal (v : Decimal) :
    rebuild L (.decimal v) = some (.value (.decimal v)) ↔ v.Bounded := by
  show conceptNewDecimal v.integer v.fractional = _ ↔ _
  simp only [conceptNewDecimal, Option.bind_eq_bind, Option.bind_eq_some_iff, Option.some.injEq,
    Concept.value.injEq, Value.decimal.injEq]
  constructor
  · rintro ⟨d, hd, rfl⟩
    exact (Decimal.fromParts_eq_some.mp hd).1
  · intro hv
    exact ⟨v, hv.fromParts, rfl⟩

/-- A text comes back just when it contains no NUL; otherwise handing it out panics. -/
theorem rebuild_string (v : String) :
    rebuild L (.string v) = some (.value (.string v)) ↔ NUL ∉ v.toList := by
  show (releaseString v).bind (fun c => conceptNewString c) = _ ↔ _
  rw [← isSome_releaseString]
  cases h : releaseString v with
  | none => simp
  | some c => simp [conceptNewString, stringView_of_releaseString h]

/-- **A value comes back just when it is no text with a NUL**, and no decimal that `fromParts`
would refuse. -/
theorem rebuild_iff (hC : C.Inverse) (hL : L.Inverse) (v : Value C) (hstruct : ¬ v.IsStruct) :
    rebuild L v = some (.value v) ↔
      v.Bounded ∧ ∀ text, v = .string text → NUL ∉ text.toList := by
  cases v with
  | string text =>
    rw [rebuild_string]
    constructor
    · intro h
      refine ⟨trivial, ?_⟩
      rintro text' ⟨⟩
      exact h
    · exact fun h => h.2 text rfl
  | boolean v | integer v | double v | duration v => exact iff_of_true rfl ⟨trivial, nofun⟩
  | decimal v => exact (rebuild_decimal v).trans ⟨fun h => ⟨h, nofun⟩, And.left⟩
  | date v => exact iff_of_true (rebuild_date hC hL v) ⟨trivial, nofun⟩
  | datetime v => exact iff_of_true (rebuild_datetime hC v) ⟨trivial, nofun⟩
  | datetimeTZ v => exact iff_of_true (rebuild_datetimeTZ hC hL v) ⟨trivial, nofun⟩
  | struct fields name => exact absurd trivial hstruct

/-! ## The calendar -/

/-- The seconds of the midnight that a day begins with. -/
def midnightSeconds (days : ℤ) : ℤ := (days - Gregorian.UNIX_EPOCH_DAY) * 86400

theorem toInt_midnight (d : Gregorian.NaiveDate) :
    (Int64.ofInt (midnightSeconds d.val.toInt)).toInt = midnightSeconds d.val.toInt := by
  obtain ⟨hmin, hmax⟩ := d.property
  unfold Gregorian.minDays at hmin
  unfold Gregorian.maxDays at hmax
  refine Int64.toInt_ofInt_of_le ?_ ?_ <;> unfold midnightSeconds Gregorian.UNIX_EPOCH_DAY <;> omega

theorem midnight_day (days : ℤ) :
    midnightSeconds days / 86400 + Gregorian.UNIX_EPOCH_DAY = days := by
  unfold midnightSeconds
  omega

theorem valid_midnight (d : Gregorian.NaiveDate) :
    Gregorian.ValidTimestamp (Int64.ofInt (midnightSeconds d.val.toInt)) 0 := by
  unfold Gregorian.ValidTimestamp
  rw [toInt_midnight, midnight_day]
  exact ⟨d.property.1, d.property.2, by decide, fun h => absurd h (by decide)⟩

def midnight (d : Gregorian.NaiveDate) : Gregorian.NaiveDateTime :=
  ⟨(Int64.ofInt (midnightSeconds d.val.toInt), 0), valid_midnight d⟩

theorem toInt_day (t : Gregorian.NaiveDateTime) :
    (Int32.ofInt (t.val.1.toInt / 86400 + Gregorian.UNIX_EPOCH_DAY)).toInt =
      t.val.1.toInt / 86400 + Gregorian.UNIX_EPOCH_DAY := by
  obtain ⟨hmin, hmax, -⟩ := t.property
  unfold Gregorian.minDays at hmin
  unfold Gregorian.maxDays at hmax
  exact Int32.toInt_ofInt_of_le (by omega) (by omega)

def dayOf (t : Gregorian.NaiveDateTime) : Gregorian.NaiveDate :=
  ⟨Int32.ofInt (t.val.1.toInt / 86400 + Gregorian.UNIX_EPOCH_DAY), by
    rw [toInt_day]
    exact ⟨t.property.1, t.property.2.1⟩⟩

theorem dayOf_midnight (d : Gregorian.NaiveDate) : dayOf (midnight d) = d := by
  refine Subtype.ext ?_
  show Int32.ofInt ((Int64.ofInt (midnightSeconds d.val.toInt)).toInt / 86400 +
    Gregorian.UNIX_EPOCH_DAY) = d.val
  rw [toInt_midnight, midnight_day, Int32.ofInt_toInt]

def zoneNamed (name : String) : Option Gregorian.Tz :=
  let name := name.toList.map Char.toLower
  if name = "utc".toList then some .utc
  else if name = "etc/gmt-9".toList then some .gmtMinus9
  else none

theorem zoneNamed_name (z : Gregorian.Tz) : zoneNamed z.name = some z := by
  cases z <;> decide

/-- The library on the calendar with two zones. -/
def gregorian : ChronoFfi Gregorian.chrono := ⟨midnight, dayOf, zoneNamed⟩

theorem gregorian_inverse : gregorian.Inverse where
  date_midnight := dayOf_midnight
  nanosecond_midnight _ := rfl
  zone_of_name := zoneNamed_name
  name_noNul z := by
    have h : ∀ z : Gregorian.Tz, NUL ∉ z.name.toList := by
      intro z
      cases z <;> decide
    exact h z

/-- A text with a NUL cannot be handed out. -/
theorem not_rebuild : ¬ ∀ v : Value Gregorian.chrono, ¬ v.IsStruct → v.Bounded →
    rebuild gregorian v = some (.value v) := by
  intro h
  have htext := (rebuild_string _).mp (h (.string (String.ofList [NUL])) not_false trivial)
  simp at htext

theorem rebuild_iff_utc :
    rebuild gregorian (.datetimeTZ ⟨⟨(-1, 5), by decide⟩, .IANA .utc⟩) =
      some (.value (.datetimeTZ ⟨⟨(-1, 5), by decide⟩, .IANA .utc⟩)) ↔
        (.datetimeTZ ⟨⟨(-1, 5), by decide⟩, .IANA .utc⟩ : Value Gregorian.chrono).Bounded ∧
          ∀ text, (.datetimeTZ ⟨⟨(-1, 5), by decide⟩, .IANA .utc⟩ : Value Gregorian.chrono) =
            .string text → NUL ∉ text.toList :=
  rebuild_iff Gregorian.inverse gregorian_inverse _ not_false

end TypeDBDriver.Ffi
