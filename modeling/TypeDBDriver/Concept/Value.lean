import TypeDBDriver.Concept.Decimal
import TypeDBDriver.Concept.Duration
import TypeDBDriver.Lib.Double

/-!
# Concepts and values

Dates, datetimes and named time zones are the date and time library's; it is a parameter.

* `FixedOffset`, `Chrono`, `TimeZone`, `DateTime`: what the driver uses of the library.
* `Kind`, `ValueType`, `Value`, `Concept`, `Type_`: the data of an answer.
* `Chrono.Inverse`: the library's conversions are inverse on what it can represent.
-/

namespace TypeDBDriver

/-- A fixed offset from UTC of less than a day, in seconds. -/
@[ext] structure FixedOffset where
  localMinusUtc : Int32
  lower : -86400 < localMinusUtc.toInt
  upper : localMinusUtc.toInt < 86400
  deriving DecidableEq

namespace FixedOffset

/-- `secs` seconds east of UTC. -/
def eastOpt (secs : Int32) : Option FixedOffset :=
  if h : -86400 < secs.toInt ∧ secs.toInt < 86400 then some ⟨secs, h.1, h.2⟩ else none

theorem toInt_neg {secs : Int32} (h : -86400 < secs.toInt ∧ secs.toInt < 86400) :
    (-secs).toInt = -secs.toInt := by
  rw [Int32.toInt_neg]
  exact Int.bmod_eq_of_le (by omega) (by omega)

/-- `secs` seconds west of UTC. -/
def westOpt (secs : Int32) : Option FixedOffset :=
  if h : -86400 < secs.toInt ∧ secs.toInt < 86400 then
    some ⟨-secs, by rw [toInt_neg h]; omega, by rw [toInt_neg h]; omega⟩
  else none

theorem isSome_eastOpt (secs : Int32) :
    (eastOpt secs).isSome = decide (-86400 < secs.toInt ∧ secs.toInt < 86400) := by
  rw [eastOpt]
  split <;> simp_all

theorem eastOpt_localMinusUtc (offset : FixedOffset) :
    eastOpt offset.localMinusUtc = some offset := by
  rw [eastOpt, dif_pos ⟨offset.lower, offset.upper⟩]

theorem localMinusUtc_of_eastOpt {secs : Int32} {offset : FixedOffset}
    (h : eastOpt secs = some offset) : offset.localMinusUtc = secs := by
  rw [eastOpt] at h
  split at h
  · cases h
    rfl
  · cases h

/-- West of UTC by the negated offset is east of UTC by the offset. -/
theorem westOpt_eq {secs negated : Int32} (h : negated.toInt = -secs.toInt) :
    westOpt negated = eastOpt secs := by
  rw [westOpt, eastOpt]
  by_cases hr : -86400 < secs.toInt ∧ secs.toInt < 86400
  · have hn : -86400 < negated.toInt ∧ negated.toInt < 86400 := by omega
    have heq : -negated = secs := by
      rw [← Int32.toInt_inj, toInt_neg hn, h, neg_neg]
    simp only [dif_pos hn, dif_pos hr, heq]
  · rw [dif_neg hr, dif_neg (by omega)]

end FixedOffset

/-- What the driver uses of the date and time library. -/
structure Chrono where
  NaiveDate : Type
  NaiveDateTime : Type
  Tz : Type
  fromNumDaysFromCeOpt : Int32 → Option NaiveDate
  numDaysFromCe : NaiveDate → Int32
  /-- `DateTime::from_timestamp`, then `naive_utc` -/
  fromTimestamp : Int64 → UInt32 → Option NaiveDateTime
  timestamp : NaiveDateTime → Int64
  nanosecond : NaiveDateTime → UInt32
  tzFromStr : String → Option Tz
  tzName : Tz → String
  /-- `%Y-%m-%d` -/
  formatDate : NaiveDate → String
  /-- `%FT%T%.9f` -/
  formatDatetime : NaiveDateTime → String
  /-- `%FT%T%.9f` of the local time in a zone -/
  formatIANA : NaiveDateTime → Tz → String
  /-- `%FT%T%.9f%:z` of the local time at an offset -/
  formatFixed : NaiveDateTime → FixedOffset → String

/-- The library's conversions are inverse on the values it can represent. -/
structure Chrono.Inverse (C : Chrono) : Prop where
  date_of_days : ∀ d, C.fromNumDaysFromCeOpt (C.numDaysFromCe d) = some d
  days_of_date : ∀ n d, C.fromNumDaysFromCeOpt n = some d → C.numDaysFromCe d = n
  datetime_of_timestamp : ∀ t, C.fromTimestamp (C.timestamp t) (C.nanosecond t) = some t
  timestamp_of_datetime : ∀ s n t, C.fromTimestamp s n = some t →
    C.timestamp t = s ∧ C.nanosecond t = n
  zone_of_name : ∀ z, C.tzFromStr (C.tzName z) = some z

inductive TimeZone (C : Chrono)
  | IANA (tz : C.Tz)
  | fixed (offset : FixedOffset)

/-- A point in time, in UTC, and the zone it is shown in. -/
structure DateTime (C : Chrono) where
  naiveUtc : C.NaiveDateTime
  timezone : TimeZone C

inductive Kind
  | entity
  | attribute
  | relation
  | role
  deriving DecidableEq

def Kind.name : Kind → String
  | .entity => "entity"
  | .attribute => "attribute"
  | .relation => "relation"
  | .role => "relation:role"

inductive ValueType
  | boolean
  | integer
  | double
  | decimal
  | string
  | date
  | datetime
  | datetimeTZ
  | duration
  | struct (name : String)
  deriving DecidableEq

namespace ValueType

def NONE_STR : String := "none"
def BOOLEAN_STR : String := "boolean"
def INTEGER_STR : String := "integer"
def DOUBLE_STR : String := "double"
def DECIMAL_STR : String := "decimal"
def STRING_STR : String := "string"
def DATE_STR : String := "date"
def DATETIME_STR : String := "datetime"
def DATETIME_TZ_STR : String := "datetime-tz"
def DURATION_STR : String := "duration"

def name : ValueType → String
  | boolean => BOOLEAN_STR
  | integer => INTEGER_STR
  | double => DOUBLE_STR
  | decimal => DECIMAL_STR
  | string => STRING_STR
  | date => DATE_STR
  | datetime => DATETIME_STR
  | datetimeTZ => DATETIME_TZ_STR
  | duration => DURATION_STR
  | struct name => name

end ValueType

/-- A value; the fields of a struct are a hash map, given as its entries. -/
inductive Value (C : Chrono)
  | boolean (v : Bool)
  | integer (v : Int64)
  | double (v : Double)
  | decimal (v : Decimal)
  | string (v : String)
  | date (v : C.NaiveDate)
  | datetime (v : C.NaiveDateTime)
  | datetimeTZ (v : DateTime C)
  | duration (v : Duration)
  | struct (fields : List (String × Option (Value C))) (name : String)

/-- A decimal has a fraction that `Decimal.fromParts` accepts. -/
def Value.Bounded {C : Chrono} : Value C → Prop
  | decimal v => v.Bounded
  | _ => True

def DateTime.display {C : Chrono} (datetime : DateTime C) : String :=
  match datetime.timezone with
  | .IANA tz => C.formatIANA datetime.naiveUtc tz ++ " " ++ C.tzName tz
  | .fixed offset => C.formatFixed datetime.naiveUtc offset

structure EntityType where
  label : String
  deriving DecidableEq

structure RelationType where
  label : String
  deriving DecidableEq

structure AttributeType where
  label : String
  valueType : Option ValueType
  deriving DecidableEq

structure RoleType where
  label : String
  deriving DecidableEq

/-- A type of the schema. -/
inductive Type_
  | entityType (type : EntityType)
  | relationType (type : RelationType)
  | attributeType (type : AttributeType)
  | roleType (type : RoleType)
  deriving DecidableEq

abbrev IID : Type := ID

structure Entity where
  iid : IID
  type : Option EntityType
  deriving DecidableEq

structure Relation where
  iid : IID
  type : Option RelationType
  deriving DecidableEq

structure Attribute (C : Chrono) where
  iid : IID
  value : Value C
  type : Option AttributeType

/-- The fundamental TypeQL object. -/
inductive Concept (C : Chrono)
  | entityType (type : EntityType)
  | relationType (type : RelationType)
  | roleType (type : RoleType)
  | attributeType (type : AttributeType)
  | entity (entity : Entity)
  | relation (relation : Relation)
  | attribute (attr : Attribute C)
  | value (value : Value C)

end TypeDBDriver
