import TypeDBDriver.Concept.Value
import TypeDBDriver.Lib.Decode

/-!
# Concepts on the wire

* `Proto.Value`, `Proto.Concept`, `Proto.ConceptRow` and their parts: the messages.
* `Value.tryFromProto`, `Concept.tryFromProto`, `ConceptRow.tryFromProto`: the decoders.
* `Value.intoProto`: the encoder of values.
* `valueParts`, `conceptParts`, `rowParts`: the checks and assertions of a decoder, in order.
* **`follows_value`**, **`follows_row`**: the decoders end as these say.
-/

namespace TypeDBDriver

open Decode

/-! ## Messages -/

namespace Proto

structure Decimal where
  integer : Int64
  fractional : UInt64

structure Date where
  numDaysSinceCe : Int32

structure Datetime where
  seconds : Int64
  nanos : UInt32

inductive Timezone
  | named (name : String)
  | offset (seconds : Int32)

structure DatetimeTz where
  datetime : Option Datetime
  timezone : Option Timezone

structure Duration where
  months : UInt32
  days : UInt32
  nanos : UInt64

inductive ValueInner
  | boolean (boolean : Bool)
  | integer (integer : Int64)
  | double (double : Double)
  | string (string : String)
  | decimal (decimal : Decimal)
  | date (date : Date)
  | datetime (datetime : Datetime)
  | datetimeTz (datetimeTz : DatetimeTz)
  | duration (duration : Duration)
  | struct

structure Value where
  value : Option ValueInner

inductive ValueTypeInner
  | boolean
  | integer
  | double
  | string
  | decimal
  | date
  | datetime
  | datetimeTz
  | duration
  | struct (name : String)

structure ValueType where
  valueType : Option ValueTypeInner

structure EntityType where
  label : String

structure RelationType where
  label : String

structure AttributeType where
  label : String
  valueType : Option ValueType

structure RoleType where
  label : String

structure Entity where
  iid : List UInt8
  entityType : Option EntityType

structure Relation where
  iid : List UInt8
  relationType : Option RelationType

structure Attribute where
  iid : List UInt8
  attributeType : Option AttributeType
  value : Option Value

inductive ConceptInner
  | entityType (type : EntityType)
  | relationType (type : RelationType)
  | attributeType (type : AttributeType)
  | roleType (type : RoleType)
  | entity (entity : Entity)
  | relation (relation : Relation)
  | attribute (attr : Attribute)

structure Concept where
  concept : Option ConceptInner

inductive TypeInner
  | entityType (type : EntityType)
  | relationType (type : RelationType)
  | attributeType (type : AttributeType)
  | roleType (type : RoleType)

structure Type_ where
  type : Option TypeInner

inductive Entry
  | empty
  | concept (concept : Concept)
  | value (value : Value)
  | conceptList
  | valueList

structure RowEntry where
  entry : Option Entry

structure ConceptRow where
  row : List RowEntry
  involvedBlocks : Option (List UInt8)

end Proto

/-! ## Decoding -/

/-- The error of a field that is not there. -/
def missing (field : String) : Error := .connection (.missingResponseField field)

def ValueType.fromProto : Proto.ValueTypeInner → ValueType
  | .boolean => .boolean
  | .integer => .integer
  | .double => .double
  | .string => .string
  | .decimal => .decimal
  | .date => .date
  | .datetime => .datetime
  | .datetimeTz => .datetimeTZ
  | .duration => .duration
  | .struct name => .struct name

def ValueType.tryFromProto (proto : Proto.ValueType) : Decode Error ValueType := do
  let valueType ← okOr (missing "value_type") proto.valueType
  pure (.fromProto valueType)

def EntityType.fromProto (proto : Proto.EntityType) : EntityType := ⟨proto.label⟩

def RelationType.fromProto (proto : Proto.RelationType) : RelationType := ⟨proto.label⟩

/-- The wrapper of the value type is taken apart with `unwrap`. -/
def AttributeType.fromProto (proto : Proto.AttributeType) : Decode Error AttributeType :=
  match proto.valueType with
  | none => pure ⟨proto.label, none⟩
  | some valueType => do
    let valueType ← unwrap valueType.valueType
    pure ⟨proto.label, some (.fromProto valueType)⟩

def RoleType.fromProto (proto : Proto.RoleType) : RoleType := ⟨proto.label⟩

def Kind.tryFromProto (kind : Int32) : Decode Error Kind :=
  if kind = 0 then pure .entity
  else if kind = 1 then pure .relation
  else if kind = 2 then pure .attribute
  else if kind = 3 then pure .role
  else throw (.connection (.unexpectedKind kind.toInt))

def Entity.tryFromProto (proto : Proto.Entity) : Decode Error Entity :=
  pure ⟨⟨proto.iid⟩, proto.entityType.map .fromProto⟩

def Relation.tryFromProto (proto : Proto.Relation) : Decode Error Relation :=
  pure ⟨⟨proto.iid⟩, proto.relationType.map .fromProto⟩

variable (C : Chrono)

def naiveDatetimeFromTimestamp (seconds : Int64) (nanos : UInt32) :
    Decode Error C.NaiveDateTime :=
  unwrap (C.fromTimestamp seconds nanos)

/-- The negation overflows at the least offset. -/
def fixedOffset (offsetSeconds : Int32) : Decode Error (Option FixedOffset) :=
  if 0 ≤ offsetSeconds.toInt then pure (FixedOffset.eastOpt offsetSeconds)
  else do
    let negated ← unwrap (Checked.i32 (-offsetSeconds.toInt))
    pure (FixedOffset.westOpt negated)

/-- The zone of a datetime. -/
def TimeZone.tryFromProto : Proto.Timezone → Decode Error (TimeZone C)
  | .named name => do
    let tz ← okOr (.connection (.valueTimeZoneNameNotRecognised name)) (C.tzFromStr name)
    pure (.IANA tz)
  | .offset offsetSeconds => do
    let offset ← fixedOffset offsetSeconds
    let offset ← okOr (.connection (.valueTimeZoneOffsetNotRecognised offsetSeconds.toInt)) offset
    pure (.fixed offset)

def Value.tryFromProto (proto : Proto.Value) : Decode Error (Value C) :=
  match proto.value with
  | some (.boolean v) => pure (.boolean v)
  | some (.integer v) => pure (.integer v)
  | some (.double v) => pure (.double v)
  | some (.string v) => pure (.string v)
  | some (.decimal v) => do
    let d ← unwrap (Decimal.fromParts v.integer v.fractional)
    pure (.decimal d)
  | some (.date v) => do
    let d ← unwrap (C.fromNumDaysFromCeOpt v.numDaysSinceCe)
    pure (.date d)
  | some (.datetime v) => do
    let t ← naiveDatetimeFromTimestamp C v.seconds v.nanos
    pure (.datetime t)
  | some (.datetimeTz v) => do
    let t ← okOr (missing "Value.datetime_tz.datetime") v.datetime
    let naiveDatetime ← naiveDatetimeFromTimestamp C t.seconds t.nanos
    let timezone ← okOr (missing "Value.datetime_tz.timezone") v.timezone
    let timeZone ← TimeZone.tryFromProto C timezone
    pure (.datetimeTZ ⟨naiveDatetime, timeZone⟩)
  | some (.duration v) => pure (.duration ⟨v.months, v.days, v.nanos⟩)
  | some .struct => throw (.connection .valueStructNotImplemented)
  | none => throw (missing "Value.value")

/-- Structs are neither read nor sent. -/
def Value.IsStruct {C : Chrono} : Value C → Prop
  | .struct _ _ => True
  | _ => False

theorem not_isStruct_of_accepts {C : Chrono} {p : Proto.Value} {v : Value C}
    (h : Accepts (Value.tryFromProto C p) v) : ¬v.IsStruct := by
  intro hv
  cases v with
  | struct fields name =>
    obtain ⟨_ | p⟩ := p
    · exact not_accepts_throw _ _ h
    · cases p <;> simp [Value.tryFromProto] at h
  | _ => exact hv

/-- What is read has its fraction in range. -/
theorem bounded_of_accepts {C : Chrono} {p : Proto.Value} {v : Value C}
    (h : Accepts (Value.tryFromProto C p) v) : v.Bounded := by
  cases v with
  | decimal d =>
    obtain ⟨_ | p⟩ := p
    · exact absurd h (not_accepts_throw _ _)
    · cases p with
      | decimal parts =>
        simp only [Value.tryFromProto, accepts_bind, accepts_unwrap, accepts_pure] at h
        obtain ⟨d', hd, heq⟩ := h
        cases heq
        exact (Decimal.fromParts_eq_some.mp hd).1
      | _ => simp [Value.tryFromProto] at h
  | _ => exact trivial

def Attribute.tryFromProto (proto : Proto.Attribute) : Decode Error (Attribute C) := do
  let type ← transpose AttributeType.fromProto proto.attributeType
  let v ← okOr (missing "value") proto.value
  let v ← Value.tryFromProto C v
  pure ⟨⟨proto.iid⟩, v, type⟩

theorem label_of_accepts {p : Proto.AttributeType} {type : AttributeType}
    (h : Accepts (AttributeType.fromProto p) type) : type.label = p.label := by
  obtain ⟨label, _ | valueType⟩ := p
  · cases accepts_pure.mp h
    rfl
  · simp only [AttributeType.fromProto, accepts_bind, accepts_pure] at h
    obtain ⟨v, -, rfl⟩ := h
    rfl

theorem value_of_accepts {C : Chrono} {p : Proto.Attribute} {attr : Attribute C}
    (h : Accepts (Attribute.tryFromProto C p) attr) :
    ∃ value, p.value = some value ∧ Accepts (Value.tryFromProto C value) attr.value := by
  simp only [Attribute.tryFromProto, accepts_bind, accepts_okOr, accepts_pure] at h
  obtain ⟨type, -, value, hvalue, v, hv, rfl⟩ := h
  exact ⟨value, hvalue, hv⟩

def Concept.tryFromProto (proto : Proto.Concept) : Decode Error (Concept C) :=
  match proto.concept with
  | some (.entityType type) => pure (.entityType (.fromProto type))
  | some (.relationType type) => pure (.relationType (.fromProto type))
  | some (.attributeType type) => do
    let type ← AttributeType.fromProto type
    pure (.attributeType type)
  | some (.roleType type) => pure (.roleType (.fromProto type))
  | some (.entity v) => .entity <$> Entity.tryFromProto v
  | some (.relation v) => .relation <$> Relation.tryFromProto v
  | some (.attribute v) => .attribute <$> Attribute.tryFromProto C v
  | none => throw (missing "concept")

def Type_.tryFromProto (proto : Proto.Type_) : Decode Error Type_ :=
  match proto.type with
  | some (.entityType type) => pure (.entityType (.fromProto type))
  | some (.relationType type) => pure (.relationType (.fromProto type))
  | some (.attributeType type) => do
    let type ← AttributeType.fromProto type
    pure (.attributeType type)
  | some (.roleType type) => pure (.roleType (.fromProto type))
  | none => throw (missing "type")

/-- One entry of a row, `none` when it is empty. -/
def RowEntry.tryFromProto (proto : Proto.RowEntry) : Decode Error (Option (Concept C)) := do
  let entry ← okOr (missing "ConceptRow.entry") proto.entry
  match entry with
  | .empty => pure none
  | .concept concept => some <$> Concept.tryFromProto C concept
  | .value value => do
    let value ← Value.tryFromProto C value
    pure (some (.value value))
  | .conceptList | .valueList => throw (.connection .listsNotImplemented)

def ConceptRow.tryFromProto (proto : Proto.ConceptRow) :
    Decode Error (List (Option (Concept C)) × Option (List UInt8)) := do
  let row ← proto.row.mapM (RowEntry.tryFromProto C)
  pure (row, proto.involvedBlocks)

/-! ## Encoding -/

section Encoding

variable {C}

def Decimal.intoProto (d : Decimal) : Proto.Decimal := ⟨d.integer, d.fractional⟩

def Duration.intoProto (d : Duration) : Proto.Duration := ⟨d.months, d.days, d.nanos⟩

def naiveDateIntoProto (date : C.NaiveDate) : Proto.Date := ⟨C.numDaysFromCe date⟩

def naiveDateTimeIntoProto (datetime : C.NaiveDateTime) : Proto.Datetime :=
  ⟨C.timestamp datetime, C.nanosecond datetime⟩

def TimeZone.intoProto : TimeZone C → Proto.Timezone
  | .IANA tz => .named (C.tzName tz)
  | .fixed offset => .offset offset.localMinusUtc

def DateTime.intoProto (datetime : DateTime C) : Proto.DatetimeTz :=
  ⟨some (naiveDateTimeIntoProto datetime.naiveUtc), some datetime.timezone.intoProto⟩

/-- A struct cannot be sent: its branch is `unreachable!`. -/
def Value.intoProto : Value C → Option Proto.Value
  | .boolean v => some ⟨some (.boolean v)⟩
  | .integer v => some ⟨some (.integer v)⟩
  | .double v => some ⟨some (.double v)⟩
  | .decimal v => some ⟨some (.decimal v.intoProto)⟩
  | .string v => some ⟨some (.string v)⟩
  | .date v => some ⟨some (.date (naiveDateIntoProto v))⟩
  | .datetime v => some ⟨some (.datetime (naiveDateTimeIntoProto v))⟩
  | .datetimeTZ v => some ⟨some (.datetimeTz v.intoProto)⟩
  | .duration v => some ⟨some (.duration v.intoProto)⟩
  | .struct _ _ => none

end Encoding

/-! ## Checks and assertions -/

def decimalParts (decimal : Proto.Decimal) : List Part :=
  [.assertion (decimal.fractional.toNat < fractionalPartDenominator)]

def timestampParts (datetime : Proto.Datetime) : List Part :=
  [.assertion (C.fromTimestamp datetime.seconds datetime.nanos).isSome]

def timezoneParts : Proto.Timezone → List Part
  | .named name => [.check (C.tzFromStr name).isSome]
  | .offset seconds => [.assertion (seconds.toInt ≠ -2 ^ 31),
      .check (-86400 < seconds.toInt ∧ seconds.toInt < 86400)]

def datetimeTzParts (datetimeTz : Proto.DatetimeTz) : List Part :=
  .check datetimeTz.datetime.isSome :: optionalParts (timestampParts C) datetimeTz.datetime ++
    .check datetimeTz.timezone.isSome :: optionalParts (timezoneParts C) datetimeTz.timezone

def valueInnerParts : Proto.ValueInner → List Part
  | .decimal decimal => decimalParts decimal
  | .date date => [.assertion (C.fromNumDaysFromCeOpt date.numDaysSinceCe).isSome]
  | .datetime datetime => timestampParts C datetime
  | .datetimeTz datetimeTz => datetimeTzParts C datetimeTz
  | .struct => [.check false]
  | .boolean _ | .integer _ | .double _ | .string _ | .duration _ => []

def valueParts (value : Proto.Value) : List Part :=
  .check value.value.isSome :: optionalParts (valueInnerParts C) value.value

/-- A wrapper around a value type must not be empty. -/
def attributeTypeParts (type : Proto.AttributeType) : List Part :=
  optionalParts (fun valueType => [.assertion valueType.valueType.isSome]) type.valueType

def valueTypeParts (type : Proto.ValueType) : List Part := [.check type.valueType.isSome]

def kindParts (kind : Int32) : List Part :=
  [.check (kind = 0 ∨ kind = 1 ∨ kind = 2 ∨ kind = 3)]

def attributeParts (attr : Proto.Attribute) : List Part :=
  optionalParts attributeTypeParts attr.attributeType ++
    .check attr.value.isSome :: optionalParts (valueParts C) attr.value

def conceptInnerParts : Proto.ConceptInner → List Part
  | .attributeType type => attributeTypeParts type
  | .attribute attr => attributeParts C attr
  | .entityType _ | .relationType _ | .roleType _ | .entity _ | .relation _ => []

def conceptParts (concept : Proto.Concept) : List Part :=
  .check concept.concept.isSome :: optionalParts (conceptInnerParts C) concept.concept

def typeInnerParts : Proto.TypeInner → List Part
  | .attributeType type => attributeTypeParts type
  | .entityType _ | .relationType _ | .roleType _ => []

def typeParts (type : Proto.Type_) : List Part :=
  .check type.type.isSome :: optionalParts typeInnerParts type.type

def entryInnerParts : Proto.Entry → List Part
  | .empty => []
  | .concept concept => conceptParts C concept
  | .value value => valueParts C value
  | .conceptList | .valueList => [.check false]

def entryParts (entry : Proto.RowEntry) : List Part :=
  .check entry.entry.isSome :: optionalParts (entryInnerParts C) entry.entry

def rowParts (row : Proto.ConceptRow) : List Part := row.row.flatMap (entryParts C)

theorem follows_decimal (d : Proto.Decimal) :
    Follows (unwrap (Decimal.fromParts d.integer d.fractional) : Decode Error Decimal)
      (decimalParts d) := by
  have h := follows_unwrap (ε := Error) (Decimal.fromParts d.integer d.fractional)
  rwa [Decimal.isSome_fromParts] at h

/-- Both directions read the offset as seconds east of UTC. -/
theorem fixedOffset_eq {secs : Int32} (h : secs.toInt ≠ -2 ^ 31) :
    fixedOffset secs = pure (FixedOffset.eastOpt secs) := by
  have hle := secs.le_toInt
  have hlt := secs.toInt_lt
  rw [fixedOffset]
  split
  · rfl
  · obtain ⟨negated, hnegated, hval⟩ := Checked.exists_i32 (n := -secs.toInt) (by omega) (by omega)
    have hunwrap : (unwrap (some negated) : Decode Error Int32) = pure negated := rfl
    rw [hnegated, hunwrap, pure_bind, FixedOffset.westOpt_eq hval]

theorem fixedOffset_min {secs : Int32} (h : secs.toInt = -2 ^ 31) :
    fixedOffset secs = unwrap none := by
  rw [fixedOffset, if_neg (by omega), h]
  rfl

theorem follows_timestamp (t : Proto.Datetime) :
    Follows (naiveDatetimeFromTimestamp C t.seconds t.nanos) (timestampParts C t) :=
  follows_unwrap _

theorem follows_timezone (timezone : Proto.Timezone) :
    Follows (TimeZone.tryFromProto C timezone) (timezoneParts C timezone) := by
  cases timezone with
  | named name => exact (follows_okOr _ _).build TimeZone.IANA
  | offset secs =>
    rw [TimeZone.tryFromProto, timezoneParts]
    by_cases h : secs.toInt = -2 ^ 31
    · rw [fixedOffset_min h]
      exact follows_panic (by simp [h])
    · rw [fixedOffset_eq h, pure_bind, ← FixedOffset.isSome_eastOpt]
      exact ((follows_okOr _ _).build TimeZone.fixed).assertion (by simpa using h)

theorem follows_datetimeTz (v : Proto.DatetimeTz) :
    Follows (Value.tryFromProto C ⟨some (.datetimeTz v)⟩) (datetimeTzParts C v) := by
  have h := (follows_required (missing "Value.datetime_tz.datetime") (follows_timestamp C)
    v.datetime).bind fun naiveDatetime =>
      (follows_required (missing "Value.datetime_tz.timezone") (follows_timezone C)
        v.timezone).build fun timeZone => Value.datetimeTZ ⟨naiveDatetime, timeZone⟩
  simp only [bind_assoc] at h
  exact h

/-- **Decoding a value ends as its parts say.** -/
theorem follows_value (value : Proto.Value) :
    Follows (Value.tryFromProto C value) (valueParts C value) := by
  obtain ⟨_ | v⟩ := value
  · exact follows_throw _
  · cases v with
    | boolean v => exact follows_pure _
    | integer v => exact follows_pure _
    | double v => exact follows_pure _
    | string v => exact follows_pure _
    | duration v => exact follows_pure _
    | struct => exact follows_throw _
    | decimal v => exact (follows_decimal v).build Value.decimal
    | date v => exact (follows_unwrap _).build Value.date
    | datetime v => exact (follows_timestamp C v).build Value.datetime
    | datetimeTz v => exact follows_datetimeTz C v

theorem follows_attributeType (type : Proto.AttributeType) :
    Follows (AttributeType.fromProto type) (attributeTypeParts type) := by
  obtain ⟨label, _ | valueType⟩ := type
  · exact follows_pure _
  · exact (follows_unwrap valueType.valueType).build fun v =>
      AttributeType.mk label (some (.fromProto v))

theorem follows_valueType (type : Proto.ValueType) :
    Follows (ValueType.tryFromProto type) (valueTypeParts type) :=
  (follows_okOr _ _).build ValueType.fromProto

theorem follows_attribute (attr : Proto.Attribute) :
    Follows (Attribute.tryFromProto C attr) (attributeParts C attr) := by
  have h := (follows_transpose follows_attributeType attr.attributeType).bind fun type =>
    (follows_required (missing "value") (follows_value C) attr.value).build fun v =>
      Attribute.mk ⟨attr.iid⟩ v type
  simp only [bind_assoc] at h
  exact h

theorem follows_concept (concept : Proto.Concept) :
    Follows (Concept.tryFromProto C concept) (conceptParts C concept) := by
  obtain ⟨_ | concept⟩ := concept
  · exact follows_throw _
  · rcases concept with type | type | type | type | v | v | v
    · exact follows_pure _
    · exact follows_pure _
    · exact (follows_attributeType type).build Concept.attributeType
    · exact follows_pure _
    · exact (follows_pure _).map Concept.entity
    · exact (follows_pure _).map Concept.relation
    · exact (follows_attribute C v).map Concept.attribute

theorem follows_type (type : Proto.Type_) :
    Follows (Type_.tryFromProto type) (typeParts type) := by
  obtain ⟨_ | type⟩ := type
  · exact follows_throw _
  · cases type with
    | entityType type => exact follows_pure _
    | relationType type => exact follows_pure _
    | roleType type => exact follows_pure _
    | attributeType type => exact (follows_attributeType type).build Type_.attributeType

theorem follows_kind (kind : Int32) : Follows (Kind.tryFromProto kind) (kindParts kind) := by
  rw [Kind.tryFromProto, kindParts]
  by_cases h0 : kind = 0
  · simp only [h0]
    rfl
  by_cases h1 : kind = 1
  · simp only [h1]
    rfl
  by_cases h2 : kind = 2
  · simp only [h2]
    rfl
  by_cases h3 : kind = 3
  · simp only [h3]
    rfl
  simp only [h0, h1, h2, h3, if_false, or_false, decide_false]
  exact follows_throw _

theorem follows_entry (entry : Proto.RowEntry) :
    Follows (RowEntry.tryFromProto C entry) (entryParts C entry) := by
  refine follows_required _ (fun entry => ?_) entry.entry
  cases entry with
  | empty => exact follows_pure none
  | concept concept => exact (follows_concept C concept).map some
  | value value => exact (follows_value C value).build fun v => some (Concept.value v)
  | conceptList => exact follows_throw _
  | valueList => exact follows_throw _

/-- **Decoding a row ends as its parts say.** -/
theorem follows_row (row : Proto.ConceptRow) :
    Follows (ConceptRow.tryFromProto C row) (rowParts C row) :=
  (follows_mapM (follows_entry C) row.row).build fun row' => (row', row.involvedBlocks)

end TypeDBDriver
