import TypeDBDriver.Concept.Chrono
import TypeDBDriver.Concept.Proto

/-!
# Values on the wire and back

* `Proto.Value.canonical`: a message with the name of its zone spelled as the library spells it.
* `accepts_intoProto`: what is sent is read back, but a decimal with a fraction out of range.
* `intoProto_of_accepts`: what is read is sent back in its canonical spelling.
* **`value_round_trip`**: both, when the library's conversions are inverse.
-/

namespace TypeDBDriver

open Decode

variable (C : Chrono)

/-! ## Canonical messages -/

def Proto.Timezone.canonical : Proto.Timezone → Proto.Timezone
  | .named name =>
    match C.tzFromStr name with
    | some tz => .named (C.tzName tz)
    | none => .named name
  | .offset seconds => .offset seconds

/-- The message with the canonical spelling of its zone. -/
def Proto.Value.canonical (p : Proto.Value) : Proto.Value :=
  match p.value with
  | some (.datetimeTz v) =>
    ⟨some (.datetimeTz ⟨v.datetime, v.timezone.map (Proto.Timezone.canonical C)⟩)⟩
  | _ => p

variable {C}

/-! ## There and back -/

theorem accepts_naiveDatetime (hC : C.Inverse) (t : C.NaiveDateTime) :
    Accepts (naiveDatetimeFromTimestamp C (C.timestamp t) (C.nanosecond t)) t :=
  accepts_unwrap.mpr (hC.datetime_of_timestamp t)

theorem intoProto_of_naiveDatetime (hC : C.Inverse) {p : Proto.Datetime} {t : C.NaiveDateTime}
    (h : Accepts (naiveDatetimeFromTimestamp C p.seconds p.nanos) t) :
    naiveDateTimeIntoProto t = p := by
  obtain ⟨hs, hn⟩ := hC.timestamp_of_datetime _ _ _ (accepts_unwrap.mp h)
  rw [naiveDateTimeIntoProto, hs, hn]

/-- The least offset is not within a day. -/
theorem accepts_offset {secs : Int32} {zone : TimeZone C} :
    Accepts (TimeZone.tryFromProto C (.offset secs)) zone ↔
      ∃ offset, FixedOffset.eastOpt secs = some offset ∧ TimeZone.fixed offset = zone := by
  rw [TimeZone.tryFromProto]
  by_cases h : secs.toInt = -2 ^ 31
  · have hnone : FixedOffset.eastOpt secs = none := by
      rw [FixedOffset.eastOpt, dif_neg (by omega)]
    simp [fixedOffset_min h, hnone]
  · simp [fixedOffset_eq h]

theorem accepts_named {name : String} {zone : TimeZone C} :
    Accepts (TimeZone.tryFromProto C (.named name)) zone ↔
      ∃ tz, C.tzFromStr name = some tz ∧ TimeZone.IANA tz = zone := by
  simp [TimeZone.tryFromProto]

theorem accepts_zone_intoProto (hC : C.Inverse) (zone : TimeZone C) :
    Accepts (TimeZone.tryFromProto C zone.intoProto) zone := by
  cases zone with
  | IANA tz => exact accepts_named.mpr ⟨tz, hC.zone_of_name tz, rfl⟩
  | fixed offset => exact accepts_offset.mpr ⟨offset, offset.eastOpt_localMinusUtc, rfl⟩

theorem zone_intoProto_of_accepts {p : Proto.Timezone} {zone : TimeZone C}
    (h : Accepts (TimeZone.tryFromProto C p) zone) : zone.intoProto = p.canonical C := by
  cases p with
  | named name =>
    obtain ⟨tz, htz, rfl⟩ := accepts_named.mp h
    rw [Proto.Timezone.canonical, htz]
    rfl
  | offset secs =>
    obtain ⟨offset, hoffset, rfl⟩ := accepts_offset.mp h
    rw [Proto.Timezone.canonical, TimeZone.intoProto,
      FixedOffset.localMinusUtc_of_eastOpt hoffset]

/-- What is sent is read back, but a decimal with a fraction that is asserted to be in range. -/
theorem accepts_intoProto (hC : C.Inverse) {v : Value C} {p : Proto.Value}
    (h : v.intoProto = some p) (hv : v.Bounded) : Accepts (Value.tryFromProto C p) v := by
  cases v with
  | boolean v => cases h; exact accepts_pure.mpr rfl
  | integer v => cases h; exact accepts_pure.mpr rfl
  | double v => cases h; exact accepts_pure.mpr rfl
  | string v => cases h; exact accepts_pure.mpr rfl
  | duration v => cases h; exact accepts_pure.mpr rfl
  | decimal v =>
    cases h
    simp [Value.tryFromProto, Decimal.intoProto, Decimal.Bounded.fromParts hv]
  | date v =>
    cases h
    simp [Value.tryFromProto, naiveDateIntoProto, hC.date_of_days]
  | datetime v =>
    cases h
    simp [Value.tryFromProto, naiveDateTimeIntoProto, accepts_naiveDatetime hC]
  | datetimeTZ v =>
    cases h
    simp only [Value.tryFromProto, accepts_bind, accepts_okOr, accepts_pure]
    exact ⟨_, rfl, v.naiveUtc, accepts_naiveDatetime hC _, _, rfl, v.timezone,
      accepts_zone_intoProto hC _, rfl⟩
  | struct fields name => cases h

/-- What is read is sent back in its canonical spelling. -/
theorem intoProto_of_accepts (hC : C.Inverse) {p : Proto.Value} {v : Value C}
    (h : Accepts (Value.tryFromProto C p) v) : v.intoProto = some (p.canonical C) := by
  obtain ⟨_ | p⟩ := p
  · exact absurd h (not_accepts_throw _ _)
  · cases p with
    | boolean b => cases accepts_pure.mp h; rfl
    | integer n => cases accepts_pure.mp h; rfl
    | double d => cases accepts_pure.mp h; rfl
    | string s => cases accepts_pure.mp h; rfl
    | duration d => cases accepts_pure.mp h; rfl
    | struct => exact absurd h (not_accepts_throw _ _)
    | decimal d =>
      simp only [Value.tryFromProto, accepts_bind, accepts_unwrap, accepts_pure] at h
      obtain ⟨d', hd, rfl⟩ := h
      obtain ⟨-, hi, hf⟩ := Decimal.fromParts_eq_some.mp hd
      rw [Value.intoProto, Decimal.intoProto, hi, hf]
      rfl
    | date d =>
      simp only [Value.tryFromProto, accepts_bind, accepts_unwrap, accepts_pure] at h
      obtain ⟨d', hd, rfl⟩ := h
      rw [Value.intoProto, naiveDateIntoProto, hC.days_of_date _ _ hd]
      rfl
    | datetime t =>
      simp only [Value.tryFromProto, accepts_bind, accepts_pure] at h
      obtain ⟨t', ht, rfl⟩ := h
      rw [Value.intoProto, intoProto_of_naiveDatetime hC ht]
      rfl
    | datetimeTz t =>
      obtain ⟨datetime, timezone⟩ := t
      simp only [Value.tryFromProto, accepts_bind, accepts_okOr, accepts_pure] at h
      obtain ⟨t, rfl, naive, ht, zone, rfl, z, hz, rfl⟩ := h
      rw [Value.intoProto, DateTime.intoProto, intoProto_of_naiveDatetime hC ht,
        zone_intoProto_of_accepts hz]
      rfl

theorem exists_intoProto {v : Value C} (h : ¬v.IsStruct) : ∃ p, v.intoProto = some p := by
  cases v with
  | struct fields name => exact absurd trivial h
  | _ => exact ⟨_, rfl⟩

/-- **The wire format loses nothing.** A value that is not a struct is sent, and read back as it
was just when a decimal has its fraction in range; what is read as a value is sent as it was, up to
the spelling of its zone. -/
theorem value_round_trip (C : Chrono) (hC : C.Inverse) :
    (∀ v : Value C, ¬v.IsStruct →
      ((∃ p, v.intoProto = some p ∧ Accepts (Value.tryFromProto C p) v) ↔ v.Bounded)) ∧
    ∀ (p : Proto.Value) (v : Value C), Accepts (Value.tryFromProto C p) v →
      v.intoProto = some (p.canonical C) := by
  constructor
  · intro v hv
    constructor
    · rintro ⟨p, -, h⟩
      exact bounded_of_accepts h
    · intro hbounded
      obtain ⟨p, hp⟩ := exists_intoProto hv
      exact ⟨p, hp, accepts_intoProto hC hp hbounded⟩
  · intro p v h
    exact intoProto_of_accepts hC h

/-- On the Gregorian calendar. -/
theorem value_round_trip_gregorian :
    (∀ v : Value Gregorian.chrono, ¬v.IsStruct →
      ((∃ p, v.intoProto = some p ∧ Accepts (Value.tryFromProto Gregorian.chrono p) v) ↔
        v.Bounded)) ∧
    ∀ (p : Proto.Value) (v : Value Gregorian.chrono),
      Accepts (Value.tryFromProto Gregorian.chrono p) v →
        v.intoProto = some (p.canonical Gregorian.chrono) :=
  value_round_trip Gregorian.chrono Gregorian.inverse

/-- A decimal made of its public fields, with a fraction of one. -/
def wholeFraction : Decimal := ⟨0, 10000000000000000000⟩

/-- It is sent, and reading it fails the assertion. -/
theorem not_value_round_trip :
    (Value.decimal wholeFraction : Value Gregorian.chrono).intoProto =
        some ⟨some (.decimal ⟨0, 10000000000000000000⟩)⟩ ∧
      ¬Returns (Value.tryFromProto Gregorian.chrono
        ⟨some (.decimal ⟨0, 10000000000000000000⟩)⟩) ∧
      ¬ ∀ v : Value Gregorian.chrono, ¬v.IsStruct →
        ∃ p, v.intoProto = some p ∧ Accepts (Value.tryFromProto Gregorian.chrono p) v := by
  refine ⟨rfl, fun h => h rfl, ?_⟩
  intro h
  obtain ⟨p, -, hp⟩ := h (.decimal wholeFraction) not_false
  exact absurd (bounded_of_accepts hp) (show ¬ wholeFraction.Bounded by decide)

end TypeDBDriver
