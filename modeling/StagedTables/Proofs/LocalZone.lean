import StagedTables.Calendar.LocalZone
import StagedTables.Proofs.Calendar

/-! # Date-times turned into UTC

Turning a date-time with an offset into UTC keeps its instant, and leaves what is in UTC as it is.
One without an offset is at the instant that the local zone has for it, unless the zone loses it at
an end of the calendar: `toUtc_eq_ok_iff_of_naive` and `LocalZone.Loses`. -/
set_option autoImplicit false
namespace StagedTables.Calendar

/-- Why a date-time without an offset has no place in the calendar by the local zone. -/
inductive LocalZone.Loses (zone : LocalZone) (d : DateTime) : Fault → Prop
  | offset {fault : Fault} (unknown : zone.offsetOf d = .error fault) : Loses zone d fault
  | instant {offset : Offset} (told : zone.offsetOf d = .ok offset)
      (outside : d.localMicros - offset.micros < 0 ∨
        DateTime.endOfCalendar ≤ d.localMicros - offset.micros) :
      Loses zone d .instantOutOfRange
  /-- Its zone is looked up at its instant, where the clocks may be off the calendar. -/
  | fields {offset : Offset} {utc : DateTime} {fault : Fault} (zoneless : d.zone = none)
      (told : zone.offsetOf d = .ok offset) (isUtc : utc.IsUtc)
      (instant : utc.instant = d.localMicros - offset.micros)
      (unshown : zone.fieldsAt utc = .error fault) : Loses zone d fault

namespace DateTime

section Turning

variable {zone : LocalZone} {d u : DateTime} {offset : Offset}

theorem instant_of_aware (aware : d.offset = .gives (some offset)) :
    d.instant = d.localMicros - offset.micros := by
  simp [instant, aware]

theorem toUtc_of_aware (aware : d.offset = .gives (some offset)) :
    d.toUtc zone = ofInstant d.instant := by
  simp only [toUtc, aware]

theorem toUtc_eq_ok_iff (aware : d.offset = .gives (some offset)) :
    d.toUtc zone = .ok u ↔ u.IsUtc ∧ u.instant = d.instant := by
  rw [toUtc_of_aware aware, ofInstant_eq_ok_iff]

theorem toUtc_of_utc (isUtc : d.IsUtc) : d.toUtc zone = .ok d :=
  (toUtc_eq_ok_iff isUtc.offset_eq).mpr ⟨isUtc, rfl⟩

theorem toUtc_eq_error_iff (aware : d.offset = .gives (some offset)) {fault : Fault} :
    d.toUtc zone = .error fault ↔
      fault = .instantOutOfRange ∧ (d.instant < 0 ∨ endOfCalendar ≤ d.instant) := by
  rw [toUtc_of_aware aware, ofInstant_eq_error_iff]

theorem toUtc_of_loses (naive : d.offset = .gives none) {fault : Fault}
    (lost : zone.Loses d fault) : d.toUtc zone = .error fault := by
  cases lost with
  | offset unknown => simp only [toUtc, naive, unknown, bind, Except.bind]
  | instant told outside =>
    have unplaced := ofInstant_eq_error_iff.mpr ⟨rfl, outside⟩
    simp only [toUtc, naive, told, unplaced, bind, Except.bind]
  | fields zoneless told isUtc instant unshown =>
    have placed := ofInstant_eq_ok_iff.mpr ⟨isUtc, instant⟩
    simp only [toUtc, naive, told, placed, bind, Except.bind, zoneless, ↓reduceIte, unshown,
      Except.map]

theorem toUtc_of_placed (naive : d.offset = .gives none) (told : zone.offsetOf d = .ok offset)
    (isUtc : u.IsUtc) (instant : u.instant = d.localMicros - offset.micros)
    (shown : d.zone = none → ∃ fields, zone.fieldsAt u = .ok fields) : d.toUtc zone = .ok u := by
  have placed := ofInstant_eq_ok_iff.mpr ⟨isUtc, instant⟩
  simp only [toUtc, naive, told, placed, bind, Except.bind]
  split
  · next zoneless =>
    obtain ⟨fields, seen⟩ := shown zoneless
    rw [seen, Except.map]
  · rfl

theorem loses_or_placed (zone : LocalZone) (d : DateTime) :
    (∃ fault, zone.Loses d fault) ∨
      ∃ offset u, zone.offsetOf d = .ok offset ∧ u.IsUtc ∧
        u.instant = d.localMicros - offset.micros ∧
        (d.zone = none → ∃ shown, zone.fieldsAt u = .ok shown) := by
  cases told : zone.offsetOf d with
  | error fault => exact .inl ⟨fault, .offset told⟩
  | ok offset =>
    cases placed : ofInstant (d.localMicros - offset.micros) with
    | error fault => exact .inl ⟨_, .instant told (ofInstant_eq_error_iff.mp placed).2⟩
    | ok utc =>
      obtain ⟨isUtc, instant⟩ := ofInstant_eq_ok_iff.mp placed
      by_cases zoneless : d.zone = none
      · cases shown : zone.fieldsAt utc with
        | error fault => exact .inl ⟨fault, .fields zoneless told isUtc instant shown⟩
        | ok fields => exact .inr ⟨offset, utc, rfl, isUtc, instant, fun _ => ⟨fields, shown⟩⟩
      · exact .inr ⟨offset, utc, rfl, isUtc, instant, fun none => absurd none zoneless⟩

/-- A date-time without an offset is turned into UTC by the offset that the local zone has for it,
and one without a zone must be shown by the clocks of the local zone as well. -/
theorem toUtc_eq_ok_iff_of_naive (naive : d.offset = .gives none) :
    d.toUtc zone = .ok u ↔ ∃ offset, zone.offsetOf d = .ok offset ∧ u.IsUtc ∧
      u.instant = d.localMicros - offset.micros ∧
      (d.zone = none → ∃ shown, zone.fieldsAt u = .ok shown) := by
  constructor
  · intro turned
    rcases loses_or_placed zone d with ⟨fault, lost⟩ | ⟨offset, utc, told, isUtc, instant, shown⟩
    · cases turned.symm.trans (toUtc_of_loses naive lost)
    · cases turned.symm.trans (toUtc_of_placed naive told isUtc instant shown)
      exact ⟨offset, told, isUtc, instant, shown⟩
  · rintro ⟨offset, told, isUtc, instant, shown⟩
    exact toUtc_of_placed naive told isUtc instant shown

theorem toUtc_eq_error_iff_of_naive (naive : d.offset = .gives none) {fault : Fault} :
    d.toUtc zone = .error fault ↔ zone.Loses d fault := by
  refine ⟨fun failed => ?_, toUtc_of_loses naive⟩
  rcases loses_or_placed zone d with ⟨other, lost⟩ | ⟨offset, utc, told, isUtc, instant, shown⟩
  · cases failed.symm.trans (toUtc_of_loses naive lost)
    exact lost
  · cases failed.symm.trans (toUtc_of_placed naive told isUtc instant shown)

theorem isUtc_of_toUtc (turned : d.toUtc zone = .ok u) : u.IsUtc := by
  cases zoned : d.offset with
  | raises error => simp [toUtc, zoned] at turned
  | gives known =>
    cases known with
    | some offset => exact ((toUtc_eq_ok_iff zoned).mp turned).1
    | none =>
      obtain ⟨-, -, isUtc, -⟩ := (toUtc_eq_ok_iff_of_naive zoned).mp turned
      exact isUtc

end Turning

end DateTime
end StagedTables.Calendar
