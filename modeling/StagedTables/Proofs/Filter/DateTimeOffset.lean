import StagedTables.Calendar.IsoText
import StagedTables.Proofs.Filter.DateTimeLiteral
import StagedTables.Proofs.LocalZone

/-! # Offsets in date-time literals

Main statement: a date-time with an offset of whole minutes is read from its ISO 8601 text, and from
the body of its literal, as the one in UTC whose local fields are its own less the offset.  Literals
are the same exactly if the instants are, since the body can be read back. -/
set_option autoImplicit false
namespace StagedTables.Filter.DateTimeLiteral

open Calendar Text Numeral

/-! ## Spellings of date-times -/

def isoFraction (time : TimeOfDay) : Option (DigitRun isDecimal 1 fractionDigitLimit) :=
  if time.microsecond.val = 0 then none
  else some (.ofNat 6 time.microsecond (by decide) time.microsecond.isLt (by decide) (by decide))

theorem micros_isoFraction (time : TimeOfDay) :
    ((isoFraction time).map (·.millionths)).getD 0 = time.microsecond.val := by
  unfold isoFraction
  split
  · next none => exact none.symm
  · exact DigitRun.millionths_ofNat ..

def offsetSeconds (offset : Offset) : Nat := offset.micros.natAbs / microsPerSecond

theorem hours_lt (offset : Offset) : offsetSeconds offset / 3600 < 10 ^ 2 := by
  have bounds := offset.isOffset
  simp only [microsPerDay] at bounds
  simp only [offsetSeconds, microsPerSecond]
  omega

theorem minutes_lt (seconds : Nat) : seconds / 60 % 60 < 10 ^ 2 := by omega

def zoneSpelling (offset : Offset) : ZoneSpelling isDecimal :=
  .offset (decide (offset.micros < 0)) (twoDigits (offsetSeconds offset / 3600) (hours_lt offset))
    (twoDigits (offsetSeconds offset / 60 % 60) (minutes_lt _))

section Offset

variable {offset : Offset} (minutes : offset.micros % microsPerMinute = 0)
include minutes

theorem micros_eq_zoneSpelling :
    offset.micros = (zoneSpelling offset).seconds?.getD 0 * microsPerSecond := by
  simp only [microsPerMinute] at minutes
  simp only [zoneSpelling, ZoneSpelling.seconds?, value_twoDigits, Option.getD_some, offsetSeconds,
    microsPerSecond]
  by_cases west : offset.micros < 0
  · rw [if_pos (by simpa using west)]
    omega
  · rw [if_neg (by simpa using west)]
    omega

theorem chars_zoneSpelling : (zoneSpelling offset).chars = offset.chars := by
  simp only [microsPerMinute] at minutes
  have whole : offset.micros.natAbs % 60000000 = 0 := by omega
  have fraction : offset.micros.natAbs % 1000000 = 0 := by omega
  simp only [zoneSpelling, ZoneSpelling.chars, Offset.chars, twoDigits, DigitRun.ofNat,
    offsetSeconds, microsPerMinute, microsPerSecond, whole, fraction, if_pos, List.append_nil,
    decide_eq_true_eq]

theorem chars_isoSpelling (d : DateTime) :
    (d.isoTextAt 'T' (some offset)).toList =
      (writtenSpelling d.date d.time (isoFraction d.time) (zoneSpelling offset)).chars := by
  have fraction : fractionChars (isoFraction d.time) =
      if d.time.microsecond.val = 0 then [] else '.' :: padded 6 d.time.microsecond := by
    unfold isoFraction
    split <;> rfl
  rw [chars_writtenSpelling, chars_zoneSpelling minutes, fraction]
  simp only [DateTime.isoTextAt, String.toList_ofList, List.append_assoc, List.cons_append]

end Offset

/-! ## Literals -/

section Literals

variable {zone : LocalZone} {d other : DateTime} {offset : Offset}

theorem exists_utc (zone : LocalZone) (aware : d.offset = .gives (some offset))
    (early : 0 ≤ d.instant) (late : d.instant < DateTime.endOfCalendar) :
    ∃ utc, d.toUtc zone = .ok utc := by
  obtain ⟨utc, found⟩ := DateTime.exists_ofInstant? early late
  exact ⟨utc, (DateTime.toUtc_eq_ok_iff aware).mpr (DateTime.ofInstant?_eq_some found)⟩

theorem ofDateTime_of_toUtc {utc : DateTime} (turned : d.toUtc zone = .ok utc) :
    Literal.ofDateTime zone d =
      .ok (Literal.marked Literal.dateTimeMark (Literal.dateTimeBody utc)) := by
  simp only [Literal.ofDateTime, turned]

theorem dateTimeBody_inj {utc : DateTime} (isUtc : utc.IsUtc) (otherUtc : other.IsUtc)
    (same : Literal.dateTimeBody utc = Literal.dateTimeBody other) : utc = other := by
  have decoded := decode_dateTimeBody isUtc
  rw [same, decode_dateTimeBody otherUtc] at decoded
  exact (Except.ok.inj decoded).symm

end Literals

/-- A date-time with an offset of whole minutes, at an instant of the calendar: both its ISO 8601
text and the body of its literal are read as the date-time in UTC that is the offset earlier than
its local fields; and another date-time with an offset has the same literal exactly if it is at the
same instant. -/
theorem decode_isoText (zone : LocalZone) {d : DateTime} {offset : Offset}
    (aware : d.offset = .gives (some offset)) (minutes : offset.micros % microsPerMinute = 0)
    (early : 0 ≤ d.instant) (late : d.instant < DateTime.endOfCalendar) :
    (∃ (utc : DateTime) (text : String) (body : List Char), utc.IsUtc ∧
      (utc.localMicros : Int) = d.localMicros - offset.micros ∧
      d.isoText 'T' = .gives text ∧ decode text = .ok utc ∧
      Literal.ofDateTime zone d = .ok (Literal.marked Literal.dateTimeMark body) ∧
      decode (String.ofList body) = .ok utc) ∧
    ∀ (other : DateTime) (otherOffset : Offset), other.offset = .gives (some otherOffset) →
      0 ≤ other.instant → other.instant < DateTime.endOfCalendar →
      (Literal.ofDateTime zone d = Literal.ofDateTime zone other ↔ d.instant = other.instant) := by
  obtain ⟨utc, turned⟩ := exists_utc zone aware early late
  obtain ⟨isUtc, same⟩ := (DateTime.toUtc_eq_ok_iff aware).mp turned
  have literal := ofDateTime_of_toUtc turned
  constructor
  · refine ⟨utc, d.isoTextAt 'T' (some offset), Literal.dateTimeBody utc, isUtc, ?_, ?_, ?_,
      literal, decode_dateTimeBody isUtc⟩
    · rw [← isUtc.instant_eq, same, DateTime.instant_of_aware aware]
    · rw [DateTime.isoText, aware, Answer.map]
    · have names := names_writtenSpelling d.date (micros_isoFraction d.time)
        (micros_eq_zoneSpelling minutes)
      have instant : utc.instant = (DateTime.withOffset d.date d.time offset).instant :=
        same.trans (DateTime.instant_of_aware aware)
      exact decode_eq_ok_iff_spelled.mpr
        ⟨_, _, .inl (chars_isoSpelling minutes d), names, isUtc, instant⟩
  · intro other otherOffset otherAware otherEarly otherLate
    obtain ⟨otherUtc, otherTurned⟩ := exists_utc zone otherAware otherEarly otherLate
    obtain ⟨otherIsUtc, otherSame⟩ := (DateTime.toUtc_eq_ok_iff otherAware).mp otherTurned
    rw [literal, ofDateTime_of_toUtc otherTurned, ← same, ← otherSame]
    constructor
    · intro literals
      have bodies : Literal.dateTimeBody utc = Literal.dateTimeBody otherUtc := by
        simpa [Literal.marked] using literals
      rw [dateTimeBody_inj isUtc otherIsUtc bodies]
    · intro instants
      have found := DateTime.ofInstant?_instant isUtc
      rw [instants, DateTime.ofInstant?_instant otherIsUtc] at found
      rw [Option.some.inj found]

/-- Half past ten in the evening of the last day of a leap year, five hours west of UTC, is half
past three on the first day of the next; half an hour east of UTC it is then four. -/
theorem decode_isoText_new_year :
    let west : DateTime :=
      .withOffset ⟨2024, 12, 31, by decide⟩ ⟨22, 30, 0, 5⟩ ⟨-18000000000, by decide⟩
    let east : DateTime :=
      .withOffset ⟨2025, 1, 1, by decide⟩ ⟨4, 0, 0, 5⟩ ⟨1800000000, by decide⟩
    west.isoText 'T' = .gives "2024-12-31T22:30:00.000005-05:00" ∧
      decode "2024-12-31T22:30:00.000005-05:00" =
        .ok (.withOffset ⟨2025, 1, 1, by decide⟩ ⟨3, 30, 0, 5⟩ .utc) ∧
      Literal.ofDateTime .utc west = Literal.ofDateTime .utc east := by
  intro west east
  obtain ⟨-, alike⟩ := decode_isoText .utc (d := west) rfl (by decide) (by decide) (by decide)
  exact ⟨by decide, by decide, (alike east _ rfl (by decide) (by decide)).mpr (by decide)⟩

end StagedTables.Filter.DateTimeLiteral
