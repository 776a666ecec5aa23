import StagedTables.Filter.Literal
import StagedTables.Proofs.Filter.DateTimeSpelling

/-! # Date-time bodies read and written

The body that a date-time in UTC is written with denotes that date-time, since it is a spelling of
it.  A body whose fields are
all in their ranges and whose instant lies outside the calendar is the only one that fails with
the fault of an instant. -/
set_option autoImplicit false
namespace StagedTables.Filter.DateTimeLiteral

open Calendar Text Numeral

/-! ## Digits in fixed widths -/

theorem digitOf_digitChar {d : Nat} (bound : d < 10) : digitOf (Nat.digitChar d) = d := by
  have all : ∀ d : Fin 10, digitOf (Nat.digitChar d) = d.val := by decide
  exact all ⟨d, bound⟩

theorem valueOf_spell {digits : List Nat} (bound : ∀ d ∈ digits, d < 10) :
    valueOf (spell digits) = ofDigits 10 digits := by
  have same : (spell digits).map digitOf = digits := by
    rw [spell, List.map_map]
    exact (List.map_congr_left fun d member => digitOf_digitChar (bound d member)).trans
      (List.map_id digits)
  rw [valueOf_eq, same]

theorem exists_padded {width n : Nat} (positive : 0 < width) (fits : n < 10 ^ width) :
    ∃ digits, digits.length = width ∧ AreDigits 10 n digits ∧ padded width n = spell digits :=
  exists_padded_eq_spell (by decide) positive fits

theorem forall_padded {width n : Nat} (positive : 0 < width) (fits : n < 10 ^ width)
    {p : Char → Prop} (digit : ∀ d : Fin 10, p (Nat.digitChar d)) :
    (padded width n).length = width ∧ ∀ c ∈ padded width n, p c := by
  obtain ⟨digits, length, areDigits, written⟩ := exists_padded positive fits
  rw [written, length_spell]
  exact ⟨length, forall_spell areDigits.bound digit⟩

theorem valueOf_padded {width n : Nat} (positive : 0 < width) (fits : n < 10 ^ width) :
    valueOf (padded width n) = n := by
  obtain ⟨digits, -, areDigits, written⟩ := exists_padded positive fits
  rw [written, valueOf_spell areDigits.bound, areDigits.value]

def DigitRun.ofNat {fewest most : Nat} (width n : Nat) (positive : 0 < width)
    (fits : n < 10 ^ width) (fewest_le : fewest ≤ width) (le_most : width ≤ most) :
    DigitRun isDecimal fewest most :=
  have shape := forall_padded (p := fun c => isDecimal c = true) positive fits (by decide)
  ⟨padded width n, fewest_le.trans shape.1.ge, shape.1.le.trans le_most, shape.2⟩

section Padded

variable {fewest most width n : Nat} (positive : 0 < width) (fits : n < 10 ^ width)
  (fewest_le : fewest ≤ width) (le_most : width ≤ most)

theorem DigitRun.value_ofNat :
    (ofNat width n positive fits fewest_le le_most).value = n :=
  valueOf_padded positive fits

theorem DigitRun.millionths_ofNat (fits : n < 10 ^ 6) (fewest_le : fewest ≤ 6)
    (le_most : 6 ≤ most) : (ofNat 6 n (by decide) fits fewest_le le_most).millionths = n := by
  have shape := forall_padded (p := fun _ => True) (show 0 < 6 by decide) fits fun _ => trivial
  have length : (ofNat 6 n (by decide) fits fewest_le le_most).digits.length = 6 := shape.1
  rw [millionths, length, value_ofNat]
  exact Nat.mul_div_cancel n (by decide)

end Padded

def twoDigits (n : Nat) (fits : n < 10 ^ 2) : DigitRun isDecimal 2 2 :=
  .ofNat 2 n (by decide) fits (Nat.le_refl 2) (Nat.le_refl 2)

theorem value_twoDigits {n : Nat} (fits : n < 10 ^ 2) : (twoDigits n fits).value = n :=
  DigitRun.value_ofNat ..

/-! ## Spellings of what is written -/

theorem lt_pow_four (date : Date) : date.year < 10 ^ 4 := by
  have := date.isDate.1.2
  simp only [lastYear] at this
  omega

theorem daysInMonth_le (year month : Nat) : daysInMonth year month ≤ 31 := by
  have bounded : ∀ length ∈ monthLengths year, length ≤ 31 := by
    by_cases leap : IsLeap year <;> simp [monthLengths, leap]
  rw [daysInMonth, List.getD_eq_getElem?_getD]
  cases found : (monthLengths year)[month - 1]? with
  | none => simp
  | some length => exact bounded length (List.mem_of_getElem? found)

theorem lt_pow_two (date : Date) : date.month < 10 ^ 2 ∧ date.day < 10 ^ 2 := by
  have month := date.isDate.2.1.2
  have day := date.isDate.2.2.2
  have := daysInMonth_le date.year date.month
  omega

def writtenSpelling (date : Date) (time : TimeOfDay)
    (fraction : Option (DigitRun isDecimal 1 fractionDigitLimit)) (zone : ZoneSpelling isDecimal) :
    BodySpelling isDecimal where
  year := .ofNat 4 date.year (by decide) (lt_pow_four date) (Nat.le_refl 4) (Nat.le_refl 4)
  month := twoDigits date.month (lt_pow_two date).1
  day := twoDigits date.day (lt_pow_two date).2
  clock := some {
    hour := twoDigits time.hour (Nat.lt_trans time.hour.isLt (by decide))
    minute := twoDigits time.minute (Nat.lt_trans time.minute.isLt (by decide))
    seconds := some ⟨twoDigits time.second (Nat.lt_trans time.second.isLt (by decide)), fraction⟩ }
  zone := zone

section Written

variable {fraction : Option (DigitRun isDecimal 1 fractionDigitLimit)}
  {zone : ZoneSpelling isDecimal}

theorem chars_writtenSpelling (date : Date) (time : TimeOfDay) :
    (writtenSpelling date time fraction zone).chars =
      date.chars ++ 'T' :: time.chars ++ fractionChars fraction ++ zone.chars := by
  simp only [writtenSpelling, BodySpelling.chars, clockChars, secondChars, Date.chars,
    TimeOfDay.chars, twoDigits, DigitRun.ofNat, List.append_assoc, List.cons_append]

theorem names_writtenSpelling (date : Date) {time : TimeOfDay} {offset : Offset}
    (micros : (fraction.map (·.millionths)).getD 0 = time.microsecond.val)
    (shifted : offset.micros = zone.seconds?.getD 0 * microsPerSecond) :
    (writtenSpelling date time fraction zone).fields.Names (.withOffset date time offset) := by
  simp only [BodySpelling.fields, writtenSpelling, clockFields, secondFields, value_twoDigits,
    DigitRun.value_ofNat, micros]
  exact ⟨rfl, rfl, rfl, rfl, rfl, rfl, rfl, offset, rfl, shifted⟩

end Written

/-! ## The body of a date-time in UTC -/

def bodyFraction (time : TimeOfDay) : DigitRun isDecimal 1 fractionDigitLimit :=
  have shape := forall_padded (p := fun c => isDecimal c = true) (by decide)
    time.microsecond.isLt (by decide)
  have length : (padded 6 time.microsecond ++ ['0']).length = 7 := by
    rw [List.length_append, shape.1]
    rfl
  { digits := padded 6 time.microsecond ++ ['0']
    fewest_le := by omega
    le_most := length.le
    areDigits := List.forall_mem_append.mpr ⟨shape.2, List.forall_mem_singleton.mpr (by decide)⟩ }

theorem millionths_bodyFraction (time : TimeOfDay) :
    (bodyFraction time).millionths = time.microsecond := by
  have padded := forall_padded (p := fun _ => True) (show 0 < 6 by decide) time.microsecond.isLt
    fun _ => trivial
  have value : (bodyFraction time).value = time.microsecond * 10 := by
    rw [DigitRun.value, bodyFraction, valueOf_append,
      valueOf_padded (by decide) time.microsecond.isLt]
    rfl
  have length : (bodyFraction time).digits.length = 7 := by
    rw [bodyFraction, List.length_append, padded.1]
    rfl
  rw [DigitRun.millionths, value, length, Nat.mul_assoc]
  exact Nat.mul_div_cancel _ (by decide)

theorem chars_bodySpelling (date : Date) (time : TimeOfDay) :
    Literal.dateTimeBody (.withOffset date time .utc) =
      (writtenSpelling date time (some (bodyFraction time)) .utc).chars := by
  rw [chars_writtenSpelling]
  simp only [Literal.dateTimeBody, DateTime.withOffset, fractionChars, bodyFraction,
    ZoneSpelling.chars, List.append_assoc, List.cons_append, List.nil_append]

/-- What is written for a date-time in UTC denotes it. -/
theorem decode_dateTimeBody {utc : DateTime} (isUtc : utc.IsUtc) :
    decode (String.ofList (Literal.dateTimeBody utc)) = .ok utc := by
  have micros : ((some (bodyFraction utc.time)).map (·.millionths)).getD 0 =
      utc.time.microsecond.val := millionths_bodyFraction utc.time
  have zone :
      Offset.utc.micros = (.utc : ZoneSpelling isDecimal).seconds?.getD 0 * microsPerSecond :=
    rfl
  have names := names_writtenSpelling utc.date micros zone
  rw [isUtc.eq_withOffset, chars_bodySpelling]
  exact decode_eq_ok_iff_spelled.mpr ⟨_, _, .inl String.toList_ofList, names,
    DateTime.isUtc_withOffset .., rfl⟩

theorem decode_isUtc {body : String} {d : DateTime} (decoded : decode body = .ok d) :
    d.IsUtc := by
  obtain ⟨_, _, _, _, utc, _⟩ := decode_eq_ok_iff_spelled.mp decoded
  exact utc

section Marks

variable {p : Char → Prop} (digit : ∀ d : Fin 10, p (Nat.digitChar d))

include digit

theorem forall_dateChars (date : Date) (dash : p '-') :
    date.chars.length = 10 ∧ ∀ c ∈ date.chars, p c := by
  have ⟨monthFits, dayFits⟩ := lt_pow_two date
  have year := forall_padded (by decide) (lt_pow_four date) digit
  have month := forall_padded (by decide) monthFits digit
  have day := forall_padded (by decide) dayFits digit
  constructor
  · simp only [Date.chars, List.length_append, List.length_cons, year.1, month.1, day.1]
  · simp only [Date.chars, List.append_assoc, List.cons_append, List.forall_mem_append,
      List.forall_mem_cons]
    exact ⟨year.2, dash, month.2, dash, day.2⟩

theorem forall_timeChars (time : TimeOfDay) (colon : p ':') :
    time.chars.length = 8 ∧ ∀ c ∈ time.chars, p c := by
  have hourFits : time.hour.val < 10 ^ 2 := Nat.lt_trans time.hour.isLt (by decide)
  have minuteFits : time.minute.val < 10 ^ 2 := Nat.lt_trans time.minute.isLt (by decide)
  have secondFits : time.second.val < 10 ^ 2 := Nat.lt_trans time.second.isLt (by decide)
  have hour := forall_padded (by decide) hourFits digit
  have minute := forall_padded (by decide) minuteFits digit
  have second := forall_padded (by decide) secondFits digit
  constructor
  · simp only [TimeOfDay.chars, List.length_append, List.length_cons, hour.1, minute.1, second.1]
  · simp only [TimeOfDay.chars, List.append_assoc, List.cons_append, List.forall_mem_append,
      List.forall_mem_cons]
    exact ⟨hour.2, colon, minute.2, colon, second.2⟩

theorem forall_dateTimeBody (utc : DateTime) (marks : p '-' ∧ p 'T' ∧ p ':' ∧ p '.' ∧ p 'Z') :
    (Literal.dateTimeBody utc).length = 28 ∧ ∀ c ∈ Literal.dateTimeBody utc, p c := by
  obtain ⟨dash, separator, colon, point, zone⟩ := marks
  have date := forall_dateChars digit utc.date dash
  have time := forall_timeChars digit utc.time colon
  have microFits : utc.time.microsecond.val < 10 ^ 6 := utc.time.microsecond.isLt
  have micro := forall_padded (by decide) microFits digit
  constructor
  · simp only [Literal.dateTimeBody, List.length_append, List.length_cons, List.length_nil, date.1,
      time.1, micro.1]
  · simp only [Literal.dateTimeBody, List.append_assoc, List.cons_append, List.forall_mem_append,
      List.forall_mem_cons]
    exact ⟨date.2, separator, time.2, point, micro.2, digit 0, zone, by simp⟩

end Marks

/-! ## Bodies that leave the calendar -/

/-- The fields of the body are an offset, a date and a time, and their instant is before the first
or after the last of the calendar. -/
def LeavesCalendar (body : String) : Prop :=
  ∃ fields offset date time, fields? body.toList = some fields ∧
    Offset.ofSeconds (fields.offset.getD 0) = .ok offset ∧
    Date.make fields.year fields.month fields.day = .ok date ∧
    TimeOfDay.make fields.hour fields.minute fields.second fields.microsecond = .ok time ∧
    ((DateTime.withOffset date time offset).instant < 0 ∨
      DateTime.endOfCalendar ≤ (DateTime.withOffset date time offset).instant)

theorem offset_ofSeconds_ne (seconds : Int) :
    Offset.ofSeconds seconds ≠ .error .instantOutOfRange := by
  unfold Offset.ofSeconds Offset.make
  split <;> simp

theorem date_make_ne (year month day : Nat) :
    Date.make year month day ≠ .error .instantOutOfRange := by
  unfold Date.make
  repeat' split
  all_goals simp

theorem time_make_ne (hour minute second microsecond : Nat) :
    TimeOfDay.make hour minute second microsecond ≠ .error .instantOutOfRange := by
  unfold TimeOfDay.make
  repeat' split
  all_goals simp

theorem toDateTime_eq_error_iff (fields : BodyFields) :
    fields.toDateTime = .error .instantOutOfRange ↔
      ∃ offset date time, Offset.ofSeconds (fields.offset.getD 0) = .ok offset ∧
        Date.make fields.year fields.month fields.day = .ok date ∧
        TimeOfDay.make fields.hour fields.minute fields.second fields.microsecond = .ok time ∧
        ((DateTime.withOffset date time offset).instant < 0 ∨
          DateTime.endOfCalendar ≤ (DateTime.withOffset date time offset).instant) := by
  have noOffset := offset_ofSeconds_ne (fields.offset.getD 0)
  have noDate := date_make_ne fields.year fields.month fields.day
  have noTime := time_make_ne fields.hour fields.minute fields.second fields.microsecond
  simp only [BodyFields.toDateTime, bind, Except.bind]
  cases offset : Offset.ofSeconds (fields.offset.getD 0) with
  | error fault => simpa [offset] using noOffset
  | ok offset =>
  cases date : Date.make fields.year fields.month fields.day with
  | error fault => simpa [date] using noDate
  | ok date =>
  cases time : TimeOfDay.make fields.hour fields.minute fields.second fields.microsecond with
  | error fault => simpa [time] using noTime
  | ok time => simp [DateTime.ofInstant_eq_error_iff]

theorem decode_eq_instantOutOfRange_iff (body : String) :
    decode body = .error (.calendar .instantOutOfRange) ↔ LeavesCalendar body := by
  unfold decode LeavesCalendar
  cases read : fields? body.toList with
  | none => simp
  | some fields =>
    have iff := toDateTime_eq_error_iff fields
    cases made : fields.toDateTime with
    | ok d => simpa [made] using iff
    | error fault => simpa [made] using iff

end StagedTables.Filter.DateTimeLiteral
