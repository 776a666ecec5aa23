import Mathlib.Tactic.ByContra
import StagedTables.Calendar.DateTime

/-! # Dates by their day numbers, date-times by their instants

The numbering of days is a bijection between the dates of the calendar and the numbers below
`dayCount`, and a date-time in UTC is determined by its instant: `ofInstant?_eq_some_iff`. -/
set_option autoImplicit false
namespace StagedTables.Calendar

/-! ## Years -/

def daysInYear (year : Nat) : Nat := if IsLeap year then 366 else 365

theorem daysBeforeYear_succ {year : Nat} (positive : 1 ≤ year) :
    daysBeforeYear (year + 1) = daysBeforeYear year + daysInYear year := by
  have fours : year / 4 = (year - 1) / 4 + if year % 4 = 0 then 1 else 0 := by split <;> omega
  have centuries : year / 100 = (year - 1) / 100 + if year % 100 = 0 then 1 else 0 := by
    split <;> omega
  have cycles : year / 400 = (year - 1) / 400 + if year % 400 = 0 then 1 else 0 := by
    split <;> omega
  have fewer : (year - 1) / 100 ≤ (year - 1) / 4 := by omega
  have hundreds : year % 100 = 0 → year % 4 = 0 := by omega
  have cycle : year % 400 = 0 → year % 100 = 0 := by omega
  simp only [daysBeforeYear, Nat.add_sub_cancel, fours, centuries, cycles]
  clear fours centuries cycles
  generalize (year - 1) / 4 = a at *
  generalize (year - 1) / 100 = b at *
  generalize (year - 1) / 400 = c at *
  by_cases four : year % 4 = 0
  · by_cases hundred : year % 100 = 0
    · by_cases whole : year % 400 = 0
      · have leap : IsLeap year := ⟨four, .inr whole⟩
        rw [daysInYear, if_pos leap, if_pos four, if_pos hundred, if_pos whole]
        clear hundreds cycle four hundred whole
        omega
      · have common : ¬ IsLeap year := fun leap => leap.2.elim (absurd hundred) whole
        rw [daysInYear, if_neg common, if_pos four, if_pos hundred, if_neg whole]
        clear hundreds cycle four hundred whole
        omega
    · have other : ¬ year % 400 = 0 := mt cycle hundred
      have leap : IsLeap year := ⟨four, .inl hundred⟩
      rw [daysInYear, if_pos leap, if_pos four, if_neg hundred, if_neg other]
      clear hundreds cycle four hundred other
      omega
  · have notHundred : ¬ year % 100 = 0 := mt hundreds four
    have other : ¬ year % 400 = 0 := mt cycle notHundred
    have common : ¬ IsLeap year := fun leap => four leap.1
    rw [daysInYear, if_neg common, if_neg four, if_neg notHundred, if_neg other]
    clear hundreds cycle four notHundred other
    omega

theorem daysBeforeYear_mono {year later : Nat} (positive : 1 ≤ year) (before : year < later) :
    daysBeforeYear year + daysInYear year ≤ daysBeforeYear later := by
  induction later with
  | zero => omega
  | succ later ih =>
    rcases Nat.lt_or_eq_of_le (Nat.le_of_lt_succ before) with earlier | rfl
    · have := daysBeforeYear_succ (Nat.le_trans positive (Nat.le_of_lt earlier))
      have := ih earlier
      omega
    · exact Nat.le_of_eq (daysBeforeYear_succ positive).symm

/-- A year by its place in the cycle of 400 years, in its century and among four years. -/
def yearOfParts (cycle century four year : Nat) : Nat :=
  400 * cycle + 100 * century + 4 * four + year + 1

theorem daysBeforeYear_yearOfParts {a b c d : Nat} (century : b ≤ 3) (four : c ≤ 24)
    (year : d ≤ 3) :
    daysBeforeYear (yearOfParts a b c d) = 146097 * a + 36524 * b + 1461 * c + 365 * d := by
  simp only [daysBeforeYear, yearOfParts]
  omega

theorem isLeap_yearOfParts {a b c d : Nat} (four : c ≤ 24) (year : d ≤ 3) (century : b ≤ 3) :
    IsLeap (yearOfParts a b c d) ↔ d = 3 ∧ (c ≠ 24 ∨ b = 3) := by
  simp only [IsLeap, yearOfParts]
  omega

theorem yearOfDay_parts (day : Nat) :
    ∃ a b c d r, b ≤ 3 ∧ c ≤ 24 ∧ d ≤ 3 ∧ yearOfDay day = (yearOfParts a b c d, r) ∧
      day = 146097 * a + 36524 * b + 1461 * c + 365 * d + r ∧
      (r < 365 ∨ r = 365 ∧ d = 3 ∧ (c ≠ 24 ∨ b = 3)) := by
  have century : min (day % 146097 / 36524) 3 ≤ 3 := Nat.min_le_right ..
  refine ⟨day / 146097, min (day % 146097 / 36524) 3, _, _, _, century, ?_, ?_, rfl, ?_⟩
  · simp only [daysPer400Years, daysPer100Years, daysPer4Years]
    omega
  · omega
  · simp only [daysPer400Years, daysPer100Years, daysPer4Years]
    generalize inCentury : day % 146097 - min (day % 146097 / 36524) 3 * 36524 = r
    have bound : r < 36524 ∨ r = 36524 ∧ min (day % 146097 / 36524) 3 = 3 := by omega
    constructor <;> omega

theorem yearOfDay_spec {day year rest : Nat} (found : yearOfDay day = (year, rest)) :
    1 ≤ year ∧ rest < daysInYear year ∧ daysBeforeYear year + rest = day := by
  obtain ⟨a, b, c, d, r, century, four, inFour, parts, value, bound⟩ := yearOfDay_parts day
  cases parts.symm.trans found
  refine ⟨Nat.le_add_left .., ?_, ?_⟩
  · simp only [daysInYear, isLeap_yearOfParts four inFour century]
    split <;> omega
  · rw [daysBeforeYear_yearOfParts century four inFour, value]

theorem yearOfDay_eq {year day : Nat} (positive : 1 ≤ year) (inYear : day < daysInYear year) :
    yearOfDay (daysBeforeYear year + day) = (year, day) := by
  cases found : yearOfDay (daysBeforeYear year + day) with
  | mk year' day' =>
  obtain ⟨positive', inYear', same⟩ := yearOfDay_spec found
  rcases Nat.lt_trichotomy year year' with before | rfl | after
  · have := daysBeforeYear_mono positive before
    omega
  · have : day' = day := by omega
    rw [this]
  · have := daysBeforeYear_mono positive' after
    omega

/-! ## Months -/

def totalDays (lengths : List Nat) : Nat := lengths.foldr (· + ·) 0

@[simp] theorem totalDays_nil : totalDays [] = 0 := rfl

@[simp] theorem totalDays_cons (length : Nat) (lengths : List Nat) :
    totalDays (length :: lengths) = length + totalDays lengths := rfl

theorem daysBeforeMonth_eq (year month : Nat) :
    daysBeforeMonth year month = totalDays ((monthLengths year).take (month - 1)) := rfl

theorem totalDays_monthLengths (year : Nat) : totalDays (monthLengths year) = daysInYear year := by
  by_cases leap : IsLeap year <;> simp [monthLengths, daysInYear, leap]

theorem totalDays_take_add_lt {lengths : List Nat} {index day : Nat}
    (inMonth : day < lengths.getD index 0) :
    totalDays (lengths.take index) + day < totalDays lengths := by
  induction lengths generalizing index with
  | nil => simp at inMonth
  | cons length lengths ih =>
    cases index with
    | zero =>
      simp only [List.getD_cons_zero] at inMonth
      simp only [List.take_zero, totalDays_nil, totalDays_cons]
      omega
    | succ index =>
      have := @ih index inMonth
      simp only [List.take_succ_cons, totalDays_cons]
      omega

theorem monthOfDay_eq {lengths : List Nat} {index day : Nat} (first : Nat)
    (inMonth : day < lengths.getD index 0) :
    monthOfDay first lengths (totalDays (lengths.take index) + day) = (first + index, day + 1) := by
  induction lengths generalizing index first with
  | nil => simp at inMonth
  | cons length lengths ih =>
    cases index with
    | zero =>
      have short : day < length := inMonth
      simp [monthOfDay, short]
    | succ index =>
      have later := @ih index (first + 1) inMonth
      have long : ¬ length + (totalDays (lengths.take index) + day) < length := by omega
      rw [List.take_succ_cons, totalDays_cons, Nat.add_assoc, monthOfDay, if_neg long,
        Nat.add_sub_cancel_left, later]
      simp only [Prod.mk.injEq, and_true]
      omega

theorem monthOfDay_spec {lengths : List Nat} {first day month dayOfMonth : Nat}
    (inYear : day < totalDays lengths)
    (found : monthOfDay first lengths day = (month, dayOfMonth)) :
    ∃ index, month = first + index ∧ index < lengths.length ∧ 1 ≤ dayOfMonth ∧
      dayOfMonth ≤ lengths.getD index 0 ∧
      totalDays (lengths.take index) + (dayOfMonth - 1) = day := by
  induction lengths generalizing first day with
  | nil => simp at inYear
  | cons length lengths ih =>
    simp only [monthOfDay] at found
    split at found
    · next short =>
      cases found
      exact ⟨0, rfl, by simp, by omega, short, by simp⟩
    · next long =>
      rw [totalDays_cons] at inYear
      obtain ⟨index, place, within, positive, bound, value⟩ := ih (by omega) found
      refine ⟨index + 1, by omega, by simpa using within, positive, bound, ?_⟩
      rw [List.take_succ_cons, totalDays_cons]
      omega

/-! ## Dates -/

def dayCount : Nat := 3652059

theorem dayCount_eq : daysBeforeYear (lastYear + 1) = dayCount := by decide

def Date.ofYearDay? (found : Nat × Nat) : Option Date :=
  let (year, dayOfYear) := found
  let (month, day) := monthOfDay 1 (monthLengths year) dayOfYear
  if isDate : IsDate year month day then some ⟨year, month, day, isDate⟩ else none

def Date.ofMonthDay? (year : Nat) (found : Nat × Nat) : Option Date :=
  let (month, day) := found
  if isDate : IsDate year month day then some ⟨year, month, day, isDate⟩ else none

theorem Date.ofDayNumber?_eq {number year rest month day : Nat}
    (inYears : yearOfDay number = (year, rest))
    (inMonths : monthOfDay 1 (monthLengths year) rest = (month, day)) :
    Date.ofDayNumber? number =
      if isDate : IsDate year month day then some ⟨year, month, day, isDate⟩ else none :=
  calc Date.ofDayNumber? number
      = Date.ofYearDay? (yearOfDay number) := rfl
    _ = Date.ofYearDay? (year, rest) := by rw [inYears]
    _ = Date.ofMonthDay? year (monthOfDay 1 (monthLengths year) rest) := rfl
    _ = Date.ofMonthDay? year (month, day) := by rw [inMonths]
    _ = _ := rfl

theorem Date.ofDayNumber?_dayNumber (date : Date) :
    Date.ofDayNumber? date.dayNumber = some date := by
  obtain ⟨year, month, day, isDate⟩ := date
  have ⟨⟨positive, _⟩, ⟨first, _⟩, ⟨one, last⟩⟩ := isDate
  have inMonth : day - 1 < (monthLengths year).getD (month - 1) 0 := by
    unfold daysInMonth at last
    omega
  have inYear : totalDays ((monthLengths year).take (month - 1)) + (day - 1) < daysInYear year :=
    totalDays_monthLengths year ▸ totalDays_take_add_lt inMonth
  have number : Date.dayNumber ⟨year, month, day, isDate⟩ = daysBeforeYear year +
      (totalDays ((monthLengths year).take (month - 1)) + (day - 1)) := by
    simp only [Date.dayNumber, daysBeforeMonth_eq, Nat.add_assoc]
  have sameMonth : 1 + (month - 1) = month := by omega
  have sameDay : day - 1 + 1 = day := by omega
  have inMonths : monthOfDay 1 (monthLengths year)
      (totalDays ((monthLengths year).take (month - 1)) + (day - 1)) = (month, day) := by
    rw [monthOfDay_eq 1 inMonth, sameMonth, sameDay]
  rw [number, Date.ofDayNumber?_eq (yearOfDay_eq positive inYear) inMonths, dif_pos isDate]

theorem Date.dayNumber_ofDayNumber? {number : Nat} {date : Date}
    (found : Date.ofDayNumber? number = some date) : date.dayNumber = number := by
  cases inYears : yearOfDay number with
  | mk year rest =>
  cases inMonths : monthOfDay 1 (monthLengths year) rest with
  | mk month day =>
  rw [Date.ofDayNumber?_eq inYears inMonths] at found
  split at found
  · cases found
    obtain ⟨_, inYear, value⟩ := yearOfDay_spec inYears
    rw [← totalDays_monthLengths] at inYear
    obtain ⟨index, place, _, _, _, inMonth⟩ := monthOfDay_spec inYear inMonths
    have before : month - 1 = index := by omega
    simp only [Date.dayNumber, daysBeforeMonth_eq, before]
    omega
  · cases found

theorem Date.dayNumber_lt (date : Date) : date.dayNumber < dayCount := by
  obtain ⟨year, month, day, isDate⟩ := date
  have ⟨⟨positive, last⟩, _, ⟨one, _⟩⟩ := isDate
  have inMonth : day - 1 < (monthLengths year).getD (month - 1) 0 := by
    have := isDate.2.2
    unfold daysInMonth at this
    omega
  have inYear := totalDays_take_add_lt inMonth
  have beforeEnd : daysBeforeYear year + daysInYear year ≤ daysBeforeYear (lastYear + 1) :=
    daysBeforeYear_mono positive (Nat.lt_succ_of_le last)
  rw [totalDays_monthLengths] at inYear
  rw [← dayCount_eq]
  simp only [Date.dayNumber, daysBeforeMonth_eq]
  omega

theorem Date.ofDayNumber?_isSome {number : Nat} (bound : number < dayCount) :
    ∃ date, Date.ofDayNumber? number = some date := by
  cases inYears : yearOfDay number with
  | mk year rest =>
  cases inMonths : monthOfDay 1 (monthLengths year) rest with
  | mk month day =>
  obtain ⟨positive, inYear, value⟩ := yearOfDay_spec inYears
  rw [← totalDays_monthLengths] at inYear
  obtain ⟨index, place, within, one, last, _⟩ := monthOfDay_spec inYear inMonths
  have lastOk : year ≤ lastYear := by
    by_contra beyond
    have later : lastYear + 1 ≤ year := by omega
    rcases Nat.lt_or_eq_of_le later with after | rfl
    · have : daysBeforeYear (lastYear + 1) + daysInYear (lastYear + 1) ≤ daysBeforeYear year :=
        daysBeforeYear_mono (by decide) after
      have := dayCount_eq
      omega
    · have := dayCount_eq
      omega
  have months : (monthLengths year).length = 12 := rfl
  have before : month - 1 = index := by omega
  have isDate : IsDate year month day :=
    ⟨⟨positive, lastOk⟩, ⟨by omega, by omega⟩, one, by rw [daysInMonth, before]; exact last⟩
  exact ⟨⟨year, month, day, isDate⟩, by rw [Date.ofDayNumber?_eq inYears inMonths, dif_pos isDate]⟩

/-! ## Times of day -/

theorem TimeOfDay.micros_lt (time : TimeOfDay) : time.micros < microsPerDay := by
  have := time.hour.isLt
  have := time.minute.isLt
  have := time.second.isLt
  have := time.microsecond.isLt
  simp only [TimeOfDay.micros, microsPerDay, microsPerSecond]
  omega

theorem TimeOfDay.ofMicros_micros (time : TimeOfDay) : TimeOfDay.ofMicros time.micros = time := by
  obtain ⟨⟨hour, _⟩, ⟨minute, _⟩, ⟨second, _⟩, ⟨micro, _⟩⟩ := time
  simp only [TimeOfDay.ofMicros, TimeOfDay.micros, microsPerSecond, Fin.ofNat, TimeOfDay.mk.injEq,
    Fin.mk.injEq]
  omega

theorem TimeOfDay.micros_ofMicros {micros : Nat} (inDay : micros < microsPerDay) :
    (TimeOfDay.ofMicros micros).micros = micros := by
  simp only [microsPerDay] at inDay
  simp only [TimeOfDay.ofMicros, TimeOfDay.micros, microsPerSecond, Fin.ofNat]
  omega

/-! ## Fields -/

theorem Date.make_eq_ok_iff {year month day : Nat} {date : Date} :
    Date.make year month day = .ok date ↔
      date.year = year ∧ date.month = month ∧ date.day = day := by
  constructor
  · intro made
    unfold Date.make at made
    split at made
    · cases made
      exact ⟨rfl, rfl, rfl⟩
    · split at made
      · cases made
      · split at made <;> cases made
  · rintro ⟨rfl, rfl, rfl⟩
    rw [Date.make, dif_pos date.isDate]

theorem TimeOfDay.make_eq_ok_iff {hour minute second micro : Nat} {time : TimeOfDay} :
    TimeOfDay.make hour minute second micro = .ok time ↔ time.hour.val = hour ∧
      time.minute.val = minute ∧ time.second.val = second ∧ time.microsecond.val = micro := by
  constructor
  · intro made
    unfold TimeOfDay.make at made
    repeat' split at made
    all_goals cases made
    exact ⟨rfl, rfl, rfl, rfl⟩
  · rintro ⟨rfl, rfl, rfl, rfl⟩
    simp [TimeOfDay.make]

theorem Offset.make_eq_ok_iff {micros : Int} {offset : Offset} :
    Offset.make micros = .ok offset ↔ offset.micros = micros := by
  constructor
  · intro made
    unfold Offset.make at made
    split at made <;> cases made
    rfl
  · rintro rfl
    rw [Offset.make, dif_pos offset.isOffset]

theorem Offset.ofSeconds_eq_ok_iff {seconds : Int} {offset : Offset} :
    Offset.ofSeconds seconds = .ok offset ↔ offset.micros = seconds * microsPerSecond :=
  Offset.make_eq_ok_iff

/-! ## Instants -/

namespace DateTime

def endOfCalendar : Int := dayCount * microsPerDay

section Utc

variable {d : DateTime} {instant : Int}

theorem IsUtc.eq_withOffset (isUtc : d.IsUtc) : d = withOffset d.date d.time .utc := by
  obtain ⟨date, time, zone, fold⟩ := d
  obtain ⟨rfl, rfl⟩ := isUtc
  rfl

theorem IsUtc.offset_eq (isUtc : d.IsUtc) : d.offset = .gives (some .utc) := by
  rw [offset, isUtc.1, Zone.utc]

theorem IsUtc.instant_eq (isUtc : d.IsUtc) : d.instant = d.localMicros := by
  simp [DateTime.instant, isUtc.offset_eq, Offset.utc]

theorem isUtc_withOffset (date : Date) (time : TimeOfDay) : (withOffset date time .utc).IsUtc :=
  ⟨rfl, rfl⟩

theorem localMicros_lt (d : DateTime) : (d.localMicros : Int) < endOfCalendar := by
  have := d.date.dayNumber_lt
  have := d.time.micros_lt
  simp only [localMicros, endOfCalendar, microsPerDay] at *
  omega

theorem ofInstant?_instant (isUtc : d.IsUtc) : ofInstant? d.instant = some d := by
  have inDay := d.time.micros_lt
  have days : d.localMicros / microsPerDay = d.date.dayNumber := by
    simp only [localMicros, microsPerDay] at *
    omega
  have rest : d.localMicros % microsPerDay = d.time.micros := by
    simp only [localMicros, microsPerDay] at *
    omega
  rw [isUtc.instant_eq, ofInstant?, if_neg (by omega)]
  simp only [Int.toNat_natCast, days, rest, Date.ofDayNumber?_dayNumber, Option.map_some,
    TimeOfDay.ofMicros_micros, ← isUtc.eq_withOffset]

theorem ofInstant?_eq_some (found : ofInstant? instant = some d) :
    d.IsUtc ∧ d.instant = instant := by
  simp only [ofInstant?] at found
  split at found
  · cases found
  · next positive =>
    obtain ⟨date, dated, rfl⟩ := Option.map_eq_some_iff.mp found
    have number := Date.dayNumber_ofDayNumber? dated
    refine ⟨isUtc_withOffset .., ?_⟩
    rw [(isUtc_withOffset ..).instant_eq, localMicros, withOffset,
      TimeOfDay.micros_ofMicros (Nat.mod_lt _ (by decide)), number]
    simp only [microsPerDay]
    omega

theorem ofInstant?_eq_some_iff : ofInstant? instant = some d ↔ d.IsUtc ∧ d.instant = instant := by
  constructor
  · exact ofInstant?_eq_some
  · rintro ⟨isUtc, rfl⟩
    exact ofInstant?_instant isUtc

theorem ofInstant?_eq_none_iff :
    ofInstant? instant = none ↔ instant < 0 ∨ endOfCalendar ≤ instant := by
  constructor
  · intro missing
    by_contra inside
    simp only [not_or, endOfCalendar, microsPerDay] at inside
    have bound : instant.toNat / microsPerDay < dayCount := by
      simp only [microsPerDay]
      omega
    obtain ⟨date, dated⟩ := Date.ofDayNumber?_isSome bound
    rw [ofInstant?, if_neg (by omega)] at missing
    simp [dated] at missing
  · intro outside
    cases found : ofInstant? instant with
    | none => rfl
    | some d =>
      obtain ⟨isUtc, rfl⟩ := ofInstant?_eq_some found
      have := d.localMicros_lt
      rw [isUtc.instant_eq] at outside
      omega

theorem exists_ofInstant? (early : 0 ≤ instant) (late : instant < endOfCalendar) :
    ∃ d, ofInstant? instant = some d := by
  apply Option.ne_none_iff_exists'.mp
  intro missing
  have := ofInstant?_eq_none_iff.mp missing
  omega

theorem ofInstant_eq_ok_iff : ofInstant instant = .ok d ↔ d.IsUtc ∧ d.instant = instant := by
  rw [← ofInstant?_eq_some_iff, ofInstant]
  cases ofInstant? instant <;> simp

theorem ofInstant_eq_error_iff {fault : Fault} :
    ofInstant instant = .error fault ↔
      fault = .instantOutOfRange ∧ (instant < 0 ∨ endOfCalendar ≤ instant) := by
  rw [← ofInstant?_eq_none_iff, ofInstant]
  cases ofInstant? instant <;> simp [eq_comm]

end Utc

end DateTime
end StagedTables.Calendar
