import StagedTables.Filter.DateTimeLiteral
import StagedTables.Proofs.Calendar
import StagedTables.Proofs.CharacterClass

/-! # How date-time bodies are spelled

A body is spelled in runs of digits: a date, perhaps a time to the minute, second or fraction of a
second, and perhaps an offset.  Main statement: a body denotes a date-time exactly if it is spelled
so and its fields name a date, a time and an offset whose instant the calendar has.  Digits of every
script are taken, a line feed may follow, and the minutes of an offset may pass an hour. -/
set_option autoImplicit false
namespace StagedTables.Filter.DateTimeLiteral

open Calendar Text Numeral

/-! ## Spellings -/

/-- Characters of a class of digits, at least `fewest` and at most `most` of them. -/
structure DigitRun (isDigit : Char → Bool) (fewest most : Nat) where
  digits : List Char
  fewest_le : fewest ≤ digits.length
  le_most : digits.length ≤ most
  areDigits : ∀ c ∈ digits, isDigit c = true

namespace DigitRun

variable {isDigit : Char → Bool} {fewest most : Nat}

def value (run : DigitRun isDigit fewest most) : Nat := valueOf run.digits

def millionths (run : DigitRun isDigit fewest most) : Nat :=
  run.value * 10 ^ 6 / 10 ^ run.digits.length

theorem length_eq {count : Nat} (run : DigitRun isDigit count count) :
    run.digits.length = count :=
  Nat.le_antisymm run.le_most run.fewest_le

end DigitRun

section Spellings

variable (isDigit : Char → Bool)

structure SecondSpelling where
  second : DigitRun isDigit 2 2
  fraction : Option (DigitRun isDigit 1 fractionDigitLimit)

structure ClockSpelling where
  hour : DigitRun isDigit 2 2
  minute : DigitRun isDigit 2 2
  seconds : Option (SecondSpelling isDigit)

inductive ZoneSpelling where
  | unwritten
  | utc
  | offset (west : Bool) (hours minutes : DigitRun isDigit 2 2)

structure BodySpelling where
  year : DigitRun isDigit 4 4
  month : DigitRun isDigit 2 2
  day : DigitRun isDigit 2 2
  clock : Option (ClockSpelling isDigit)
  zone : ZoneSpelling isDigit

end Spellings

section Written

variable {isDigit : Char → Bool}

def fractionChars {fewest most : Nat} : Option (DigitRun isDigit fewest most) → List Char
  | none => []
  | some run => '.' :: run.digits

def secondChars : Option (SecondSpelling isDigit) → List Char
  | none => []
  | some spelling => ':' :: spelling.second.digits ++ fractionChars spelling.fraction

def clockChars : Option (ClockSpelling isDigit) → List Char
  | none => []
  | some spelling => 'T' :: spelling.hour.digits ++ ':' :: spelling.minute.digits ++
      secondChars spelling.seconds

def ZoneSpelling.chars : ZoneSpelling isDigit → List Char
  | unwritten => []
  | utc => ['Z']
  | offset west hours minutes =>
    (if west then '-' else '+') :: hours.digits ++ ':' :: minutes.digits

def BodySpelling.chars (spelling : BodySpelling isDigit) : List Char :=
  spelling.year.digits ++ '-' :: spelling.month.digits ++ '-' :: spelling.day.digits ++
    clockChars spelling.clock ++ spelling.zone.chars

/-! ## What is spelled -/

def secondFields : Option (SecondSpelling isDigit) → Nat × Nat
  | none => (0, 0)
  | some spelling => (spelling.second.value, (spelling.fraction.map (·.millionths)).getD 0)

def clockFields : Option (ClockSpelling isDigit) → Nat × Nat × Nat × Nat
  | none => (0, 0, 0, 0)
  | some spelling => (spelling.hour.value, spelling.minute.value, secondFields spelling.seconds)

def ZoneSpelling.seconds? : ZoneSpelling isDigit → Option Int
  | offset west hours minutes =>
    let seconds : Int := (hours.value * 3600 + minutes.value * 60 : Nat)
    some (if west then -seconds else seconds)
  | _ => none

def BodySpelling.fields (spelling : BodySpelling isDigit) : BodyFields :=
  let (hour, minute, second, microsecond) := clockFields spelling.clock
  ⟨spelling.year.value, spelling.month.value, spelling.day.value, hour, minute, second,
    microsecond, spelling.zone.seconds?⟩

end Written

/-- The fields are those of a date-time with an offset, which is zero where the fields have none. -/
structure BodyFields.Names (fields : BodyFields) (named : DateTime) : Prop where
  year : named.date.year = fields.year
  month : named.date.month = fields.month
  day : named.date.day = fields.day
  hour : named.time.hour.val = fields.hour
  minute : named.time.minute.val = fields.minute
  second : named.time.second.val = fields.second
  microsecond : named.time.microsecond.val = fields.microsecond
  zoned : ∃ offset : Offset, named = .withOffset named.date named.time offset ∧
    offset.micros = fields.offset.getD 0 * microsPerSecond

/-! ## The value of digits -/

theorem decimalValue?_lt {c : Char} {d : Nat} (value : decimalValue? c = some d) : d < 10 := by
  unfold decimalValue? at value
  split at value
  · split at value
    · next digit =>
      cases value
      simp only [isAsciiDigit, Bool.and_eq_true, decide_eq_true_eq] at digit
      have last : c.toNat ≤ 57 := toNat_le digit.2
      have first : '0'.toNat = 48 := rfl
      omega
    · cases value
  · split at value
    · split at value
      · cases value
        omega
      · cases value
    · cases value

def digitOf (c : Char) : Nat := (decimalValue? c).getD 0

theorem digitOf_lt (c : Char) : digitOf c < 10 := by
  unfold digitOf
  cases value : decimalValue? c with
  | none => simp
  | some d => exact decimalValue?_lt value

theorem valueOf_eq (cs : List Char) : valueOf cs = ofDigits 10 (cs.map digitOf) := by
  rw [valueOf, ofDigits, List.foldl_map]
  rfl

theorem valueOf_append (cs more : List Char) :
    valueOf (cs ++ more) = valueOf cs * 10 ^ more.length + valueOf more := by
  simp only [valueOf_eq, List.map_append, ofDigits_append, List.length_map]

theorem valueOf_lt (cs : List Char) : valueOf cs < 10 ^ cs.length := by
  have bound : ∀ d ∈ cs.map digitOf, d < 10 := by
    intro d member
    obtain ⟨c, -, rfl⟩ := List.mem_map.mp member
    exact digitOf_lt c
  have := ofDigits_lt bound
  rwa [List.length_map, ← valueOf_eq] at this

theorem valueOf_replicate_zero (count : Nat) : valueOf (List.replicate count '0') = 0 := by
  have zero : digitOf '0' = 0 := by decide
  have none := ofDigits_replicate_zero_append 10 count []
  rwa [List.append_nil, ofDigits_nil, ← zero, ← List.map_replicate, ← valueOf_eq] at none

theorem valueOf_take_six (digits : List Char) :
    valueOf ((digits ++ List.replicate 6 '0').take 6) =
      valueOf digits * 10 ^ 6 / 10 ^ digits.length := by
  by_cases short : digits.length ≤ 6
  · obtain ⟨missing, whole⟩ := Nat.exists_eq_add_of_le short
    have padded : (digits ++ List.replicate 6 '0').take 6 =
        digits ++ List.replicate missing '0' := by
      rw [List.take_append, List.take_of_length_le short, List.take_replicate]
      congr 2
      omega
    rw [padded, valueOf_append, valueOf_replicate_zero, List.length_replicate, Nat.add_zero, whole,
      Nat.pow_add, Nat.mul_left_comm, Nat.mul_div_cancel_left _ (Nat.pow_pos (by decide))]
  · obtain ⟨extra, whole⟩ := Nat.exists_eq_add_of_le (Nat.le_of_not_le short)
    have cut : (digits ++ List.replicate 6 '0').take 6 = digits.take 6 :=
      List.take_append_of_le_length (by omega)
    have rest : (digits.drop 6).length = extra := by
      rw [List.length_drop]
      omega
    have split : valueOf digits = valueOf (digits.take 6) * 10 ^ extra +
        valueOf (digits.drop 6) := by
      rw [← rest, ← valueOf_append, List.take_append_drop]
    have small : valueOf (digits.drop 6) < 10 ^ extra := rest ▸ valueOf_lt _
    rw [cut, whole, Nat.pow_add, Nat.mul_comm (10 ^ 6),
      Nat.mul_div_mul_right _ _ (Nat.pow_pos (by decide)), split, Nat.mul_comm,
      Nat.mul_add_div (Nat.pow_pos (by decide)), Nat.div_eq_of_lt small, Nat.add_zero]

/-! ## Spelled bodies are read -/

section Reading

variable {fewest most : Nat} {rest : List Char}

theorem takeDigits?_run {count : Nat} (run : DigitRun isDecimal count count) (rest : List Char) :
    takeDigits? count (run.digits ++ rest) = some (run.value, rest) := by
  have all : run.digits.all isDecimal = true := List.all_eq_true.mpr run.areDigits
  unfold takeDigits?
  rw [List.take_left' run.length_eq, List.drop_left' run.length_eq]
  exact if_pos ⟨run.length_eq, all⟩

theorem takeMark?_cons (mark : Char) (rest : List Char) :
    takeMark? mark (mark :: rest) = some rest := by
  simp [takeMark?]

theorem takeMark?_of_endsRun {mark : Char} {p : Char → Bool} (marks : p mark = true)
    (ends : EndsRun p rest) : takeMark? mark rest = none := by
  cases rest with
  | nil => rfl
  | cons c rest =>
    have other : c ≠ mark := by
      rintro rfl
      have := ends c rfl
      rw [marks] at this
      cases this
    exact if_neg other

theorem takeFraction?_run (run : DigitRun isDecimal 1 fractionDigitLimit)
    (ends : EndsRun isDecimal rest) :
    takeFraction? (run.digits ++ rest) = some (run.millionths, rest) := by
  have digits : ((run.digits ++ rest).takeWhile isDecimal).take fractionDigitLimit =
      run.digits := by
    rw [takeWhile_append_of_endsRun run.areDigits ends, List.take_of_length_le run.le_most]
  have written : run.digits ≠ [] := List.ne_nil_of_length_pos run.fewest_le
  unfold takeFraction?
  simp only [digits, if_neg written, valueOf_take_six, List.drop_left]
  rfl

def goesOn (c : Char) : Bool := isDecimal c || c == 'T' || c == ':' || c == '.'

theorem endsRun_decimal (ends : EndsRun goesOn rest) : EndsRun isDecimal rest := by
  intro c first
  have := ends c first
  simp only [goesOn, Bool.or_eq_false_iff] at this
  exact this.1.1.1

theorem takeSeconds?_spelled (spelling : Option (SecondSpelling isDecimal))
    (ends : EndsRun goesOn rest) :
    takeSeconds? (secondChars spelling ++ rest) =
      some ((secondFields spelling).1, (secondFields spelling).2, rest) := by
  have unmarked (mark : Char) (marks : goesOn mark = true) : takeMark? mark rest = none :=
    takeMark?_of_endsRun marks ends
  cases spelling with
  | none =>
    simp only [secondChars, List.nil_append, takeSeconds?, unmarked ':' (by decide), secondFields]
  | some spelling =>
    obtain ⟨second, fraction⟩ := spelling
    simp only [secondChars, List.cons_append, List.append_assoc, takeSeconds?, takeMark?_cons,
      takeDigits?_run, Option.bind_eq_bind, Option.bind_some]
    cases fraction with
    | none =>
      simp only [fractionChars, List.nil_append, unmarked '.' (by decide), secondFields,
        Option.map_none, Option.getD_none]
    | some run =>
      simp only [fractionChars, List.cons_append, takeMark?_cons,
        takeFraction?_run run (endsRun_decimal ends), Option.bind_some, secondFields,
        Option.map_some, Option.getD_some]

theorem takeTime?_spelled (spelling : Option (ClockSpelling isDecimal))
    (ends : EndsRun goesOn rest) :
    takeTime? (clockChars spelling ++ rest) = some (clockFields spelling, rest) := by
  cases spelling with
  | none =>
    have unmarked : takeMark? 'T' rest = none := takeMark?_of_endsRun (p := goesOn) (by decide) ends
    simp only [clockChars, List.nil_append, takeTime?, unmarked, clockFields]
  | some spelling =>
    simp only [clockChars, List.cons_append, List.append_assoc, takeTime?, takeMark?_cons,
      takeDigits?_run, takeSeconds?_spelled spelling.seconds ends, Option.bind_eq_bind,
      Option.bind_some, clockFields]

def IsTail (tail : List Char) : Prop := tail = [] ∨ tail = ['\n']

variable {tail : List Char}

theorem takeOffset?_spelled (zone : ZoneSpelling isDecimal) (isTail : IsTail tail) :
    takeOffset? (zone.chars ++ tail) = some (zone.seconds?, tail) := by
  cases zone with
  | unwritten => obtain rfl | rfl := isTail <;> rfl
  | utc => rfl
  | offset west hours minutes =>
    have signed : takeSignedOffset? west (hours.digits ++ ':' :: (minutes.digits ++ tail)) =
        some ((ZoneSpelling.offset west hours minutes).seconds?, tail) := by
      simp only [takeSignedOffset?, takeDigits?_run, takeMark?_cons, Option.bind_eq_bind,
        Option.bind_some, ZoneSpelling.seconds?]
    simp only [ZoneSpelling.chars, List.cons_append, List.append_assoc, ← signed]
    cases west <;> rfl

theorem ZoneSpelling.endsRun (zone : ZoneSpelling isDecimal) (isTail : IsTail tail) :
    EndsRun goesOn (zone.chars ++ tail) := by
  cases zone with
  | unwritten =>
    obtain rfl | rfl := isTail
    · exact endsRun_nil goesOn
    · exact endsRun_cons (by decide) []
  | utc => exact endsRun_cons (by decide) tail
  | offset west hours minutes => cases west <;> exact endsRun_cons (by decide) _

theorem fields?_spelled (spelling : BodySpelling isDecimal) (isTail : IsTail tail) :
    fields? (spelling.chars ++ tail) = some spelling.fields := by
  have ends := spelling.zone.endsRun isTail
  unfold IsTail at isTail
  simp only [fields?, BodySpelling.chars, List.append_assoc, List.cons_append, takeDigits?_run,
    takeMark?_cons, takeTime?_spelled spelling.clock ends,
    takeOffset?_spelled spelling.zone isTail, Option.bind_eq_bind, Option.bind_some,
    if_pos isTail, BodySpelling.fields]

end Reading

/-! ## What is read is spelled -/

section Spelled

variable {cs rest : List Char}

theorem exists_run_of_takeDigits? {count value : Nat}
    (taken : takeDigits? count cs = some (value, rest)) :
    ∃ run : DigitRun isDecimal count count, cs = run.digits ++ rest ∧ run.value = value := by
  unfold takeDigits? at taken
  dsimp only at taken
  split at taken
  · next shape =>
    obtain ⟨length, all⟩ := shape
    cases taken
    exact ⟨⟨cs.take count, length.ge, length.le, List.all_eq_true.mp all⟩,
      (List.take_append_drop count cs).symm, rfl⟩
  · cases taken

theorem eq_cons_of_takeMark? {mark : Char} (taken : takeMark? mark cs = some rest) :
    cs = mark :: rest := by
  cases cs with
  | nil => cases taken
  | cons c cs =>
    rw [takeMark?] at taken
    split at taken
    · next same =>
      cases taken
      rw [same]
    · cases taken

theorem exists_run_of_takeFraction? {micros : Nat}
    (taken : takeFraction? cs = some (micros, rest)) :
    ∃ run : DigitRun isDecimal 1 fractionDigitLimit,
      cs = run.digits ++ rest ∧ run.millionths = micros := by
  unfold takeFraction? at taken
  dsimp only at taken
  split at taken
  · cases taken
  · next written =>
    cases taken
    generalize found : (cs.takeWhile isDecimal).take fractionDigitLimit = digits at *
    have front : digits <+: cs :=
      found ▸ (List.take_prefix _ _).trans (List.takeWhile_prefix isDecimal)
    have all : ∀ c ∈ digits, isDecimal c = true := by
      intro c member
      rw [← found] at member
      exact List.mem_takeWhile_imp (List.mem_of_mem_take member)
    have short : digits.length ≤ fractionDigitLimit := found ▸ List.length_take_le _ _
    refine ⟨⟨digits, List.length_pos_iff.mpr written, short, all⟩, ?_, ?_⟩
    · exact (List.prefix_iff_eq_append.mp front).symm
    · exact (valueOf_take_six digits).symm

theorem exists_spelling_of_takeSeconds? {second micros : Nat}
    (taken : takeSeconds? cs = some (second, micros, rest)) :
    ∃ spelling : Option (SecondSpelling isDecimal), cs = secondChars spelling ++ rest ∧
      secondFields spelling = (second, micros) := by
  unfold takeSeconds? at taken
  split at taken
  · cases taken
    exact ⟨none, rfl, rfl⟩
  · next after marked =>
    simp only [Option.bind_eq_bind, Option.bind_eq_some_iff, Prod.exists] at taken
    obtain ⟨value, behind, digits, taken⟩ := taken
    obtain ⟨run, rfl, rfl⟩ := exists_run_of_takeDigits? digits
    split at taken
    · cases taken
      refine ⟨some ⟨run, none⟩, ?_, rfl⟩
      simp [eq_cons_of_takeMark? marked, secondChars, fractionChars]
    · next last pointed =>
      simp only [Option.bind_eq_some_iff, Prod.exists, Option.some.injEq, Prod.mk.injEq] at taken
      obtain ⟨micros, behind, takenFraction, rfl, rfl, rfl⟩ := taken
      obtain ⟨fraction, rfl, rfl⟩ := exists_run_of_takeFraction? takenFraction
      refine ⟨some ⟨run, some fraction⟩, ?_, rfl⟩
      simp [eq_cons_of_takeMark? marked, eq_cons_of_takeMark? pointed, secondChars, fractionChars]

theorem exists_spelling_of_takeTime? {fields : Nat × Nat × Nat × Nat}
    (taken : takeTime? cs = some (fields, rest)) :
    ∃ spelling : Option (ClockSpelling isDecimal), cs = clockChars spelling ++ rest ∧
      clockFields spelling = fields := by
  unfold takeTime? at taken
  split at taken
  · cases taken
    exact ⟨none, rfl, rfl⟩
  · next after marked =>
    simp only [Option.bind_eq_bind, Option.bind_eq_some_iff, Prod.exists, Option.some.injEq,
      Prod.mk.injEq] at taken
    obtain ⟨_, _, takenHour, _, colon, _, _, takenMinute, second, micros, _, takenSeconds, rfl,
      rfl⟩ := taken
    obtain ⟨hours, rfl, rfl⟩ := exists_run_of_takeDigits? takenHour
    obtain rfl := eq_cons_of_takeMark? colon
    obtain ⟨minutes, rfl, rfl⟩ := exists_run_of_takeDigits? takenMinute
    obtain ⟨spelling, rfl, same⟩ := exists_spelling_of_takeSeconds? takenSeconds
    refine ⟨some ⟨hours, minutes, spelling⟩, ?_, by rw [clockFields, same]⟩
    simp [eq_cons_of_takeMark? marked, clockChars]

theorem exists_spelling_of_takeSignedOffset? {west : Bool} {offset : Option Int}
    (taken : takeSignedOffset? west cs = some (offset, rest)) :
    ∃ hours minutes : DigitRun isDecimal 2 2, cs = hours.digits ++ ':' :: minutes.digits ++ rest ∧
      (ZoneSpelling.offset west hours minutes).seconds? = offset := by
  simp only [takeSignedOffset?, Option.bind_eq_bind, Option.bind_eq_some_iff, Prod.exists,
    Option.some.injEq, Prod.mk.injEq] at taken
  obtain ⟨_, _, takenHour, _, colon, _, _, takenMinute, same, rfl⟩ := taken
  obtain ⟨hours, rfl, rfl⟩ := exists_run_of_takeDigits? takenHour
  obtain rfl := eq_cons_of_takeMark? colon
  obtain ⟨minutes, rfl, rfl⟩ := exists_run_of_takeDigits? takenMinute
  exact ⟨hours, minutes, by simp, same⟩

theorem exists_spelling_of_takeOffset? {offset : Option Int}
    (taken : takeOffset? cs = some (offset, rest)) :
    ∃ zone : ZoneSpelling isDecimal, cs = zone.chars ++ rest ∧ zone.seconds? = offset := by
  unfold takeOffset? at taken
  split at taken
  · cases taken
    exact ⟨.utc, rfl, rfl⟩
  · obtain ⟨hours, minutes, rfl, same⟩ := exists_spelling_of_takeSignedOffset? taken
    exact ⟨.offset false hours minutes, by simp [ZoneSpelling.chars], same⟩
  · obtain ⟨hours, minutes, rfl, same⟩ := exists_spelling_of_takeSignedOffset? taken
    exact ⟨.offset true hours minutes, by simp [ZoneSpelling.chars], same⟩
  · cases taken
    exact ⟨.unwritten, rfl, rfl⟩

theorem exists_spelling_of_fields? {fields : BodyFields} (read : fields? cs = some fields) :
    ∃ (spelling : BodySpelling isDecimal) (tail : List Char), IsTail tail ∧
      cs = spelling.chars ++ tail ∧ spelling.fields = fields := by
  simp only [fields?, Option.bind_eq_bind, Option.bind_eq_some_iff, Prod.exists] at read
  obtain ⟨_, _, takenYear, _, dash, _, _, takenMonth, _, dash', _, _, takenDay, hour, minute,
    second, micros, _, takenTime, _, tail, takenOffset, read⟩ := read
  obtain ⟨years, rfl, rfl⟩ := exists_run_of_takeDigits? takenYear
  obtain rfl := eq_cons_of_takeMark? dash
  obtain ⟨months, rfl, rfl⟩ := exists_run_of_takeDigits? takenMonth
  obtain rfl := eq_cons_of_takeMark? dash'
  obtain ⟨days, rfl, rfl⟩ := exists_run_of_takeDigits? takenDay
  obtain ⟨clock, rfl, same⟩ := exists_spelling_of_takeTime? takenTime
  obtain ⟨zone, rfl, rfl⟩ := exists_spelling_of_takeOffset? takenOffset
  split at read
  · next isTail =>
    cases read
    exact ⟨⟨years, months, days, clock, zone⟩, tail, isTail, by simp [BodySpelling.chars],
      by simp only [BodySpelling.fields, same]⟩
  · cases read

end Spelled

/-! ## What is named -/

theorem BodyFields.names_iff {fields : BodyFields} {date : Date} {time : TimeOfDay}
    {offset : Offset} :
    fields.Names (.withOffset date time offset) ↔
      Offset.ofSeconds (fields.offset.getD 0) = .ok offset ∧
      Date.make fields.year fields.month fields.day = .ok date ∧
      TimeOfDay.make fields.hour fields.minute fields.second fields.microsecond = .ok time := by
  rw [Offset.ofSeconds_eq_ok_iff, Date.make_eq_ok_iff, TimeOfDay.make_eq_ok_iff]
  constructor
  · rintro ⟨year, month, day, hour, minute, second, microsecond, other, zoned, same⟩
    cases zoned
    exact ⟨same, ⟨year, month, day⟩, hour, minute, second, microsecond⟩
  · rintro ⟨same, ⟨year, month, day⟩, hour, minute, second, microsecond⟩
    exact ⟨year, month, day, hour, minute, second, microsecond, offset, rfl, same⟩

theorem toDateTime_eq_ok_iff {fields : BodyFields} {d : DateTime} :
    fields.toDateTime = .ok d ↔
      ∃ named, fields.Names named ∧ d.IsUtc ∧ d.instant = named.instant := by
  constructor
  · intro made
    simp only [BodyFields.toDateTime, bind, Except.bind] at made
    split at made
    · cases made
    next offset shifted =>
    split at made
    · cases made
    next date dated =>
    split at made
    · cases made
    next time timed =>
    exact ⟨_, BodyFields.names_iff.mpr ⟨shifted, dated, timed⟩,
      DateTime.ofInstant_eq_ok_iff.mp made⟩
  · rintro ⟨named, names, isUtc, same⟩
    obtain ⟨offset, zoned, -⟩ := names.zoned
    rw [zoned] at names same
    obtain ⟨shifted, dated, timed⟩ := BodyFields.names_iff.mp names
    simp only [BodyFields.toDateTime, shifted, dated, timed, bind, Except.bind]
    exact DateTime.ofInstant_eq_ok_iff.mpr ⟨isUtc, same⟩

theorem decode_eq_ok_iff {body : String} {d : DateTime} :
    decode body = .ok d ↔
      ∃ fields, fields? body.toList = some fields ∧ fields.toDateTime = .ok d := by
  unfold decode
  cases fields? body.toList with
  | none => simp
  | some fields => cases made : fields.toDateTime <;> simp [made]

/-- A body denotes a date-time exactly if it is spelled, perhaps with a line feed after it, and its
fields name a date-time with an offset at the same instant. -/
theorem decode_eq_ok_iff_spelled {body : String} {d : DateTime} :
    decode body = .ok d ↔ ∃ (spelling : BodySpelling isDecimal) (named : DateTime),
      (body.toList = spelling.chars ∨ body.toList = spelling.chars ++ ['\n']) ∧
      spelling.fields.Names named ∧ d.IsUtc ∧ d.instant = named.instant := by
  rw [decode_eq_ok_iff]
  constructor
  · rintro ⟨fields, read, made⟩
    obtain ⟨named, names, utc, same⟩ := toDateTime_eq_ok_iff.mp made
    obtain ⟨spelling, tail, isTail, spelled, rfl⟩ := exists_spelling_of_fields? read
    refine ⟨spelling, named, ?_, names, utc, same⟩
    obtain rfl | rfl := isTail
    · exact .inl (spelled.trans (List.append_nil _))
    · exact .inr spelled
  · rintro ⟨spelling, named, spelled, names, utc, same⟩
    refine ⟨spelling.fields, ?_, toDateTime_eq_ok_iff.mpr ⟨named, names, utc, same⟩⟩
    obtain spelled | spelled := spelled
    · have nothing : IsTail [] := .inl rfl
      have read := fields?_spelled spelling nothing
      rwa [List.append_nil, ← spelled] at read
    · rw [spelled]
      exact fields?_spelled spelling (.inr rfl)

/-! ## Classes of digits -/

section Digits

variable {p q : Char → Bool}

def DigitRun.recast {fewest most : Nat} (run : DigitRun p fewest most)
    (implies : ∀ c ∈ run.digits, p c = true → q c = true) : DigitRun q fewest most :=
  ⟨run.digits, run.fewest_le, run.le_most,
    fun c member => implies c member (run.areDigits c member)⟩

theorem exists_recast_second (spelling : Option (SecondSpelling p))
    (implies : ∀ c ∈ secondChars spelling, p c = true → q c = true) :
    ∃ other : Option (SecondSpelling q), secondChars other = secondChars spelling ∧
      secondFields other = secondFields spelling := by
  cases spelling with
  | none => exact ⟨none, rfl, rfl⟩
  | some spelling =>
    obtain ⟨second, fraction⟩ := spelling
    simp only [secondChars, List.cons_append, List.forall_mem_cons, List.forall_mem_append]
      at implies
    cases fraction with
    | none => exact ⟨some ⟨second.recast implies.2.1, none⟩, rfl, rfl⟩
    | some run =>
      have fraction := (List.forall_mem_cons.mp implies.2.2).2
      exact ⟨some ⟨second.recast implies.2.1, some (run.recast fraction)⟩, rfl, rfl⟩

theorem exists_recast_clock (spelling : Option (ClockSpelling p))
    (implies : ∀ c ∈ clockChars spelling, p c = true → q c = true) :
    ∃ other : Option (ClockSpelling q), clockChars other = clockChars spelling ∧
      clockFields other = clockFields spelling := by
  cases spelling with
  | none => exact ⟨none, rfl, rfl⟩
  | some spelling =>
    obtain ⟨hour, minute, seconds⟩ := spelling
    simp only [clockChars, List.cons_append, List.append_assoc, List.forall_mem_cons,
      List.forall_mem_append] at implies
    obtain ⟨-, inHour, -, inMinute, inSeconds⟩ := implies
    obtain ⟨others, chars, fields⟩ := exists_recast_second seconds inSeconds
    refine ⟨some ⟨hour.recast inHour, minute.recast inMinute, others⟩, ?_, ?_⟩
    · simp only [clockChars, chars, DigitRun.recast]
    · simp only [clockFields, fields]
      rfl

theorem ZoneSpelling.exists_recast (zone : ZoneSpelling p)
    (implies : ∀ c ∈ zone.chars, p c = true → q c = true) :
    ∃ other : ZoneSpelling q, other.chars = zone.chars ∧ other.seconds? = zone.seconds? := by
  cases zone with
  | unwritten => exact ⟨.unwritten, rfl, rfl⟩
  | utc => exact ⟨.utc, rfl, rfl⟩
  | offset west hours minutes =>
    simp only [chars, List.cons_append, List.forall_mem_cons, List.forall_mem_append] at implies
    obtain ⟨-, inHours, -, inMinutes⟩ := implies
    exact ⟨.offset west (hours.recast inHours) (minutes.recast inMinutes), rfl, rfl⟩

theorem BodySpelling.exists_recast (spelling : BodySpelling p)
    (implies : ∀ c ∈ spelling.chars, p c = true → q c = true) :
    ∃ other : BodySpelling q, other.chars = spelling.chars ∧ other.fields = spelling.fields := by
  obtain ⟨year, month, day, clock, zone⟩ := spelling
  simp only [chars, List.append_assoc, List.cons_append, List.forall_mem_cons,
    List.forall_mem_append] at implies
  obtain ⟨inYear, -, inMonth, -, inDay, inClock, inZone⟩ := implies
  obtain ⟨clock', clockSame, clockFieldsSame⟩ := exists_recast_clock clock inClock
  obtain ⟨zone', zoneSame, secondsSame⟩ := zone.exists_recast inZone
  refine ⟨⟨year.recast inYear, month.recast inMonth, day.recast inDay, clock', zone'⟩, ?_, ?_⟩
  · simp only [chars, clockSame, zoneSame, DigitRun.recast]
  · simp only [fields, clockFieldsSame, secondsSame]
    rfl

variable {r : Char → Prop}

theorem forall_secondChars (digit : ∀ c, p c = true → r c) (marks : r ':' ∧ r '.')
    (spelling : Option (SecondSpelling p)) : ∀ c ∈ secondChars spelling, r c := by
  have inRun {fewest most : Nat} (run : DigitRun p fewest most) : ∀ c ∈ run.digits, r c :=
    fun c member => digit c (run.areDigits c member)
  cases spelling with
  | none => exact nofun
  | some spelling =>
    simp only [secondChars, List.cons_append, List.forall_mem_cons, List.forall_mem_append]
    refine ⟨marks.1, inRun _, ?_⟩
    cases spelling.fraction with
    | none => exact nofun
    | some run => exact List.forall_mem_cons.mpr ⟨marks.2, inRun run⟩

theorem BodySpelling.forall_chars (digit : ∀ c, p c = true → r c)
    (marks : r '-' ∧ r 'T' ∧ r ':' ∧ r '.' ∧ r 'Z' ∧ r '+') (spelling : BodySpelling p) :
    ∀ c ∈ spelling.chars, r c := by
  obtain ⟨dash, separator, colon, point, zulu, plus⟩ := marks
  have inRun {fewest most : Nat} (run : DigitRun p fewest most) : ∀ c ∈ run.digits, r c :=
    fun c member => digit c (run.areDigits c member)
  have inClock : ∀ c ∈ clockChars spelling.clock, r c := by
    cases spelling.clock with
    | none => exact nofun
    | some clock =>
      simp only [clockChars, List.cons_append, List.append_assoc, List.forall_mem_cons,
        List.forall_mem_append]
      exact ⟨separator, inRun _, colon, inRun _, forall_secondChars digit ⟨colon, point⟩ _⟩
  have inZone : ∀ c ∈ spelling.zone.chars, r c := by
    cases spelling.zone with
    | unwritten => exact nofun
    | utc => exact List.forall_mem_singleton.mpr zulu
    | offset west hours minutes =>
      simp only [ZoneSpelling.chars, List.cons_append, List.forall_mem_cons,
        List.forall_mem_append]
      exact ⟨by cases west <;> assumption, inRun _, colon, inRun _⟩
  simp only [chars, List.append_assoc, List.cons_append, List.forall_mem_cons,
    List.forall_mem_append]
  exact ⟨inRun _, dash, inRun _, dash, inRun _, inClock, inZone⟩

end Digits

theorem isAsciiDigit_of_isDecimal {c : Char} (ascii : c.toNat < 128)
    (decimal : isDecimal c = true) : isAsciiDigit c = true := by
  by_contra other
  simp [isDecimal, decimalValue?, ascii, other] at decimal

theorem ascii_of_isAsciiDigit {c : Char} (digit : isAsciiDigit c = true) : c.toNat < 128 := by
  simp only [isAsciiDigit, Bool.and_eq_true, decide_eq_true_eq] at digit
  have last : c.toNat ≤ 57 := toNat_le digit.2
  omega

theorem isDecimal_of_isAsciiDigit {c : Char} (digit : isAsciiDigit c = true) :
    isDecimal c = true := by
  simp [isDecimal, decimalValue?, ascii_of_isAsciiDigit digit, digit]

theorem BodySpelling.forall_ascii (spelling : BodySpelling isAsciiDigit) :
    ∀ c ∈ spelling.chars, c.toNat < 128 ∧ c ≠ '\n' := by
  refine spelling.forall_chars (fun c digit => ⟨ascii_of_isAsciiDigit digit, ?_⟩) (by decide)
  rintro rfl
  cases digit

/-! ## Bodies that denote -/

/-- A body denotes a date-time exactly if it is spelled in decimal digits, perhaps with a line feed
after it, and its fields name a date, a time and an offset at the instant of that date-time.  Every
body in ASCII digits that names an instant of the calendar denotes it; and a body that denotes
something is such a body exactly if it is in ASCII and has no line feed. -/
theorem decode_spelled (body : String) :
    (∀ d, decode body = .ok d ↔ ∃ (spelling : BodySpelling isDecimal) (named : DateTime),
      (body.toList = spelling.chars ∨ body.toList = spelling.chars ++ ['\n']) ∧
      spelling.fields.Names named ∧ d.IsUtc ∧ d.instant = named.instant) ∧
    (∀ (spelling : BodySpelling isAsciiDigit) (named : DateTime), body.toList = spelling.chars →
      spelling.fields.Names named → 0 ≤ named.instant → named.instant < DateTime.endOfCalendar →
      ∃ d, decode body = .ok d ∧ d.IsUtc ∧ d.instant = named.instant) ∧
    ∀ d, decode body = .ok d → ((∃ spelling : BodySpelling isAsciiDigit,
      body.toList = spelling.chars) ↔ (∀ c ∈ body.toList, c.toNat < 128) ∧ '\n' ∉ body.toList) := by
  refine ⟨fun d => decode_eq_ok_iff_spelled, ?_, ?_⟩
  · intro spelling named spelled names early late
    obtain ⟨decimal, chars, fields⟩ :=
      spelling.exists_recast fun c _ => isDecimal_of_isAsciiDigit (c := c)
    obtain ⟨d, found⟩ := DateTime.exists_ofInstant? early late
    obtain ⟨utc, same⟩ := DateTime.ofInstant?_eq_some found
    exact ⟨d, decode_eq_ok_iff_spelled.mpr
      ⟨decimal, named, .inl (by rw [spelled, chars]), by rwa [fields], utc, same⟩, utc, same⟩
  · intro d decoded
    constructor
    · rintro ⟨spelling, spelled⟩
      rw [spelled]
      exact ⟨fun c member => (spelling.forall_ascii c member).1,
        fun member => (spelling.forall_ascii _ member).2 rfl⟩
    · rintro ⟨ascii, unbroken⟩
      obtain ⟨spelling, -, spelled | spelled, -⟩ := decode_eq_ok_iff_spelled.mp decoded
      · rw [spelled] at ascii ⊢
        obtain ⟨other, chars, -⟩ :=
          spelling.exists_recast fun c member => isAsciiDigit_of_isDecimal (ascii c member)
        exact ⟨other, chars.symm⟩
      · exact absurd (by simp [spelled]) unbroken

/-- A line feed after the date is passed over, and digits need not be ASCII. -/
theorem decode_beyond_ascii :
    decode "2024-01-02\n" = .ok (.withOffset ⟨2024, 1, 2, by decide⟩ .midnight .utc) ∧
      decode "٢٠٢٤-٠١-٠٢" = .ok (.withOffset ⟨2024, 1, 2, by decide⟩ .midnight .utc) ∧
      ¬ (∃ spelling : BodySpelling isAsciiDigit, "2024-01-02\n".toList = spelling.chars) ∧
      ¬ ∃ spelling : BodySpelling isAsciiDigit, "٢٠٢٤-٠١-٠٢".toList = spelling.chars := by
  refine ⟨by decide, by decide +kernel, ?_, ?_⟩
  · rintro ⟨spelling, spelled⟩
    exact (spelling.forall_ascii '\n' (by simp [← spelled])).2 rfl
  · rintro ⟨spelling, spelled⟩
    exact absurd (spelling.forall_ascii '٢' (by simp [← spelled])).1 (by decide)

end StagedTables.Filter.DateTimeLiteral
