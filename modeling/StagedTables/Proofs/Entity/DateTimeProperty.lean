import Mathlib.Data.List.Basic
import StagedTables.Entity.Row
import StagedTables.Proofs.DecimalText
import StagedTables.Proofs.Filter.DateTimeOffset

/-! # Date-times in rows

The ISO 8601 reader takes fields of fixed widths from a text, up to six digits of a fraction, and
passes over further ones.  Main statement: what is written between the quotes of a date-time literal
is read by this reader, from a property of a row, as the same date-time in UTC that the literal
denotes in a filter. -/
set_option autoImplicit false
namespace StagedTables.Calendar

open Text Numeral
open Filter.DateTimeLiteral (exists_padded forall_padded forall_dateChars forall_timeChars
  lt_pow_four lt_pow_two)

/-! ## Fields of fixed widths -/

theorem takeDigits?_padded {width n : Nat} (positive : 0 < width) (fits : n < 10 ^ width)
    (rest : List Char) : takeDigits? width (padded width n ++ rest) = some (n, rest) := by
  obtain ⟨digits, length, areDigits, written⟩ := exists_padded positive fits
  have size : (spell digits).length = width := (length_spell digits).trans length
  have inAscii : (spell digits).all isAsciiDigit = true :=
    List.all_eq_true.mpr (isAsciiDigit_of_mem_spell areDigits.bound)
  rw [written, takeDigits?, ← size, List.take_left, List.drop_left, if_pos ⟨rfl, inAscii⟩,
    ofDigitChars_spell areDigits.bound, areDigits.value]

theorem takeDigits?_two {n : Nat} (fits : n < 10 ^ 2) (rest : List Char) :
    takeDigits? 2 (padded 2 n ++ rest) = some (n, rest) :=
  takeDigits?_padded (by decide) fits rest

theorem exists_padded_two {n : Nat} (fits : n < 10 ^ 2) :
    ∃ c d, padded 2 n = [c, d] ∧ isAsciiDigit c = true := by
  obtain ⟨length, digits⟩ := forall_padded (p := fun c => isAsciiDigit c = true)
    (show 0 < 2 by decide) fits (by decide)
  obtain ⟨c, d, written⟩ := List.length_eq_two.mp length
  exact ⟨c, d, written, digits c (by simp [written])⟩

theorem readDate?_chars (date : Date) : readDate? date.chars = some (.ok date) := by
  have ⟨monthFits, dayFits⟩ := lt_pow_two date
  obtain ⟨c, d, written, digit⟩ := exists_padded_two monthFits
  have notWeek : c ≠ 'W' := by
    rintro rfl
    cases digit
  have shape : date.chars =
      padded 4 date.year ++ '-' :: c :: d :: '-' :: (padded 2 date.day ++ []) := by
    simp [Date.chars, written]
  have year := takeDigits?_padded (by decide) (lt_pow_four date)
    ('-' :: c :: d :: '-' :: (padded 2 date.day ++ []))
  have month := takeDigits?_two monthFits ('-' :: (padded 2 date.day ++ []))
  have made : Date.make date.year date.month date.day = .ok date :=
    Date.make_eq_ok_iff.mpr ⟨rfl, rfl, rfl⟩
  rw [written] at month
  rw [shape]
  simp only [readDate?, year, Option.bind_eq_bind, Option.bind_some, List.head?_cons,
    beq_self_eq_true, if_true, List.tail_cons]
  split
  · next same => exact absurd (List.cons.inj same).1 notWeek
  · rw [show c :: d :: '-' :: (padded 2 date.day ++ []) =
      [c, d] ++ '-' :: (padded 2 date.day ++ []) from rfl, month]
    simp only [Option.bind_some, takeDigits?_two dayFits, made]

/-! ## The time of day -/

/-- Digits beyond the sixth are passed over. -/
theorem readFraction?_padded {micros : Nat} (fits : micros < 10 ^ 6) {more : List Char}
    (digits : ∀ c ∈ more, isAsciiDigit c = true) :
    readFraction? (padded 6 micros ++ more) = some (micros, []) := by
  have length := (forall_padded (p := fun _ => True) (show 0 < 6 by decide) fits fun _ => trivial).1
  have count : min 6 (padded 6 micros ++ more).length = 6 := by
    rw [List.length_append, length]
    omega
  have rest : more.dropWhile isAsciiDigit = [] := List.dropWhile_eq_nil_iff.mpr digits
  simp only [readFraction?, count, takeDigits?_padded (show 0 < 6 by decide) fits,
    Option.bind_eq_bind, Option.bind_some, rest, Nat.sub_self]
  simp

section Clock

variable {n steps : Nat} (fits : n < 10 ^ 2) (fields : List Nat) {c : Char} (rest : List Char)

include fits

theorem readClock?_colon {colons : Option Bool} (apart : colons ≠ some false) :
    readClock? (steps + 1) colons fields (padded 2 n ++ ':' :: c :: rest) =
      readClock? steps (some true) (fields ++ [n]) (c :: rest) := by
  have marked : colons.getD true = true := by
    cases colons with
    | none => rfl
    | some colons => cases colons with
      | true => rfl
      | false => exact absurd rfl apart
  rw [readClock?]
  simp [takeDigits?_two fits, marked]

theorem readClock?_point :
    readClock? (steps + 1) (some true) fields (padded 2 n ++ '.' :: c :: rest) =
      (readFraction? (c :: rest)).map fun (micros, rest) => (fields ++ [n], micros, rest) := by
  rw [readClock?]
  simp [takeDigits?_two fits]

end Clock

theorem readClock?_time (time : TimeOfDay) {more : List Char}
    (digits : ∀ c ∈ more, isAsciiDigit c = true) :
    readClock? 3 none [] (time.chars ++ '.' :: (padded 6 time.microsecond ++ more)) =
      some ([time.hour.val, time.minute.val, time.second.val], time.microsecond.val, []) := by
  have hourFits : time.hour.val < 10 ^ 2 := Nat.lt_trans time.hour.isLt (by decide)
  have minuteFits : time.minute.val < 10 ^ 2 := Nat.lt_trans time.minute.isLt (by decide)
  have secondFits : time.second.val < 10 ^ 2 := Nat.lt_trans time.second.isLt (by decide)
  obtain ⟨a, b, minute, -⟩ := exists_padded_two minuteFits
  obtain ⟨c, d, second, -⟩ := exists_padded_two secondFits
  have fraction := readFraction?_padded time.microsecond.isLt digits
  have long := (forall_padded (p := fun _ => True) (show 0 < 6 by decide) time.microsecond.isLt
    fun _ => trivial).1
  obtain ⟨e, last, shape⟩ : ∃ e last, padded 6 time.microsecond ++ more = e :: last := by
    apply List.exists_cons_of_length_pos
    rw [List.length_append, long]
    omega
  rw [shape] at fraction
  calc readClock? 3 none [] (time.chars ++ '.' :: (padded 6 time.microsecond ++ more))
      = readClock? 3 none [] (padded 2 time.hour ++
          ':' :: (padded 2 time.minute ++ ':' :: (padded 2 time.second ++ '.' :: e :: last))) := by
        rw [shape]
        simp only [TimeOfDay.chars, List.append_assoc, List.cons_append]
    _ = readClock? 2 (some true) [time.hour.val]
          (padded 2 time.minute ++ ':' :: (padded 2 time.second ++ '.' :: e :: last)) := by
        rw [minute]
        exact readClock?_colon hourFits _ _ (by simp)
    _ = readClock? 1 (some true) [time.hour.val, time.minute.val]
          (padded 2 time.second ++ '.' :: e :: last) := by
        rw [second]
        exact readClock?_colon minuteFits _ _ (by simp)
    _ = _ := by
        rw [readClock?_point secondFits, fraction]
        rfl

/-! ## Date-times in UTC -/

theorem spellOutUtc_append (cs ds : List Char) :
    Value.spellOutUtc (cs ++ ds) = Value.spellOutUtc cs ++ Value.spellOutUtc ds :=
  List.flatMap_append

theorem spellOutUtc_of_forall {cs : List Char} (plain : ∀ c ∈ cs, c ≠ 'Z') :
    Value.spellOutUtc cs = cs := by
  induction cs with
  | nil => rfl
  | cons c cs ih =>
    obtain ⟨first, plain⟩ := List.forall_mem_cons.mp plain
    rw [Value.spellOutUtc, List.flatMap_cons, if_neg first]
    exact congrArg (c :: ·) (ih plain)

/-- A body has one `Z`, at its end, which the reader is given as an offset. -/
theorem spellOutUtc_dateTimeBody (utc : DateTime) :
    Value.spellOutUtc (Literal.dateTimeBody utc) = utc.date.chars ++ 'T' :: (utc.time.chars ++
      '.' :: (padded 6 utc.time.microsecond ++ ['0']) ++ "+00:00".toList) := by
  have date := (forall_dateChars (p := (· ≠ 'Z')) (by decide) utc.date (by decide)).2
  have time := (forall_timeChars (p := (· ≠ 'Z')) (by decide) utc.time (by decide)).2
  have micros := (forall_padded (p := (· ≠ 'Z')) (show 0 < 6 by decide) utc.time.microsecond.isLt
    (by decide)).2
  have plain : ∀ c ∈ utc.date.chars ++ 'T' :: (utc.time.chars ++
      '.' :: (padded 6 utc.time.microsecond ++ ['0'])), c ≠ 'Z' := by
    simp only [List.forall_mem_append, List.forall_mem_cons]
    exact ⟨date, by decide, time, by decide, micros, by decide, nofun⟩
  have split : Literal.dateTimeBody utc = utc.date.chars ++ 'T' :: (utc.time.chars ++
      '.' :: (padded 6 utc.time.microsecond ++ ['0'])) ++ ['Z'] := by
    simp only [Literal.dateTimeBody, List.append_assoc, List.cons_append, List.nil_append]
  rw [split, spellOutUtc_append, spellOutUtc_of_forall plain]
  simp only [List.append_assoc, List.cons_append]
  rfl

theorem dateLength?_chars (date : Date) (rest : List Char) :
    dateLength? (date.chars ++ rest) = some 10 := by
  have ⟨monthFits, _⟩ := lt_pow_two date
  obtain ⟨c, d, written, digit⟩ := exists_padded_two monthFits
  have notWeek : c ≠ 'W' := by
    rintro rfl
    cases digit
  have yearLong := (forall_padded (p := fun _ => True) (show 0 < 4 by decide) (lt_pow_four date)
    fun _ => trivial).1
  have dateLong := (forall_dateChars (p := fun _ => True) (fun _ => trivial) date trivial).1
  have behindYear : (date.chars ++ rest).drop 4 =
      '-' :: c :: d :: '-' :: (padded 2 date.day ++ rest) := by
    simp only [Date.chars, written, List.append_assoc, List.cons_append, List.nil_append]
    exact List.drop_left' yearLong
  have long : (date.chars ++ rest).length ≠ 7 := by
    rw [List.length_append, dateLong]
    omega
  rw [dateLength?, if_neg long, behindYear]
  split
  · next same => exact absurd (List.cons.inj (List.cons.inj same).2).1 notWeek
  · rfl
  · next same => cases same
  · next notDash _ => exact absurd rfl (notDash _)

theorem readChars?_written (date : Date) (time : TimeOfDay) :
    readChars? (date.chars ++ 'T' :: (time.chars ++ '.' :: (padded 6 time.microsecond ++ ['0']) ++
      "+00:00".toList)) = some (.ok (.withOffset date time .utc)) := by
  have dateLong := (forall_dateChars (p := fun _ => True) (fun _ => trivial) date trivial).1
  have timeMarks := (forall_timeChars (p := fun c => (!isOffsetMark c) = true) (by decide) time
    (by decide)).2
  have microMarks := (forall_padded (p := fun c => (!isOffsetMark c) = true)
    (show 0 < 6 by decide) time.microsecond.isLt (by decide)).2
  have clockMarks : ∀ c ∈ time.chars ++ '.' :: (padded 6 time.microsecond ++ ['0']),
      (!isOffsetMark c) = true := by
    simp only [List.forall_mem_append, List.forall_mem_cons]
    exact ⟨timeMarks, by decide, microMarks, by decide, nofun⟩
  have ends : EndsRun (!isOffsetMark ·) "+00:00".toList := endsRun_cons (by decide) _
  have long : ¬ (date.chars ++ 'T' :: (time.chars ++ '.' :: (padded 6 time.microsecond ++ ['0']) ++
      "+00:00".toList)).length < 7 := by
    rw [List.length_append, dateLong]
    omega
  have zero : ∀ c ∈ ['0'], isAsciiDigit c = true := List.forall_mem_singleton.mpr (by decide)
  have made : TimeOfDay.make time.hour time.minute time.second time.microsecond = .ok time :=
    TimeOfDay.make_eq_ok_iff.mpr ⟨rfl, rfl, rfl, rfl⟩
  have offset : readOffset? ('+' :: "00:00".toList) = some (.ok .utc) := by decide
  rw [readChars?, if_neg long, dateLength?_chars]
  simp only [Option.bind_eq_bind, Option.bind_some, ← dateLong, List.take_left, List.drop_left,
    readDate?_chars, takeWhile_append_of_endsRun clockMarks ends,
    dropWhile_append_of_endsRun clockMarks ends, readClock?_time time zero]
  rw [show "+00:00".toList = '+' :: "00:00".toList from rfl]
  simp only [offset, Option.map_some, Option.bind_some]
  simp only [List.getD_cons_zero, List.getD_cons_succ, made]
  rfl

theorem readDateTime_dateTimeBody {utc : DateTime} (isUtc : utc.IsUtc) :
    readDateTime (String.ofList (Value.spellOutUtc (Literal.dateTimeBody utc))) = .ok utc := by
  rw [readDateTime, String.toList_ofList, spellOutUtc_dateTimeBody, readChars?_written,
    ← isUtc.eq_withOffset]

end StagedTables.Calendar

namespace StagedTables.Entity

open Calendar StagedTables.Filter

theorem getDateTime_of_text {row : Entity} {name text : String} {d : DateTime}
    (stored : Fields.get? row.properties name = some (.text text))
    (read : readDateTime (String.ofList (Value.spellOutUtc text.toList)) = .ok d) :
    row.getDateTime name = .ok (.dateTime d) := by
  have item : row.item name = .ok (.text text) := by
    rw [Entity.item, Entity.stored, stored]
    rfl
  rw [getDateTime, convert, item]
  simp only [Value.asDateTime, read]
  rfl

/-- The text between the quotes of a date-time literal denotes one and the same date-time in a
filter and in a row: for every date-time with an offset, at an instant of the calendar, the reader
of literals and the reader of properties give the date-time in UTC that is at its instant. -/
theorem dateTime_readers_agree (zone : LocalZone) {d : DateTime} {offset : Offset}
    (aware : d.offset = .gives (some offset)) (early : 0 ≤ d.instant)
    (late : d.instant < DateTime.endOfCalendar) :
    ∃ (body : String) (utc : DateTime),
      Literal.encode zone (.dateTime d) = .ok ("datetime'" ++ body ++ "'") ∧
      utc.IsUtc ∧ utc.instant = d.instant ∧
      DateTimeLiteral.decode body = .ok utc ∧
      ∀ (row : Entity) (name : String), Fields.get? row.properties name = some (.text body) →
        row.getDateTime name = .ok (.dateTime utc) := by
  obtain ⟨utc, turned⟩ := DateTimeLiteral.exists_utc zone aware early late
  obtain ⟨isUtc, same⟩ := (DateTime.toUtc_eq_ok_iff aware).mp turned
  refine ⟨String.ofList (Literal.dateTimeBody utc), utc, ?_, isUtc, same,
    DateTimeLiteral.decode_dateTimeBody isUtc, ?_⟩
  · have literal : Literal.chars zone (.dateTime d) = _ :=
      DateTimeLiteral.ofDateTime_of_toUtc turned
    rw [Literal.encode, literal, Except.map]
    refine congrArg Except.ok (String.toList_injective ?_)
    simp [Literal.marked, Literal.dateTimeMark]
  · intro row name stored
    apply getDateTime_of_text stored
    rw [String.toList_ofList]
    exact readDateTime_dateTimeBody isUtc

/-- The last microsecond of a leap day, three and a half hours west of UTC. -/
theorem dateTime_readers_agree_leap_day :
    let d : DateTime :=
      .withOffset ⟨2024, 2, 29, by decide⟩ ⟨23, 59, 59, 999999⟩ ⟨-12600000000, by decide⟩
    let utc : DateTime := .withOffset ⟨2024, 3, 1, by decide⟩ ⟨3, 29, 59, 999999⟩ .utc
    let body : String := "2024-03-01T03:29:59.9999990Z"
    Literal.encode .utc (.dateTime d) = .ok ("datetime'" ++ body ++ "'") ∧
      DateTimeLiteral.decode body = .ok utc ∧
      (plain [("Seen", .text body)]).getDateTime "Seen" = .ok (.dateTime utc) := by
  intro d utc body
  obtain ⟨text, other, encoded, isUtc, same, decoded, inRow⟩ :=
    dateTime_readers_agree .utc (d := d) rfl (by decide) (by decide)
  have written : Literal.encode .utc (.dateTime d) = .ok ("datetime'" ++ body ++ "'") := by decide
  have texts : text = body := by
    rw [written] at encoded
    simpa using (Except.ok.inj encoded).symm
  have read : DateTimeLiteral.decode body = .ok utc := by decide
  rw [texts] at decoded inRow
  obtain rfl : other = utc := Except.ok.inj (decoded.symm.trans read)
  exact ⟨written, read, inRow _ _ rfl⟩

end StagedTables.Entity
