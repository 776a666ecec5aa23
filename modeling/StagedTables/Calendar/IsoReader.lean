import StagedTables.Calendar.IsoText
import StagedTables.Text.Numeric
import StagedTables.Text.Quoted

/-! # Reading ISO 8601 date-times

Dates are read with or without hyphens, as calendar dates or as a year, week and optional day of
the week.  Any one character separates the date from the time.  Hours may be followed by minutes
and seconds, with colons or without, and by a fraction whose digits beyond the sixth are dropped;
an offset is written like a time after its sign. -/
set_option autoImplicit false
namespace StagedTables.Calendar

open StagedTables.Text

inductive ReadFault where
  | malformed (text : String)
  | fields (fault : Fault)
  deriving DecidableEq, Repr

def takeDigits? (count : Nat) (cs : List Char) : Option (Nat × List Char) :=
  let digits := cs.take count
  if digits.length = count ∧ digits.all isAsciiDigit then
    some (Nat.ofDigitChars 10 digits 0, cs.drop count)
  else none

/-- The length of the date at the front of a text, told by its fifth and sixth characters.  A
week is followed by a day of the week when the digits after it leave that day over. -/
def dateLength? (cs : List Char) : Option Nat :=
  if cs.length = 7 then some 7
  else match cs.drop 4 with
    | '-' :: 'W' :: _ =>
      if cs[8]? = some '-' then
        if cs.length = 9 then none
        else if cs[10]?.any isAsciiDigit then some 8
        else some 10
      else some 8
    | '-' :: _ => some 10
    | 'W' :: _ =>
      let stop := 7 + ((cs.drop 7).takeWhile isAsciiDigit).length
      some (if stop < 9 then stop else if stop % 2 = 0 then 7 else 8)
    | _ => some 8

def dayOfWeek (dayNumber : Nat) : Nat := dayNumber % 7

/-- Years that start on a Thursday, and leap years that start on a Wednesday, have 53 weeks. -/
def weeksInYear (year : Nat) : Nat :=
  let first := dayOfWeek (daysBeforeYear year)
  if first = 3 ∨ (first = 2 ∧ IsLeap year) then 53 else 52

/-- The day number of the Monday of a year's first week, the one with its first Thursday. -/
def firstMonday (year : Nat) : Int :=
  let newYear := daysBeforeYear year
  let first := dayOfWeek newYear
  (newYear : Int) - first + if 3 < first then 7 else 0

/-- The date of a day of a week, both counted from 1.  Weeks of year 0 have no month. -/
def Date.ofWeek (year week day : Nat) : Except Fault Date :=
  if year = 0 then .error .monthOutOfRange
  else
    let number := firstMonday year + ((week - 1) * 7 + (day - 1) : Nat)
    if number < 0 then .error .monthOutOfRange
    else match Date.ofDayNumber? number.toNat with
      | some date => .ok date
      | none => .error (.yearOutOfRange (lastYear + 1))

/-- A date written as calendar fields or as a week; `none` when the text has neither form. -/
def readDate? (cs : List Char) : Option (Except Fault Date) := do
  let (year, rest) ← takeDigits? 4 cs
  let hyphens := rest.head? == some '-'
  let rest := if hyphens then rest.tail else rest
  match rest with
  | 'W' :: rest => do
    let (week, rest) ← takeDigits? 2 rest
    let day ← match hyphens, rest with
      | _, [] => some 1
      | true, '-' :: rest => (takeDigits? 1 rest).map (·.1)
      | true, _ => none
      | false, rest => (takeDigits? 1 rest).map (·.1)
    if 1 ≤ week ∧ week ≤ (if year = 0 then 52 else weeksInYear year) ∧ 1 ≤ day ∧ day ≤ 7 then
      some (Date.ofWeek year week day)
    else none
  | rest => do
    let (month, rest) ← takeDigits? 2 rest
    let rest ← match hyphens, rest with
      | true, '-' :: rest => some rest
      | true, _ => none
      | false, rest => some rest
    let (day, _) ← takeDigits? 2 rest
    some (Date.make year month day)

def readFraction? (cs : List Char) : Option (Nat × List Char) := do
  let count := min 6 cs.length
  let (value, rest) ← takeDigits? count cs
  some (value * Nat.pow 10 (6 - count), rest.dropWhile isAsciiDigit)

/-- Fields of two digits, at most `steps` of them, then a fraction.  Whether colons separate them
is settled by the character after the first.  The result is the fields, the microseconds and what
is left over: at most one ASCII character when the fields stop without a fraction. -/
def readClock? : (steps : Nat) → (colons : Option Bool) → List Nat → List Char →
    Option (List Nat × Nat × List Char)
  | 0, _, fields, cs => (readFraction? cs).map fun (micros, rest) => (fields, micros, rest)
  | steps + 1, colons, fields, cs => do
    let (value, rest) ← takeDigits? 2 cs
    let fields := fields ++ [value]
    match rest with
    | [] => some (fields, 0, [])
    | [last] => if last.toNat < 128 then some (fields, 0, [last]) else none
    | c :: more =>
      let colons := colons.getD (c == ':')
      if colons && c == ':' then readClock? steps (some colons) fields more
      else if c == '.' || c == ',' then
        (readFraction? more).map fun (micros, rest) => (fields, micros, rest)
      else if colons then none
      else readClock? steps (some colons) fields (c :: more)

/-- Nothing is left over, or a null character that ends the text. -/
def isFinished : List Char → Bool
  | [] => true
  | c :: _ => c.toNat == 0

def isOffsetMark (c : Char) : Bool := c == '+' || c == '-' || c == 'Z'

/-- An offset from its mark on.  One of less than a second counts as none. -/
def readOffset? : List Char → Option (Except Fault Offset)
  | 'Z' :: rest => if isFinished rest then some (.ok .utc) else none
  | mark :: rest => do
    let (fields, micros, leftover) ← readClock? 3 none [] rest
    if isFinished leftover then
      let seconds := fields.getD 0 0 * 3600 + fields.getD 1 0 * 60 + fields.getD 2 0
      let size : Int := if seconds = 0 then 0 else (seconds * microsPerSecond + micros : Nat)
      some (Offset.make (if mark == '-' then -size else size))
    else none
  | [] => none

/-- A date-time; faults come in the order offset, date, time. -/
def readChars? (cs : List Char) : Option (Except Fault DateTime) := do
  let length ← if cs.length < 7 then none else dateLength? cs
  let date ← readDate? (cs.take length)
  match cs.drop length with
  | [] => some (date.map fun date => .withoutZone date .midnight)
  | _ :: rest =>
    let clock := rest.takeWhile (!isOffsetMark ·)
    let (fields, micros, leftover) ← readClock? 3 none [] clock
    let offset ← match rest.dropWhile (!isOffsetMark ·) with
      | [] => if isFinished leftover then some (.ok none) else none
      | mark :: rest => (readOffset? (mark :: rest)).map (·.map some)
    some do
      let offset ← offset
      let date ← date
      let time ← TimeOfDay.make (fields.getD 0 0) (fields.getD 1 0) (fields.getD 2 0) micros
      .ok ⟨date, time, offset.map .fixed, false⟩

def readDateTime (s : String) : Except ReadFault DateTime :=
  match readChars? s.toList with
  | none => .error (.malformed s)
  | some (.error fault) => .error (.fields fault)
  | some (.ok d) => .ok d

def ReadFault.message : ReadFault → String
  | .malformed text => "Invalid isoformat string: " ++ quoted text
  | .fields fault => fault.message

end StagedTables.Calendar
