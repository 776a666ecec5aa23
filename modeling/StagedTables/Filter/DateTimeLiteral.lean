import StagedTables.Text.Numeric
import StagedTables.Value.Fault

/-! # The body of a date-time literal

A date, optionally a time to the minute, second or fraction of a second, and optionally an offset
from UTC, all in fixed widths.  Digits of any script count.  A body without an offset is in UTC,
digits beyond microseconds are dropped, and one line feed may follow the last character. -/
set_option autoImplicit false
namespace StagedTables.Filter.DateTimeLiteral

open Calendar Text

/-- The fields of a body; the fraction is in microseconds and the offset in seconds. -/
structure BodyFields where
  year : Nat
  month : Nat
  day : Nat
  hour : Nat
  minute : Nat
  second : Nat
  microsecond : Nat
  offset : Option Int
  deriving DecidableEq, Repr

def valueOf (digits : List Char) : Nat :=
  digits.foldl (fun value c => value * 10 + (decimalValue? c).getD 0) 0

def takeDigits? (count : Nat) (cs : List Char) : Option (Nat × List Char) :=
  let digits := cs.take count
  if digits.length = count ∧ digits.all isDecimal then some (valueOf digits, cs.drop count)
  else none

def takeMark? (mark : Char) : List Char → Option (List Char)
  | [] => none
  | c :: rest => if c = mark then some rest else none

def fractionDigitLimit : Nat := 7

/-- The digits of a fraction, up to `fractionDigitLimit` of them, in microseconds. -/
def takeFraction? (cs : List Char) : Option (Nat × List Char) :=
  let digits := (cs.takeWhile isDecimal).take fractionDigitLimit
  if digits = [] then none
  else some (valueOf ((digits ++ List.replicate 6 '0').take 6), cs.drop digits.length)

/-- Seconds and a fraction, when a colon follows the minutes. -/
def takeSeconds? (cs : List Char) : Option (Nat × Nat × List Char) :=
  match takeMark? ':' cs with
  | none => some (0, 0, cs)
  | some rest => do
    let (second, rest) ← takeDigits? 2 rest
    match takeMark? '.' rest with
    | none => some (second, 0, rest)
    | some rest => do
      let (microsecond, rest) ← takeFraction? rest
      some (second, microsecond, rest)

/-- The time of day, when a `T` follows the date: hour, minute, second and microsecond. -/
def takeTime? (cs : List Char) : Option ((Nat × Nat × Nat × Nat) × List Char) :=
  match takeMark? 'T' cs with
  | none => some ((0, 0, 0, 0), cs)
  | some rest => do
    let (hour, rest) ← takeDigits? 2 rest
    let rest ← takeMark? ':' rest
    let (minute, rest) ← takeDigits? 2 rest
    let (second, microsecond, rest) ← takeSeconds? rest
    some ((hour, minute, second, microsecond), rest)

def takeSignedOffset? (negative : Bool) (cs : List Char) : Option (Option Int × List Char) := do
  let (hours, rest) ← takeDigits? 2 cs
  let rest ← takeMark? ':' rest
  let (minutes, rest) ← takeDigits? 2 rest
  let seconds : Int := (hours * 3600 + minutes * 60 : Nat)
  some (some (if negative then -seconds else seconds), rest)

/-- An offset from UTC, when one follows; `Z` stands for none. -/
def takeOffset? : List Char → Option (Option Int × List Char)
  | 'Z' :: rest => some (none, rest)
  | '+' :: rest => takeSignedOffset? false rest
  | '-' :: rest => takeSignedOffset? true rest
  | rest => some (none, rest)

def fields? (cs : List Char) : Option BodyFields := do
  let (year, rest) ← takeDigits? 4 cs
  let rest ← takeMark? '-' rest
  let (month, rest) ← takeDigits? 2 rest
  let rest ← takeMark? '-' rest
  let (day, rest) ← takeDigits? 2 rest
  let ((hour, minute, second, microsecond), rest) ← takeTime? rest
  let (offset, rest) ← takeOffset? rest
  if rest = [] ∨ rest = ['\n'] then
    some ⟨year, month, day, hour, minute, second, microsecond, offset⟩
  else none

/-- The date-time in UTC; faults come in the order offset, date, time, instant. -/
def BodyFields.toDateTime (f : BodyFields) : Except Calendar.Fault DateTime := do
  let offset ← Offset.ofSeconds (f.offset.getD 0)
  let date ← Date.make f.year f.month f.day
  let time ← TimeOfDay.make f.hour f.minute f.second f.microsecond
  DateTime.ofInstant (DateTime.withOffset date time offset).instant

inductive Fault where
  | malformed (body : String)
  | calendar (fault : Calendar.Fault)
  deriving DecidableEq, Repr

def decode (body : String) : Except Fault DateTime :=
  match fields? body.toList with
  | none => .error (.malformed body)
  | some f => match f.toDateTime with
    | .ok d => .ok d
    | .error fault => .error (.calendar fault)

def Fault.message : Fault → String
  | malformed body => s!"Invalid datetime format: {body}"
  | calendar fault => fault.message

end StagedTables.Filter.DateTimeLiteral
