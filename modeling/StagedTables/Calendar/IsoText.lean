import StagedTables.Calendar.DateTime

/-! # ISO 8601 text of dates and times

Fields are padded with zeros to their width.  Microseconds are shown only when there are any, an
offset as hours and minutes with a sign, and its seconds and microseconds only when there are
any. -/
set_option autoImplicit false
namespace StagedTables.Calendar

def padded (width n : Nat) : List Char :=
  let digits := Nat.toDigits 10 n
  List.replicate (width - digits.length) '0' ++ digits

def Date.chars (date : Date) : List Char :=
  padded 4 date.year ++ '-' :: padded 2 date.month ++ '-' :: padded 2 date.day

def TimeOfDay.chars (time : TimeOfDay) : List Char :=
  padded 2 time.hour ++ ':' :: padded 2 time.minute ++ ':' :: padded 2 time.second

def Offset.chars (offset : Offset) : List Char :=
  let size := offset.micros.natAbs
  let seconds := size / microsPerSecond
  (if offset.micros < 0 then '-' else '+') :: padded 2 (seconds / 3600) ++
    ':' :: padded 2 (seconds / 60 % 60) ++
    (if size % microsPerMinute = 0 then [] else ':' :: padded 2 (seconds % 60)) ++
    if size % microsPerSecond = 0 then [] else '.' :: padded 6 (size % microsPerSecond)

def Date.text (date : Date) : String := String.ofList date.chars

def DateTime.isoTextAt (separator : Char) (d : DateTime) (offset : Option Offset) : String :=
  String.ofList (d.date.chars ++ separator :: d.time.chars ++
    (if d.time.microsecond.val = 0 then [] else '.' :: padded 6 d.time.microsecond) ++
    match offset with
    | some offset => offset.chars
    | none => [])

def DateTime.isoText (separator : Char) (d : DateTime) : Answer String :=
  d.offset.map (d.isoTextAt separator)

/-- A duration as days, seconds of a day and microseconds, only those that are not zero. -/
def durationText (micros : Int) : String :=
  let days := micros.fdiv microsPerDay
  let inDay := micros.fmod microsPerDay
  let part := fun (name : String) (n : Int) => if n = 0 then [] else [s!"{name}={n}"]
  let parts := part "days" days ++ part "seconds" (inDay / microsPerSecond) ++
    part "microseconds" (inDay % microsPerSecond)
  let listed := if parts = [] then "0" else ", ".intercalate parts
  s!"datetime.timedelta({listed})"

def Fault.message : Fault → String
  | .yearOutOfRange year => s!"year {year} is out of range"
  | .monthOutOfRange => "month must be in 1..12"
  | .dayOutOfRange => "day is out of range for month"
  | .hourOutOfRange => "hour must be in 0..23"
  | .minuteOutOfRange => "minute must be in 0..59"
  | .secondOutOfRange => "second must be in 0..59"
  | .microsecondOutOfRange => "microsecond must be in 0..999999"
  | .offsetOutOfRange micros =>
    "offset must be a timedelta strictly between -timedelta(hours=24) and timedelta(hours=24), " ++
      "not " ++ durationText micros ++ "."
  | .instantOutOfRange => "date value out of range"
  | .zone error => error.message

end StagedTables.Calendar
