import StagedTables.Calendar.DateTime
import StagedTables.Number.Double

/-! # Time stamps

Seconds since the start of 1970 in UTC, as a double.  Read as a date-time they are rounded to
microseconds, the fraction being scaled in double precision first; read as a clock time they are
rounded down to the second.  A clock counts seconds in 64 bits and years since 1900 in 32. -/
set_option autoImplicit false
namespace StagedTables.Calendar

def epochDay : Nat := 719162

def fractionOf : Double → Double
  | .finite negative significand exponent _ =>
    .ofRatio negative (significand * Nat.pow 2 exponent % Double.unitsPerOne) Double.unitsPerOne
  | other => other

/-- The integer nearest to a double, a tie going to the even one; zero when there is none. -/
def nearestInteger (x : Double) : Int :=
  let size : Int := Double.roundQuotient (x.magnitude?.getD 0) Double.unitsPerOne
  if x.isNegative then -size else size

def epochMicros (seconds : Double) : Int :=
  seconds.truncate?.getD 0 * microsPerSecond +
    nearestInteger ((fractionOf seconds).scale microsPerSecond)

def epochSeconds (seconds : Double) : Int :=
  let whole := seconds.truncate?.getD 0
  if seconds.isNegative ∧ (fractionOf seconds).isZero = false then whole - 1 else whole

def DateTime.ofEpochMicros? (micros : Int) : Option DateTime :=
  DateTime.ofInstant? (epochDay * microsPerDay + micros)

/-- A date and time to the second in UTC, of any year. -/
structure ClockTime where
  year : Int
  month : Nat
  day : Nat
  hour : Nat
  minute : Nat
  second : Nat
  deriving DecidableEq, Repr

inductive ClockFault where
  | notANumber
  | secondsOutOfRange
  | yearOutOfRange
  deriving DecidableEq, Repr

/-- `2^63`, the number of seconds from which on a clock does not count. -/
def clockSecondsLimit : Int := 9223372036854775808

/-- `2^31`, the number of years since 1900 from which on a clock does not count. -/
def clockYearsLimit : Int := 2147483648

namespace ClockTime

/-- The clock time a number of seconds from the start of 1970.  The calendar repeats itself every
400 years. -/
def ofSeconds (seconds : Int) : ClockTime :=
  let day := epochDay + seconds.fdiv secondsPerDay
  let (year, dayOfYear) := yearOfDay (day.fmod daysPer400Years).toNat
  let (month, dayOfMonth) := monthOfDay 1 (monthLengths year) dayOfYear
  let inDay := (seconds.fmod secondsPerDay).toNat
  ⟨year + 400 * day.fdiv daysPer400Years, month, dayOfMonth, inDay / 3600, inDay / 60 % 60,
    inDay % 60⟩

def read (seconds : Int) : Except ClockFault ClockTime :=
  let time := ofSeconds seconds
  if -clockYearsLimit ≤ time.year - 1900 ∧ time.year - 1900 < clockYearsLimit then .ok time
  else .error .yearOutOfRange

end ClockTime

def checkSeconds (seconds : Double) : Except ClockFault Unit :=
  match seconds, seconds.truncate? with
  | .nan, _ => .error .notANumber
  | _, none => .error .secondsOutOfRange
  | _, some whole =>
    if -clockSecondsLimit ≤ whole ∧ whole < clockSecondsLimit then .ok ()
    else .error .secondsOutOfRange

end StagedTables.Calendar
