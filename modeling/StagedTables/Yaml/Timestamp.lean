import StagedTables.Datum
import StagedTables.Yaml.Fault

/-! # Timestamps

A date of year, month and day, or one with a time of day and perhaps a zone after it. -/
set_option autoImplicit false
namespace StagedTables.Yaml

open Text

/-- A time of day with its zone as hours and minutes, as they are written. -/
structure ClockReading where
  hour : Nat
  minute : Nat
  second : Nat
  microsecond : Nat
  /-- The seconds by which the zone is ahead of UTC. -/
  zone : Option Int
  deriving DecidableEq, Repr

structure Timestamp where
  year : Nat
  month : Nat
  day : Nat
  clock : Option ClockReading
  deriving DecidableEq, Repr

namespace Timestamp

abbrev Form := StateT (List Char) Option

namespace Form

def takeWhile (p : Char → Bool) : Form (List Char) := do
  let cs ← get
  let run := cs.takeWhile p
  set (cs.drop run.length)
  return run

/-- Takes as many digits as there are, up to a number. -/
def digits (least most : Nat) : Form Nat := do
  let cs ← get
  let run := (cs.takeWhile isAsciiDigit).take most
  guard (least ≤ run.length)
  set (cs.drop run.length)
  return Nat.ofDigitChars 10 run 0

def oneOf (marks : List Char) : Form Char := do
  match ← get with
  | [] => failure
  | c :: rest =>
    guard (marks.contains c)
    set rest
    return c

def optional {α : Type} (form : Form α) : Form (Option α) :=
  (some <$> form) <|> pure none

def isEnd : Form Bool := return (← get).isEmpty

end Form

def microseconds (fraction : List Char) : Nat :=
  Nat.ofDigitChars 10 ((fraction ++ List.replicate 6 '0').take 6) 0

def zoneForm : Form Int := do
  let sign ← Form.oneOf ['Z', '+', '-']
  if sign = 'Z' then return 0
  let hours ← Form.digits 1 2
  let minutes ← Form.optional (do
    let _ ← Form.oneOf [':']
    Form.digits 2 2)
  let seconds : Int := (hours * 60 + minutes.getD 0) * 60
  return if sign = '-' then -seconds else seconds

def separatorForm : Form Unit := do
  if (← Form.takeWhile fun c => c == ' ' || c == '\t').isEmpty then
    let _ ← Form.oneOf ['T', 't']

def clockForm : Form ClockReading := do
  separatorForm
  let hour ← Form.digits 1 2
  let _ ← Form.oneOf [':']
  let minute ← Form.digits 2 2
  let _ ← Form.oneOf [':']
  let second ← Form.digits 2 2
  let fraction ← Form.optional (do
    let _ ← Form.oneOf ['.']
    Form.takeWhile isAsciiDigit)
  let clock : ClockReading := ⟨hour, minute, second, microseconds (fraction.getD []), none⟩
  if ← Form.isEnd then return clock
  let _ ← Form.takeWhile fun c => c == ' ' || c == '\t'
  return { clock with zone := some (← zoneForm) }

def form : Form Timestamp := do
  let year ← Form.digits 4 4
  let _ ← Form.oneOf ['-']
  let month ← Form.digits 1 2
  let _ ← Form.oneOf ['-']
  let day ← Form.digits 1 2
  if ← Form.isEnd then return ⟨year, month, day, none⟩
  return ⟨year, month, day, some (← clockForm)⟩

def read? (cs : List Char) : Option Timestamp :=
  match form.run cs with
  | some (timestamp, []) => some timestamp
  | _ => none

def paddedLength : Nat := 10

/-- Whether a plain scalar counts as a timestamp; a lone date must be padded. -/
def isPlain (cs : List Char) : Bool :=
  (read? cs).any fun timestamp => timestamp.clock.isSome || cs.length == paddedLength

/-- The scalar that a timestamp denotes; a zone out of range is found first. -/
def toScalar (timestamp : Timestamp) : Except Calendar.Fault Scalar := do
  match timestamp.clock with
  | none =>
    return .date (← Calendar.Date.make timestamp.year timestamp.month timestamp.day)
  | some clock =>
    let offset ← clock.zone.mapM Calendar.Offset.ofSeconds
    let date ← Calendar.Date.make timestamp.year timestamp.month timestamp.day
    let time ←
      Calendar.TimeOfDay.make clock.hour clock.minute clock.second clock.microsecond
    return .dateTime ⟨date, time, offset.map .fixed, false⟩

end Timestamp
end StagedTables.Yaml
