import StagedTables.Calendar.Epoch
import StagedTables.Calendar.IsoText
import StagedTables.Json.Writer
import StagedTables.Logging.Record

/-! # Log lines

A record becomes a line of JSON, with a fixed order of members, or a line of plain text followed
by the error, when there is one. -/
set_option autoImplicit false
namespace StagedTables.Logging

inductive LineFormat where
  | json
  | text
  deriving DecidableEq, Repr

inductive FormatFault where
  | template (fault : TemplateFault)
  | clock (fault : Calendar.ClockFault)
  | yearOutOfCalendar (year : Int)
  | yearTooLarge
  | value (fault : ValueFault)
  deriving DecidableEq, Repr

mutual

/-- A value as JSON: what JSON lacks is given by its plain text. -/
def jsonOf : Value → Except ValueFault Json
  | .null => .ok .null
  | .boolean b => .ok (.boolean b)
  | .integer n => do
    let _ ← Value.integerText n
    return .integer n
  | .double x => .ok (.number x)
  | .text s => .ok (.text s)
  | .list items => (jsonOfItems items).map .array
  | .record fields => (jsonOfFields fields).map .object
  | .property edm value => do
    let inner ← jsonOf value
    return .array [inner, .text edm.name]
  | other => other.plainText.map .text

def jsonOfItems : List Value → Except ValueFault (List Json)
  | [] => .ok []
  | value :: rest => do
    let first ← jsonOf value
    return first :: (← jsonOfItems rest)

def jsonOfFields : List (String × Value) → Except ValueFault (List (String × Json))
  | [] => .ok []
  | (name, value) :: rest => do
    let first ← jsonOf value
    return (name, first) :: (← jsonOfFields rest)

end

def clockTime (seconds : Int) : Except FormatFault Calendar.ClockTime :=
  (Calendar.ClockTime.read seconds).mapError .clock

/-- A year in 32 bits, where years that are too large start again from the smallest. -/
def wrappedYear (year : Int) : Int :=
  if year < Calendar.clockYearsLimit then year else year - 2 * Calendar.clockYearsLimit

def stampText (created : Double) : Except FormatFault String := do
  (Calendar.checkSeconds created).mapError .clock
  let micros := Calendar.epochMicros created
  match Calendar.DateTime.ofEpochMicros? micros with
  | some d => return d.isoTextAt 'T' (some .utc)
  | none =>
    let time ← clockTime (micros.fdiv Calendar.microsPerSecond)
    .error (.yearOutOfCalendar (wrappedYear time.year))

/-- The time of a record to the second, in any year that 32 bits hold.  Lines of text show local
time; this is their clock where the local zone is UTC. -/
def clockText (created : Double) : Except FormatFault String := do
  (Calendar.checkSeconds created).mapError .clock
  let time ← clockTime (Calendar.epochSeconds created)
  if Calendar.clockYearsLimit ≤ time.year then throw .yearTooLarge
  let two := fun (n : Nat) => String.ofList (Calendar.padded 2 n)
  return s!"{time.year}-{two time.month}-{two time.day} " ++
    s!"{two time.hour}:{two time.minute}:{two time.second}"

def jsonMembers (record : LogRecord) : Except FormatFault (List (String × Json)) := do
  let stamp ← stampText record.created
  let message ← record.messageText.mapError .template
  let context ← match record.context with
    | some context => do
      let json ← (jsonOf context).mapError .value
      .ok [("context", json)]
    | none => .ok []
  return [("timestamp", .text stamp), ("level", .text record.level.name),
    ("module", .text record.logger), ("message", .text message)] ++
    (record.exception.map fun shown => ("exception", Json.text shown)).toList ++ context

def jsonLine (record : LogRecord) : Except FormatFault String := do
  let members ← jsonMembers record
  return (Json.object members).line

def textLine (record : LogRecord) : Except FormatFault String := do
  let message ← record.messageText.mapError .template
  let clock ← clockText record.created
  let line := s!"{clock} [{record.level.name}] {record.logger}: {message}"
  match record.exception with
  | none => return line
  | some shown => return (if line.endsWith "\n" then line else line ++ "\n") ++ shown

def LineFormat.render (format : LineFormat) (record : LogRecord) : Except FormatFault String :=
  match format with
  | json => jsonLine record
  | text => textLine record

namespace TemplateFault

def className : TemplateFault → String
  | incomplete => "ValueError"
  | incompleteName => "ValueError"
  | unknownDirective _ _ => "ValueError"
  | conversion fault => fault.className
  | missingName _ => "KeyError"
  | countWritten _ => "ValueError"
  | countGiven _ => "OverflowError"
  | characterRange => "OverflowError"
  | _ => "TypeError"

def message : TemplateFault → String
  | tooFewArguments => "not enough arguments for format string"
  | tooManyArguments => "not all arguments converted during string formatting"
  | incomplete => "incomplete format"
  | incompleteName => "incomplete format key"
  | recordExpected => "format requires a mapping"
  | countExpected => "* wants int"
  | countWritten .width => "width too big"
  | countWritten .precision => "precision too big"
  | countGiven .width => "Python int too large to convert to C ssize_t"
  | countGiven .precision => "Python int too large to convert to C int"
  | characterExpected => "%c requires int or char"
  | characterRange => "%c arg not in range(0x110000)"
  | integerExpected directive kind => s!"%{directive} format: an integer is required, not {kind}"
  | numberExpected directive kind => s!"%{directive} format: a real number is required, not {kind}"
  | realExpected kind => s!"must be real number, not {kind}"
  | unknownDirective directive index =>
    let shown := if 31 ≤ directive.toNat ∧ directive.toNat ≤ 126 then directive else '?'
    let code := String.ofList (Nat.toDigits 16 directive.toNat)
    s!"unsupported format character '{shown}' (0x{code}) at index {index}"
  | conversion fault => fault.message
  | missingName name => Text.quoted name

end TemplateFault

namespace FormatFault

def className : FormatFault → String
  | template fault => fault.className
  | clock .notANumber => "ValueError"
  | clock .secondsOutOfRange => "OverflowError"
  | clock .yearOutOfRange => "OSError"
  | yearOutOfCalendar _ => "ValueError"
  | yearTooLarge => "OverflowError"
  | value _ => "ValueError"

def message : FormatFault → String
  | template fault => fault.message
  | clock .notANumber => "Invalid value NaN (not a number)"
  | clock .secondsOutOfRange => "timestamp out of range for platform time_t"
  | clock .yearOutOfRange => "[Errno 75] Value too large for defined data type"
  | yearOutOfCalendar year => s!"year {year} is out of range"
  | yearTooLarge => "signed integer is greater than maximum"
  | value fault => fault.message

end FormatFault
end StagedTables.Logging
