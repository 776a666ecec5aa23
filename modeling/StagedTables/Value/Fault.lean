import StagedTables.Calendar.IsoReader
import StagedTables.Edm
import StagedTables.Number.Decimal
import StagedTables.Number.Numeral
import StagedTables.Text.Quoted
import StagedTables.Uuid

/-! # Faults of conversions

Why a value has no text, or is not a value of the kind asked for.  A fault of value is a text or
number of the right kind that does not qualify; a fault of range is a number too large for its
target; a fault of kind is a value of a kind that never qualifies.  A text of decimals or a
comparison of them has faults of its own, and what is too large to hold leaves no memory. -/
set_option autoImplicit false
namespace StagedTables

open Text (quoted)

inductive ValueFault where
  | integerTooLong
  | integerNumeral (base : Numeral.Base) (shown : String)
  | numeralTooLong (digits : Nat)
  | doubleNumeral (shown : String)
  | notANumberAsInteger
  | decimalNotANumberAsInteger
  | signalingNotANumber
  | byteOutOfRange
  | negativeCount
  | identifierText
  | calendar (fault : Calendar.Fault)
  | isoText (text : String)
  | releasedView
  | foreign (error : ForeignError)
  deriving DecidableEq, Repr

inductive RangeFault where
  | integerAsDouble
  | infinityAsInteger
  | decimalInfinityAsInteger
  | instant
  | byteCount
  | byteText
  | precision
  deriving DecidableEq, Repr

inductive KindFault where
  | notEncodable (kind shown : String) (edm : Edm)
  | asInteger (kind : String)
  | asDouble (kind : String)
  | asBytes (kind : String)
  | textAsBytes
  | elementAsByte (kind : String)
  deriving DecidableEq, Repr

inductive ConversionFault where
  | value (fault : ValueFault)
  | range (fault : RangeFault)
  | kind (fault : KindFault)
  | decimal (fault : Decimal.Fault)
  | outOfMemory
  deriving DecidableEq, Repr

/-- The longest integer text is settled by `Numeral.integerDigitLimit`. -/
def lengthLimitText : String :=
  s!"Exceeds the limit ({Numeral.integerDigitLimit} digits) for integer string conversion"

/-- A numeral that is no integer is shown up to this many characters. -/
def shownLimit : Nat := 200

def notIntegral (base : Numeral.Base) (shown : String) : String :=
  let start := String.ofList (shown.toList.take shownLimit)
  s!"invalid literal for int() with base {base.toNat}: {start}"

def ValueFault.message : ValueFault → String
  | integerTooLong => lengthLimitText ++ "; use sys.set_int_max_str_digits() to increase the limit"
  | integerNumeral base shown => notIntegral base shown
  | numeralTooLong digits =>
    lengthLimitText ++
      s!": value has {digits} digits; use sys.set_int_max_str_digits() to increase the limit"
  | doubleNumeral shown => s!"could not convert string to float: {shown}"
  | notANumberAsInteger => "cannot convert float NaN to integer"
  | decimalNotANumberAsInteger => "cannot convert NaN to integer"
  | signalingNotANumber => "cannot convert signaling NaN to float"
  | byteOutOfRange => "bytes must be in range(0, 256)"
  | negativeCount => "negative count"
  | identifierText => "badly formed hexadecimal UUID string"
  | calendar fault => fault.message
  | isoText text => "Invalid isoformat string: " ++ quoted text
  | releasedView => "operation forbidden on released memoryview object"
  | foreign error => error.message

def RangeFault.message : RangeFault → String
  | integerAsDouble => "int too large to convert to float"
  | infinityAsInteger => "cannot convert float infinity to integer"
  | decimalInfinityAsInteger => "cannot convert Infinity to integer"
  | instant => Calendar.Fault.instantOutOfRange.message
  | byteCount => "cannot fit 'int' into an index-sized integer"
  | byteText => "byte string is too large"
  | precision => "precision too large"

def KindFault.message : KindFault → String
  | notEncodable kind shown edm => s!"{kind} value {shown} cannot be encoded as {edm.name}"
  | asInteger kind =>
    "int() argument must be a string, a bytes-like object or a real number, not " ++
      s!"'{kind}'"
  | asDouble kind => s!"float() argument must be a string or a real number, not '{kind}'"
  | asBytes kind => s!"cannot convert '{kind}' object to bytes"
  | textAsBytes => "string argument without an encoding"
  | elementAsByte kind => s!"'{kind}' object cannot be interpreted as an integer"

def ConversionFault.message : ConversionFault → String
  | value fault => fault.message
  | range fault => fault.message
  | kind fault => fault.message
  | decimal fault => fault.message
  | outOfMemory => ""

def ValueFault.className : ValueFault → String
  | foreign error => error.kind.className
  | _ => "ValueError"

def ConversionFault.className : ConversionFault → String
  | value fault => fault.className
  | range _ => "OverflowError"
  | kind _ => "TypeError"
  | decimal _ => "InvalidOperation"
  | outOfMemory => "MemoryError"

/-- A date-time that has no instant in the calendar is out of range; other faults are of value. -/
def ConversionFault.ofCalendar : Calendar.Fault → ConversionFault
  | .instantOutOfRange => .range .instant
  | .zone error => .value (.foreign error)
  | fault => .value (.calendar fault)

def ValueFault.ofAnswer {α : Type} : Answer α → Except ValueFault α
  | .gives value => .ok value
  | .raises error => .error (.foreign error)

def ConversionFault.ofAnswer {α : Type} (answer : Answer α) : Except ConversionFault α :=
  (ValueFault.ofAnswer answer).mapError .value

def ValueFault.ofUuid : Uuid.Fault → ValueFault
  | .wrongLength => .identifierText
  | .numeral digits .malformed => .integerNumeral .sixteen (quoted digits)
  | .numeral _ (.tooLong digits) => .numeralTooLong digits

end StagedTables
