import StagedTables.Value.Text

/-! # Conversions between values

Reading a value as a number, a truth value, bytes, an identifier or a date-time.  Text is read by
the numeral and calendar readers; numbers are truncated towards zero when read as integers. -/
set_option autoImplicit false
namespace StagedTables

def Numeral.Fault.toValueFault (fault : Numeral.Fault) (base : Numeral.Base) (shown : String) :
    ValueFault :=
  match fault with
  | .malformed => .integerNumeral base shown
  | .tooLong digits => .numeralTooLong digits

namespace Value

/-- The characters of bytes that are ASCII; another byte becomes a mark that no numeral holds. -/
def asciiChars (data : List UInt8) : List Char :=
  data.map fun byte => if byte < 128 then Char.ofNat byte.toNat else '?'

def integerOfText (s : String) : Except ConversionFault Int :=
  match Numeral.integer? .ten s.toList with
  | .ok n => .ok n
  | .error fault => .error (.value (fault.toValueFault .ten (Text.quoted s)))

def integerOfBytes (data : List UInt8) : Except ConversionFault Int :=
  match Numeral.integer? .ten (asciiChars data) with
  | .ok n => .ok n
  | .error fault =>
    .error (.value (fault.toValueFault .ten (Text.quotedBytes (data.take shownLimit))))

def integerOfDouble (x : Double) : Except ConversionFault Int :=
  match x, x.truncate? with
  | _, some n => .ok n
  | .nan, none => .error (.value .notANumberAsInteger)
  | _, none => .error (.range .infinityAsInteger)

def integerOfDecimal : Decimal → Except ConversionFault Int
  | .finite negative coefficient exponent =>
    .ok (Decimal.truncate negative coefficient exponent)
  | .infinite _ => .error (.range .decimalInfinityAsInteger)
  | .notANumber _ _ _ => .error (.value .decimalNotANumberAsInteger)

def asInteger (value : Value) : Except ConversionFault Int :=
  match value with
  | boolean b => .ok (if b then 1 else 0)
  | integer n => .ok n
  | double x => integerOfDouble x
  | decimal d => integerOfDecimal d
  | text s => integerOfText s
  | bytes (.view view) data =>
    if view.isContiguous then integerOfBytes data else .error (.kind (.asInteger "memoryview"))
  | bytes _ data => integerOfBytes data
  | uuid u => .ok u.bits.toNat
  | object o => ConversionFault.ofAnswer o.integer
  | other => .error (.kind (.asInteger other.qualifiedKindName))

def doubleOfInteger (n : Int) : Except ConversionFault Double :=
  (Double.ofInt? n).elim (.error (.range .integerAsDouble)) .ok

def doubleOfChars (cs : List Char) (shown : String) : Except ConversionFault Double :=
  match Numeral.double? cs with
  | some x => .ok x
  | none => .error (.value (.doubleNumeral shown))

def doubleOfText (s : String) : Except ConversionFault Double :=
  doubleOfChars s.toList (Text.quoted s)

def doubleOfDecimal : Decimal → Except ConversionFault Double
  | .finite negative coefficient exponent => .ok (.ofDecimal negative coefficient exponent)
  | .infinite negative => .ok (.infinite negative)
  | .notANumber _ true _ => .error (.value .signalingNotANumber)
  | .notANumber _ false _ => .ok .nan

def asDouble (value : Value) : Except ConversionFault Double :=
  match value with
  | boolean b => .ok (if b then Double.ofRatio false 1 1 else .positiveZero)
  | integer n => doubleOfInteger n
  | double x => .ok x
  | decimal d => doubleOfDecimal d
  | text s => doubleOfText s
  | bytes (.view view) data =>
    if view.isContiguous then doubleOfChars (asciiChars data) (bytesQuoted (.view view) data)
    else .error (.kind (.asDouble "memoryview"))
  | bytes form data => doubleOfChars (asciiChars data) (bytesQuoted form data)
  | object o => ConversionFault.ofAnswer o.double
  | other => .error (.kind (.asDouble other.qualifiedKindName))

/-- Zero, what is empty and what is absent are false; all else is true.  A view is empty if it has
no rows. -/
def asBoolean : Value → Except ConversionFault Bool
  | null => .ok false
  | boolean b => .ok b
  | integer n => .ok (n != 0)
  | double x => .ok (!x.isZero)
  | text s => .ok (s != "")
  | bytes (.view view) _ => .ok (view.shape.head? != some 0)
  | bytes _ data => .ok (!data.isEmpty)
  | released _ => .error (.value .releasedView)
  | decimal (.finite _ coefficient _) => .ok (coefficient != 0)
  | list items => .ok (!items.isEmpty)
  | record fields => .ok (!fields.isEmpty)
  | object o => ConversionFault.ofAnswer o.truth
  | _ => .ok true

def byteOfInteger (n : Int) : Except ConversionFault UInt8 :=
  if 0 ≤ n ∧ n < 256 then .ok (UInt8.ofNat n.toNat) else .error (.value .byteOutOfRange)

def byteOfValue : Value → Except ConversionFault UInt8
  | boolean b => .ok (if b then 1 else 0)
  | integer n => byteOfInteger n
  | object o => do byteOfInteger (← ConversionFault.ofAnswer o.index)
  | other => .error (.kind (.elementAsByte other.qualifiedKindName))

/-- `2^63`: counts from here on are too large to hold. -/
def byteCountLimit : Int := 9223372036854775808

def byteOverhead : Int := 33

/-- `2^36`: what has more parts than this does not fit into memory. -/
def memoryLimit : Nat := 68719476736

def zeroBytes (n : Int) : Except ConversionFault (List UInt8) :=
  if byteCountLimit ≤ n ∨ n < -byteCountLimit then .error (.range .byteCount)
  else if n < 0 then .error (.value .negativeCount)
  else if byteCountLimit ≤ n + byteOverhead then .error (.range .byteText)
  else if memoryLimit ≤ n.toNat then .error .outOfMemory
  else .ok (List.replicate n.toNat 0)

def asBytes (value : Value) : Except ConversionFault (List UInt8) :=
  match value with
  | bytes _ data => .ok data
  | released _ => .error (.value .releasedView)
  | boolean b => zeroBytes (if b then 1 else 0)
  | integer n => zeroBytes n
  | text _ => .error (.kind .textAsBytes)
  | list items => items.mapM byteOfValue
  | record [] => .ok []
  | record _ => .error (.kind (.elementAsByte "str"))
  | property _ inner => do
    let _ ← byteOfValue inner
    .error (.kind (.elementAsByte "EdmType"))
  | object o => ConversionFault.ofAnswer o.bytes
  | other => .error (.kind (.asBytes other.qualifiedKindName))

def asUuid (value : Value) : Except ConversionFault Uuid :=
  match value with
  | uuid u => .ok u
  | other => match other.plainText with
    | .error fault => .error (.value fault)
    | .ok s => match Uuid.read s with
      | .ok u => .ok u
      | .error fault => .error (.value (.ofUuid fault))

/-- Writes every `Z` as the offset that it abbreviates. -/
def spellOutUtc (cs : List Char) : List Char :=
  cs.flatMap fun c => if c = 'Z' then "+00:00".toList else [c]

/-- Text is read as an ISO 8601 date-time; any other value stays as it is. -/
def asDateTime (value : Value) : Except ConversionFault Value :=
  match value with
  | text s => match Calendar.readDateTime (String.ofList (spellOutUtc s.toList)) with
    | .ok d => .ok (dateTime d)
    | .error (.malformed shown) => .error (.value (.isoText shown))
    | .error (.fields fault) => .error (.ofCalendar fault)
  | other => .ok other

end Value
end StagedTables
