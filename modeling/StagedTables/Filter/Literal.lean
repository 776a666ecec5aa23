import StagedTables.Calendar.LocalZone
import StagedTables.Text.HexBytes
import StagedTables.Text.LetterCase
import StagedTables.Value.Conversion

/-! # Filter literals

The text that a value has in a filter.  The entity data type of a value decides the form of its
literal: a value names its type itself when it is `typed`, and otherwise has an inferred one.
Values without a type of their own, and integers beyond 64 bits, are written as strings; quotes
inside a string are not doubled.  A date-time without an offset is in the local zone. -/
set_option autoImplicit false
namespace StagedTables

namespace Edm

def accepts (edm : Edm) (value : Value) : Bool :=
  match edm, value with
  | binary, .bytes _ _ => true
  | binary, .released _ => true
  | boolean, .boolean _ => true
  | dateTime, .dateTime _ => true
  | double, .integer _ => true
  | double, .double _ => true
  | guid, value => value.asUuid.isOk
  | int32, .integer n => decide (FitsInt32 n)
  | int64, .integer n => decide (FitsInt64 n)
  | string, _ => true
  | _, _ => false

/-- The error that keeps a value from being tried as an identifier: its text is refused if it is no
identifier or ends in an error of values, and any other error is passed on. -/
def escape? (edm : Edm) (value : Value) : Option ForeignError :=
  match edm, value.asUuid with
  | guid, .error (.value (.foreign error)) => if error.kind.isValue then none else some error
  | _, _ => none

end Edm

namespace Value

/-- The type whose literal stands for a value. -/
def edm : Value → Edm
  | typed edm _ => edm
  | boolean _ => .boolean
  | integer n => if FitsInt32 n then .int32 else if FitsInt64 n then .int64 else .string
  | double _ => .double
  | dateTime _ => .dateTime
  | uuid _ => .guid
  | bytes _ _ => .binary
  | released _ => .binary
  | _ => .string

def untyped : Value → Value
  | typed _ value => value
  | value => value

/-- A value with its type made explicit; a typed one stays as it is. -/
def toTyped (value : Value) : Value :=
  match value with
  | typed edm inner => typed edm inner
  | other => typed other.edm other

def withEdm (edm : Edm) (value : Value) : Except ConversionFault Value :=
  if edm.accepts value then .ok (typed edm value)
  else match edm.escape? value, value.quoted with
    | some error, _ => .error (.value (.foreign error))
    | none, .ok shown => .error (.kind (.notEncodable value.kindName shown edm))
    | none, .error fault => .error (.value fault)

end Value

namespace Literal

/-- Text between quotes, after a mark that names its kind. -/
def marked (mark : String) (body : List Char) : List Char :=
  mark.toList ++ '\'' :: body ++ ['\'']

def binaryMark : String := "X"
def dateTimeMark : String := "datetime"
def guidMark : String := "guid"

/-- The body of a date-time literal: UTC with seven digits of fraction. -/
def dateTimeBody (utc : Calendar.DateTime) : List Char :=
  utc.date.chars ++ 'T' :: utc.time.chars ++
    '.' :: Calendar.padded 6 utc.time.microsecond ++ ['0', 'Z']

/-- Doubles are written like plain text but for the two special values. -/
def doubleLayout : Double.Layout := ⟨16, 3, 2, "INF", "NaN"⟩

def ofDateTime (zone : Calendar.LocalZone) (d : Calendar.DateTime) :
    Except ConversionFault (List Char) :=
  match d.toUtc zone with
  | .ok utc => .ok (marked dateTimeMark (dateTimeBody utc))
  | .error fault => .error (.ofCalendar fault)

def charsOf (text : Except ValueFault String) : Except ConversionFault (List Char) :=
  match text with
  | .ok s => .ok s.toList
  | .error fault => .error (.value fault)

def plainChars (value : Value) : Except ConversionFault (List Char) := charsOf value.plainText

/-- Lower-case text of a value that denotes an identifier, as it was written. -/
def ofGuid (value : Value) : Except ConversionFault (List Char) := do
  let chars ← plainChars value
  return marked guidMark (Text.lowerFrom [] chars)

def ofInteger (n : Int) : Except ConversionFault (List Char) :=
  plainChars (.integer n)

def ofString (value : Value) : Except ConversionFault (List Char) :=
  match value with
  | .null => .ok (marked "" [])
  | other => do
    let chars ← charsOf other.formattedText
    return marked "" chars

def encodeAs (zone : Calendar.LocalZone) (edm : Edm) (value : Value) :
    Except ConversionFault (List Char) :=
  match edm, value with
  | .binary, value => do
    let data ← value.asBytes
    return marked binaryMark (Text.hexBytes data).toList
  | .boolean, value => do
    return if ← value.asBoolean then "true".toList else "false".toList
  | .dateTime, .dateTime d => ofDateTime zone d
  | .dateTime, value => .error (.kind (.notEncodable value.kindName "" .dateTime))
  | .double, value => do
    let x ← value.asDouble
    return x.renderChars doubleLayout
  | .guid, value => ofGuid value
  | .int32, value => do
    let n ← value.asInteger
    ofInteger n
  | .int64, value => do
    let n ← value.asInteger
    let chars ← ofInteger n
    return chars ++ ['L']
  | .string, value => ofString value

def chars (zone : Calendar.LocalZone) (value : Value) : Except ConversionFault (List Char) :=
  encodeAs zone value.edm value.untyped

def encode (zone : Calendar.LocalZone) (value : Value) : Except ConversionFault String :=
  (chars zone value).map String.ofList

end Literal
end StagedTables
