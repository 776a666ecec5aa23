import StagedTables.Calendar.IsoText
import StagedTables.Number.Shortest
import StagedTables.Text.Quoted
import StagedTables.Value
import StagedTables.Value.Fault

/-! # Text of values

A value has a plain text and a quoted text.  They differ for text, which quoting puts between
quotes, and for dates, identifiers and decimals, which quoting names; lists and records quote what
they hold.  An integer of more than `Numeral.integerDigitLimit` digits has no text, and an object
or a zone may fail to say one. -/
set_option autoImplicit false
namespace StagedTables

namespace Calendar

def fieldList (fields : List String) : String := ", ".intercalate fields

def Offset.quoted (offset : Offset) : String :=
  if offset.micros = 0 then "datetime.timezone.utc"
  else s!"datetime.timezone({durationText offset.micros})"

def Zone.quoted : Zone → Answer String
  | .fixed offset => .gives offset.quoted
  | .region r => r.shown

def Date.fields (date : Date) : List String :=
  [toString date.year, toString date.month, toString date.day]

def Date.quoted (date : Date) : String :=
  s!"datetime.date({fieldList date.fields})"

/-- Seconds are left out when they and the microseconds are zero, and microseconds when they are. -/
def TimeOfDay.fields (time : TimeOfDay) : List String :=
  [toString time.hour, toString time.minute] ++
    (if time.second.val = 0 ∧ time.microsecond.val = 0 then [] else [toString time.second]) ++
    (if time.microsecond.val = 0 then [] else [toString time.microsecond])

def DateTime.quoted (d : DateTime) : Answer String :=
  let fields := d.date.fields ++ d.time.fields ++ if d.fold then ["fold=1"] else []
  match d.zone with
  | none => .gives s!"datetime.datetime({fieldList fields})"
  | some zone => zone.quoted.map fun shown =>
    let zoned := fields ++ ["tzinfo=" ++ shown]
    s!"datetime.datetime({fieldList zoned})"

end Calendar

namespace Value

def integerText (n : Int) : Except ValueFault String :=
  if n.natAbs < Nat.pow 10 Numeral.integerDigitLimit then .ok (toString n)
  else .error .integerTooLong

def bytesQuoted (form : ByteForm) (data : List UInt8) : String :=
  match form with
  | .constant => Text.quotedBytes data
  | .buffer => "bytearray(" ++ Text.quotedBuffer data ++ ")"
  | .view view => s!"<memory at {addressText view.address}>"

mutual

def quoted : Value → Except ValueFault String
  | null => .ok "None"
  | boolean b => .ok (if b then "True" else "False")
  | integer n => integerText n
  | double x => .ok x.text
  | text s => .ok (Text.quoted s)
  | bytes form data => .ok (bytesQuoted form data)
  | released address => .ok s!"<released memory at {addressText address}>"
  | dateTime d => ValueFault.ofAnswer d.quoted
  | date d => .ok d.quoted
  | uuid u => .ok ("UUID(" ++ Text.quoted u.text ++ ")")
  | decimal d => .ok ("Decimal(" ++ Text.quoted d.text ++ ")")
  | list items => do
    let shown ← quotedItems items
    return "[" ++ ", ".intercalate shown ++ "]"
  | record fields => do
    let shown ← quotedFields fields
    return "\x7b" ++ ", ".intercalate shown ++ "\x7d"
  | typed edm value => do
    let shown ← quoted value
    return s!"TypedValue({shown}, {edm.name})"
  | property edm value => do
    let shown ← quoted value
    return s!"EntityProperty(value={shown}, " ++
      s!"edm_type=<EdmType.{edm.constantName}: '{edm.name}'>)"
  | object o => ValueFault.ofAnswer o.quoted

def quotedItems : List Value → Except ValueFault (List String)
  | [] => .ok []
  | value :: rest => do
    let shown ← quoted value
    return shown :: (← quotedItems rest)

def quotedFields : List (String × Value) → Except ValueFault (List String)
  | [] => .ok []
  | (name, value) :: rest => do
    let shown ← quoted value
    return (Text.quoted name ++ ": " ++ shown) :: (← quotedFields rest)

end

def plainText : Value → Except ValueFault String
  | text s => .ok s
  | dateTime d => ValueFault.ofAnswer (d.isoText ' ')
  | date d => .ok d.text
  | uuid u => .ok u.text
  | decimal d => .ok d.text
  | object o => ValueFault.ofAnswer o.text
  | other => other.quoted

/-- The text of a value within another text. -/
def formattedText : Value → Except ValueFault String
  | object o => ValueFault.ofAnswer o.formatted
  | other => other.plainText

end Value
end StagedTables
