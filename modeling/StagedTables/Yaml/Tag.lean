import StagedTables.Text.Base64
import StagedTables.Yaml.Number
import StagedTables.Yaml.Timestamp

/-! # Tags

The tag of a node says what it denotes.  A plain scalar without a tag has the one whose form it
fits. -/
set_option autoImplicit false
namespace StagedTables.Yaml

inductive Tag where
  | null
  | boolean
  | integer
  | double
  | text
  | bytes
  | timestamp
  | sequence
  | mapping
  | set
  | orderedMapping
  | pairs
  | merge
  | value
  | unknown
  deriving DecidableEq, Repr

namespace Tag

/-- The space of names that tags without a handle of their own belong to. -/
def namespaceUri : String := "tag:yaml.org,2002:"

def names : List (String × Tag) :=
  [("null", null), ("bool", boolean), ("int", integer), ("float", double), ("str", text),
    ("binary", bytes), ("timestamp", timestamp), ("seq", sequence), ("map", mapping),
    ("set", set), ("omap", orderedMapping), ("pairs", pairs), ("merge", merge),
    ("value", value)]

def ofUri (uri : String) : Tag :=
  let known := names.find? fun entry => namespaceUri ++ entry.1 = uri
  (known.map (·.2)).getD unknown

/-- Whether nodes of a tag denote collections, which can name no entry. -/
def isCollection : Tag → Bool
  | sequence => true
  | mapping => true
  | set => true
  | orderedMapping => true
  | pairs => true
  | _ => false

def nullWords : List String := ["", "~", "null", "Null", "NULL"]

def trueWords : List String :=
  ["yes", "Yes", "YES", "true", "True", "TRUE", "on", "On", "ON"]

def falseWords : List String :=
  ["no", "No", "NO", "false", "False", "FALSE", "off", "Off", "OFF"]

def ofPlain (s : String) : Tag :=
  let cs := s.toList
  if s ∈ nullWords then null
  else if s ∈ trueWords ++ falseWords then boolean
  else if isDoubleForm cs then double
  else if isIntegerForm cs then integer
  else if Timestamp.isPlain cs then timestamp
  else if s = "<<" then merge
  else if s = "=" then value
  else text

end Tag

def booleanOf (s : String) : Except Fault Bool :=
  let word := Text.lower s
  if word ∈ Tag.trueWords then .ok true
  else if word ∈ Tag.falseWords then .ok false
  else .error (.unknownTruth word)

def bytesOf (s : String) : Except Fault (List UInt8) :=
  if s.toList.all (·.toNat < 128) then
    match Text.base64Bytes? s.toList with
    | some data => .ok data
    | none => .error .malformed
  else .error .malformed

def timestampOf (s : String) : Except Fault Scalar :=
  match Timestamp.read? s.toList with
  | none => .error .noTimestamp
  | some timestamp => timestamp.toScalar.mapError fun fault => .conversion (.ofCalendar fault)

def scalarOf (tag : Tag) (s : String) : Except Fault Scalar :=
  match tag with
  | .null => .ok .null
  | .boolean => (booleanOf s).map .boolean
  | .integer => (integerOf s).map .integer
  | .double => (doubleOf s).map .number
  | .text => .ok (.text s)
  | .bytes => (bytesOf s).map .bytes
  | .timestamp => timestampOf s
  | _ => .error .malformed

end StagedTables.Yaml
