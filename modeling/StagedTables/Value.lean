import StagedTables.Calendar.DateTime
import StagedTables.Edm
import StagedTables.Fields
import StagedTables.Number.Decimal
import StagedTables.Number.Double
import StagedTables.Uuid
import StagedTables.Value.View

/-! # Values

What an entity property or a filter literal can hold.  A `typed` value carries the entity data
type that its literal is to have; a `property` is a value as the service returns it when it names
the type itself.  A view that was `released` holds nothing any more.  Of an `object` whose class is
none of these only what it answers is known, and it answers alike each time.  Classes that derive
from these and answer otherwise than they do are left out. -/
set_option autoImplicit false
namespace StagedTables

/-- Bytes come as a constant, as a buffer that can grow, or as a view of one. -/
inductive ByteForm where
  | constant
  | buffer
  | view (view : View)
  deriving DecidableEq, Repr

/-- What an object answers that is asked for its text, for its text in a format, for its quoted
text, or to become another kind of value. -/
structure ForeignObject where
  id : Nat
  className : String
  text : Answer String
  formatted : Answer String
  quoted : Answer String
  integer : Answer Int
  /-- The integer that it stands for where only an integer will do. -/
  index : Answer Int
  double : Answer Double
  truth : Answer Bool
  bytes : Answer (List UInt8)
  deriving DecidableEq, Repr

inductive Value where
  | null
  | boolean (b : Bool)
  | integer (n : Int)
  | double (x : Double)
  | text (s : String)
  | bytes (form : ByteForm) (data : List UInt8)
  | released (address : Nat)
  | dateTime (d : Calendar.DateTime)
  | date (d : Calendar.Date)
  | uuid (u : Uuid)
  | decimal (d : Decimal)
  | list (items : List Value)
  | record (fields : List (String × Value))
  | typed (edm : Edm) (value : Value)
  | property (edm : Edm) (value : Value)
  | object (object : ForeignObject)
  deriving Inhabited, Repr

namespace Value

def kindName : Value → String
  | null => "NoneType"
  | boolean _ => "bool"
  | integer _ => "int"
  | double _ => "float"
  | text _ => "str"
  | bytes .constant _ => "bytes"
  | bytes .buffer _ => "bytearray"
  | bytes (.view _) _ => "memoryview"
  | released _ => "memoryview"
  | dateTime _ => "datetime"
  | date _ => "date"
  | uuid _ => "UUID"
  | decimal _ => "Decimal"
  | list _ => "list"
  | record _ => "dict"
  | typed _ _ => "TypedValue"
  | property _ _ => "EntityProperty"
  | object o => o.className

/-- The word for the kind of a value with the library that defines it, where that is shown. -/
def qualifiedKindName (value : Value) : String :=
  match value with
  | dateTime _ => "datetime.datetime"
  | date _ => "datetime.date"
  | decimal _ => "decimal.Decimal"
  | other => other.kindName

end Value
end StagedTables
