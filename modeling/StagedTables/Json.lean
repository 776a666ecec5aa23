import StagedTables.Fields
import StagedTables.Number.Double

/-! # JSON values

Objects keep their members in order, each name once.  Integers are apart from doubles, and doubles
include infinity and not-a-number. -/
set_option autoImplicit false
namespace StagedTables

inductive Json where
  | null
  | boolean (b : Bool)
  | integer (n : Int)
  | number (x : Double)
  | text (s : String)
  | array (items : List Json)
  | object (members : List (String × Json))
  deriving Inhabited, Repr

namespace Json

def isTruthy : Json → Bool
  | null => false
  | boolean b => b
  | integer n => n != 0
  | number x => !x.isZero
  | text s => s != ""
  | array items => !items.isEmpty
  | object members => !members.isEmpty

def member? (json : Json) (name : String) : Option Json :=
  match json with
  | object members => Fields.get? members name
  | _ => none

end Json
end StagedTables
