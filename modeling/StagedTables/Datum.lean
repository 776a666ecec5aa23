import StagedTables.Calendar.DateTime
import StagedTables.Json

/-! # Data of documents

What a document can hold: scalars, and collections of them.  A mapping names its entries by texts
or by other objects, so that it holds more than a JSON object does.  What objects there are besides
is left open; two names are one where they are equal, however that is told. -/
set_option autoImplicit false
namespace StagedTables

inductive Scalar where
  | null
  | boolean (b : Bool)
  | integer (n : Int)
  | number (x : Double)
  | text (s : String)
  | bytes (data : List UInt8)
  | date (date : Calendar.Date)
  | dateTime (dateTime : Calendar.DateTime)
  deriving Repr

namespace Scalar

/-- Zero, what is empty and what is absent are false; all else is true. -/
def isTruthy : Scalar → Bool
  | null => false
  | boolean b => b
  | integer n => n != 0
  | number x => !x.isZero
  | text s => s != ""
  | bytes data => !data.isEmpty
  | _ => true

inductive Key where
  | null
  | integer (n : Int)
  | number (x : Double)
  | text (s : String)
  | bytes (data : List UInt8)
  | date (date : Calendar.Date)
  | clock (date : Calendar.Date) (time : Calendar.TimeOfDay)
  | instant (micros : Int)
  deriving DecidableEq

/-- Truth values count as one and zero, and a number without a fraction as an integer.  Date-times
are equal at one instant, and those without an offset by what the clock shows. -/
def key : Scalar → Key
  | null => .null
  | boolean b => .integer (if b then 1 else 0)
  | integer n => .integer n
  | number x => match x.toInt? with
    | some n => .integer n
    | none => .number x
  | text s => .text s
  | bytes data => .bytes data
  | date day => .date day
  | dateTime d => match d.offset with
    | .gives none => .clock d.date d.time
    | _ => .instant d.instant

instance : BEq Scalar := ⟨fun a b => decide (a.key = b.key)⟩

instance : EquivBEq Scalar where
  rfl := decide_eq_true rfl
  symm same := decide_eq_true (of_decide_eq_true same).symm
  trans same also := decide_eq_true ((of_decide_eq_true same).trans (of_decide_eq_true also))

example :
    (integer 1 == boolean true) = true ∧
      (integer 1 == number (Double.ofDecimal false 1 0)) = true ∧
      (integer 1 == text "1") = false := by
  decide +kernel

end Scalar

inductive Name (ο : Type) where
  | text (s : String)
  | other (object : ο)
  deriving Repr

namespace Name

variable {ο : Type}

def text? : Name ο → Option String
  | text s => some s
  | other _ => none

/-- No object is equal to a text. -/
def same [BEq ο] : Name ο → Name ο → Bool
  | text s, text t => s == t
  | other object, other object' => object == object'
  | _, _ => false

instance [BEq ο] : BEq (Name ο) := ⟨same⟩

theorem text_beq [BEq ο] (s t : String) : ((text s : Name ο) == text t) = (s == t) := rfl

theorem other_beq [BEq ο] (object object' : ο) :
    (other object == other object') = (object == object') := rfl

instance [BEq ο] [EquivBEq ο] : EquivBEq (Name ο) where
  rfl {name} := by
    cases name with
    | text s => rw [text_beq, beq_self_eq_true]
    | other object => rw [other_beq, BEq.rfl]
  symm {name name'} equal := by
    cases name <;> cases name'
    case text.text => rwa [text_beq, BEq.comm]
    case other.other => rwa [other_beq, BEq.comm]
    all_goals cases equal
  trans {name name' name''} equal also := by
    cases name <;> cases name' <;> cases name''
    case text.text.text =>
      rw [text_beq] at equal also ⊢
      exact BEq.trans equal also
    case other.other.other =>
      rw [other_beq] at equal also ⊢
      exact BEq.trans equal also
    all_goals first | cases equal | cases also

def ofScalar : Scalar → Name Scalar
  | .text s => text s
  | value => other value

def toScalar : Name Scalar → Scalar
  | text s => .text s
  | other value => value

end Name

inductive Datum (ο : Type) where
  | scalar (value : Scalar)
  | other (object : ο)
  | array (items : List (Datum ο))
  | set (members : List (Name ο))
  | object (members : List (Name ο × Datum ο))
  deriving Inhabited, Repr

namespace Datum

variable {ο : Type}

abbrev Members (ο : Type) := List (Name ο × Datum ο)

def null : Datum ο := scalar .null

def integer (n : Int) : Datum ο := scalar (.integer n)

def text (s : String) : Datum ο := scalar (.text s)

def isTruthy : Datum ο → Bool
  | scalar value => value.isTruthy
  | other _ => true
  | array items => !items.isEmpty
  | set members => !members.isEmpty
  | object members => !members.isEmpty

mutual

def ofJson : Json → Datum ο
  | .null => scalar .null
  | .boolean b => scalar (.boolean b)
  | .integer n => scalar (.integer n)
  | .number x => scalar (.number x)
  | .text s => scalar (.text s)
  | .array items => array (ofItems items)
  | .object members => object (ofMembers members)

def ofItems : List Json → List (Datum ο)
  | [] => []
  | item :: rest => ofJson item :: ofItems rest

def ofMembers : List (String × Json) → Members ο
  | [] => []
  | (name, value) :: rest => (.text name, ofJson value) :: ofMembers rest

end

mutual

def toJson? : Datum ο → Option Json
  | scalar .null => some .null
  | scalar (.boolean b) => some (.boolean b)
  | scalar (.integer n) => some (.integer n)
  | scalar (.number x) => some (.number x)
  | scalar (.text s) => some (.text s)
  | scalar _ => none
  | other _ => none
  | array items => (toItems? items).map .array
  | set _ => none
  | object members => (toMembers? members).map .object

def toItems? : List (Datum ο) → Option (List Json)
  | [] => some []
  | item :: rest => do return (← toJson? item) :: (← toItems? rest)

def toMembers? : Members ο → Option (List (String × Json))
  | [] => some []
  | (.text name, value) :: rest => do return (name, ← toJson? value) :: (← toMembers? rest)
  | _ => none

end

end Datum

/-- A datum whose names and values are scalars. -/
abbrev Document := Datum Scalar

end StagedTables
