import StagedTables.Number.Exact
import StagedTables.Value
import StagedTables.Value.Fault

/-! # Equality of values

Two values are equal when they denote the same thing: numbers of any kind by their exact value,
bytes by their content, views by their items, and records whatever the order of their fields.
Date-times of one zone are compared by their fields and those of two zones by their instants.
Not-a-number equals nothing, and a signaling one cannot even be compared with a number; but within
a list, a record or a typed value an object is taken for equal to itself. -/
set_option autoImplicit false
namespace StagedTables

namespace Calendar.DateTime

def sharesZone (d e : DateTime) : Bool :=
  match d.zone, e.zone with
  | none, none => true
  | some (.fixed offset), some (.fixed other) => offset == other
  | some (.region region), some (.region other) => region.id == other.id
  | _, _ => false

/-- In one zone `fold` does not count.  Of two zones, a date-time whose offset depends on `fold`
equals no other. -/
def compare (d e : DateTime) : Answer Bool :=
  if d.sharesZone e then .gives (d.date == e.date && d.time == e.time)
  else
    d.offset.bind fun offset =>
    e.offset.bind fun other =>
    if offset.isSome == other.isSome && d.instant == e.instant then
      d.otherOffset.bind fun flipped =>
      if flipped = offset then e.otherOffset.map fun flipped => flipped == other
      else .gives false
    else .gives false

end Calendar.DateTime

structure Comparing where
  /-- Whether two values are one object. -/
  same : Value → Value → Bool
  /-- Whether two values are equal by what an object says, one of the two being one. -/
  asked : Value → Value → Answer Bool

/-- No two values are one object, and no object equals another. -/
def Comparing.apart : Comparing := ⟨fun _ _ => false, fun _ _ => .gives false⟩

namespace Value

/-- The exact value of a number, truth values counting as zero and one. -/
def exactNumber? : Value → Option ExactNumber
  | boolean b => some (ExactNumber.ofInt (if b then 1 else 0))
  | integer n => some (.ofInt n)
  | double x => ExactNumber.ofDouble? x
  | decimal d => ExactNumber.ofDecimal? d
  | _ => none

def numbersEqual (a b : Value) : Bool :=
  match a.exactNumber?, b.exactNumber? with
  | some x, some y => x == y
  | _, _ => false

end Value

namespace ItemFormat

def read (format : ItemFormat) (bytes : List UInt8) : Value :=
  let bits : Nat := (if format.bigEndian then bytes.reverse else bytes).foldr
    (fun byte bits => byte.toNat + 256 * bits) 0
  match format.kind with
  | .unsigned => .integer bits
  | .signed =>
    let range := Nat.pow 256 format.width
    .integer (if 2 * bits < range then (bits : Int) else bits - range)
  | .truth => .boolean (bits != 0)
  | .character => .bytes .constant bytes
  | .float =>
    .double (match format.width with
      | 2 => .ofBits 5 10 bits
      | 4 => .ofBits 8 23 bits
      | _ => .ofBits 11 52 bits)

def items (format : ItemFormat) (data : List UInt8) : List Value :=
  (List.range (data.length / format.width)).map fun i =>
    format.read ((data.drop (i * format.width)).take format.width)

/-- Items of characters are equal by their bytes, all others as numbers. -/
def itemsEqual (pair : Value × Value) : Bool :=
  match pair with
  | (.bytes _ data, .bytes _ other) => data == other
  | (item, other) => item.numbersEqual other

end ItemFormat

namespace Value

def viewsEqual (view : View) (data : List UInt8) (other : View) (otherData : List UInt8) : Bool :=
  match view.format, other.format with
  | some format, some otherFormat =>
    let items := format.items data
    let otherItems := otherFormat.items otherData
    view.sameShape other && items.length == otherItems.length &&
      (items.zip otherItems).all ItemFormat.itemsEqual
  | _, _ => false

/-- Where a view takes part, the items decide, unless a buffer comes first and can read the bytes
of the view. -/
def bytesEqual (form : ByteForm) (data : List UInt8) (otherForm : ByteForm)
    (other : List UInt8) : Bool :=
  match form, otherForm with
  | .view view, .view otherView => viewsEqual view data otherView other
  | .view view, _ => viewsEqual view data (.ofLength other.length) other
  | .constant, .view view => viewsEqual view other (.ofLength data.length) data
  | .buffer, .view view =>
    if view.isContiguous then data == other
    else viewsEqual view other (.ofLength data.length) data
  | _, _ => data == other

/-- A signaling not-a-number takes part in no comparison of numbers. -/
def isSignaling : Value → Bool
  | decimal (.notANumber _ true _) => true
  | _ => false

def isNumber : Value → Bool
  | boolean _ => true
  | integer _ => true
  | double _ => true
  | decimal _ => true
  | _ => false

def plainCompare (c : Comparing) (a b : Value) : Except ConversionFault Bool :=
  match a, b with
  | object _, _ => ConversionFault.ofAnswer (c.asked a b)
  | _, object _ => ConversionFault.ofAnswer (c.asked a b)
  | null, null => .ok true
  | text s, text t => .ok (s == t)
  | bytes form data, bytes otherForm other => .ok (bytesEqual form data otherForm other)
  | released address, released other => .ok (address == other)
  | dateTime d, dateTime e => ConversionFault.ofAnswer (d.compare e)
  | date d, date e => .ok (d == e)
  | uuid u, uuid v => .ok (u == v)
  | a, b =>
    if a.isNumber && b.isNumber && (a.isSignaling || b.isSignaling) then
      .error (.decimal .signaling)
    else .ok (a.numbersEqual b)

mutual

/-- Whether two values are equal, if that can be told.  What they hold is compared from left to
right, up to the first difference. -/
def compare (c : Comparing) : Value → Value → Except ConversionFault Bool
  | list items, list others =>
    if items.length = others.length then compareItems c items others else .ok false
  | record fields, record others =>
    if fields.length = others.length then compareFields c fields others else .ok false
  | typed edm value, typed otherEdm other => do
    let equal ← if c.same value other then .ok true else compare c value other
    return equal && edm == otherEdm
  | property edm value, property otherEdm other => do
    let equal ← if c.same value other then .ok true else compare c value other
    return equal && edm == otherEdm
  | a, b => plainCompare c a b

def compareItems (c : Comparing) : List Value → List Value → Except ConversionFault Bool
  | value :: rest, other :: others => do
    let equal ← if c.same value other then .ok true else compare c value other
    if equal then compareItems c rest others else return false
  | _, _ => .ok true

def compareFields (c : Comparing) :
    List (String × Value) → List (String × Value) → Except ConversionFault Bool
  | [], _ => .ok true
  | (name, value) :: rest, others =>
    match Fields.get? others name with
    | some other => do
      let equal ← if c.same value other then .ok true else compare c value other
      if equal then compareFields c rest others else return false
    | none => .ok false

end

/-- Compares two values that a tuple, a list or a record holds. -/
def compareHeld (c : Comparing) (value other : Value) : Except ConversionFault Bool :=
  if c.same value other then .ok true else compare c value other

/-- Whether two values are equal that share no objects; what cannot be told counts as a no. -/
def equal (value other : Value) : Bool :=
  match compare .apart value other with
  | .ok equal => equal
  | .error _ => false

end Value
end StagedTables
