/-! # Views of bytes

A view shows bytes as an array of items, row by row.  Its format says what an item is; there are
formats whose items no reader can unpack. -/
set_option autoImplicit false
namespace StagedTables

inductive ItemKind where
  | unsigned
  | signed
  | truth
  | character
  | float
  deriving DecidableEq, Repr

structure ItemFormat where
  kind : ItemKind
  width : Nat
  bigEndian : Bool
  deriving DecidableEq, Repr

structure View where
  address : Nat
  format : Option ItemFormat
  shape : List Nat
  /-- Whether the items lie one after the other. -/
  isContiguous : Bool
  deriving DecidableEq, Repr

namespace View

def ofLength (length : Nat) : View := ⟨0, some ⟨.unsigned, 1, false⟩, [length], true⟩

/-- Extents after a zero do not count. -/
def sameExtents : List Nat → List Nat → Bool
  | m :: shape, n :: other => m == n && (m == 0 || sameExtents shape other)
  | _, _ => true

def sameShape (view other : View) : Bool :=
  view.shape.length == other.shape.length && sameExtents view.shape other.shape

end View

def addressText (address : Nat) : String := "0x" ++ String.ofList (Nat.toDigits 16 address)

end StagedTables
