import StagedTables.Text.Bounds

/-! # Blank characters

The white space of Unicode 14 together with the four ASCII information separators, and trimming
by it. -/
set_option autoImplicit false
namespace StagedTables.Text

def blankBounds : Array Nat :=
  #[
    9, 14, 28, 33, 133, 134, 160, 161, 5760, 5761, 8192, 8203, 8232, 8234, 8239, 8240, 8287,
    8288, 12288, 12289]

def isBlank (c : Char) : Bool :=
  inBounds blankBounds c.toNat

def trimBy (drop : Char → Bool) (cs : List Char) : List Char :=
  ((cs.dropWhile drop).reverse.dropWhile drop).reverse

def trim (s : String) : String :=
  String.ofList (trimBy isBlank s.toList)

end StagedTables.Text
