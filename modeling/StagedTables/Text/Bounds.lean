/-! # Character classes as boundary tables

A class of characters is stored as the increasing list of the code points at which membership
changes: a code point belongs to the class when an odd number of boundaries lie at or below it. -/
set_option autoImplicit false
namespace StagedTables.Text

/-- The number of entries of the increasing `table` that are at most `n`, given that it lies
between `low` and `high`. -/
def rankBetween (table : Array Nat) (n low high : Nat) : Nat :=
  if low < high then
    let middle := (low + high) / 2
    if table.getD middle 0 ≤ n then rankBetween table n (middle + 1) high
    else rankBetween table n low middle
  else low
termination_by high - low

def rank (table : Array Nat) (n : Nat) : Nat :=
  rankBetween table n 0 table.size

def inBounds (table : Array Nat) (code : Nat) : Bool :=
  rank table code % 2 == 1

end StagedTables.Text
