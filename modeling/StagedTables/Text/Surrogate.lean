/-! # Halves of surrogate pairs

A character beyond the first 65536 is written as a pair of units, its halves.  A half that stands
alone is no character of its own; in a text its place is taken by the character of the last
private plane that is `0x100000` above it. -/
set_option autoImplicit false
namespace StagedTables.Text

def isFirstHalf (unit : Nat) : Bool := 0xD800 ≤ unit && unit < 0xDC00

def isSecondHalf (unit : Nat) : Bool := 0xDC00 ≤ unit && unit < 0xE000

def joinHalves (first second : Nat) : Nat :=
  0x10000 + (first - 0xD800) * 0x400 + (second - 0xDC00)

def ofUnit (unit : Nat) : Char :=
  Char.ofNat (if isFirstHalf unit || isSecondHalf unit then 0x100000 + unit else unit)

def half? (c : Char) : Option Nat :=
  if 0x10D800 ≤ c.toNat ∧ c.toNat < 0x10E000 then some (c.toNat - 0x100000) else none

/-- The code of a character, or of the half whose place it takes. -/
def codeOf (c : Char) : Nat := (half? c).getD c.toNat

/-- Whether a text is without lone halves, so that it can be written in bytes. -/
def isEncodable (s : String) : Bool := s.toList.all fun c => (half? c).isNone

/-- Halves from `0xDC80` to `0xDCFF` in the name of a file stand for single bytes. -/
def isEncodableName (s : String) : Bool :=
  s.toList.all fun c => (half? c).all fun unit => 0xDC80 ≤ unit && unit < 0xDD00

end StagedTables.Text
