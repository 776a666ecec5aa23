import StagedTables.Number.Decimal

/-! # Exact numeric values

Integers, doubles and decimals are compared by value.  Every finite one is an integer times a
power of ten; without trailing zeros in the integer that form is unique, so two numbers are equal
exactly when their forms are. -/
set_option autoImplicit false
namespace StagedTables

inductive ExactNumber where
  | infinite (negative : Bool)
  | finite (coefficient : Int) (exponent : Int)
  deriving DecidableEq, Repr

namespace ExactNumber

def stripZeros (coefficient : Nat) (exponent : Int) : Nat × Int :=
  if coefficient = 0 then (0, 0)
  else if coefficient % 10 = 0 then stripZeros (coefficient / 10) (exponent + 1)
  else (coefficient, exponent)
termination_by coefficient
decreasing_by omega

def ofParts (negative : Bool) (coefficient : Nat) (exponent : Int) : ExactNumber :=
  let (digits, power) := stripZeros coefficient exponent
  .finite (if negative then -(digits : Int) else digits) power

def ofInt (n : Int) : ExactNumber :=
  ofParts (decide (n < 0)) n.natAbs 0

/-- A double is a number of units of `2^-1074`, that is `5^1074` times as many units of
`10^-1074`. -/
def ofDouble? : Double → Option ExactNumber
  | .nan => none
  | .infinite negative => some (.infinite negative)
  | .finite negative significand exponent _ =>
    if 1074 ≤ exponent then some (ofParts negative (significand * Nat.pow 2 (exponent - 1074)) 0)
    else
      let places := 1074 - exponent
      some (ofParts negative (significand * Nat.pow 5 places) (-(places : Int)))

def ofDecimal? : Decimal → Option ExactNumber
  | .finite negative coefficient exponent => some (ofParts negative coefficient exponent)
  | .infinite negative => some (.infinite negative)
  | .notANumber _ _ _ => none

end ExactNumber
end StagedTables
