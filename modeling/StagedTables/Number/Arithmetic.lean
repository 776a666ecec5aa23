import StagedTables.Number.Double

/-! # Sums and products of doubles

The exact result of an operation rounded once. -/
set_option autoImplicit false
namespace StagedTables.Double

def negate : Double → Double
  | .nan => .nan
  | .infinite negative => .infinite (!negative)
  | .finite negative significand exponent canonical =>
    .finite (!negative) significand exponent canonical

def units? (x : Double) : Option Int :=
  x.magnitude?.map fun magnitude => if x.isNegative then -(magnitude : Int) else magnitude

/-- The sum; a sum of zero is negative only when both terms are. -/
def add (x y : Double) : Double :=
  match x.units?, y.units? with
  | some a, some b =>
    let sum := a + b
    if sum = 0 then signedZero (x.isNegative && y.isNegative)
    else ofRatio (decide (sum < 0)) sum.natAbs unitsPerOne
  | none, some _ => x
  | some _, none => y
  | none, none => if x = y then x else .nan

def mul (x y : Double) : Double :=
  let negative := x.isNegative != y.isNegative
  match x.magnitude?, y.magnitude? with
  | some a, some b => ofRatio negative (a * b) (unitsPerOne * unitsPerOne)
  | _, _ =>
    if x = .nan ∨ y = .nan ∨ x.isZero ∨ y.isZero then .nan else .infinite negative

end StagedTables.Double
