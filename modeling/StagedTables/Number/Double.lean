/-! # Double-precision numbers

A finite double is a significand below `2^53` times a power of two, kept in its one canonical
form, so that equal doubles are equal terms.  Magnitudes are counted in units of `2^-1074`, the
smallest positive double: `magnitude` is a natural number, and every operation here is exact
integer arithmetic followed by one rounding to nearest, ties to the even significand. -/
set_option autoImplicit false
namespace StagedTables

/-- The significand and exponent of a finite double: below `2^53`, and at least `2^52` unless the
exponent is the smallest. -/
structure CanonicalParts (significand exponent : Nat) : Prop where
  significand_lt : significand < Nat.pow 2 53
  normal_or_smallest : Nat.pow 2 52 ≤ significand ∨ exponent = 0
  exponent_le : exponent ≤ 2045

theorem canonicalParts_iff (significand exponent : Nat) :
    CanonicalParts significand exponent ↔
      significand < Nat.pow 2 53 ∧ (Nat.pow 2 52 ≤ significand ∨ exponent = 0) ∧ exponent ≤ 2045 :=
  ⟨fun parts => ⟨parts.1, parts.2, parts.3⟩, fun ⟨lt, normal, le⟩ => ⟨lt, normal, le⟩⟩

instance (significand exponent : Nat) : Decidable (CanonicalParts significand exponent) :=
  decidable_of_iff _ (canonicalParts_iff significand exponent).symm

inductive Double where
  | nan
  | infinite (negative : Bool)
  | finite (negative : Bool) (significand exponent : Nat)
      (canonical : CanonicalParts significand exponent)
  deriving DecidableEq, Repr

namespace Double

def unitsPerOne : Nat := Nat.pow 2 1074

theorem canonical_zero : CanonicalParts 0 0 := by decide

def signedZero (negative : Bool) : Double := .finite negative 0 0 canonical_zero

def positiveZero : Double := signedZero false

instance : Inhabited Double := ⟨positiveZero⟩

/-- The double with the given parts; parts beyond the largest exponent overflow to infinity. -/
def ofParts (negative : Bool) (significand exponent : Nat) : Double :=
  if canonical : CanonicalParts significand exponent then
    .finite negative significand exponent canonical
  else .infinite negative

/-- The quotient rounded to the nearest natural number, a tie to the even one. -/
def roundQuotient (numerator denominator : Nat) : Nat :=
  let quotient := numerator / denominator
  let twice := 2 * (numerator % denominator)
  if twice < denominator then quotient
  else if denominator < twice then quotient + 1
  else if quotient % 2 = 0 then quotient else quotient + 1

def ofRatio (negative : Bool) (numerator denominator : Nat) : Double :=
  let units := numerator * unitsPerOne
  let exponent := (units / denominator).log2 - 52
  let significand := roundQuotient units (denominator * Nat.pow 2 exponent)
  if significand = Nat.pow 2 53 then ofParts negative (Nat.pow 2 52) (exponent + 1)
  else ofParts negative significand exponent

/-- The double that bits stand for in an interchange format of the given widths. -/
def ofBits (exponentWidth fractionWidth bits : Nat) : Double :=
  let fraction := bits % Nat.pow 2 fractionWidth
  let power := bits / Nat.pow 2 fractionWidth % Nat.pow 2 exponentWidth
  let negative := decide (bits / Nat.pow 2 (fractionWidth + exponentWidth) % 2 = 1)
  let bias := Nat.pow 2 (exponentWidth - 1) - 1
  if power + 1 = Nat.pow 2 exponentWidth then if fraction = 0 then .infinite negative else .nan
  else
    let significand := if power = 0 then fraction else Nat.pow 2 fractionWidth + fraction
    ofRatio negative (significand * Nat.pow 2 (max power 1)) (Nat.pow 2 (bias + fractionWidth))

/-- Decimal exponents beyond this bound are settled by size alone. -/
def decimalBound : Nat := 400

/-- The double nearest to `digits * 10 ^ exponent`.  A number of at least `10^400` overflows and
one below `10^-400` is rounded to zero without computing the power. -/
def ofDecimal (negative : Bool) (digits : Nat) (exponent : Int) : Double :=
  if digits = 0 then signedZero negative
  else
    let size := exponent + (Nat.toDigits 10 digits).length
    if (decimalBound : Int) < size then .infinite negative
    else if size < -(decimalBound : Int) then signedZero negative
    else if 0 ≤ exponent then ofRatio negative (digits * Nat.pow 10 exponent.toNat) 1
    else ofRatio negative digits (Nat.pow 10 (-exponent).toNat)

def isNegative : Double → Bool
  | .nan => false
  | .infinite negative => negative
  | .finite negative _ _ _ => negative

/-- The magnitude of a finite double in units of `2^-1074`. -/
def magnitude? : Double → Option Nat
  | .finite _ significand exponent _ => some (significand * Nat.pow 2 exponent)
  | _ => none

def truncate? : Double → Option Int
  | .finite negative significand exponent _ =>
    let whole : Int := (significand * Nat.pow 2 exponent / unitsPerOne : Nat)
    some (if negative then -whole else whole)
  | _ => none

def bounded? (x : Double) : Option Double :=
  match x with
  | .infinite _ => none
  | other => some other

/-- The double nearest to an integer; `none` when the integer is beyond every finite double. -/
def ofInt? (n : Int) : Option Double := (ofRatio (decide (n < 0)) n.natAbs 1).bounded?

def toInt? (x : Double) : Option Int :=
  match x with
  | .finite negative significand exponent _ =>
    if significand * Nat.pow 2 exponent % unitsPerOne = 0 then
      truncate? (.finite negative significand exponent ‹_›)
    else none
  | _ => none

def scale (x : Double) (factor : Nat) : Double :=
  match x with
  | .finite negative significand exponent _ =>
    ofRatio negative (significand * Nat.pow 2 exponent * factor) unitsPerOne
  | other => other

def isZero : Double → Bool
  | .finite _ significand _ _ => significand == 0
  | _ => false

end Double
end StagedTables
