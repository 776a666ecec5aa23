import StagedTables.Number.Numeral
import StagedTables.Number.Shortest

/-! # Decimal numbers

Decimal floating-point numbers that keep the coefficient and exponent they were written with, so
that `1.50` stays apart from `1.5` in text though not in value. -/
set_option autoImplicit false
namespace StagedTables

inductive Decimal where
  | finite (negative : Bool) (coefficient : Nat) (exponent : Int)
  | infinite (negative : Bool)
  | notANumber (negative signaling : Bool) (payload : Nat)
  deriving DecidableEq, Repr

namespace Decimal

inductive Fault where
  | malformed
  | outOfRange
  | signaling
  deriving DecidableEq, Repr

def Fault.message : Fault → String
  | malformed => "[<class 'decimal.ConversionSyntax'>]"
  | outOfRange => "[<class 'decimal.InvalidOperation'>]"
  | signaling => "[<class 'decimal.InvalidOperation'>]"

/-- The greatest exponent of a number written with one digit before the point. -/
def maxExponent : Int := 999999999999999999

/-- The least exponent of a last digit. -/
def minExponent : Int := -1999999999999999997

/-- The exponent part of a text, with an explicit sign; nothing for zero. -/
def exponentMark (exponent : Int) : List Char :=
  if exponent = 0 then []
  else 'E' :: (if exponent < 0 then '-' else '+') :: Nat.toDigits 10 exponent.natAbs

/-- The digits of a coefficient with its exponent: without a mark while the exponent is not
positive and at most five zeros follow the point. -/
def layOut (coefficient : Nat) (exponent : Int) : List Char :=
  let digits := Nat.toDigits 10 coefficient
  let size := exponent + digits.length
  let point : Int := if exponent ≤ 0 ∧ -6 < size then size else 1
  let body :=
    if point ≤ 0 then '0' :: '.' :: (List.replicate (-point).toNat '0' ++ digits)
    else if digits.length ≤ point.toNat then
      digits ++ List.replicate (point.toNat - digits.length) '0'
    else digits.take point.toNat ++ '.' :: digits.drop point.toNat
  body ++ exponentMark (size - point)

def signMark (negative : Bool) : List Char := if negative then ['-'] else []

def chars : Decimal → List Char
  | .finite negative coefficient exponent => signMark negative ++ layOut coefficient exponent
  | .infinite negative => signMark negative ++ "Infinity".toList
  | .notANumber negative signaling payload =>
    signMark negative ++ (if signaling then ['s'] else []) ++ "NaN".toList ++
      (if payload = 0 then [] else Nat.toDigits 10 payload)

def text (d : Decimal) : String := String.ofList d.chars

def readFinite? (negative : Bool) (cs : List Char) : Option Decimal :=
  let whole := cs.takeWhile Text.isAsciiDigit
  let afterWhole := cs.dropWhile Text.isAsciiDigit
  let (fraction, afterFraction) := match afterWhole with
    | '.' :: rest => (rest.takeWhile Text.isAsciiDigit, rest.dropWhile Text.isAsciiDigit)
    | rest => ([], rest)
  if whole.isEmpty && fraction.isEmpty then none
  else (Numeral.exponent? afterFraction).map fun exponent =>
    .finite negative (Nat.ofDigitChars 10 (whole ++ fraction) 0) (exponent - fraction.length)

/-- The number of digits of a coefficient, which is one for zero. -/
def digitCount (coefficient : Nat) : Nat := (Nat.toDigits 10 coefficient).length

def isInRange : Decimal → Bool
  | .finite _ coefficient exponent =>
    minExponent ≤ exponent && exponent + digitCount coefficient - 1 ≤ maxExponent
  | _ => true

def readNotANumber? (negative signaling : Bool) (payload : List Char) : Option Decimal :=
  if payload.all Text.isAsciiDigit then
    some (.notANumber negative signaling (Nat.ofDigitChars 10 payload 0))
  else none

/-- The decimal of some characters, whatever its exponents. -/
def ofChars? (cs : List Char) : Option Decimal :=
  let plain := (Numeral.normalize cs).filter (· != '_')
  let (negative, unsigned) := Numeral.splitSign plain
  let word := unsigned.map Text.asciiLower
  if word = "inf".toList ∨ word = "infinity".toList then some (.infinite negative)
  else if word.take 3 = "nan".toList then readNotANumber? negative false (word.drop 3)
  else if word.take 4 = "snan".toList then readNotANumber? negative true (word.drop 4)
  else readFinite? negative unsigned

def read (s : String) : Except Fault Decimal :=
  match ofChars? s.toList with
  | none => .error .malformed
  | some d => if d.isInRange then .ok d else .error .outOfRange

/-- The integer nearest to zero of the two that enclose a finite decimal. -/
def truncate (negative : Bool) (coefficient : Nat) (exponent : Int) : Int :=
  let whole : Nat :=
    if coefficient = 0 ∨ exponent + digitCount coefficient ≤ 0 then 0
    else if 0 ≤ exponent then coefficient * Nat.pow 10 exponent.toNat
    else coefficient / Nat.pow 10 (-exponent).toNat
  if negative then -(whole : Int) else whole

end Decimal
end StagedTables
