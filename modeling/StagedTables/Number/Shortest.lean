import StagedTables.Number.Double

/-! # Shortest decimal text of a double

A finite double is written with the fewest significant digits that read back as the same double;
of two such numerals of one length the nearer is taken, and of two equally near the even one.  The
choice asks the reader itself, so that what is written reads back by construction. -/
set_option autoImplicit false
namespace StagedTables.Double

/-- The number of decimal digits before the point of `numerator / denominator`, or minus the
number of zeros that follow the point when the ratio is below one. -/
def decimalSize (numerator denominator : Nat) : Int :=
  if denominator ≤ numerator then (Nat.toDigits 10 (numerator / denominator)).length
  else 1 - ((Nat.toDigits 10 ((denominator - 1) / numerator)).length : Int)

structure ScaledDigits where
  digits : Nat
  exponent : Int
  deriving DecidableEq, Repr

def ScaledDigits.ReadsBack (numeral : ScaledDigits) (x : Double) : Prop :=
  ofDecimal x.isNegative numeral.digits numeral.exponent = x

instance (numeral : ScaledDigits) (x : Double) : Decidable (numeral.ReadsBack x) :=
  inferInstanceAs (Decidable (_ = _))

/-- The numeral of `count` digits that reads back as `x`, where `x` has the given number of units
and `size` digits before the point: one of the two neighbours of `x` on the grid of such
numerals. -/
def onGrid? (x : Double) (units : Nat) (size : Int) (count : Nat) : Option ScaledDigits :=
  let exponent := size - count
  let numerator := if exponent ≤ 0 then units * Nat.pow 10 (-exponent).toNat else units
  let denominator := if exponent ≤ 0 then unitsPerOne else unitsPerOne * Nat.pow 10 exponent.toNat
  let below : ScaledDigits := ⟨numerator / denominator, exponent⟩
  let above : ScaledDigits := ⟨numerator / denominator + 1, exponent⟩
  let nearest : ScaledDigits := ⟨roundQuotient numerator denominator, exponent⟩
  if nearest.ReadsBack x then some nearest
  else if below.ReadsBack x then some below
  else if above.ReadsBack x then some above
  else none

/-- Seventeen digits always suffice to tell two doubles apart. -/
def digitLimit : Nat := 17

/-- The shortest numeral of a finite double with the given number of units; beyond
`digitLimit` digits the exact value serves. -/
def shortest (x : Double) (units : Nat) : ScaledDigits :=
  if units = 0 then ⟨0, 0⟩
  else
    let size := decimalSize units unitsPerOne
    ((List.range digitLimit).findSome? fun k => onGrid? x units size (k + 1)).getD
      ⟨units * Nat.pow 5 1074, -1074⟩

structure Layout where
  /-- The largest number of digits before the point that is written positionally. -/
  positionalLimit : Int
  /-- The largest number of zeros after the point that is written positionally. -/
  leadingZeroLimit : Int
  exponentWidth : Nat
  infinity : String
  notANumber : String
  deriving Repr

/-- Plain text: positional from `0.0001` to below `10^16`, exponents of two digits or more. -/
def plainLayout : Layout := ⟨16, 3, 2, "inf", "nan"⟩

def zeros (count : Nat) : List Char := List.replicate count '0'

def trimmedDigits (digits : Nat) : List Char :=
  match ((Nat.toDigits 10 digits).reverse.dropWhile (· == '0')).reverse with
  | [] => ['0']
  | trimmed => trimmed

def positional (digits : List Char) (point : Int) : List Char :=
  if point ≤ 0 then '0' :: '.' :: (zeros (-point).toNat ++ digits)
  else if digits.length ≤ point.toNat then
    digits ++ zeros (point.toNat - digits.length) ++ ['.', '0']
  else digits.take point.toNat ++ '.' :: digits.drop point.toNat

def scientific (layout : Layout) (digits : List Char) (exponent : Int) : List Char :=
  let mantissa := match digits with
    | first :: second :: rest => first :: '.' :: second :: rest
    | short => short
  let power := Nat.toDigits 10 exponent.natAbs
  mantissa ++ 'e' :: (if exponent < 0 then '-' else '+') ::
    (zeros (layout.exponentWidth - power.length) ++ power)

def renderDigits (layout : Layout) (numeral : ScaledDigits) : List Char :=
  let digits := trimmedDigits numeral.digits
  let point :=
    if numeral.digits = 0 then 1 else numeral.exponent + (Nat.toDigits 10 numeral.digits).length
  if -layout.leadingZeroLimit ≤ point ∧ point ≤ layout.positionalLimit then
    positional digits point
  else scientific layout digits (point - 1)

def renderChars (layout : Layout) (x : Double) : List Char :=
  match x with
  | .nan => layout.notANumber.toList
  | .infinite negative => (if negative then ['-'] else []) ++ layout.infinity.toList
  | .finite negative significand exponent _ =>
    (if negative then ['-'] else []) ++
      renderDigits layout (shortest x (significand * Nat.pow 2 exponent))

/-- The plain text of a double: the shortest numeral that reads back, `inf`, `-inf` or `nan`. -/
def text (x : Double) : String :=
  String.ofList (renderChars plainLayout x)

end StagedTables.Double
