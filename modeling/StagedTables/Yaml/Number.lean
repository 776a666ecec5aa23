import StagedTables.Number.Arithmetic
import StagedTables.Yaml.Fault

/-! # Numbers of YAML

The forms of version 1.1, and the values of such numbers.  Octal numbers start with a zero, parts
between colons count in sixties, underscores are passed over, and an exponent has a sign and comes
after a point. -/
set_option autoImplicit false
namespace StagedTables.Yaml

open Text

def colonParts (cs : List Char) : List (List Char) :=
  cs.foldr (fun c parts =>
    match c, parts with
    | ':', _ => [] :: parts
    | _, part :: rest => (c :: part) :: rest
    | _, [] => [[c]]) [[]]

def isDigitOrUnderscore (c : Char) : Bool := isAsciiDigit c || c == '_'

def isRun (base : Numeral.Base) (cs : List Char) : Bool :=
  cs.all fun c => c == '_' || (base.digit? c).isSome

/-- One digit, or two of which the first is below six. -/
def isSixtieth : List Char → Bool
  | [ones] => isAsciiDigit ones
  | [tens, ones] => isAsciiDigit tens && tens < '6' && isAsciiDigit ones
  | _ => false

def isIntegerForm (cs : List Char) : Bool :=
  match (Numeral.splitSign cs).2 with
  | '0' :: 'b' :: digits => !digits.isEmpty && isRun .two digits
  | '0' :: 'x' :: digits => !digits.isEmpty && isRun .sixteen digits
  | '0' :: digits => isRun .eight digits
  | unsigned => match colonParts unsigned with
    | [] => false
    | whole :: sixtieths =>
      whole.head?.any isAsciiDigit && isRun .ten whole && sixtieths.all isSixtieth

def isExponentForm (cs : List Char) : Bool :=
  match cs with
  | [] => true
  | mark :: sign :: digits =>
    (mark == 'e' || mark == 'E') && (sign == '+' || sign == '-') &&
      !digits.isEmpty && digits.all isAsciiDigit
  | _ => false

/-- Whether a text is a number with a point.  Only a number without a sign may start with it. -/
def isPointedForm (hasSign : Bool) (cs : List Char) : Bool :=
  let whole := cs.takeWhile fun c => isDigitOrUnderscore c || c == ':'
  match cs.drop whole.length with
  | '.' :: rest =>
    let fraction := rest.takeWhile isDigitOrUnderscore
    let exponent := rest.drop fraction.length
    match colonParts whole with
    | [[]] => !hasSign && fraction.head?.any isAsciiDigit && isExponentForm exponent
    | [digits] => digits.head?.any isAsciiDigit && isExponentForm exponent
    | digits :: sixtieths =>
      digits.head?.any isAsciiDigit && sixtieths.all isSixtieth && exponent.isEmpty
    | [] => false
  | _ => false

def isDoubleForm (cs : List Char) : Bool :=
  let unsigned := (Numeral.splitSign cs).2
  let hasSign := unsigned.length != cs.length
  decide (String.ofList unsigned ∈ [".inf", ".Inf", ".INF"]) ||
    decide (String.ofList cs ∈ [".nan", ".NaN", ".NAN"]) || isPointedForm hasSign unsigned

def integerIn (base : Numeral.Base) (cs : List Char) : Except Fault Int :=
  match Numeral.integer? base cs with
  | .ok n => .ok n
  | .error fault =>
    .error (.conversion (.value (fault.toValueFault base (quoted (String.ofList cs)))))

def unsignedInteger (cs : List Char) : Except Fault Int :=
  match cs with
  | [] => .error .noDigits
  | ['0'] => .ok 0
  | '0' :: 'b' :: digits => integerIn .two digits
  | '0' :: 'x' :: digits => integerIn .sixteen digits
  | '0' :: _ => integerIn .eight cs
  | _ => do
    let parts ← (colonParts cs).mapM (integerIn .ten)
    return parts.foldl (fun value part => value * 60 + part) 0

def integerOf (s : String) : Except Fault Int :=
  match s.toList.filter (· != '_') with
  | [] => .error .noDigits
  | cs =>
    let (negative, unsigned) := Numeral.splitSign cs
    (unsignedInteger unsigned).map fun n => if negative then -n else n

def doubleOfPart (cs : List Char) : Except Fault Double :=
  (Value.doubleOfText (String.ofList cs)).mapError .conversion

/-- The sum of parts, the last first, each of them worth sixty times the one before. -/
def sumOfSixtieths (worth : Nat) (sum : Double) : List Double → Except Fault Double
  | [] => .ok sum
  | part :: rest => do
    let factor ← (Value.doubleOfInteger worth).mapError .conversion
    sumOfSixtieths (worth * 60) (sum.add (part.mul factor)) rest

def unsignedDouble (cs : List Char) : Except Fault Double :=
  if cs = ".inf".toList then .ok (.infinite false)
  else if cs = ".nan".toList then .ok .nan
  else match colonParts cs with
    | [_] => doubleOfPart cs
    | parts => do sumOfSixtieths 1 .positiveZero (← parts.mapM doubleOfPart).reverse

def doubleOf (s : String) : Except Fault Double :=
  match (lower (String.ofList (s.toList.filter (· != '_')))).toList with
  | [] => .error .noDigits
  | cs =>
    let (negative, unsigned) := Numeral.splitSign cs
    (unsignedDouble unsigned).map fun x => if negative then x.negate else x

end StagedTables.Yaml
