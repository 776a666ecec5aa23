import StagedTables.Number.Double
import StagedTables.Text.Blank
import StagedTables.Text.LetterCase
import StagedTables.Text.Numeric

/-! # Numerals as typed

Reading integers and doubles from text.  Blanks may surround a numeral, digits of every script
count by their value, and single underscores may stand between digits.  An integer is written in
two, eight, ten or sixteen; one in ten has at most `integerDigitLimit` digits. -/
set_option autoImplicit false
namespace StagedTables.Numeral

open StagedTables.Text

/-- The largest number of digits of an integer read or written in ten. -/
def integerDigitLimit : Nat := 4300

inductive Fault where
  | malformed
  | tooLong (digits : Nat)
  deriving DecidableEq, Repr

inductive Base where
  | two
  | eight
  | ten
  | sixteen
  deriving DecidableEq, Repr

def Base.toNat : Base → Nat
  | .two => 2
  | .eight => 8
  | .ten => 10
  | .sixteen => 16

/-- The value of an ASCII letter or digit as a digit, ten for `a` onwards. -/
def digitValue? (c : Char) : Option Nat :=
  if isAsciiDigit c then some (c.toNat - '0'.toNat)
  else if isAsciiLetter c then some ((asciiLower c).toNat - 'a'.toNat + 10)
  else none

def Base.digit? (base : Base) (c : Char) : Option Nat :=
  (digitValue? c).filter (· < base.toNat)

/-- ASCII characters stay; beyond ASCII a decimal digit becomes its ASCII digit, a blank a space,
and any other character a mark that no numeral contains. -/
def plainChar (c : Char) : Char :=
  if c.toNat < 128 then c
  else if isBlank c then ' '
  else match decimalValue? c with
    | some value => Char.ofNat ('0'.toNat + value)
    | none => '?'

def isPlainBlank (c : Char) : Bool :=
  c == ' ' || (9 ≤ c.toNat && c.toNat ≤ 13)

def normalize (cs : List Char) : List Char :=
  trimBy isPlainBlank (cs.map plainChar)

/-- Splits an optional sign from the front; the flag says whether it is a minus. -/
def splitSign : List Char → Bool × List Char
  | '-' :: rest => (true, rest)
  | '+' :: rest => (false, rest)
  | cs => (false, cs)

def SingleUnderscores (run : List Char) : Prop :=
  run.head? ≠ some '_' ∧ run.getLast? ≠ some '_' ∧
    ∀ pair ∈ run.zip run.tail, pair ≠ ('_', '_')

instance (run : List Char) : Decidable (SingleUnderscores run) :=
  inferInstanceAs (Decidable (_ ∧ _ ∧ _))

def ofDigits (base : Nat) (digits : List Nat) : Nat :=
  digits.foldl (fun value digit => value * base + digit) 0

def Base.mark? : Base → Option Char
  | .two => some 'b'
  | .eight => some 'o'
  | .ten => none
  | .sixteen => some 'x'

/-- Drops the mark of a base, as in `0x`, and one underscore after it. -/
def dropBaseMark (base : Base) (cs : List Char) : List Char :=
  match cs with
  | '0' :: mark :: rest =>
    if base.mark? = some (asciiLower mark) then
      match rest with
      | '_' :: digits => digits
      | digits => digits
    else cs
  | cs => cs

def natural? (base : Base) (cs : List Char) : Except Fault Nat :=
  let inRun := fun c => c == '_' || (base.digit? c).isSome
  let run := cs.takeWhile inRun
  let digits := run.filterMap base.digit?
  if run = [] ∨ ¬ SingleUnderscores run then .error .malformed
  else if base = .ten ∧ integerDigitLimit < digits.length then .error (.tooLong digits.length)
  else if cs.dropWhile inRun ≠ [] then .error .malformed
  else .ok (ofDigits base.toNat digits)

def integer? (base : Base) (cs : List Char) : Except Fault Int :=
  let (negative, unsigned) := splitSign (normalize cs)
  (natural? base (dropBaseMark base unsigned)).map fun n => if negative then -(n : Int) else n

/-- Removes underscores that stand between two ASCII digits; any other underscore spoils the
numeral.  `previous` is the character before. -/
def dropUnderscores? : (previous : Option Char) → List Char → Option (List Char)
  | _, [] => some []
  | previous, '_' :: next :: rest =>
    if previous.any isAsciiDigit && isAsciiDigit next then
      (dropUnderscores? (some next) rest).map (next :: ·)
    else none
  | _, c :: rest => if c == '_' then none else (dropUnderscores? (some c) rest).map (c :: ·)

def exponent? : List Char → Option Int
  | [] => some 0
  | mark :: rest =>
    if mark == 'e' || mark == 'E' then
      let (negative, digits) := splitSign rest
      if digits.isEmpty || !digits.all isAsciiDigit then none
      else
        let n := Nat.ofDigitChars 10 digits 0
        some (if negative then -(n : Int) else n)
    else none

def decimal? (negative : Bool) (cs : List Char) : Option Double :=
  let whole := cs.takeWhile isAsciiDigit
  let afterWhole := cs.dropWhile isAsciiDigit
  let (fraction, afterFraction) := match afterWhole with
    | '.' :: rest => (rest.takeWhile isAsciiDigit, rest.dropWhile isAsciiDigit)
    | rest => ([], rest)
  if whole.isEmpty && fraction.isEmpty then none
  else (exponent? afterFraction).map fun exponent =>
    Double.ofDecimal negative (Nat.ofDigitChars 10 (whole ++ fraction) 0)
      (exponent - fraction.length)

/-- A double with nothing around it and no underscores: a decimal, or a word for infinity or
not-a-number in any letter case. -/
def bareDouble? (cs : List Char) : Option Double :=
  let (negative, unsigned) := splitSign cs
  let word := String.ofList (unsigned.map asciiLower)
  if word = "inf" ∨ word = "infinity" then some (.infinite negative)
  else if word = "nan" then some .nan
  else decimal? negative unsigned

def double? (cs : List Char) : Option Double :=
  (dropUnderscores? none (normalize cs)).bind bareDouble?

end StagedTables.Numeral
