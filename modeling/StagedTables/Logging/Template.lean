import StagedTables.Number.Shortest
import StagedTables.Value.Conversion

/-! # Message templates

A template is text in which each directive, from a percent sign to a letter, is replaced by an
argument.  A directive may name its argument, when the arguments are a record, and give flags, a
least width and a precision.  Every argument of a list must be used. -/
set_option autoImplicit false
namespace StagedTables.Logging

inductive Measure where
  | width
  | precision
  deriving DecidableEq, Repr

/-- `2^63` for a width and `2^31` for a precision: counts from here on cannot be held. -/
def Measure.limit : Measure → Nat
  | width => 9223372036854775808
  | precision => 2147483648

inductive TemplateFault where
  | tooFewArguments
  | tooManyArguments
  | incomplete
  | incompleteName
  | recordExpected
  | countExpected
  | countWritten (measure : Measure)
  | countGiven (measure : Measure)
  | characterExpected
  | characterRange
  | integerExpected (directive : Char) (kind : String)
  | numberExpected (directive : Char) (kind : String)
  | realExpected (kind : String)
  | unknownDirective (directive : Char) (index : Nat)
  | conversion (fault : ConversionFault)
  | missingName (name : String)
  deriving DecidableEq, Repr

/-- The arguments not used yet: those of a list; or a record whose fields may be named, and the
value at hand, which is the record itself until a name picks another. -/
inductive Arguments where
  | list (values : List Value)
  | record (fields : Fields Value) (atHand : Option Value)
  deriving Repr

namespace Arguments

/-- A nonempty record that is the only argument gives its fields as arguments. -/
def ofList : List Value → Arguments
  | [.record (field :: fields)] => .record (field :: fields) (some (.record (field :: fields)))
  | values => .list values

def next : Arguments → Except TemplateFault (Value × Arguments)
  | .list [] => .error .tooFewArguments
  | .list (value :: values) => .ok (value, .list values)
  | .record fields (some value) => .ok (value, .record fields none)
  | .record _ none => .error .tooFewArguments

end Arguments

structure Flags where
  left : Bool
  sign : Bool
  blank : Bool
  alternate : Bool
  zero : Bool
  deriving DecidableEq, Repr

structure Directive where
  flags : Flags
  width : Nat
  precision : Option Nat
  deriving Repr

/-- Pads a text to the width, a sign or mark of `lead` characters staying in front of zeros. -/
def Directive.pad (d : Directive) (zeroable : Bool) (lead : Nat) (cs : List Char) : List Char :=
  let missing := d.width - cs.length
  if d.flags.left then cs ++ List.replicate missing ' '
  else if d.flags.zero && zeroable then cs.take lead ++ List.replicate missing '0' ++ cs.drop lead
  else List.replicate missing ' ' ++ cs

def Directive.signChars (d : Directive) (negative : Bool) : List Char :=
  if negative then ['-'] else if d.flags.sign then ['+'] else if d.flags.blank then [' '] else []

def Directive.ofText (d : Directive) (s : String) : List Char :=
  d.pad false 0 (match d.precision with
    | some precision => s.toList.take precision
    | none => s.toList)

def Directive.ofDigits (d : Directive) (negative : Bool) (mark digits : List Char) : List Char :=
  let lead := d.signChars negative ++ if d.flags.alternate then mark else []
  let least := d.precision.getD 0
  d.pad true lead.length (lead ++ List.replicate (least - digits.length) '0' ++ digits)

/-- No double has more places after its point, whichever way it is written. -/
def maxPlaces : Nat := 1100

def fixedDigits (units places : Nat) : List Char :=
  let kept := min places maxPlaces
  let scaled := Double.roundQuotient (units * Nat.pow 10 kept) Double.unitsPerOne
  let digits := Nat.toDigits 10 scaled
  List.replicate (kept + 1 - digits.length) '0' ++ digits ++ List.replicate (places - kept) '0'

def withPoint (places : Nat) (keepPoint : Bool) (digits : List Char) : List Char :=
  let whole := digits.take (digits.length - places)
  if places = 0 then whole ++ if keepPoint then ['.'] else []
  else whole ++ '.' :: digits.drop (digits.length - places)

/-- The significand of a double rounded to `places + 1` digits, or to as many as a double can have,
and its decimal exponent. -/
def scientificParts (units places : Nat) : Nat × Int :=
  if units = 0 then (0, 0)
  else
    let places := min places maxPlaces
    let exponent := Double.decimalSize units Double.unitsPerOne - 1
    let shift := (places : Int) - exponent
    let rounded :=
      if 0 ≤ shift then Double.roundQuotient (units * Nat.pow 10 shift.toNat) Double.unitsPerOne
      else Double.roundQuotient units (Double.unitsPerOne * Nat.pow 10 (-shift).toNat)
    if rounded = Nat.pow 10 (places + 1) then (Nat.pow 10 places, exponent + 1)
    else (rounded, exponent)

def scientificChars (keepPoint : Bool) (places : Nat) (significand : Nat) (exponent : Int) :
    List Char :=
  let power := Nat.toDigits 10 exponent.natAbs
  let digits := Nat.toDigits 10 significand
  let kept := min places maxPlaces
  withPoint places keepPoint (List.replicate (kept + 1 - digits.length) '0' ++ digits ++
      List.replicate (places - kept) '0') ++
    'e' :: (if exponent < 0 then '-' else '+') :: (List.replicate (2 - power.length) '0' ++ power)

/-- Drops zeros at the end of a fraction, and the point when nothing follows it. -/
def trimFraction (cs : List Char) : List Char :=
  let mantissa := cs.takeWhile (· != 'e')
  if '.' ∈ mantissa then
    let trimmed := (mantissa.reverse.dropWhile (· == '0')).dropWhile (· == '.')
    trimmed.reverse ++ cs.dropWhile (· != 'e')
  else cs

def generalChars (alternate : Bool) (precision units : Nat) : List Char :=
  let precision := max (if alternate then precision else min precision maxPlaces) 1
  let (significand, exponent) := scientificParts units (precision - 1)
  let chars :=
    if -4 ≤ exponent ∧ exponent < precision then
      let places := ((precision : Int) - 1 - exponent).toNat
      withPoint places alternate (fixedDigits units places)
    else scientificChars alternate (precision - 1) significand exponent
  if alternate then chars else trimFraction chars

def Directive.ofDouble (d : Directive) (style : Char) (x : Double) : List Char :=
  let precision := d.precision.getD 6
  let sign := d.signChars x.isNegative
  let body := match x with
    | .nan => "nan".toList
    | .infinite _ => "inf".toList
    | .finite _ significand exponent _ =>
      let units := significand * Nat.pow 2 exponent
      if style = 'f' then withPoint precision d.flags.alternate (fixedDigits units precision)
      else if style = 'e' then
        let (digits, power) := scientificParts units precision
        scientificChars d.flags.alternate precision digits power
      else generalChars d.flags.alternate precision units
  d.pad true sign.length (sign ++ body)

def escapeBeyondAscii (cs : List Char) : List Char :=
  cs.flatMap fun c => if c.toNat < 128 then [c] else Text.codeEscape (Text.codeOf c)

/-- An object's answer; that it is of the wrong kind is said in the directive's own words. -/
def ofAnswer {α : Type} (answer : Answer α) (expected : TemplateFault) : Except TemplateFault α :=
  match answer with
  | .gives value => .ok value
  | .raises error =>
    .error (if error.kind = .wrongKind then expected else .conversion (.value (.foreign error)))

def wholeArgument (letter : Char) (value : Value) : Except TemplateFault Int :=
  match value with
  | .boolean _ | .integer _ | .double _ | .decimal _ | .uuid _ =>
    value.asInteger.mapError .conversion
  | .object o => ofAnswer o.integer (.numberExpected letter o.className)
  | other => .error (.numberExpected letter other.kindName)

def indexArgument (letter : Char) (value : Value) : Except TemplateFault Int :=
  match value with
  | .boolean b => .ok (if b then 1 else 0)
  | .integer n => .ok n
  | .object o => ofAnswer o.index (.integerExpected letter o.className)
  | other => .error (.integerExpected letter other.kindName)

def realArgument (value : Value) : Except TemplateFault Double :=
  match value with
  | .boolean _ | .integer _ | .double _ | .decimal _ => value.asDouble.mapError .conversion
  | .object o => ofAnswer o.double (.realExpected o.className)
  | other => .error (.realExpected other.kindName)

def characterOf (n : Int) : Except TemplateFault String :=
  if 0 ≤ n ∧ n < 0x110000 then .ok (String.ofList [Text.ofUnit n.toNat])
  else .error .characterRange

def characterArgument (value : Value) : Except TemplateFault String :=
  match value with
  | .text s => if s.length = 1 then .ok s else .error .characterExpected
  | .boolean b => .ok (String.ofList [Char.ofNat (if b then 1 else 0)])
  | .integer n => characterOf n
  | .object o => do characterOf (← ofAnswer o.index .characterExpected)
  | _ => .error .characterExpected

def textOf (text : Except ValueFault String) : Except TemplateFault String :=
  text.mapError fun fault => .conversion (.value fault)

def maxIntegerPrecision : Nat := 2147483644

/-- What has this many digits does not fit into memory. -/
def digitLimit : Nat := Nat.pow 2 30

/-- A precision that the digits of a number can be filled up to. -/
def Directive.checkDigits (d : Directive) : Except TemplateFault Unit :=
  if digitLimit ≤ d.precision.getD 0 then .error (.conversion .outOfMemory) else .ok ()

def Directive.checkIntegerDigits (d : Directive) : Except TemplateFault Unit :=
  if maxIntegerPrecision < d.precision.getD 0 then .error (.conversion (.range .precision))
  else d.checkDigits

/-- The text of an argument by a directive's letter; `index` is where the letter stands. -/
def Directive.render (d : Directive) (letter : Char) (index : Nat) (value : Value) :
    Except TemplateFault (List Char) := do
  if letter = 's' then return d.ofText (← textOf value.plainText)
  else if letter = 'r' then return d.ofText (← textOf value.quoted)
  else if letter = 'a' then
    let shown ← textOf value.quoted
    return d.ofText (String.ofList (escapeBeyondAscii shown.toList))
  else if letter = 'd' ∨ letter = 'i' ∨ letter = 'u' then
    let n ← wholeArgument letter value
    d.checkIntegerDigits
    let digits ← textOf (Value.integerText n.natAbs)
    return d.ofDigits (n < 0) [] digits.toList
  else if letter = 'x' then
    let n ← indexArgument letter value
    d.checkIntegerDigits
    return d.ofDigits (n < 0) ['0', 'x'] (Nat.toDigits 16 n.natAbs)
  else if letter = 'X' then
    let n ← indexArgument letter value
    d.checkIntegerDigits
    return d.ofDigits (n < 0) ['0', 'X'] ((Nat.toDigits 16 n.natAbs).map Text.asciiUpper)
  else if letter = 'o' then
    let n ← indexArgument letter value
    d.checkIntegerDigits
    return d.ofDigits (n < 0) ['0', 'o'] (Nat.toDigits 8 n.natAbs)
  else if letter ∈ ['e', 'f', 'E', 'F'] then
    let x ← realArgument value
    d.checkDigits
    let chars := d.ofDouble (Text.asciiLower letter) x
    return if letter = 'e' ∨ letter = 'f' then chars else chars.map Text.asciiUpper
  else if letter = 'g' then return d.ofDouble letter (← realArgument value)
  else if letter = 'G' then
    return (d.ofDouble 'g' (← realArgument value)).map Text.asciiUpper
  else if letter = 'c' then
    let s ← characterArgument value
    return (⟨d.flags, d.width, none⟩ : Directive).ofText s
  else .error (.unknownDirective letter index)

def isFlag (c : Char) : Bool := c ∈ ['-', '+', ' ', '#', '0']

def Flags.ofChars (cs : List Char) : Flags :=
  ⟨'-' ∈ cs, '+' ∈ cs, ' ' ∈ cs, '#' ∈ cs, '0' ∈ cs⟩

/-- The name of an argument after its opening parenthesis, which may hold others, and the length
of its text with the closing one. -/
def nameSpan? : (depth : Nat) → List Char → Option (List Char × Nat)
  | _, [] => none
  | 0, ')' :: _ => some ([], 1)
  | depth + 1, ')' :: rest =>
    (nameSpan? depth rest).map fun (name, length) => (')' :: name, length + 1)
  | depth, '(' :: rest =>
    (nameSpan? (depth + 1) rest).map fun (name, length) => ('(' :: name, length + 1)
  | depth, c :: rest =>
    (nameSpan? depth rest).map fun (name, length) => (c :: name, length + 1)

/-- A width or precision, which is digits or a star that takes it from the arguments; the length
of its text, and the arguments after it. -/
def countSpan (measure : Measure) (arguments : Arguments) (cs : List Char) :
    Except TemplateFault (Int × Nat × Arguments) :=
  match cs with
  | '*' :: _ => do
    let (value, arguments) ← arguments.next
    match value with
    | .integer n =>
      if -(measure.limit : Int) ≤ n ∧ n < measure.limit then return (n, 1, arguments)
      else .error (.countGiven measure)
    | .boolean b => return (if b then 1 else 0, 1, arguments)
    | _ => .error .countExpected
  | cs =>
    let digits := cs.takeWhile Text.isAsciiDigit
    let count := Nat.ofDigitChars 10 digits 0
    if count < measure.limit then .ok (count, digits.length, arguments)
    else .error (.countWritten measure)

def nameArgument (arguments : Arguments) (cs : List Char) :
    Except TemplateFault (Nat × Arguments) :=
  match cs with
  | '(' :: rest => match arguments with
    | .list _ => .error .recordExpected
    | .record fields _ => match nameSpan? 0 rest with
      | none => .error .incompleteName
      | some (name, length) => match Fields.get? fields (String.ofList name) with
        | some value => .ok (length + 1, .record fields (some value))
        | none => .error (.missingName (String.ofList name))
  | _ => .ok (0, arguments)

def directive (arguments : Arguments) (index : Nat) (cs : List Char) :
    Except TemplateFault (List Char × Nat × Arguments) := do
  let (nameLength, arguments) ← nameArgument arguments cs
  let afterName := cs.drop nameLength
  let flagChars := afterName.takeWhile isFlag
  let flags := Flags.ofChars flagChars
  let afterFlags := afterName.drop flagChars.length
  let (width, widthLength, arguments) ← countSpan .width arguments afterFlags
  let afterWidth := afterFlags.drop widthLength
  let (precision, precisionLength, arguments) ← match afterWidth with
    | '.' :: rest => do
      let (precision, length, arguments) ← countSpan .precision arguments rest
      .ok (some precision.toNat, length + 1, arguments)
    | _ => .ok (none, 0, arguments)
  let afterPrecision := afterWidth.drop precisionLength
  let modifier := if (afterPrecision.head?.any fun c => c ∈ ['h', 'l', 'L']) then 1 else 0
  let lead := nameLength + flagChars.length + widthLength + precisionLength + modifier
  match afterPrecision.drop modifier with
  | [] => .error .incomplete
  | letter :: _ =>
    let d : Directive := ⟨{ flags with left := flags.left || width < 0 }, width.natAbs, precision⟩
    let (value, arguments) ← arguments.next
    let isTooWide : Bool := Value.memoryLimit ≤ d.width
    let chars ← (if isTooWide then { d with width := 0 } else d).render letter (index + lead) value
    if isTooWide then .error (.conversion .outOfMemory) else return (chars, lead + 1, arguments)

def fillFrom (arguments : Arguments) (index : Nat) (cs : List Char) :
    Except TemplateFault (List Char) :=
  match cs with
  | [] => match arguments with
    | .list (_ :: _) => .error .tooManyArguments
    | _ => .ok []
  | c :: rest =>
    if c = '%' then
      if rest.head? = some '%' then (fillFrom arguments (index + 2) rest.tail).map ('%' :: ·)
      else match directive arguments (index + 1) rest with
        | .error fault => .error fault
        | .ok (chars, length, arguments) =>
          (fillFrom arguments (index + 1 + length) (rest.drop length)).map (chars ++ ·)
    else (fillFrom arguments (index + 1) rest).map (c :: ·)
termination_by cs.length
decreasing_by all_goals simp +arith [List.length_drop]

def fill (template : String) (arguments : List Value) : Except TemplateFault String :=
  (fillFrom (.ofList arguments) 0 template.toList).map String.ofList

end StagedTables.Logging
