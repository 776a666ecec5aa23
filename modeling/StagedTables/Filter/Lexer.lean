import StagedTables.Filter.SyntaxFault
import StagedTables.Text.Alphabetic
import StagedTables.Text.Doubled
import StagedTables.Text.LetterCase
import StagedTables.Text.Numeric

/-! # Reading tokens

`scan` reads the lexeme at the front of a text and gives its length; `tokens` skips blanks and
scans until the text ends.  Words are read whole before they are told apart, keywords in any
letter case; a number takes every digit, one point and one exponent that it can. -/
set_option autoImplicit false
namespace StagedTables.Filter

open Text

def isSpace (c : Char) : Bool := c == ' ' || c == '\t' || c == '\r' || c == '\n'

def isWordStart (c : Char) : Bool := isAlphabetic c || c == '_'

def isWordPart (c : Char) : Bool := isAlphanumeric c || c == '_'

def isSign (c : Char) : Bool := c == '+' || c == '-'

structure Scanned where
  lexeme : Lexeme
  length : Nat
  deriving DecidableEq, Repr

/-- A fault, and the number of characters read before it showed. -/
structure ScanFault where
  fault : SyntaxFault
  length : Nat
  deriving DecidableEq, Repr

def scanString (cs : List Char) : Except ScanFault Scanned :=
  match quotedBody? cs.tail with
  | some (body, length) => .ok ⟨.string (String.ofList body), length + 1⟩
  | none => .error ⟨.unclosedString, cs.length⟩

def fractionSpan : List Char → List Char
  | '.' :: rest => '.' :: rest.takeWhile isDigit
  | _ => []

def signSpan : List Char → List Char
  | c :: _ => if isSign c then [c] else []
  | [] => []

def exponentSpan : List Char → List Char
  | c :: rest =>
    if c == 'e' || c == 'E' then
      let sign := signSpan rest
      c :: sign ++ (rest.drop sign.length).takeWhile isDigit
    else []
  | [] => []

structure NumberSpan where
  sign : List Char
  whole : List Char
  fraction : List Char
  exponent : List Char
  deriving DecidableEq, Repr

def NumberSpan.chars (span : NumberSpan) : List Char :=
  span.sign ++ span.whole ++ span.fraction ++ span.exponent

def NumberSpan.isWhole (span : NumberSpan) : Bool :=
  span.fraction.isEmpty && span.exponent.isEmpty

def numberSpan (cs : List Char) : NumberSpan :=
  let sign := signSpan cs
  let afterSign := cs.drop sign.length
  let whole := afterSign.takeWhile isDigit
  let afterWhole := afterSign.dropWhile isDigit
  let fraction := fractionSpan afterWhole
  ⟨sign, whole, fraction, exponentSpan (afterWhole.drop fraction.length)⟩

def startsLongMark : List Char → Bool
  | c :: _ => c == 'L' || c == 'l'
  | [] => false

/-- A number: with point or exponent a double, otherwise an integer, long when it is marked so. -/
def scanNumber (cs : List Char) : Except ScanFault Scanned :=
  let span := numberSpan cs
  let chars := span.chars
  let isLong := startsLongMark (cs.drop chars.length)
  let length := if isLong then chars.length + 1 else chars.length
  let malformed : ScanFault := ⟨.malformedNumber (String.ofList chars), length⟩
  if span.isWhole then
    match Numeral.integer? .ten chars with
    | .ok n => .ok ⟨if isLong then .long n else .integer n, length⟩
    | .error _ => .error malformed
  else if isLong then .error ⟨.fractionalLong (String.ofList chars), chars.length⟩
  else match Numeral.double? chars with
    | some x => .ok ⟨.float x, length⟩
    | none => .error malformed

def quotedKind? (word : List Char) : Option QuotedKind :=
  if word = "datetime".toList then some .dateTime
  else if word = "guid".toList then some .guid
  else if word = "x".toList ∨ word = "binary".toList then some .binary
  else none

def dateTimeLengthMin : Nat := 10

def guidLength : Nat := 36

def guidHyphens : Nat := 4

def isHexDigit (c : Char) : Bool :=
  isAsciiDigit c || ('a' ≤ c && c ≤ 'f') || ('A' ≤ c && c ≤ 'F')

/-- The fault of a quoted body that is wrong by its shape alone. -/
def bodyFault? (kind : QuotedKind) (body : List Char) : Option SyntaxFault :=
  match kind with
  | .dateTime =>
    if body.length < dateTimeLengthMin then some (.shortDateTime (String.ofList body)) else none
  | .guid =>
    if body.length ≠ guidLength ∨ body.count '-' ≠ guidHyphens then
      some (.misshapenGuid (String.ofList body))
    else none
  | .binary =>
    if body.length % 2 = 0 ∧ body.all isHexDigit then none
    else some (.misshapenBinary (String.ofList body))

def scanQuoted (kind : QuotedKind) (markLength : Nat) (cs : List Char) :
    Except ScanFault Scanned :=
  match quotedBody? (cs.drop (markLength + 1)) with
  | none => .error ⟨.unclosedQuoted kind, cs.length⟩
  | some (body, length) =>
    match bodyFault? kind body with
    | some fault => .error ⟨fault, markLength + 1 + length⟩
    | none => .ok ⟨.quoted kind (String.ofList body), markLength + 1 + length⟩

def comparison? (word : List Char) : Option Comparison :=
  Comparison.all.find? fun comparison => comparison.word.toList = word

/-- What a word stands for.  The special doubles keep their case, the keywords do not. -/
def wordLexeme (word : List Char) : Lexeme :=
  let spelling := String.ofList word
  let key := word.map asciiLower
  if word = "INF".toList then .float (.infinite false)
  else if word = "NaN".toList then .float .nan
  else match comparison? key with
    | some comparison => .comparison comparison spelling
    | none =>
      if key = "and".toList then .connective .and spelling
      else if key = "or".toList then .connective .or spelling
      else if key = "not".toList then .negation spelling
      else if key = "true".toList then .boolean true
      else if key = "false".toList then .boolean false
      else .identifier spelling

def scanWord (cs : List Char) : Except ScanFault Scanned :=
  let word := cs.takeWhile isWordPart
  let plain : Scanned := ⟨wordLexeme word, word.length⟩
  match cs.dropWhile isWordPart with
  | '\'' :: _ => match quotedKind? (word.map asciiLower) with
    | some kind => scanQuoted kind word.length cs
    | none => .ok plain
  | _ => .ok plain

def negativeInfinity : List Char := "-INF".toList

/-- Whether negative infinity comes next, and no word goes on after it. -/
def startsNegativeInfinity (cs : List Char) : Bool :=
  negativeInfinity.isPrefixOf cs && !(cs.drop negativeInfinity.length).head?.any isWordPart

/-- Whether a number starts here: a digit, or a sign and a digit. -/
def startsNumber : List Char → Bool
  | c :: rest => isDigit c || (isSign c && rest.head?.any isDigit)
  | [] => false

def scan (cs : List Char) : Except ScanFault Scanned :=
  match cs with
  | [] => .ok ⟨.endOfText, 0⟩
  | c :: _ =>
    if c = '\'' then scanString cs
    else if startsNumber cs then scanNumber cs
    else if startsNegativeInfinity cs then
      .ok ⟨.float (.infinite true), negativeInfinity.length⟩
    else if isWordStart c then scanWord cs
    else if c = '(' then .ok ⟨.leftParenthesis, 1⟩
    else if c = ')' then .ok ⟨.rightParenthesis, 1⟩
    else .error ⟨.unexpectedCharacter c, 0⟩

/-- A syntax error at the start of a lexeme, and where reading stopped. -/
structure LexicalError where
  error : SyntaxError
  stopped : Position
  deriving DecidableEq, Repr

/-- The tokens of a text that starts at a position, the end of the text last. -/
def tokensFrom (position : Position) (cs : List Char) : Except LexicalError (List Token) :=
  match cs with
  | [] => .ok [⟨.endOfText, position, 0⟩]
  | c :: rest =>
    if isSpace c then tokensFrom (position.next c) rest
    else match scan (c :: rest) with
      | .error fault =>
        .error ⟨⟨fault.fault, position⟩, position.advance ((c :: rest).take fault.length)⟩
      | .ok scanned =>
        (tokensFrom (position.advance ((c :: rest).take scanned.length))
          (rest.drop (scanned.length - 1))).map (⟨scanned.lexeme, position, scanned.length⟩ :: ·)
termination_by cs.length
decreasing_by all_goals simp +arith [List.length_drop]

def tokens (text : String) : Except LexicalError (List Token) :=
  tokensFrom .start text.toList

def stopPosition (text : String) : Position :=
  match tokens text with
  | .ok _ => Position.start.advance text.toList
  | .error error => error.stopped

def lexerText (text : String) : String :=
  let stop := stopPosition text
  let input := Text.quoted text
  s!"FilterLexer(input={input}, pos={stop.offset}, line={stop.line}, column={stop.column})"

end StagedTables.Filter
