import StagedTables.Text.Surrogate
import StagedTables.Yaml.Cursor

/-! # Quoted scalars

Scalars between single quotes, in which a quote is written twice, or between double quotes, which
know escapes. -/
set_option autoImplicit false
namespace StagedTables.Yaml

def escapes : List (Char × Char) :=
  [('0', '\x00'), ('a', '\x07'), ('b', '\x08'), ('t', '\t'), ('\t', '\t'), ('n', '\n'),
    ('v', '\x0b'), ('f', '\x0c'), ('r', '\r'), ('e', '\x1b'), (' ', ' '), ('"', '"'),
    ('\\', '\\'), ('/', '/'), ('N', '\u0085'), ('_', '\u00a0'), ('L', '\u2028'),
    ('P', '\u2029')]

/-- The number of hexadecimal digits after a letter that escapes a code. -/
def codeLengths : List (Char × Nat) := [('x', 2), ('u', 4), ('U', 8)]

def characterOf (code : Nat) : Except Fault Char :=
  if 0x80000000 ≤ code then .error .characterCodeSize
  else if 0x110000 ≤ code then .error .characterCode
  else .ok (Text.ofUnit code)

def isHexDigit (c : Char) : Bool := (Numeral.Base.sixteen.digit? c).isSome

def takeQuotedBreaks : Nat → Reading (List Char)
  | 0 => return []
  | fuel + 1 => do
    Reading.require (!atAnyMark (← Reading.rest))
    let _ ← Reading.takeWhile isBlank
    match ← Reading.takeBreak? with
    | none => return []
    | some first => return first :: (← takeQuotedBreaks fuel)

def takeQuotedGap : Reading (List Char) := do
  let blanks ← Reading.takeWhile isBlank
  match ← Reading.takeBreak? with
  | none => return blanks
  | some first => return foldBreaks first (← takeQuotedBreaks (← Reading.left))

/-- What an escape stands for; the backslash has been taken. -/
def takeEscape : Reading (List Char) := do
  match ← Reading.rest with
  | [] => Reading.fail
  | c :: _ =>
    if let some character := escapes.lookup c then
      let _ ← Reading.take 1
      return [character]
    else if let some length := codeLengths.lookup c then
      let _ ← Reading.take 1
      let digits ← Reading.take length
      Reading.require (digits.length == length && digits.all isHexDigit)
      let code := Numeral.ofDigits 16 (digits.filterMap Numeral.Base.sixteen.digit?)
      return [← characterOf code]
    else
      Reading.require (isBreak c)
      let _ ← Reading.take 1
      takeQuotedBreaks (← Reading.left)

def takeQuotedFrom (quote : Char) : Nat → Reading (List Char)
  | 0 => Reading.fail
  | fuel + 1 => do
    match ← Reading.rest with
    | [] => Reading.fail
    | c :: rest =>
      if isGap c then return (← takeQuotedGap) ++ (← takeQuotedFrom quote fuel)
      let _ ← Reading.take 1
      if c = quote then
        if quote = '\'' ∧ rest.head? = some quote then
          let _ ← Reading.take 1
          return quote :: (← takeQuotedFrom quote fuel)
        return []
      else if c = '\\' ∧ quote = '"' then
        return (← takeEscape) ++ (← takeQuotedFrom quote fuel)
      else return c :: (← takeQuotedFrom quote fuel)

def takeQuoted (quote : Char) : Reading (List Char) := do
  let _ ← Reading.take 1
  takeQuotedFrom quote ((← Reading.left) + 1)

end StagedTables.Yaml
