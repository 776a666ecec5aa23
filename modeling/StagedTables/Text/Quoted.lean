import StagedTables.Text.Printable
import StagedTables.Text.Surrogate

/-! # Quoted text

Text and bytes written between quotes so that every character can be seen.  The quote is a single
one unless the text holds a single and no double quote; the quote, the backslash and what cannot
be printed are escaped. -/
set_option autoImplicit false
namespace StagedTables.Text

def hexPadded (width n : Nat) : List Char :=
  let digits := Nat.toDigits 16 n
  List.replicate (width - digits.length) '0' ++ digits

/-- A single quote, unless the text holds one and holds no double quote. -/
def chooseQuote (cs : List Char) : Char :=
  if '\'' ∈ cs ∧ '"' ∉ cs then '"' else '\''

def shortEscape? (quote c : Char) : Option (List Char) :=
  if c = quote ∨ c = '\\' then some ['\\', c]
  else if c = '\n' then some ['\\', 'n']
  else if c = '\r' then some ['\\', 'r']
  else if c = '\t' then some ['\\', 't']
  else none

/-- The code of a character in two, four or eight hexadecimal digits. -/
def codeEscape (code : Nat) : List Char :=
  if code < 0x100 then '\\' :: 'x' :: hexPadded 2 code
  else if code < 0x10000 then '\\' :: 'u' :: hexPadded 4 code
  else '\\' :: 'U' :: hexPadded 8 code

def quoteChar (quote c : Char) : List Char :=
  match shortEscape? quote c with
  | some escape => escape
  | none => if isPrintable c then [c] else codeEscape (codeOf c)

def quoteChars (cs : List Char) : List Char :=
  let quote := chooseQuote cs
  quote :: cs.flatMap (quoteChar quote) ++ [quote]

def quoted (s : String) : String :=
  String.ofList (quoteChars s.toList)

/-- A byte between quotes: printable ASCII but the escaped quote stands for itself. -/
def quoteByte (escaped : Char) (byte : UInt8) : List Char :=
  let c := Char.ofNat byte.toNat
  match shortEscape? escaped c with
  | some escape => escape
  | none => if ' ' ≤ c ∧ c ≤ '~' then [c] else codeEscape byte.toNat

def chooseByteQuote (bytes : List UInt8) : Char :=
  chooseQuote (bytes.map fun byte => Char.ofNat byte.toNat)

def quoteBytes (quote escaped : Char) (bytes : List UInt8) : String :=
  String.ofList ('b' :: quote :: bytes.flatMap (quoteByte escaped) ++ [quote])

/-- Constant bytes escape the quote that they stand between. -/
def quotedBytes (bytes : List UInt8) : String :=
  quoteBytes (chooseByteQuote bytes) (chooseByteQuote bytes) bytes

/-- A buffer escapes its single quotes also between double ones. -/
def quotedBuffer (bytes : List UInt8) : String :=
  quoteBytes (chooseByteQuote bytes) '\'' bytes

end StagedTables.Text
