import StagedTables.Filter.DateTimeLiteral
import StagedTables.Filter.Token
import StagedTables.Text.Quoted

/-! # Syntax errors

Why a text is no filter, with the position at fault.  Some faults come with a suggestion. -/
set_option autoImplicit false
namespace StagedTables.Filter

inductive SyntaxFault where
  | unclosedString
  | unclosedQuoted (kind : QuotedKind)
  | fractionalLong (digits : String)
  | malformedNumber (text : String)
  | shortDateTime (body : String)
  | misshapenGuid (body : String)
  | misshapenBinary (body : String)
  | unexpectedCharacter (c : Char)
  | columnExpected (found : Lexeme)
  | comparisonExpected (column : String) (found : Lexeme)
  | literalExpected (found : Lexeme)
  | closingExpected (found : Lexeme)
  | connectiveExpected (found : Token)
  | int64OutOfRange (n : Int)
  | int32OutOfRange (n : Int)
  | dateTimeBody (fault : DateTimeLiteral.Fault)
  | guidBody (body : String)
  deriving DecidableEq, Repr

structure SyntaxError where
  fault : SyntaxFault
  position : Position
  deriving DecidableEq, Repr

def QuotedKind.word : QuotedKind → String
  | dateTime => "datetime"
  | guid => "guid"
  | binary => "binary"

namespace SyntaxFault

def message : SyntaxFault → String
  | unclosedString => "Unclosed string literal"
  | unclosedQuoted kind => s!"Unclosed {kind.word} literal"
  | fractionalLong digits => s!"Invalid long literal: {digits}L"
  | malformedNumber text => s!"Invalid number format: {text}"
  | shortDateTime body => s!"Invalid datetime format: {body}"
  | misshapenGuid body => s!"Invalid GUID format: {body}"
  | misshapenBinary body => s!"Invalid binary format: {body}"
  | unexpectedCharacter c => "Unexpected character: " ++ Text.quoted (String.ofList [c])
  | columnExpected found => s!"Expected column name, got {found.className}"
  | comparisonExpected name found =>
    s!"Expected comparison operator after '{name}', got {found.className}"
  | literalExpected found => s!"Expected literal value, got {found.className}"
  | closingExpected found => s!"Expected ')', got {found.className}"
  | connectiveExpected found => s!"Unexpected token {found.text}"
  | int64OutOfRange n => s!"Int64 literal out of range: {n}L"
  | int32OutOfRange n => s!"Int32 literal out of range: {n}"
  | dateTimeBody fault => fault.message
  | guidBody body => s!"Invalid GUID format: {body}"

def suggestion? : SyntaxFault → Option String
  | unclosedString => some "Add closing single quote (')"
  | unclosedQuoted _ => some "Add closing single quote (')"
  | fractionalLong _ => some "Long literals must be whole numbers"
  | malformedNumber _ => some "Check for malformed scientific notation or decimal point"
  | shortDateTime _ => some "Use ISO 8601 format: YYYY-MM-DDTHH:MM:SSZ"
  | misshapenGuid _ => some "Use format: guid'12345678-1234-1234-1234-123456789012'"
  | misshapenBinary _ => some "Use an even number of hex digits: X'01ff'"
  | unexpectedCharacter _ =>
    some "Only identifiers, literals, operators and parentheses are allowed"
  | comparisonExpected _ _ => some "Use one of eq, ne, gt, ge, lt, le"
  | connectiveExpected _ => some "Combine conditions with 'and' / 'or'"
  | int32OutOfRange _ => some "Add the L suffix for an Int64 literal"
  | _ => none

end SyntaxFault
end StagedTables.Filter
