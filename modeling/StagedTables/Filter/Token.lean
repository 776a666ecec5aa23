import StagedTables.Filter
import StagedTables.Filter.Position

/-! # Tokens of filter text

A token is a lexeme with its position and its length in characters.  Words that have a meaning
keep their spelling; quoted bodies stand without their quotes. -/
set_option autoImplicit false
namespace StagedTables.Filter

inductive QuotedKind where
  | dateTime
  | guid
  | binary
  deriving DecidableEq, Repr

inductive Lexeme where
  | string (body : String)
  | integer (n : Int)
  | long (n : Int)
  | float (x : Double)
  | boolean (b : Bool)
  | quoted (kind : QuotedKind) (body : String)
  | identifier (name : String)
  | comparison (operator : Comparison) (spelling : String)
  | connective (operator : Connective) (spelling : String)
  | negation (spelling : String)
  | leftParenthesis
  | rightParenthesis
  | endOfText
  deriving DecidableEq, Repr

structure Token where
  lexeme : Lexeme
  position : Position
  length : Nat
  deriving DecidableEq, Repr

namespace Lexeme

def className : Lexeme → String
  | string _ => "STRING"
  | integer _ => "INTEGER"
  | long _ => "LONG"
  | float _ => "FLOAT"
  | boolean _ => "BOOLEAN"
  | quoted .dateTime _ => "DATETIME"
  | quoted .guid _ => "GUID"
  | quoted .binary _ => "BINARY"
  | identifier _ => "IDENTIFIER"
  | comparison operator _ => (operator.word.map Char.toUpper)
  | connective operator _ => (operator.word.map Char.toUpper)
  | negation _ => "NOT"
  | leftParenthesis => "LPAREN"
  | rightParenthesis => "RPAREN"
  | endOfText => "EOF"

def value : Lexeme → Value
  | string body => .text body
  | integer n => .integer n
  | long n => .integer n
  | float x => .double x
  | boolean b => .boolean b
  | quoted _ body => .text body
  | identifier name => .text name
  | comparison _ spelling => .text spelling
  | connective _ spelling => .text spelling
  | negation spelling => .text spelling
  | leftParenthesis => .text "("
  | rightParenthesis => .text ")"
  | endOfText => .null

def shown : Lexeme → String
  | integer n => toString n
  | long n => toString n
  | float x => x.text
  | boolean b => if b then "True" else "False"
  | endOfText => "None"
  | string body => Text.quoted body
  | quoted _ body => Text.quoted body
  | identifier name => Text.quoted name
  | comparison _ spelling => Text.quoted spelling
  | connective _ spelling => Text.quoted spelling
  | negation spelling => Text.quoted spelling
  | leftParenthesis => Text.quoted "("
  | rightParenthesis => Text.quoted ")"

end Lexeme

def Token.text (token : Token) : String :=
  match token.lexeme with
  | .endOfText => s!"EOF at {token.position.text}"
  | lexeme => s!"{lexeme.className}({lexeme.shown}) at {token.position.text}"

end StagedTables.Filter
