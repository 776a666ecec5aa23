import StagedTables.Filter.Lexer
import StagedTables.Filter.Literal
import StagedTables.Text.HexBytes

/-! # Reading filters

The grammar, `not` binding tighter than `and`, and `and` tighter than `or`:

    filter      = [ disjunction ]
    disjunction = conjunction { "or" conjunction }
    conjunction = negation { "and" negation }
    negation    = "not" negation | primary
    primary     = identifier comparison literal | "(" disjunction ")"

The reader takes one token after the other.  Its state is what it expects next and the stack of
what is still open, innermost first.  An operand is joined at once to what binds tightest, so that
equal operators associate to the left. -/
set_option autoImplicit false
namespace StagedTables.Filter

/-- Something that waits for its last operand or its closing parenthesis. -/
inductive Frame where
  | group
  | negation
  | conjunction (left : Filter)
  | disjunction (left : Filter)

inductive Expectation where
  | operand
  | comparison (name : String)
  | literal (name : String) (operator : Comparison)
  | continuation (operand : Filter)
  | nothing (filter : Filter)

structure ParserState where
  stack : List Frame
  expects : Expectation

inductive ParseFault where
  | refused (error : SyntaxError)
  | instantOutOfRange
  | noTokens
  | endless
  deriving DecidableEq, Repr

/-- The value of a literal's lexeme.  A long integer keeps its type; a lexeme that is no literal
has no value. -/
def decodeLiteral (token : Token) : Except ParseFault Value :=
  let fail {α : Type} (fault : SyntaxFault) : Except ParseFault α :=
    .error (.refused ⟨fault, token.position⟩)
  match token.lexeme with
  | .string body => .ok (.text body)
  | .integer n => if FitsInt32 n then .ok (.integer n) else fail (.int32OutOfRange n)
  | .long n => if FitsInt64 n then .ok (.typed .int64 (.integer n)) else fail (.int64OutOfRange n)
  | .float x => .ok (.double x)
  | .boolean b => .ok (.boolean b)
  | .quoted .dateTime body => match DateTimeLiteral.decode body with
    | .ok d => .ok (.dateTime d)
    | .error (.calendar .instantOutOfRange) => .error .instantOutOfRange
    | .error fault => fail (.dateTimeBody fault)
  | .quoted .guid body => match Uuid.read body with
    | .ok u => .ok (.uuid u)
    | .error _ => fail (.guidBody body)
  | .quoted .binary body => .ok (.bytes .constant (Text.bytesOfHex body.toList))
  | lexeme => fail (.literalExpected lexeme)
/-- Joins an operand to the negations and conjunctions that wait for it. -/
def joinTight : List Frame → Filter → List Frame × Filter
  | .negation :: stack, operand => joinTight stack (.not operand)
  | .conjunction left :: stack, operand => joinTight stack (.and left operand)
  | stack, operand => (stack, operand)

/-- Joins an operand to the disjunction that waits for it. -/
def joinLoose : List Frame → Filter → List Frame × Filter
  | .disjunction left :: stack, operand => (stack, .or left operand)
  | stack, operand => (stack, operand)

namespace ParserState

def start : ParserState := ⟨[], .operand⟩

def complete (stack : List Frame) (operand : Filter) : ParserState :=
  let (stack, operand) := joinTight stack operand
  ⟨stack, .continuation operand⟩

def stepOperand (stack : List Frame) (token : Token) : Except ParseFault ParserState :=
  match token.lexeme with
  | .negation _ => .ok ⟨.negation :: stack, .operand⟩
  | .leftParenthesis => .ok ⟨.group :: stack, .operand⟩
  | .identifier name => .ok ⟨stack, .comparison name⟩
  | .endOfText =>
    if stack.isEmpty then .ok ⟨[], .nothing .empty⟩
    else .error (.refused ⟨.columnExpected token.lexeme, token.position⟩)
  | lexeme => .error (.refused ⟨.columnExpected lexeme, token.position⟩)

def stepContinuation (stack : List Frame) (operand : Filter) (token : Token) :
    Except ParseFault ParserState :=
  match token.lexeme with
  | .connective .and _ => .ok ⟨.conjunction operand :: stack, .operand⟩
  | .connective .or _ =>
    let (stack, operand) := joinLoose stack operand
    .ok ⟨.disjunction operand :: stack, .operand⟩
  | lexeme =>
    let (stack, operand) := joinLoose stack operand
    match stack, lexeme with
    | .group :: stack, .rightParenthesis => .ok (complete stack operand)
    | [], .endOfText => .ok ⟨[], .nothing operand⟩
    | [], _ => .error (.refused ⟨.connectiveExpected token, token.position⟩)
    | _, lexeme => .error (.refused ⟨.closingExpected lexeme, token.position⟩)

def step (state : ParserState) (token : Token) : Except ParseFault ParserState :=
  match state.expects with
  | .operand => stepOperand state.stack token
  | .comparison name => match token.lexeme with
    | .comparison operator _ => .ok ⟨state.stack, .literal name operator⟩
    | lexeme => .error (.refused ⟨.comparisonExpected name lexeme, token.position⟩)
  | .literal name operator => do
    let value ← decodeLiteral token
    return complete state.stack (.column name operator value)
  | .continuation operand => stepContinuation state.stack operand token
  | .nothing filter => .ok ⟨state.stack, .nothing filter⟩

def result? (state : ParserState) : Option Filter :=
  match state.expects with
  | .nothing filter => some filter
  | _ => none

end ParserState

def parseFrom (state : ParserState) (tokens : List Token) : Except ParseFault ParserState :=
  tokens.foldlM ParserState.step state

/-- A list of tokens that does not close is read on as if its last token went on for ever.  Each
time, that token closes a group or is refused, or it opens groups without end. -/
def parseOpenEnd (state : ParserState) (last : Token) : Except ParseFault Filter := do
  let state ← parseFrom state (List.replicate (state.stack.length + 2) last)
  match state.result? with
  | some filter => return filter
  | none => .error .endless

def parseTokens (tokens : List Token) : Except ParseFault Filter := do
  let state ← parseFrom .start tokens
  match state.result?, tokens.getLast? with
  | some filter, _ => return filter
  | none, some last => parseOpenEnd state last
  | none, none => .error .noTokens

def parse (text : String) : Except ParseFault Filter :=
  match tokens text with
  | .ok tokens => parseTokens tokens
  | .error error => .error (.refused error.error)

end StagedTables.Filter
