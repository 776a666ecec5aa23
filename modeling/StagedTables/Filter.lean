import StagedTables.Value.Equality
import StagedTables.Value.Text

/-! # Filters

A filter is a tree of comparisons of a column with a value, joined by `and` and `or` and negated
by `not`.  The empty filter restricts nothing. -/
set_option autoImplicit false
namespace StagedTables

inductive Comparison where
  | less
  | lessOrEqual
  | greater
  | greaterOrEqual
  | equal
  | notEqual
  deriving DecidableEq, Repr

namespace Comparison

def all : List Comparison := [less, lessOrEqual, greater, greaterOrEqual, equal, notEqual]

def word : Comparison → String
  | less => "lt"
  | lessOrEqual => "le"
  | greater => "gt"
  | greaterOrEqual => "ge"
  | equal => "eq"
  | notEqual => "ne"

end Comparison

inductive Connective where
  | and
  | or
  deriving DecidableEq, Repr

def Connective.word : Connective → String
  | .and => "and"
  | .or => "or"

def negationWord : String := "not"

inductive Filter where
  | empty
  | column (name : String) (comparison : Comparison) (value : Value)
  | binary (left : Filter) (connective : Connective) (right : Filter)
  | not (operand : Filter)
  deriving Inhabited, Repr

def Filter.comparisonWithoutOperator : String :=
  "ColumnComparison has no operator; use Equal, LessThan, ..."

def partitionKeyName : String := "PartitionKey"
def rowKeyName : String := "RowKey"

namespace Filter

def and (left right : Filter) : Filter := binary left .and right

def or (left right : Filter) : Filter := binary left .or right

def partition (value : Value) : Filter := column partitionKeyName .equal value

def row (value : Value) : Filter := column rowKeyName .equal value

/-- Whether two filters have one shape and equal values, if that can be told.  They are compared
from left to right, up to the first difference. -/
def compare (c : Comparing) : Filter → Filter → Except ConversionFault Bool
  | empty, empty => .ok true
  | column name comparison value, column otherName otherComparison other =>
    if name = otherName ∧ comparison = otherComparison then value.compareHeld c other
    else .ok false
  | binary left connective right, binary otherLeft otherConnective otherRight => do
    if !(← left.compare c otherLeft) || connective != otherConnective then return false
    right.compare c otherRight
  | not operand, not other => operand.compare c other
  | _, _ => .ok false

def describe : Filter → Except ValueFault String
  | empty => .ok "Empty"
  | column name comparison value => do
    let shown ← value.quoted
    return s!"Column({name} {comparison.word} {shown})"
  | binary left connective right => do
    let first ← left.describe
    let second ← right.describe
    return s!"Binary({first} {connective.word} {second})"
  | not operand => do
    let shown ← operand.describe
    return s!"Unary({negationWord} {shown})"

end Filter
end StagedTables
