import StagedTables.Filter
import StagedTables.Filter.Literal

/-! # Query text

The text that stands for a filter in a query.  Operands of `and`, `or` and `not` stand in
parentheses.  An empty filter vanishes together with the operator that joins it, and a filter in
which nothing is left has no text. -/
set_option autoImplicit false
namespace StagedTables.Filter

def parenthesised (clause : List Char) : List Char := '(' :: clause ++ [')']

def comparisonClause (name : String) (comparison : Comparison) (literal : List Char) : List Char :=
  name.toList ++ ' ' :: comparison.word.toList ++ ' ' :: literal

def binaryClause (left : List Char) (connective : Connective) (right : List Char) : List Char :=
  parenthesised left ++ ' ' :: connective.word.toList ++ ' ' :: parenthesised right

def negatedClause (operand : List Char) : List Char :=
  negationWord.toList ++ ' ' :: parenthesised operand

/-- The clause of a filter; `none` when nothing is left of it. -/
def clause (zone : Calendar.LocalZone) : Filter → Except ConversionFault (Option (List Char))
  | empty => .ok none
  | column name comparison value => do
    let literal ← Literal.chars zone value
    return some (comparisonClause name comparison literal)
  | binary left connective right => do
    let first ← left.clause zone
    let second ← right.clause zone
    match first, second with
    | none, rest => return rest
    | rest, none => return rest
    | some l, some r => return some (binaryClause l connective r)
  | not operand => do
    let inner ← operand.clause zone
    return inner.map negatedClause

def toQuery (zone : Calendar.LocalZone) (filter : Filter) :
    Except ConversionFault (Option String) := do
  let clause ← filter.clause zone
  return clause.map String.ofList

end StagedTables.Filter
