import StagedTables.Yaml.Cursor

/-! # Block scalars

Scalars that take the indented lines after a mark.  After `|` each line stays a line, after `>`
lines are joined; a sign says what becomes of the breaks at the end. -/
set_option autoImplicit false
namespace StagedTables.Yaml

inductive Chomping where
  | clip
  | strip
  | keep
  deriving DecidableEq, Repr

structure BlockHeader where
  chomping : Chomping
  /-- By how many columns the lines are indented, when it is given. -/
  indent : Option Nat
  deriving DecidableEq, Repr

def takeChomping : Reading (Option Chomping) := do
  match (← Reading.rest).head? with
  | some '+' =>
    let _ ← Reading.take 1
    return some .keep
  | some '-' =>
    let _ ← Reading.take 1
    return some .strip
  | _ => return none

def takeIndent : Reading (Option Nat) := do
  match (← Reading.rest).head?.bind Numeral.Base.ten.digit? with
  | none => return none
  | some digit =>
    Reading.require (digit != 0)
    let _ ← Reading.take 1
    return some digit

/-- The sign and the digit after a mark, in either order. -/
def takeHeader : Reading BlockHeader := do
  let before ← takeChomping
  let indent ← takeIndent
  let after ← if before.isNone && indent.isSome then takeChomping else pure none
  Reading.require (endsAt isSpaceOrBreak (← Reading.rest))
  Reading.takeLineEnd
  return ⟨(before <|> after).getD .clip, indent⟩

/-- The breaks in front of the first line with text, and the furthest column that blanks reach. -/
def takeLeadingLines (widest : Nat) : Nat → Reading (List Char × Nat)
  | 0 => return ([], widest)
  | fuel + 1 => do
    let _ ← Reading.takeWhile (· == ' ')
    let widest := max widest (← Reading.column)
    match ← Reading.takeBreak? with
    | none => return ([], widest)
    | some first =>
      let (breaks, widest) ← takeLeadingLines widest fuel
      return (first :: breaks, widest)

/-- The breaks of empty lines, up to column `indent` of a line that may have text. -/
def takeBlockBreaks (indent : Nat) : Nat → Reading (List Char)
  | 0 => return []
  | fuel + 1 => do
    let blanks := ((← Reading.rest).takeWhile (· == ' ')).length
    let _ ← Reading.take (min blanks (indent - (← Reading.column)))
    match ← Reading.takeBreak? with
    | none => return []
    | some first => return first :: (← takeBlockBreaks indent fuel)

structure BlockLines where
  text : List Char
  /-- The break of the last line with text, unless the document ends there. -/
  ending : List Char
  /-- The breaks of the empty lines at the end. -/
  trailing : List Char

def isAtLine (indent : Nat) : Reading Bool :=
  return (← Reading.column) == indent && !(← Reading.rest).isEmpty

def blockJoint (folded : Bool) (line rest : List Char) (ending : Option Char)
    (empty : List Char) : List Char :=
  let areText := !endsAt isBlank line && !endsAt isBlank rest
  if folded && ending == some '\n' && areText then
    if empty.isEmpty then [' '] else []
  else ending.toList

def takeLines (folded : Bool) (indent : Nat) : Nat → List Char → Reading BlockLines
  | 0, empty => return ⟨[], [], empty⟩
  | fuel + 1, empty => do
    if !(← isAtLine indent) then return ⟨[], [], empty⟩
    let line ← Reading.takeWhile (!isBreak ·)
    let ending ← Reading.takeBreak?
    let next ← takeBlockBreaks indent (← Reading.left)
    if ← isAtLine indent then
      let joint := blockJoint folded line (← Reading.rest) ending next
      let more ← takeLines folded indent fuel next
      return { more with text := empty ++ line ++ joint ++ more.text }
    else return ⟨empty ++ line, ending.toList, next⟩

/-- A block scalar in a collection whose entries start before column `level`. -/
def takeBlock (folded : Bool) (level : Nat) : Reading (List Char) := do
  let _ ← Reading.take 1
  let header ← takeHeader
  let lowest := max level 1
  let fuel := (← Reading.left) + 1
  let (indent, empty) ← match header.indent with
    | none => do
      let (empty, widest) ← takeLeadingLines 0 fuel
      pure (max lowest widest, empty)
    | some columns => do
      let indent := lowest + columns - 1
      pure (indent, ← takeBlockBreaks indent fuel)
  let lines ← takeLines folded indent fuel empty
  return match header.chomping with
    | .strip => lines.text
    | .clip => lines.text ++ lines.ending
    | .keep => lines.text ++ lines.ending ++ lines.trailing

end StagedTables.Yaml
