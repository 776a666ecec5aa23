import StagedTables.Yaml.Fault

/-! # Places in a YAML text

A cursor is what is left of a text, with the place where it starts.  Readings take characters from
the front of a text, or find a fault. -/
set_option autoImplicit false
namespace StagedTables.Yaml

def isBreak (c : Char) : Bool :=
  c == '\n' || c == '\u0085' || c == '\u2028' || c == '\u2029'

/-- A break as it counts in a scalar: the two separators of Unicode stay, any other is a line
feed. -/
def breakText (c : Char) : Char := if c == '\u0085' then '\n' else c

def isBlank (c : Char) : Bool := c == ' ' || c == '\t'

def isSpaceOrBreak (c : Char) : Bool := c == ' ' || isBreak c

def isGap (c : Char) : Bool := isBlank c || isBreak c

def endsAt (isEnd : Char → Bool) (cs : List Char) : Bool := cs.head?.all isEnd

structure Cursor where
  rest : List Char
  index : Nat
  line : Nat
  column : Nat
  deriving DecidableEq, Repr

namespace Cursor

def start (cs : List Char) : Cursor := ⟨cs, 0, 0, 0⟩

/-- The cursor after one character; a byte order mark takes no column. -/
def next (cursor : Cursor) : Cursor :=
  match cursor.rest with
  | [] => cursor
  | c :: rest =>
    if isBreak c then ⟨rest, cursor.index + 1, cursor.line + 1, 0⟩
    else ⟨rest, cursor.index + 1, cursor.line, cursor.column + if c == '\uFEFF' then 0 else 1⟩

def advance (cursor : Cursor) : Nat → Cursor
  | 0 => cursor
  | n + 1 => cursor.next.advance n

end Cursor

abbrev Reading := StateT Cursor (Except Fault)

namespace Reading

def rest : Reading (List Char) := return (← get).rest

/-- How many characters are left; no loop takes more steps than that. -/
def left : Reading Nat := return (← get).rest.length

def column : Reading Nat := return (← get).column

def take (n : Nat) : Reading (List Char) := do
  let cursor ← get
  set (cursor.advance n)
  return cursor.rest.take n

def takeWhile (p : Char → Bool) : Reading (List Char) := do
  take ((← rest).takeWhile p).length

def fail {α : Type} : Reading α := throw .malformed

def require (condition : Bool) : Reading Unit := if condition then pure () else fail

def takeBreak? : Reading (Option Char) := do
  match ← rest with
  | [] => return none
  | c :: _ =>
    if isBreak c then
      let _ ← take 1
      return some (breakText c)
    else return none

/-- The rest of a line, which holds nothing but a comment. -/
def takeLineEnd : Reading Unit := do
  let _ ← takeWhile (· == ' ')
  if (← rest).head? = some '#' then
    let _ ← takeWhile (!isBreak ·)
  require (endsAt isBreak (← rest))
  let _ ← takeBreak?

end Reading

def atDocumentMark (mark : String) (cs : List Char) : Bool :=
  mark.toList.isPrefixOf cs && endsAt isGap (cs.drop mark.length)

def startMark : String := "---"

def endMark : String := "..."

def atAnyMark (cs : List Char) : Bool :=
  atDocumentMark startMark cs || atDocumentMark endMark cs

/-- What the breaks between two lines of a scalar count for: a single line feed is a blank, and
of several the first is dropped. -/
def foldBreaks (first : Char) (more : List Char) : List Char :=
  if first != '\n' then first :: more
  else if more.isEmpty then [' ']
  else more

end StagedTables.Yaml
