import StagedTables.Yaml.Block
import StagedTables.Yaml.Plain
import StagedTables.Yaml.Property
import StagedTables.Yaml.Quoted

/-! # Layout

The tokens of a text.  Outside of brackets, the columns at which entries start tell where
collections start and end.  A key on one line is known as such only at the colon after it: until
then its place among the tokens is kept. -/
set_option autoImplicit false
namespace StagedTables.Yaml

/-- A node that a colon may turn out to make a key of. -/
structure PossibleKey where
  brackets : Nat
  tokens : Nat
  index : Nat
  line : Nat
  column : Nat
  /-- It starts in the column of the keys of a mapping, which has nothing else there. -/
  isRequired : Bool
  deriving DecidableEq, Repr

def keyLimit : Nat := 1024

structure Layout where
  cursor : Cursor
  brackets : Nat
  /-- One more than the column of the innermost indented collection; zero when there is none. -/
  level : Nat
  outer : List Nat
  allowsKey : Bool
  keys : List PossibleKey
  /-- The tokens so far, the latest first. -/
  tokens : List Token
  deriving Repr

namespace Layout

abbrev Step := StateT Layout (Except Fault)

def start (cs : List Char) : Layout := ⟨.start cs, 0, 0, [], true, [], []⟩

def reading {α : Type} (reading : Reading α) : Step α := do
  let layout ← get
  let (result, cursor) ← reading.run layout.cursor
  set { layout with cursor }
  return result

def emit (token : Token) : Step Unit :=
  modify fun layout => { layout with tokens := token :: layout.tokens }

def emitMark (length : Nat) (token : Token) : Step Unit := do
  let _ ← reading (Reading.take length)
  emit token

def setAllowsKey (allowsKey : Bool) : Step Unit :=
  modify fun layout => { layout with allowsKey }

def inBrackets (layout : Layout) : Bool := layout.brackets != 0

/-- Drops possible keys; none of them may be one that is required. -/
def dropKeys (isOver : Layout → PossibleKey → Bool) : Step Unit := do
  let layout ← get
  let (gone, keys) := layout.keys.partition (isOver layout)
  if gone.any (·.isRequired) then throw .malformed
  set { layout with keys }

/-- Drops the keys that are on an earlier line or too long. -/
def dropStaleKeys : Step Unit :=
  dropKeys fun layout key =>
    key.line != layout.cursor.line || keyLimit < layout.cursor.index - key.index

def dropKey : Step Unit :=
  dropKeys fun layout key => key.brackets == layout.brackets

/-- Notes that the next token may start a key. -/
def saveKey : Step Unit := do
  if (← get).allowsKey then
    dropKey
    modify fun layout =>
      let cursor := layout.cursor
      { layout with
        keys := {
          brackets := layout.brackets
          tokens := layout.tokens.length
          index := cursor.index
          line := cursor.line
          column := cursor.column
          isRequired := !layout.inBrackets && layout.level == cursor.column + 1 } ::
            layout.keys }

def unwound (level : Nat) : List Nat → List Nat
  | [] => []
  | first :: rest => if level < first then unwound level rest else first :: rest

def unwind (level : Nat) : Step Unit :=
  modify fun layout =>
    if layout.inBrackets then layout
    else
      let levels := layout.level :: layout.outer
      let remaining := unwound level levels
      { layout with
        level := remaining.head?.getD 0
        outer := remaining.tail
        tokens := List.replicate (levels.length - remaining.length) .blockEnd ++
          layout.tokens }

/-- Whether entries in a column start a new collection; it is the innermost one then. -/
def indent (column : Nat) : Step Bool := do
  let layout ← get
  if layout.level ≤ column then
    set { layout with level := column + 1, outer := layout.level :: layout.outer }
    return true
  return false

/-- Starts a collection at the present place, unless it goes on or stands in brackets. -/
def startBlock (token : Token) : Step Unit := do
  let layout ← get
  if !layout.inBrackets then
    if !layout.allowsKey then throw .malformed
    if ← indent layout.cursor.column then emit token

def gapLength (inComment : Bool) : List Char → Nat
  | [] => 0
  | c :: rest =>
    if isBreak c then gapLength false rest + 1
    else if inComment || c == ' ' then gapLength inComment rest + 1
    else if c == '#' then gapLength true rest + 1
    else 0

/-- Goes to the next token; a key may start after a break outside of brackets. -/
def skipGap : Step Unit := do
  let before ← get
  let cs ← reading Reading.rest
  let _ ← reading (Reading.take (gapLength false cs))
  let after ← get
  if before.cursor.line < after.cursor.line && !after.inBrackets then setAllowsKey true

def takeMark (token : Token) : Step Unit := do
  unwind 0
  dropKey
  setAllowsKey false
  emitMark startMark.length token

def openBracket (token : Token) : Step Unit := do
  saveKey
  modify fun layout => { layout with brackets := layout.brackets + 1, allowsKey := true }
  emitMark 1 token

/-- Without an open bracket there is none to close. -/
def closeBracket (token : Token) : Step Unit := do
  dropKey
  if !(← get).inBrackets then throw .malformed
  modify fun layout => { layout with brackets := layout.brackets - 1, allowsKey := false }
  emitMark 1 token

def takeFlowEntry : Step Unit := do
  setAllowsKey true
  dropKey
  emitMark 1 .flowEntry

def takeBlockEntry : Step Unit := do
  startBlock .blockSequenceStart
  setAllowsKey true
  dropKey
  emitMark 1 .blockEntry

def takeKey : Step Unit := do
  startBlock .blockMappingStart
  setAllowsKey !(← get).inBrackets
  dropKey
  emitMark 1 .key

/-- Puts the token of a key in front of it, and the start of the mapping that the key begins. -/
def insertKey (key : PossibleKey) : Step Unit := do
  let starts ← if (← get).inBrackets then pure false else indent key.column
  let marks := if starts then [Token.key, .blockMappingStart] else [.key]
  modify fun layout =>
    let after := layout.tokens.length - key.tokens
    { layout with tokens := layout.tokens.take after ++ marks ++ layout.tokens.drop after }

def takeValue : Step Unit := do
  let layout ← get
  match layout.keys.find? (·.brackets == layout.brackets) with
  | some key =>
    set { layout with keys := layout.keys.erase key, allowsKey := false }
    insertKey key
  | none =>
    startBlock .blockMappingStart
    setAllowsKey !layout.inBrackets
    dropKey
  emitMark 1 .value

def takeNode (token : Reading Token) : Step Unit := do
  saveKey
  setAllowsKey false
  emit (← reading token)

def takePlainScalar : Step Unit := do
  saveKey
  setAllowsKey false
  let layout ← get
  let scalar ← reading (takePlain layout.inBrackets layout.level)
  if scalar.endsLine then setAllowsKey true
  emit (.scalar (String.ofList scalar.text) true)

def takeBlockScalar (folded : Bool) : Step Unit := do
  setAllowsKey true
  dropKey
  let text ← reading (takeBlock folded (← get).level)
  emit (.scalar (String.ofList text) false)

def takeDirectiveLine : Step Unit := do
  unwind 0
  dropKey
  setAllowsKey false
  emit (.directive (← reading takeDirective))

def takeToken (c : Char) (rest : List Char) : Step Unit := do
  let layout ← get
  let atColumnZero := layout.cursor.column == 0
  let inBrackets := layout.inBrackets
  let quotedToken : Reading Token :=
    return .scalar (String.ofList (← takeQuoted c)) false
  if c = '%' ∧ atColumnZero then takeDirectiveLine
  else if atColumnZero ∧ atDocumentMark startMark (c :: rest) then takeMark .documentStart
  else if atColumnZero ∧ atDocumentMark endMark (c :: rest) then takeMark .documentEnd
  else if c = '[' then openBracket .flowSequenceStart
  else if c = '\x7b' then openBracket .flowMappingStart
  else if c = ']' then closeBracket .flowSequenceEnd
  else if c = '\x7d' then closeBracket .flowMappingEnd
  else if c = ',' then takeFlowEntry
  else if c = '-' ∧ endsAt isGap rest then takeBlockEntry
  else if c = '?' ∧ (inBrackets ∨ endsAt isGap rest) then takeKey
  else if c = ':' ∧ (inBrackets ∨ endsAt isGap rest) then takeValue
  else if c = '*' then takeNode (return .reference (← takeAnchorName))
  else if c = '&' then takeNode (return .anchor (← takeAnchorName))
  else if c = '!' then takeNode takeTag
  else if (c = '|' ∨ c = '>') ∧ ¬ inBrackets then takeBlockScalar (c == '>')
  else if c = '\'' ∨ c = '"' then takeNode quotedToken
  else if startsPlain inBrackets (c :: rest) then takePlainScalar
  else throw .malformed

/-- Takes the next token with those that its place implies; false at the end of the text. -/
def step : Step Bool := do
  skipGap
  dropStaleKeys
  let layout ← get
  match layout.cursor.rest with
  | [] =>
    unwind 0
    dropKey
    return false
  | c :: rest =>
    unwind (layout.cursor.column + 1)
    takeToken c rest
    return true

/-- The tokens from a place on in at most `fuel` steps; a fault takes the place of the tokens that
would follow. -/
def tokensFrom : Nat → Layout → List Token
  | 0, layout => layout.tokens.reverse
  | fuel + 1, layout =>
    match step.run layout with
    | .error fault => (Token.broken fault :: layout.tokens).reverse
    | .ok (goesOn, next) =>
      if goesOn then tokensFrom fuel next else next.tokens.reverse

end Layout

/-- The tokens of a text, which has no more of them than characters. -/
def tokensOf (cs : List Char) : List Token := Layout.tokensFrom (cs.length + 1) (.start cs)

end StagedTables.Yaml
