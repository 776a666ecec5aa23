import StagedTables.Yaml.Node
import StagedTables.Yaml.Token

/-! # Structure

The tree of nodes that tokens make up.  A reference stands for the node that its anchor marks. -/
set_option autoImplicit false
namespace StagedTables.Yaml

structure Context where
  tokens : List Token
  /-- What tags are written with, and the start of the name that it stands for. -/
  handles : List (String × String)
  anchors : List (String × Node)

namespace Context

def usualHandles : List (String × String) := [("!", "!"), ("!!", Tag.namespaceUri)]

abbrev Grammar := StateT Context (Except Fault)

def peek? : Grammar (Option Token) := do
  match (← get).tokens with
  | [] => return none
  | .broken fault :: _ => throw fault
  | token :: _ => return some token

def skip : Grammar Unit := modify fun context => { context with tokens := context.tokens.tail }

def take (token : Token) : Grammar Bool := do
  if (← peek?) = some token then
    skip
    return true
  return false

def expect (token : Token) : Grammar Unit := do
  if !(← take token) then throw .malformed

/-- Whether the next token is one of some, or there is none. -/
def isAt (tokens : List Token) : Grammar Bool := do
  match ← peek? with
  | none => return false
  | some token => return tokens.contains token

structure Properties where
  anchor : Option String
  /-- The name of the tag, its handle spelled out. -/
  uri : Option String

def Properties.isEmpty (properties : Properties) : Bool :=
  properties.anchor.isNone && properties.uri.isNone

def takeAnchor? : Grammar (Option String) := do
  match ← peek? with
  | some (.anchor name) =>
    skip
    return some name
  | _ => return none

def takeTag? : Grammar (Option (Option String × String)) := do
  match ← peek? with
  | some (.tag handle rest) =>
    skip
    return some (handle, rest)
  | _ => return none

def spelledOut (handle : Option String) (rest : String) : Grammar String := do
  match handle with
  | none => return rest
  | some handle => match (← get).handles.lookup handle with
    | some start => return start ++ rest
    | none => throw .malformed

/-- An anchor and a tag in either order; an anchor marks one node only. -/
def takeProperties : Grammar Properties := do
  let before ← takeAnchor?
  let tag ← takeTag?
  let after ← if before.isNone && tag.isSome then takeAnchor? else pure none
  let uri ← tag.mapM fun (handle, rest) => spelledOut handle rest
  let anchor := before <|> after
  if let some name := anchor then
    if ((← get).anchors.lookup name).isSome then throw .malformed
  return ⟨anchor, uri⟩

/-- A tag that asks for the usual one of a form. -/
def plainUri : String := "!"

def Properties.tagOr (properties : Properties) (usual : Tag) : Tag :=
  match properties.uri with
  | none => usual
  | some uri => if uri = plainUri then usual else Tag.ofUri uri

/-- The tag of a scalar; of one in quotes only the usual tag is not told by its form. -/
def Properties.scalarTag (properties : Properties) (text : String) (isPlain : Bool) : Tag :=
  if isPlain || properties.uri == some plainUri then properties.tagOr (.ofPlain text)
  else properties.tagOr .text

def mark (anchor : Option String) (node : Node) : Grammar Unit := do
  if let some name := anchor then
    modify fun context => { context with anchors := (name, node) :: context.anchors }

def Properties.bare (properties : Properties) : Grammar Node := do
  if properties.isEmpty then throw .malformed
  let node := Node.scalar (properties.scalarTag "" true) ""
  mark properties.anchor node
  return node

/-- Marks a collection twice: while it is read, references to it stand for an empty one. -/
def marked (anchor : Option String) (empty : Node) (rest : Grammar Node) : Grammar Node := do
  mark anchor empty
  let node ← rest
  mark anchor node
  return node

inductive Place where
  | flow
  | block
  /-- As a key or value, where a sequence needs no indentation. -/
  | entry
  deriving DecidableEq, Repr

mutual

/-- A node; every step of the reading takes one of `fuel`. -/
def node (place : Place) : Nat → Grammar Node
  | 0 => throw .malformed
  | fuel + 1 => do
    if let some (.reference name) ← peek? then
      skip
      match (← get).anchors.lookup name with
      | some node => return node
      | none => throw .malformed
    let properties ← takeProperties
    let sequence := fun (items : Grammar (List Node)) =>
      let tag := properties.tagOr .sequence
      marked properties.anchor (.sequence tag []) (Node.sequence tag <$> items)
    let mapping := fun (entries : Grammar (List (Node × Node))) =>
      let tag := properties.tagOr .mapping
      marked properties.anchor (.mapping tag []) (Node.mapping tag <$> entries)
    match ← peek? with
    | some .blockEntry =>
      if place = .entry then sequence (bareItems fuel) else properties.bare
    | some (.scalar text isPlain) =>
      skip
      let node := Node.scalar (properties.scalarTag text isPlain) text
      mark properties.anchor node
      return node
    | some .flowSequenceStart =>
      skip
      sequence (flowItems true fuel)
    | some .flowMappingStart =>
      skip
      mapping (flowEntries true fuel)
    | some .blockSequenceStart =>
      if place = .flow then properties.bare
      else
        skip
        sequence (blockItems fuel)
    | some .blockMappingStart =>
      if place = .flow then properties.bare
      else
        skip
        mapping (blockEntries fuel)
    | _ => properties.bare
termination_by structural fuel => fuel

/-- A node unless one of some tokens follows. -/
def nodeBefore (place : Place) (ends : List Token) : Nat → Grammar Node
  | 0 => throw .malformed
  | fuel + 1 => do
    if ← isAt ends then return .absent
    node place fuel
termination_by structural fuel => fuel

def blockItems : Nat → Grammar (List Node)
  | 0 => throw .malformed
  | fuel + 1 => do
    if ← take .blockEntry then
      let item ← nodeBefore .block [.blockEntry, .blockEnd] fuel
      return item :: (← blockItems fuel)
    expect .blockEnd
    return []
termination_by structural fuel => fuel

def bareItems : Nat → Grammar (List Node)
  | 0 => throw .malformed
  | fuel + 1 => do
    if ← take .blockEntry then
      let item ← nodeBefore .block [.blockEntry, .key, .value, .blockEnd] fuel
      return item :: (← bareItems fuel)
    return []
termination_by structural fuel => fuel

def valueBefore (place : Place) (ends : List Token) : Nat → Grammar Node
  | 0 => throw .malformed
  | fuel + 1 => do
    if ← take .value then nodeBefore place ends fuel else return .absent
termination_by structural fuel => fuel

def blockEntries : Nat → Grammar (List (Node × Node))
  | 0 => throw .malformed
  | fuel + 1 => do
    if ← take .key then
      let key ← nodeBefore .entry [.key, .value, .blockEnd] fuel
      let value ← valueBefore .entry [.key, .value, .blockEnd] fuel
      return (key, value) :: (← blockEntries fuel)
    expect .blockEnd
    return []
termination_by structural fuel => fuel

/-- An item in brackets; a key makes it a mapping of one entry. -/
def flowItems (isFirst : Bool) : Nat → Grammar (List Node)
  | 0 => throw .malformed
  | fuel + 1 => do
    if ← take .flowSequenceEnd then return []
    if !isFirst then expect .flowEntry
    if ← take .key then
      let key ← nodeBefore .flow [.value, .flowEntry, .flowSequenceEnd] fuel
      let value ← valueBefore .flow [.flowEntry, .flowSequenceEnd] fuel
      return .mapping .mapping [(key, value)] :: (← flowItems false fuel)
    if ← take .flowSequenceEnd then return []
    let item ← node .flow fuel
    return item :: (← flowItems false fuel)
termination_by structural fuel => fuel

def flowEntries (isFirst : Bool) : Nat → Grammar (List (Node × Node))
  | 0 => throw .malformed
  | fuel + 1 => do
    if ← take .flowMappingEnd then return []
    if !isFirst then expect .flowEntry
    if ← take .key then
      let key ← nodeBefore .flow [.value, .flowEntry, .flowMappingEnd] fuel
      let value ← valueBefore .flow [.flowEntry, .flowMappingEnd] fuel
      return (key, value) :: (← flowEntries false fuel)
    if ← take .flowMappingEnd then return []
    let key ← node .flow fuel
    return (key, .absent) :: (← flowEntries false fuel)
termination_by structural fuel => fuel

end

/-- The one version of the language that documents may ask for. -/
def majorVersion : Nat := 1

/-- The lines in front of a document: one version at most, and each handle once. -/
def takeDirectives (hasVersion : Bool) : Nat → Grammar Unit
  | 0 => return ()
  | fuel + 1 => do
    match ← peek? with
    | some (.directive (.version major _)) =>
      skip
      if hasVersion || major != majorVersion then throw .malformed
      takeDirectives true fuel
    | some (.directive (.tagHandle handle uri)) =>
      skip
      if ((← get).handles.lookup handle).isSome then throw .malformed
      modify fun context => { context with handles := (handle, uri) :: context.handles }
      takeDirectives hasVersion fuel
    | some (.directive .other) =>
      skip
      takeDirectives hasVersion fuel
    | _ => return ()

def addUsualHandles : Grammar Unit :=
  modify fun context => { context with handles := context.handles ++ usualHandles }

def markedContent (fuel : Nat) : Grammar Node := do
  match ← peek? with
  | none => return .absent
  | some (.directive _) => return .absent
  | some .documentStart => return .absent
  | some .documentEnd => return .absent
  | some _ => node .block fuel

def markedDocument (fuel : Nat) : Grammar Node := do
  takeDirectives false fuel
  addUsualHandles
  expect .documentStart
  markedContent fuel

/-- The document at the front; an absent node when there is none. -/
def document (fuel : Nat) : Grammar Node := do
  match ← peek? with
  | none => return .absent
  | some (.directive _) => markedDocument fuel
  | some .documentStart => markedDocument fuel
  | some _ =>
    addUsualHandles
    node .block fuel

def onlyDocument (fuel : Nat) : Grammar Node := do
  let node ← document fuel
  modify fun context =>
    { context with tokens := context.tokens.dropWhile (· = .documentEnd) }
  if (← peek?).isSome then throw .malformed
  return node

end Context

/-- The node that tokens denote.  Between two tokens taken there are at most four steps. -/
def Node.ofTokens (tokens : List Token) : Except Fault Node :=
  (Context.onlyDocument (4 * (tokens.length + 1))).run' ⟨tokens, [], []⟩

end StagedTables.Yaml
