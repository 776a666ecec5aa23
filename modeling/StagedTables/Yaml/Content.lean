import StagedTables.Yaml.Node

/-! # Content of nodes

The data that a tree of nodes denotes.  A mapping takes over the entries of others that it merges
in.  Collections are filled in rounds, each round one level deeper; of several faults the first of
the earliest round is reported. -/
set_option autoImplicit false
namespace StagedTables.Yaml

namespace Node

def withTag (tag : Tag) : Node → Node
  | scalar _ text => scalar tag text
  | sequence _ items => sequence tag items
  | mapping _ entries => mapping tag entries

mutual

/-- The entries of a mapping: those merged in, and then its own. -/
def mergedEntries : Node → Except Fault (List (Node × Node))
  | mapping _ entries => do
    let (merged, own) ← splitEntries entries
    return merged ++ own
  | _ => .error .malformed
termination_by structural node => node

def splitEntries : List (Node × Node) → Except Fault (List (Node × Node) × List (Node × Node))
  | [] => .ok ([], [])
  | (key, value) :: rest => do
    if key.tag = .merge then
      let first ← entriesToMerge value
      let (merged, own) ← splitEntries rest
      return (first ++ merged, own)
    else
      let (merged, own) ← splitEntries rest
      return (merged, (if key.tag = .value then key.withTag .text else key, value) :: own)
termination_by structural entries => entries

/-- The entries of a mapping or of several, of which an earlier one goes before a later one. -/
def entriesToMerge : Node → Except Fault (List (Node × Node))
  | scalar _ _ => .error .malformed
  | sequence _ items => itemsToMerge items
  | mapping _ entries => do
    let (merged, own) ← splitEntries entries
    return merged ++ own
termination_by structural node => node

/-- The entries of mappings, those of the first one last. -/
def itemsToMerge : List Node → Except Fault (List (Node × Node))
  | [] => .ok []
  | item :: rest => do
    let first ← mergedEntries item
    return (← itemsToMerge rest) ++ first
termination_by structural items => items

end

mutual

/-- The text of a scalar; a mapping has that of its value entry. -/
def text? : Node → Option String
  | scalar _ text => some text
  | sequence _ _ => none
  | mapping _ entries => valueText? entries
termination_by structural node => node

def valueText? : List (Node × Node) → Option String
  | [] => none
  | (key, value) :: rest => if key.tag = .value then text? value else valueText? rest
termination_by structural entries => entries

end

/-- The faults of a tree with the rounds in which they are found. -/
abbrev Faults := List (Nat × Fault)

def refused (round : Nat) (fault : Fault) : Document × Faults := (.null, [(round, fault)])

def nameOf : Document → Name Scalar
  | .scalar name => .ofScalar name
  | _ => .other .null

/-- An entry of a mapping; a collection names none. -/
def entryContent (content : Node → Document × Faults) (round : Nat) (entry : Node × Node) :
    (Name Scalar × Document) × Faults :=
  let (key, keyFaults) := if entry.1.tag.isCollection then refused round .malformed
    else content entry.1
  let (value, valueFaults) := content entry.2
  ((nameOf key, value), keyFaults ++ valueFaults)

/-- A pair, written as a mapping of one entry. -/
def pairContent (content : Node → Document × Faults) (round : Nat) (node : Node) :
    Document × Faults :=
  match node with
  | mapping _ [(key, value)] =>
    let (first, firstFaults) := content key
    let (second, secondFaults) := content value
    (.array [first, second], firstFaults ++ secondFaults)
  | _ => refused round .malformed

def itemsContent (content : Node → Document × Faults) (round : Nat) (node : Node) :
    Document × Faults :=
  match node with
  | sequence _ items =>
    let parts := items.map content
    (.array (parts.map (·.1)), parts.flatMap (·.2))
  | _ => refused round .malformed

/-- The entries of a mapping, of which the last with a name counts. -/
def membersContent (content : Node → Document × Faults) (round : Nat) (node : Node) :
    Datum.Members Scalar × Faults :=
  match mergedEntries node with
  | .error fault => ([], [(round, fault)])
  | .ok entries =>
    let parts := entries.map (entryContent content round)
    (Fields.ofList (parts.map (·.1)), parts.flatMap (·.2))

def scalarContent (round : Nat) (node : Node) : Document × Faults :=
  match node.text? with
  | none => refused round .malformed
  | some text => match scalarOf node.tag text with
    | .ok value => (.scalar value, [])
    | .error fault => refused round fault

/-- The data that a node denotes, down to a depth, and the faults from a round on. -/
def contentFrom (round : Nat) : Nat → Node → Document × Faults
  | 0, _ => (.null, [])
  | depth + 1, node =>
    let content := contentFrom (round + 1) depth
    match node.tag with
    | .sequence => itemsContent content (round + 1) node
    | .orderedMapping => itemsContent (pairContent content (round + 1)) (round + 1) node
    | .pairs => itemsContent (pairContent content (round + 1)) (round + 1) node
    | .mapping =>
      let (members, faults) := membersContent content (round + 1) node
      (.object members, faults)
    | .set =>
      let (members, faults) := membersContent content (round + 1) node
      (.set (members.map (·.1)), faults)
    | _ => scalarContent round node

def firstFault? (faults : Faults) : Option Fault :=
  (faults.map (·.1)).min?.bind fun round => faults.lookup round

def content (node : Node) : Except Fault Document :=
  let (datum, faults) := node.contentFrom 0 (node.height + 1)
  match firstFault? faults with
  | some fault => .error fault
  | none => .ok datum

end Node
end StagedTables.Yaml
