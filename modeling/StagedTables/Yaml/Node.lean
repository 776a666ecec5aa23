import StagedTables.Yaml.Tag

/-! # Nodes

A document as a tree of scalars, sequences and mappings, each with its tag. -/
set_option autoImplicit false
namespace StagedTables.Yaml

inductive Node where
  | scalar (tag : Tag) (text : String)
  | sequence (tag : Tag) (items : List Node)
  | mapping (tag : Tag) (entries : List (Node × Node))
  deriving Repr

namespace Node

def tag : Node → Tag
  | scalar tag _ => tag
  | sequence tag _ => tag
  | mapping tag _ => tag

def absent : Node := scalar .null ""

mutual

def height : Node → Nat
  | scalar _ _ => 0
  | sequence _ items => itemsHeight items + 1
  | mapping _ entries => entriesHeight entries + 1

def itemsHeight : List Node → Nat
  | [] => 0
  | item :: rest => max (height item) (itemsHeight rest)

def entriesHeight : List (Node × Node) → Nat
  | [] => 0
  | (key, value) :: rest => max (max (height key) (height value)) (entriesHeight rest)

end

end Node

end StagedTables.Yaml
