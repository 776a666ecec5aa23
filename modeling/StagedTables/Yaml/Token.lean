import StagedTables.Yaml.Fault

/-! # Tokens of YAML

What the structure of a document is made of.  Collections that are told by their indentation have
tokens for their start and end as bracketed ones do. -/
set_option autoImplicit false
namespace StagedTables.Yaml

inductive Directive where
  | version (major minor : Nat)
  | tagHandle (handle uri : String)
  | other
  deriving DecidableEq, Repr

inductive Token where
  | directive (directive : Directive)
  | documentStart
  | documentEnd
  | blockSequenceStart
  | blockMappingStart
  | blockEnd
  | flowSequenceStart
  | flowSequenceEnd
  | flowMappingStart
  | flowMappingEnd
  | blockEntry
  | flowEntry
  | key
  | value
  | reference (name : String)
  | anchor (name : String)
  | tag (handle : Option String) (rest : String)
  | scalar (text : String) (isPlain : Bool)
  /-- From here on the text has no tokens. -/
  | broken (fault : Fault)
  deriving DecidableEq, Repr

end StagedTables.Yaml
