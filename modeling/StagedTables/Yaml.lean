import StagedTables.Yaml.Content
import StagedTables.Yaml.Layout
import StagedTables.Yaml.Structure

/-! # YAML documents

A reader of texts of YAML 1.1 that hold one document, for programs that are run; those that are
reasoned about take any. -/
set_option autoImplicit false
namespace StagedTables.Yaml

def isPrintable (c : Char) : Bool :=
  c == '\t' || c == '\n' || c == '\u0085' ||
    (0x20 ≤ c.toNat && c.toNat ≤ 0x7E) ||
    (0xA0 ≤ c.toNat && c.toNat ≤ 0xFFFD) || 0x10000 ≤ c.toNat

/-- The text with every line break written as one character, and without a byte order mark. -/
def normalText (text : String) : List Char :=
  let cs := text.toList
  let unmarked := if cs.head? = some '\uFEFF' then cs.tail else cs
  unmarked.foldr (fun c after =>
    if c = '\r' then (if after.head? = some '\n' then after else '\n' :: after) else c :: after) []

def read (text : String) : Except Fault Document :=
  let cs := normalText text
  if cs.all isPrintable then do (← Node.ofTokens (tokensOf cs)).content else .error .malformed

end StagedTables.Yaml
