import StagedTables.Foreign
import StagedTables.Value.Conversion

/-! # Faults of YAML texts

Why a text is no document.  Apart from faults of the grammar, a scalar may not have the form that
its tag asks for. -/
set_option autoImplicit false
namespace StagedTables.Yaml

inductive Fault where
  | malformed
  | conversion (fault : ConversionFault)
  | noDigits
  | unknownTruth (word : String)
  | noTimestamp
  | characterCode
  | characterCodeSize
  deriving DecidableEq, Repr

namespace Fault

def className : Fault → String
  | malformed => "YAMLError"
  | conversion fault => fault.className
  | noDigits => "IndexError"
  | unknownTruth _ => "KeyError"
  | noTimestamp => "AttributeError"
  | characterCode => "ValueError"
  | characterCodeSize => "OverflowError"

/-- The text of a fault, empty for one that has none of its own. -/
def text : Fault → String
  | malformed => ""
  | conversion fault => fault.message
  | noDigits => "string index out of range"
  | unknownTruth word => word
  | noTimestamp => ""
  | characterCode => "chr() arg not in range(0x110000)"
  | characterCodeSize => "Python int too large to convert to C int"

def error (fault : Fault) : ForeignError :=
  ⟨(ForeignKind.ofClassName? fault.className).getD (.other fault.className false false), fault.text⟩

end Fault
end StagedTables.Yaml
