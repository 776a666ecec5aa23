import StagedTables.Text.Blank
import StagedTables.Text.LetterCase
import StagedTables.Value.Conversion

/-! # Sizes in bytes

A size is an integer, or a number with a unit after it: bytes, or kilo-, mega- or gigabytes by
powers of 1024.  A number with a unit may have a fraction; the bytes are truncated towards zero. -/
set_option autoImplicit false
namespace StagedTables.Size

/-- Units with their suffixes, longer suffixes first. -/
def units : List (String × Nat) :=
  [("GB", 1024 * 1024 * 1024), ("MB", 1024 * 1024), ("KB", 1024), ("B", 1)]

def splitUnit? (cs : List Char) : Option (List Char × Nat) :=
  units.findSome? fun (suffix, bytes) =>
    if suffix.toList.isSuffixOf cs then some (cs.take (cs.length - suffix.length), bytes) else none

def parse (text : String) : Except ConversionFault Int :=
  let plain := Text.trim (Text.upper text)
  match splitUnit? plain.toList with
  | some (number, bytes) => do
    let x ← Value.doubleOfText (Text.trim (String.ofList number))
    Value.integerOfDouble (x.scale bytes)
  | none => Value.integerOfText plain

end StagedTables.Size
