import StagedTables.Text.Alphabetic
import StagedTables.Text.Numeric

/-! # Table names

A table name has 3 to 63 ASCII letters and digits and starts with a letter.  The check of the
characters lets one line feed stand at the end. -/
set_option autoImplicit false
namespace StagedTables.TableName

open Text

inductive Fault where
  | empty
  | wrongLength (length : Nat)
  | wrongCharacters
  deriving DecidableEq, Repr

def lengthMin : Nat := 3
def lengthMax : Nat := 63

/-- A letter, then letters and digits, then perhaps a line feed. -/
def hasNameForm : List Char → Bool
  | [] => false
  | c :: rest =>
    let tail := rest.dropWhile fun c => isAsciiLetter c || isAsciiDigit c
    isAsciiLetter c && (tail == [] || tail == ['\n'])

def fault? (name : String) : Option Fault :=
  let cs := name.toList
  if cs = [] then some .empty
  else if cs.length < lengthMin ∨ lengthMax < cs.length then some (.wrongLength cs.length)
  else if hasNameForm cs then none
  else some .wrongCharacters

def Fault.message : Fault → String
  | empty => "Table name cannot be empty"
  | wrongLength length =>
    s!"Table name must be between {lengthMin} and {lengthMax} characters, got {length}"
  | wrongCharacters =>
    "Table name must start with a letter and contain only alphanumeric characters"

end StagedTables.TableName
