import StagedTables.Text.Quoted

/-! # Faults of paths

Why the entry that a path leads to cannot be used. -/
set_option autoImplicit false
namespace StagedTables

inductive PathFaultKind where
  | isDirectory
  | fileInPlace
  | notDirectory
  | nameTooLong
  | nullCharacter
  | notEncodable
  deriving DecidableEq, Repr

structure PathFault where
  kind : PathFaultKind
  path : String
  deriving DecidableEq, Repr

namespace PathFaultKind

def className : PathFaultKind → String
  | isDirectory => "IsADirectoryError"
  | fileInPlace => "FileExistsError"
  | notDirectory => "NotADirectoryError"
  | nameTooLong => "OSError"
  | nullCharacter => "ValueError"
  | notEncodable => "UnicodeEncodeError"

def description? : PathFaultKind → Option (Nat × String)
  | isDirectory => some (21, "Is a directory")
  | fileInPlace => some (17, "File exists")
  | notDirectory => some (20, "Not a directory")
  | nameTooLong => some (36, "File name too long")
  | nullCharacter | notEncodable => none

end PathFaultKind

namespace PathFault

def className (fault : PathFault) : String := fault.kind.className

def message (fault : PathFault) : String :=
  match fault.kind.description? with
  | some (number, text) => s!"[Errno {number}] {text}: " ++ Text.quoted fault.path
  | none => if fault.kind = .notEncodable then "surrogates not allowed" else "embedded null byte"

end PathFault
end StagedTables
