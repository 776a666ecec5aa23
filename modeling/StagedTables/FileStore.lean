import StagedTables.Fields
import StagedTables.FileStore.Fault
import StagedTables.Path
import StagedTables.Text.Surrogate

/-! # Files below a working directory

The texts of files by their resolved paths.  There is a directory wherever a file stands below
it. -/
set_option autoImplicit false
namespace StagedTables

/-- The texts of files by their paths. -/
abbrev FileStore := Fields String

namespace FileStore

def touch (files : FileStore) (path : String) : FileStore :=
  if Fields.contains files path then files else Fields.set files path ""

def append (files : FileStore) (path text : String) : FileStore :=
  Fields.set files path ((Fields.get? files path).getD "" ++ text)

def erase (files : FileStore) (path : String) : FileStore :=
  files.filter fun entry => entry.1 != path

/-- Moves a file, when it is there, in place of any other. -/
def move (files : FileStore) (source target : String) : FileStore :=
  match Fields.get? files source with
  | none => files
  | some text => Fields.set (erase (erase files source) target) target text

/-- The working directory and those that lead from it to a file. -/
def isDirectory (files : FileStore) (parts : List String) : Bool :=
  parts.isEmpty || files.any fun entry =>
    let file := Path.parts entry.1
    parts.isPrefixOf file && parts != file

/-- A place that is there: somewhere above the working directory, or at some parts below it. -/
inductive Place where
  | outside
  | inside (parts : List String)
  deriving DecidableEq, Repr

inductive Lost where
  | missing
  | nameTooLong
  deriving DecidableEq, Repr

/-- One step along a path; only from a directory it leads on. -/
def step (files : FileStore) (place : Place) (part : String) : Except Lost Place :=
  match place with
  | .outside =>
    if part = Path.above then .ok .outside
    else if Path.maxPartBytes < part.utf8ByteSize then .error .nameTooLong
    else .error .missing
  | .inside parts =>
    if !files.isDirectory parts then .error .missing
    else if part = Path.above then
      .ok (if parts.isEmpty then .outside else .inside parts.dropLast)
    else if Path.maxPartBytes < part.utf8ByteSize then .error .nameTooLong
    else if files.isDirectory (parts ++ [part]) ||
        Fields.contains files (Path.render false (parts ++ [part])) then
      .ok (.inside (parts ++ [part]))
    else .error .missing

def locate (files : FileStore) (path : String) : Except Lost Place :=
  if Path.maxBytes < (Path.tidy path).utf8ByteSize then .error .nameTooLong
  else
    (Path.parts path).foldlM files.step (if Path.isRooted path then .outside else .inside [])

/-- The text of the file at a path, if there is anything at all. -/
def read (files : FileStore) (path : String) : Except PathFault (Option String) :=
  match files.locate path with
  | .error .missing => .ok none
  | .error .nameTooLong => .error ⟨.nameTooLong, Path.tidy path⟩
  | .ok .outside => .error ⟨.isDirectory, Path.tidy path⟩
  | .ok (.inside parts) =>
    match Fields.get? files (Path.render false parts) with
    | some text => .ok (some text)
    | none => .error ⟨.isDirectory, Path.tidy path⟩

def unusableName? (name : String) : Option PathFaultKind :=
  if !Text.isEncodableName name then some .notEncodable
  else if name.toList.contains '\x00' then some .nullCharacter
  else none

def meetsFile (files : FileStore) (path : String) (count : Nat) : Bool :=
  Fields.contains files
    (Path.resolved (Path.render (Path.isRooted path) ((Path.parts path).take count)))

/-- Whether the directories of a path can be made: no file may stand in the way. -/
def checkDirectories (files : FileStore) (path : String) : Except PathFault Unit :=
  let parts := Path.parts path
  let text := Path.tidy path
  if let some kind := unusableName? text then .error ⟨kind, text⟩
  else if parts.any fun part => Path.maxPartBytes < part.utf8ByteSize then
    .error ⟨.nameTooLong, text⟩
  else if (List.range parts.length).any (files.meetsFile path) then .error ⟨.notDirectory, text⟩
  else if files.meetsFile path parts.length then .error ⟨.fileInPlace, text⟩
  else .ok ()

/-- Whether a path names a directory: one above all others, or one that leads to a file. -/
def namesDirectory (files : FileStore) (path : String) : Bool :=
  let parts := Path.parts path
  parts.all (· == Path.above) || files.any fun entry =>
    let file := Path.parts entry.1
    Path.isRooted entry.1 == Path.isRooted path && parts.isPrefixOf file && parts != file

/-- Why no file can be opened at a resolved path, when its directory is there. -/
def openFault? (files : FileStore) (path : String) : Option PathFaultKind :=
  if (Path.parts path).any fun part => Path.maxPartBytes < part.utf8ByteSize then
    some .nameTooLong
  else if files.namesDirectory path then some .isDirectory
  else none

def lineBreaks : List Char :=
  ['\n', '\r', '\x0b', '\x0c', '\x1c', '\x1d', '\x1e', '\u0085', '\u2028', '\u2029']

/-- The lines of some characters, after those of the line begun; a carriage return and the line
feed after it are one break. -/
def splitLines (begun : List Char) : List Char → List (List Char)
  | [] => if begun.isEmpty then [] else [begun.reverse]
  | '\r' :: '\n' :: rest => begun.reverse :: splitLines [] rest
  | c :: rest =>
    if lineBreaks.contains c then begun.reverse :: splitLines [] rest
    else splitLines (c :: begun) rest

def linesOf (text : String) : List String := (splitLines [] text.toList).map String.ofList

def contents (files : FileStore) : List (String × List String) :=
  let inside := files.filter fun entry => Path.isInside entry.1
  (inside.mergeSort fun a b => a.1 ≤ b.1).map fun (path, text) => (path, linesOf text)

end FileStore
end StagedTables
