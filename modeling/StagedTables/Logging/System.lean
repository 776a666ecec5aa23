import StagedTables.Logging.Rotation
import StagedTables.Logging.Format
import StagedTables.Size

/-! # The logging system

Loggers form a tree by their dotted names, below the root.  A logger without a level of its own
has that of the nearest logger above it that has one.  Records of every logger reach the handlers
of the root. -/
set_option autoImplicit false
namespace StagedTables.Logging

inductive Sink where
  | console
  | file (path : String) (sizeLimit : Int) (backups : Int)
  deriving DecidableEq, Repr

structure Handler where
  sink : Sink
  format : LineFormat
  level : Level
  redacts : Bool
  deriving DecidableEq, Repr

structure LogSystem where
  rootLevel : Level
  handlers : List Handler
  /-- The levels of loggers below the root that have been given one. -/
  levels : Fields Level
  files : FileStore
  /-- What the console showed, oldest first. -/
  printed : List String
  deriving Repr

namespace LogSystem

def fresh : LogSystem := ⟨.warning, [], [], [], []⟩

def isRoot (name : String) : Bool := name == "" || name == rootLoggerName

/-- The part of a dotted name before its last dot, when that part is not empty. -/
def parentChars? (cs : List Char) : Option (List Char) :=
  let above := (cs.reverse.dropWhile (· != '.')).drop 1
  if above = [] then none else some above.reverse

theorem parentChars?_length {cs above : List Char} (parent : parentChars? cs = some above) :
    above.length < cs.length := by
  simp only [parentChars?] at parent
  split at parent
  · exact absurd parent (by simp)
  · rename_i nonempty
    have dropped : (cs.reverse.dropWhile (· != '.')).length ≤ cs.length := by
      have := (List.dropWhile_sublist (· != '.') (l := cs.reverse)).length_le
      simpa using this
    have positive : 0 < ((cs.reverse.dropWhile (· != '.')).drop 1).length :=
      List.length_pos_iff.mpr nonempty
    have same := Option.some.inj parent
    subst same
    simp only [List.length_drop, List.length_reverse] at positive ⊢
    omega

/-- A parent and the names above it.  The search for a further parent leaves out the character
before a dot. -/
def ancestors (cs : List Char) : List (List Char) :=
  match _found : parentChars? cs.dropLast with
  | none => [cs]
  | some above => cs :: ancestors above
termination_by cs.length
decreasing_by
  have := parentChars?_length _found
  simp only [List.length_dropLast] at this
  omega

def lineage (name : String) : List String :=
  let above := match parentChars? name.toList with
    | none => []
    | some parent => ancestors parent
  name :: above.map String.ofList

/-- The level that a logger has by its own or its nearest ancestor's setting. -/
def effectiveLevel (system : LogSystem) (name : String) : Level :=
  if isRoot name then system.rootLevel
  else
    let own := (lineage name).findSome? fun logger =>
      (Fields.get? system.levels logger).filter (· != .notSet)
    own.getD system.rootLevel

/-- Whether a logger passes on records of a level; levels up to zero never pass. -/
def isEnabled (system : LogSystem) (name : String) (level : Level) : Bool :=
  0 < level && system.effectiveLevel name ≤ level

def write (system : LogSystem) (sink : Sink) (line : String) : LogSystem :=
  match sink with
  | .console => { system with printed := system.printed ++ [line] }
  | .file path limit backups =>
    { system with files := system.files.appendLine path limit backups.toNat line }

/-- Hands a record to a handler.  A masking handler changes the record for those after it; a
record that has no line is dropped. -/
def handle (system : LogSystem) (record : LogRecord) (handler : Handler) :
    LogSystem × LogRecord :=
  if record.level < handler.level then (system, record)
  else
    let record := if handler.redacts then record.redactMessage else record
    match handler.format.render record with
    | .ok line => (system.write handler.sink line, record)
    | .error _ => (system, record)

def emit (system : LogSystem) (record : LogRecord) : LogSystem :=
  (system.handlers.foldl (fun (system, record) handler => system.handle record handler)
    (system, record)).1

def log (system : LogSystem) (record : LogRecord) : LogSystem :=
  if system.isEnabled record.logger record.level then
    let logger := if isRoot record.logger then rootLoggerName else record.logger
    system.emit { record with logger }
  else system

def setLevel (system : LogSystem) (name : String) (level : Level) : LogSystem :=
  if isRoot name then { system with rootLevel := level }
  else { system with levels := Fields.set system.levels name level }

def printedLines (system : LogSystem) (count : Nat) : List String :=
  (system.printed.drop count).flatMap fun text => FileStore.linesOf (text ++ "\n")

end LogSystem
end StagedTables.Logging
