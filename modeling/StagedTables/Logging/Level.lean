import StagedTables.Text.LetterCase

/-! # Log levels

A level is an integer; the usual ones have names. -/
set_option autoImplicit false
namespace StagedTables.Logging

abbrev Level := Int

namespace Level

def notSet : Level := 0
def debug : Level := 10
def info : Level := 20
def warning : Level := 30
def error : Level := 40
def critical : Level := 50

def name (level : Level) : String :=
  if level = notSet then "NOTSET"
  else if level = debug then "DEBUG"
  else if level = info then "INFO"
  else if level = warning then "WARNING"
  else if level = error then "ERROR"
  else if level = critical then "CRITICAL"
  else s!"Level {level}"

def named : List (String × Level) :=
  [("CRITICAL", critical), ("FATAL", critical), ("ERROR", error), ("WARN", warning),
    ("WARNING", warning), ("INFO", info), ("DEBUG", debug), ("NOTSET", notSet)]

end Level

/-- What a name in place of a level's stands for: nothing, the default line format, or the table
of line formats. -/
inductive LevelFault where
  | unknownName
  | lineFormat
  | formatTable
  deriving DecidableEq, Repr

def defaultLineFormat : String := "%(levelname)s:%(name)s:%(message)s"

/-- The level with a name, in any letter case. -/
def Level.ofName (name : String) : Except LevelFault Level :=
  let key := Text.upper name
  match Level.named.find? (·.1 = key) with
  | some (_, level) => .ok level
  | none =>
    if key = "BASIC_FORMAT" then .error .lineFormat
    else if key = "_STYLES" then .error .formatTable
    else .error .unknownName

end StagedTables.Logging
