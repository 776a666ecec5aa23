import StagedTables.FileStore.Fault
import StagedTables.Logging.Level
import StagedTables.Value.Fault

/-! # Faults of setting up logging

A level without a number, a size of log files that cannot be read, or a path where no log file can
be. -/
set_option autoImplicit false
namespace StagedTables.Logging

inductive SetupFault where
  | level (fault : LevelFault)
  | size (fault : ConversionFault)
  | path (fault : PathFault)
  deriving DecidableEq, Repr

def LevelFault.className : LevelFault → String
  | unknownName => "AttributeError"
  | lineFormat => "ValueError"
  | formatTable => "TypeError"

def LevelFault.message : LevelFault → String
  | unknownName => "no such level"
  | lineFormat => "Unknown level: " ++ Text.quoted defaultLineFormat
  | formatTable => "Level not an integer or a valid string"

def SetupFault.className : SetupFault → String
  | level fault => fault.className
  | size fault => fault.className
  | path fault => fault.className

def SetupFault.message : SetupFault → String
  | level fault => fault.message
  | size fault => fault.message
  | path fault => fault.message

end StagedTables.Logging
