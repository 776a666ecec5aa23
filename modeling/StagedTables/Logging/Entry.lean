import StagedTables.Logging.Level

/-! # Log entries

What the library itself has to log: which logger says what, and at which level. -/
set_option autoImplicit false
namespace StagedTables

structure LogEntry where
  logger : String
  level : Logging.Level
  message : String
  deriving DecidableEq, Repr

end StagedTables
