/-! # Issues with settings

What a validator finds wrong with values that are given for settings, and where they stand. -/
set_option autoImplicit false
namespace StagedTables

inductive SettingsRule where
  | stageNeedsDev
  | devNeedsStage
  deriving DecidableEq, Repr

def SettingsRule.message : SettingsRule → String
  | stageNeedsDev => "stage requires dev_connection_string"
  | devNeedsStage => "dev_connection_string requires a stage"

structure Issue where
  /-- The names that lead to the value, the outermost first; none for the settings as a whole. -/
  path : List String
  /-- The word by which programs tell kinds of issues apart. -/
  code : String
  /-- The rule's own message, if a rule is broken. -/
  message : Option String
  deriving DecidableEq, Repr

namespace Issue

def location (issue : Issue) : String := ".".intercalate issue.path

def under (name : String) (issue : Issue) : Issue := { issue with path := name :: issue.path }

end Issue

/-- Why a validator refuses values, with the text that it reports. -/
structure Refusal where
  issues : List Issue
  text : String
  deriving DecidableEq, Repr

end StagedTables
