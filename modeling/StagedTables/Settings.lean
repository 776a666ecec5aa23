import StagedTables.Json
import StagedTables.Logging.Setup
import StagedTables.Number.Numeral
import StagedTables.Settings.Issue
import StagedTables.Stage

/-! # Settings

What a program that works with staged tables can be configured by: the accounts, the stage, and
how it queries, creates tables and logs. -/
set_option autoImplicit false
namespace StagedTables

abbrev Count := { n : Nat // 0 < n }

def pageSizeLimit : Nat := 1000000

abbrev PageSize := { n : Nat // 0 < n ∧ n ≤ pageSizeLimit }

def defaultPageSize : PageSize := ⟨1500, by decide⟩

def PageSize.count (size : PageSize) : Count := ⟨size.1, size.2.1⟩

def defaultAttempts : Count := ⟨120, by decide⟩

/-- How often a table that is not available yet is asked for, and the seconds between. -/
structure Provisioning where
  retryDelay : Double := Double.ofDecimal false 5 0
  maxAttempts : Count := defaultAttempts
  deriving DecidableEq, Repr

inductive NamedLevel where
  | debug
  | info
  | warning
  | error
  | critical
  deriving DecidableEq, Repr

namespace NamedLevel

def all : List NamedLevel := [debug, info, warning, error, critical]

def level : NamedLevel → Logging.Level
  | debug => .debug
  | info => .info
  | warning => .warning
  | error => .error
  | critical => .critical

def name (named : NamedLevel) : String := named.level.name

def ofName? (text : String) : Option NamedLevel := all.find? (·.name = text)

end NamedLevel

structure LoggingSettings where
  level : NamedLevel := .info
  format : String := "json"
  file : Option String := none
  rotationSize : String := "10MB"
  rotationCount : Int := 5
  loggerLevels : Option (Fields String) := none
  deriving DecidableEq, Repr

def LoggingSettings.options (settings : LoggingSettings) : Logging.SetupOptions :=
  { level := settings.level.name
    format := settings.format
    file := settings.file
    rotationSize := settings.rotationSize
    rotationCount := settings.rotationCount
    loggerLevels := settings.loggerLevels }

structure Settings where
  prodConnection : Option String := none
  devConnection : Option String := none
  stage : Option Stage := none
  pageSize : PageSize := defaultPageSize
  provisioning : Provisioning := {}
  logging : LoggingSettings := {}
  deriving DecidableEq, Repr

namespace Settings

/-- Whether a development account stands beside the production account. -/
def isStaged (settings : Settings) : Bool := settings.stage.isSome

/-- A stage and a development account go together; an empty text names no account. -/
def brokenRule? (settings : Settings) : Option SettingsRule :=
  let hasDev := settings.devConnection.any (· != "")
  if settings.isStaged && !hasDev then some .stageNeedsDev
  else if hasDev && !settings.isStaged then some .devNeedsStage
  else none

def prodConnectionName : String := "prod_connection_string"
def devConnectionName : String := "dev_connection_string"
def stageName : String := "stage"
def queryName : String := "query"
def pageSizeName : String := "page_size"
def provisioningName : String := "provisioning"
def retryDelayName : String := "retry_delay"
def maxAttemptsName : String := "max_attempts"
def loggingName : String := "logging"
def levelName : String := "level"
def formatName : String := "format"
def fileName : String := "file"
def rotationSizeName : String := "rotation_size"
def rotationCountName : String := "rotation_count"
def loggerLevelsName : String := "module_levels"

def optionalText (text : Option String) : Json :=
  match text with
  | some text => .text text
  | none => .null

def levelsJson (levels : Option (Fields String)) : Json :=
  match levels with
  | some levels => .object (levels.map fun (name, level) => (name, .text level))
  | none => .null

def loggingJson (logging : LoggingSettings) : Json :=
  .object
    [(levelName, .text logging.level.name), (formatName, .text logging.format),
      (fileName, optionalText logging.file), (rotationSizeName, .text logging.rotationSize),
      (rotationCountName, .integer logging.rotationCount),
      (loggerLevelsName, levelsJson logging.loggerLevels)]

def toJson (settings : Settings) : Json :=
  .object
    [(prodConnectionName, optionalText settings.prodConnection),
      (devConnectionName, optionalText settings.devConnection),
      (stageName, optionalText (settings.stage.map (·.name))),
      (queryName, .object [(pageSizeName, .integer settings.pageSize.1)]),
      (provisioningName, .object
        [(retryDelayName, .number settings.provisioning.retryDelay),
          (maxAttemptsName, .integer settings.provisioning.maxAttempts.1)]),
      (loggingName, loggingJson settings.logging)]

def redacted (settings : Settings) : Settings :=
  { settings with
    prodConnection := settings.prodConnection.map Redaction.redact
    devConnection := settings.devConnection.map Redaction.redact }

end Settings
end StagedTables
