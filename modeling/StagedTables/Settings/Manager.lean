import StagedTables.Json.Writer
import StagedTables.Logging.Entry
import StagedTables.Settings.Source

/-! # Loading settings

A manager holds the settings that were loaded last and the file that was read last.  Loading lays
the environment over the file and the caller's settings over both, and then reads the result. -/
set_option autoImplicit false
namespace StagedTables.Settings

structure Manager where
  active : Option Settings
  file : Option String
  deriving DecidableEq, Repr

structure LoadState where
  manager : Manager
  log : List LogEntry
  deriving DecidableEq, Repr

/-- A step of a load; what a failing step has changed stays changed. -/
abbrev Load := ExceptT LoadFault (StateM LoadState)

namespace Load

def loggerName : String := "azuretackle.core.config_manager"

def note (level : Logging.Level) (message : String) : Load Unit :=
  modify fun state => { state with log := state.log ++ [⟨loggerName, level, message⟩] }

def setFile (file : String) : Load Unit :=
  modify fun state => { state with manager := { state.manager with file := some file } }

def setActive (settings : Settings) : Load Unit :=
  modify fun state => { state with manager := { state.manager with active := some settings } }

variable {ο : Type} (libraries : Libraries ο)

/-- The document in a file; an empty name stands for no file. -/
def readFile (sources : Sources) (file : Option String) : Load (Datum ο) := do
  match file.filter (· != "") with
  | none => return .object []
  | some name =>
    let document ← sources.document libraries name
    setFile (Path.tidy name)
    note .info s!"Loaded configuration from file: {name}"
    return document

def override [BEq ο] (document : Datum ο) (upper : Datum.Members ο) : Load (Datum ο) := do
  if upper.isEmpty then return document
  let result ← overlaid document upper
  note .info s!"Applied {upper.length} explicit overrides"
  return result

def noteInvalid (refusal : Refusal) : Load Unit :=
  note .error ("Configuration validation failed: " ++ Redaction.redact refusal.text)

def activate (document : Datum ο) : Load Settings := do
  let fields ← fieldsOf document
  match libraries.validate Settings.brokenRule? fields with
  | .error refusal =>
    noteInvalid refusal
    throw (.invalid refusal)
  | .ok settings =>
    setActive settings
    note .info "Configuration validated successfully"
    note .info ("Active configuration: " ++ settings.redacted.toJson.indented 2)
    return settings

def settings [BEq ο] (sources : Sources) (file : Option String)
    (overrides : Datum.Members ο) : Load Settings := do
  note .info "Loading AzureTackle configuration"
  let fromFile ← readFile libraries sources file
  let fromEnvironment ← sources.environment
  let document ← overlaid fromFile fromEnvironment
  if !fromEnvironment.isEmpty then
    note .info s!"Applied {fromEnvironment.length} environment variable overrides"
  let document ← override document overrides
  activate libraries document

end Load

structure Loaded where
  manager : Manager
  log : List LogEntry
  outcome : Except LoadFault Settings

namespace Manager

def fresh : Manager := ⟨none, none⟩

variable {ο : Type} [BEq ο] (libraries : Libraries ο)

def load (manager : Manager) (sources : Sources) (file : Option String)
    (overrides : Datum.Members ο) : Loaded :=
  match (Load.settings libraries sources file overrides).run.run ⟨manager, []⟩ with
  | (outcome, state) => ⟨state.manager, state.log, outcome⟩

/-- Loads again from the file that was read last, if any, without the caller's settings. -/
def reload (manager : Manager) (sources : Sources) : Loaded :=
  manager.load libraries sources manager.file []

def notLoaded : String := "Configuration not loaded. Call load() first."

def get (manager : Manager) : Except String Settings :=
  match manager.active with
  | some settings => .ok settings
  | none => .error notLoaded

end Manager
end StagedTables.Settings
