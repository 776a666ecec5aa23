import StagedTables.FileStore
import StagedTables.Json.Reader
import StagedTables.Settings.Issue
import StagedTables.Settings.Merge
import StagedTables.Settings
import StagedTables.Value.Conversion

/-! # Where settings come from

Settings are gathered from a file, from the environment and from the caller, each laid over the
one before.  A file is in YAML or JSON as its suffix says.  The libraries that read YAML and
validate settings are not part of the program. -/
set_option autoImplicit false
namespace StagedTables.Settings

structure Libraries (ο : Type) where
  /-- The data in a text of YAML. -/
  loadYaml : String → Except ForeignError (Datum ο)
  /-- The settings that named data denote, if each is valid and together they break no rule. -/
  validate : (Settings → Option SettingsRule) → Fields (Datum ο) → Except Refusal Settings

inductive LoadFault where
  | missingFile (name : String)
  | path (fault : PathFault)
  | unknownFormat (suffix : String)
  | jsonText
  | yaml (error : ForeignError)
  | integerTooLong (digits : Nat)
  | pageSize (fault : ConversionFault)
  | listOfSettings
  | scalarSettings
  | unnamedSetting
  | invalid (refusal : Refusal)
  deriving DecidableEq, Repr

namespace LoadFault

def className : LoadFault → String
  | missingFile _ => "FileNotFoundError"
  | path fault => fault.className
  | unknownFormat _ => "ValueError"
  | jsonText => "JSONDecodeError"
  | yaml error => error.kind.className
  | integerTooLong _ => "ValueError"
  | pageSize _ => "ValueError"
  | listOfSettings => "TypeError"
  | scalarSettings => "AttributeError"
  | unnamedSetting => "TypeError"
  | invalid _ => "ValidationError"

def message? : LoadFault → Option String
  | missingFile name => some s!"Configuration file not found: {name}"
  | path fault => some fault.message
  | unknownFormat suffix => some s!"Unsupported config file format: {suffix}"
  | yaml error => some error.message
  | integerTooLong digits => some (ValueFault.numeralTooLong digits).message
  | pageSize fault => some fault.message
  | _ => none

end LoadFault

variable {ο : Type}

/-- The settings of a mapping; a mapping with an entry that is not named by a text has none. -/
def namedFields (members : Datum.Members ο) : Except LoadFault (Fields (Datum ο)) :=
  match members.mapM fun (name, datum) => name.text?.map (·, datum) with
  | some fields => .ok fields
  | none => .error .unnamedSetting

/-- Lays settings over what a file holds; over a list only nothing can be laid. -/
def overlaid [BEq ο] (document : Datum ο) (upper : Datum.Members ο) :
    Except LoadFault (Datum ο) :=
  match document with
  | .object members => .ok (.object (merge members upper))
  | .scalar _ | .other _ => .error .scalarSettings
  | list => if upper.isEmpty then .ok list else .error .listOfSettings

def fieldsOf (document : Datum ο) : Except LoadFault (Fields (Datum ο)) :=
  match document with
  | .object members => namedFields members
  | .scalar _ | .other _ => .error .scalarSettings
  | _ => .error .listOfSettings

structure Sources where
  files : FileStore
  exported : Fields String
  deriving DecidableEq, Repr

namespace Sources

def yamlSuffixes : List String := [".yaml", ".yml"]

def jsonSuffix : String := ".json"

/-- What a text holds.  YAML that holds nothing, or a value that counts as false, has no
settings. -/
def documentOfText (libraries : Libraries ο) (suffix text : String) :
    Except LoadFault (Datum ο) :=
  if suffix ∈ yamlSuffixes then
    match libraries.loadYaml text with
    | .ok datum => .ok (if datum.isTruthy then datum else .object [])
    | .error error => .error (.yaml error)
  else if suffix = jsonSuffix then
    match Json.read text with
    | .ok json => .ok (.ofJson json)
    | .error (.integerTooLong digits) => .error (.integerTooLong digits)
    | .error .malformed => .error .jsonText
  else .error (.unknownFormat suffix)

def document (sources : Sources) (libraries : Libraries ο) (name : String) :
    Except LoadFault (Datum ο) :=
  match sources.files.read name with
  | .error fault => .error (.path fault)
  | .ok none => .error (.missingFile name)
  | .ok (some text) => documentOfText libraries (Path.suffix name) text

/-- A variable that is set to more than an empty text. -/
def lookup? (sources : Sources) (name : String) : Option String :=
  (Fields.get? sources.exported name).filter (· != "")

def entry (name : String) (value : Option (Datum ο)) : Datum.Members ο :=
  match value with
  | some value => [(.text name, value)]
  | none => []

def section? (entries : Datum.Members ο) : Option (Datum ο) :=
  if entries.isEmpty then none else some (.object entries)

def pageSize (sources : Sources) : Except LoadFault (Option (Datum ο)) :=
  match sources.lookup? "AZURETACKLE_PAGE_SIZE" with
  | none => .ok none
  | some text => match Value.integerOfText text with
    | .ok n => .ok (some (.integer n))
    | .error fault => .error (.pageSize fault)

def environment (sources : Sources) : Except LoadFault (Datum.Members ο) := do
  let text := fun (name : String) (change : String → String) =>
    (sources.lookup? name).map fun value => (Datum.text (change value) : Datum ο)
  let size ← sources.pageSize
  return entry prodConnectionName (text "AZURETACKLE_PROD_CONNECTION_STRING" id) ++
    entry devConnectionName (text "AZURETACKLE_DEV_CONNECTION_STRING" id) ++
    entry stageName (text "AZURETACKLE_STAGE" Text.lower) ++
    entry queryName (section? (entry pageSizeName size)) ++
    entry loggingName (section?
      (entry levelName (text "AZURETACKLE_LOG_LEVEL" Text.upper) ++
        entry formatName (text "AZURETACKLE_LOG_FORMAT" Text.lower)))

end Sources
end StagedTables.Settings
