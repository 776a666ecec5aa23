import StagedTables.Logging.SetupFault
import StagedTables.Logging.System

/-! # Setting up logging

Setup replaces the handlers of the root by a console handler and, when a file is named, a rotating
file handler; it sets the root's level and those of single loggers.  Each part is applied as it is
reached, so a setup that fails leaves what came before its fault. -/
set_option autoImplicit false
namespace StagedTables.Logging

structure SetupOptions where
  level : String := "INFO"
  format : String := "json"
  file : Option String := none
  rotationSize : String := "10MB"
  rotationCount : Int := 5
  loggerLevels : Option (Fields String) := none
  deriving DecidableEq, Repr

/-- The format that a name stands for; any name but one means plain text. -/
def LineFormat.ofName (name : String) : LineFormat := if name = "json" then .json else .text

def consoleHandler (format : LineFormat) : Handler := ⟨.console, format, .debug, true⟩

def fileHandler (format : LineFormat) (path : String) (limit backups : Int) : Handler :=
  ⟨.file path limit backups, format, .debug, true⟩

def plainRecord (created : Double) (logger : String) (level : Level) (message : String) :
    LogRecord :=
  ⟨logger, level, .text message, [], created, none, none⟩

namespace LogSystem

def logInfo (system : LogSystem) (created : Double) (message : String) : LogSystem :=
  system.log (plainRecord created rootLoggerName .info message)

def sizeLimit (files : FileStore) (file rotationSize : String) : Except SetupFault Int := do
  (files.checkDirectories (Path.parent file)).mapError .path
  let limit ← (Size.parse rotationSize).mapError .size
  match FileStore.unusableName? file, files.openFault? (Path.resolved file) with
  | some kind, _ => .error (.path ⟨kind, file⟩)
  | none, some kind => .error (.path ⟨kind, Path.resolved file⟩)
  | none, none => .ok limit

/-- Adds the rotating file handler, when a file is named. -/
def addFile (system : LogSystem) (created : Double) (options : SetupOptions) :
    LogSystem × Except SetupFault Unit :=
  match options.file.filter (· != "") with
  | none => (system, .ok ())
  | some file => match sizeLimit system.files file options.rotationSize with
    | .error fault => (system, .error fault)
    | .ok limit =>
      let path := Path.resolved file
      let handler := fileHandler (.ofName options.format) path limit options.rotationCount
      let opened := { system with
        files := system.files.touch path
        handlers := system.handlers ++ [handler] }
      let size := options.rotationSize
      (opened.logInfo created
        s!"Logging to file: {file} (rotation: {size}, count: {options.rotationCount})", .ok ())

/-- Sets the levels of single loggers, up to the first whose level has no such name. -/
def setLevels (created : Double) : List (String × String) → LogSystem →
    LogSystem × Except SetupFault Unit
  | [], system => (system, .ok ())
  | (logger, name) :: rest, system =>
    match Level.ofName name with
    | .error fault => (system, .error (.level fault))
    | .ok level =>
      setLevels created rest
        ((system.setLevel logger level).logInfo created
          s!"Module '{logger}' log level set to {name}")

def setup (system : LogSystem) (created : Double) (options : SetupOptions) :
    LogSystem × Except SetupFault Unit :=
  match Level.ofName options.level with
  | .error fault => (system, .error (.level fault))
  | .ok level =>
    let started := { system with
      rootLevel := level
      handlers := [consoleHandler (.ofName options.format)] }
    match started.addFile created options with
    | (withFile, .error fault) => (withFile, .error fault)
    | (withFile, .ok _) => match setLevels created (options.loggerLevels.getD []) withFile with
      | (withLevels, .error fault) => (withLevels, .error fault)
      | (withLevels, .ok _) =>
        (withLevels.logInfo created
          s!"Logging configured: level={options.level}, format={options.format}", .ok ())

end LogSystem

/-- The names of a record's other parts, which no value of its context may have. -/
def reservedContextNames : List String := ["logger", "level", "message"]

/-- A record made now with a context; an empty context is left out, and one with a reserved name
is refused. -/
def contextRecord? (created : Double) (logger : String) (level : Level) (message : String)
    (context : Fields Value) : Option LogRecord :=
  if reservedContextNames.any (Fields.contains context) then none
  else
    let plain := plainRecord created logger level message
    some (if context.isEmpty then plain else { plain with context := some (.record context) })

end StagedTables.Logging
