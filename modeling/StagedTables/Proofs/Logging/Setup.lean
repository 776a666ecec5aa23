import Mathlib.Control.Monad.Basic
import StagedTables.Logging.Setup

/-! # What setup makes of the root

What is logged changes neither levels nor handlers, so a setup is described by the three things that
it sets: the level of the root, its handlers, and the levels of other loggers.  Main statement:
whatever setups were tried, each handler of the root masks secrets, and all of them come from the
last setup whose level has a name; after one that succeeds they are a console handler and, exactly
if a file is named, one rotating file. -/
set_option autoImplicit false
namespace StagedTables.Logging

/-! ## Configurations -/

/-- What decides where records go. -/
structure Configuration where
  rootLevel : Level
  handlers : List Handler
  levels : Fields Level

def LogSystem.configuration (system : LogSystem) : Configuration :=
  ⟨system.rootLevel, system.handlers, system.levels⟩

namespace Configuration

def setLevel (configuration : Configuration) (logger : String) (level : Level) : Configuration :=
  if LogSystem.isRoot logger then { configuration with rootLevel := level }
  else { configuration with levels := Fields.set configuration.levels logger level }

def setLevels (configuration : Configuration) : List (String × Level) → Configuration
  | [] => configuration
  | (logger, level) :: rest => setLevels (configuration.setLevel logger level) rest

end Configuration

namespace LogSystem

variable (system : LogSystem)

theorem configuration_write (sink : Sink) (line : String) :
    (system.write sink line).configuration = system.configuration := by
  cases sink <;> rfl

theorem configuration_handle (record : LogRecord) (handler : Handler) :
    (system.handle record handler).1.configuration = system.configuration := by
  unfold handle
  split
  · rfl
  · dsimp only
    split
    · exact system.configuration_write _ _
    · rfl

theorem configuration_emit (record : LogRecord) :
    (system.emit record).configuration = system.configuration := by
  have all (handlers : List Handler) (given : LogSystem × LogRecord) :
      (handlers.foldl (fun given handler => given.1.handle given.2 handler)
        given).1.configuration = given.1.configuration := by
    induction handlers generalizing given with
    | nil => rfl
    | cons handler rest ih => exact (ih _).trans (given.1.configuration_handle given.2 handler)
  exact all system.handlers (system, record)

theorem configuration_log (record : LogRecord) :
    (system.log record).configuration = system.configuration := by
  unfold log
  split
  · exact system.configuration_emit _
  · rfl

theorem configuration_setLevel (logger : String) (level : Level) :
    (system.setLevel logger level).configuration = system.configuration.setLevel logger level := by
  unfold setLevel Configuration.setLevel
  split <;> rfl

end LogSystem

/-! ## Levels of loggers -/

/-- The entries up to the first whose level has no such name. -/
def knownLevels : List (String × String) → List (String × Level)
  | [] => []
  | (logger, name) :: rest => match Level.ofName name with
    | .ok level => (logger, level) :: knownLevels rest
    | .error _ => []

def lastLevel? (isOne : String → Bool) (given : List (String × Level)) : Option Level :=
  ((given.filter fun entry => isOne entry.1).map Prod.snd).getLast?

theorem lastLevel?_cons (isOne : String → Bool) (logger : String) (level : Level)
    (rest : List (String × Level)) :
    lastLevel? isOne ((logger, level) :: rest) =
      (lastLevel? isOne rest).or (if isOne logger then some level else none) := by
  unfold lastLevel?
  rw [List.filter_cons]
  dsimp only
  split
  · rw [List.map_cons, List.getLast?_cons]
    cases ((rest.filter fun entry => isOne entry.1).map Prod.snd).getLast? <;> rfl
  · rw [Option.or_none]

theorem lastLevel?_append (isOne : String → Bool) (given more : List (String × Level)) :
    lastLevel? isOne (given ++ more) = (lastLevel? isOne more).or (lastLevel? isOne given) := by
  unfold lastLevel?
  rw [List.filter_append, List.map_append, List.getLast?_append]

def levelOf? (logger : String) (given : List (String × Level)) : Option Level :=
  lastLevel? (fun name => !LogSystem.isRoot name && name == logger) given

namespace Configuration

variable (configuration : Configuration) (given : List (String × Level))

theorem handlers_setLevels : (configuration.setLevels given).handlers = configuration.handlers := by
  induction given generalizing configuration with
  | nil => rfl
  | cons entry rest ih =>
    rw [setLevels, ih, setLevel]
    split <;> rfl

theorem rootLevel_setLevels :
    (configuration.setLevels given).rootLevel =
      (lastLevel? LogSystem.isRoot given).getD configuration.rootLevel := by
  induction given generalizing configuration with
  | nil => rfl
  | cons entry rest ih =>
    rw [setLevels, ih, lastLevel?_cons, setLevel]
    split
    · cases lastLevel? LogSystem.isRoot rest <;> rfl
    · rw [Option.or_none]

theorem get?_setLevels (logger : String) :
    Fields.get? (configuration.setLevels given).levels logger =
      (levelOf? logger given).or (Fields.get? configuration.levels logger) := by
  induction given generalizing configuration with
  | nil => rfl
  | cons entry rest ih =>
    obtain ⟨name, level⟩ := entry
    have step : Fields.get? (configuration.setLevel name level).levels logger =
        (if !LogSystem.isRoot name && name == logger then some level else none).or
          (Fields.get? configuration.levels logger) := by
      unfold setLevel
      cases LogSystem.isRoot name with
      | true => rfl
      | false =>
        by_cases same : name = logger
        · simp [same, Fields.get?_set]
        · simp [same, Fields.get?_set]
    rw [setLevels, ih, levelOf?, levelOf?, lastLevel?_cons, step, Option.or_assoc]

end Configuration

/-! ## Setups -/

namespace SetupOptions

def given (options : SetupOptions) : List (String × Level) :=
  knownLevels (options.loggerLevels.getD [])

def opens (options : SetupOptions) (files : FileStore) : Bool :=
  (options.file.filter (· != "")).all fun file =>
    (LogSystem.sizeLimit files file options.rotationSize).isOk

/-- The handlers that options ask for: a console handler, and exactly if a file is named a rotating
one for it. -/
inductive Asks (options : SetupOptions) : List Handler → Prop
  | console (unnamed : options.file.filter (· != "") = none) :
    Asks options [consoleHandler (.ofName options.format)]
  | file {file : String} {limit : Int} (named : options.file.filter (· != "") = some file)
    (parsed : Size.parse options.rotationSize = .ok limit) :
    Asks options [consoleHandler (.ofName options.format),
      fileHandler (.ofName options.format) (Path.resolved file) limit options.rotationCount]

end SetupOptions

namespace LogSystem

variable (system : LogSystem) (created : Double)

theorem setLevels_spec (entries : List (String × String)) :
    (setLevels created entries system).1.configuration =
        system.configuration.setLevels (knownLevels entries) ∧
      ((setLevels created entries system).2 = .ok () →
        (knownLevels entries).map Prod.fst = entries.map Prod.fst) := by
  induction entries generalizing system with
  | nil => exact ⟨rfl, fun _ => rfl⟩
  | cons entry rest ih =>
    obtain ⟨logger, name⟩ := entry
    unfold setLevels knownLevels
    cases Level.ofName name with
    | error fault => exact ⟨rfl, nofun⟩
    | ok level =>
      obtain ⟨later, names⟩ := ih ((system.setLevel logger level).logInfo created
        s!"Module '{logger}' log level set to {name}")
      refine ⟨?_, fun succeeds => ?_⟩
      · dsimp only
        rw [later, logInfo, configuration_log, configuration_setLevel, Configuration.setLevels]
      · rw [List.map_cons, List.map_cons, names succeeds]

theorem parse_of_sizeLimit {files : FileStore} {file size : String} {limit : Int}
    (opens : sizeLimit files file size = .ok limit) : Size.parse size = .ok limit := by
  unfold sizeLimit at opens
  cases checked : files.checkDirectories (Path.parent file) with
  | error fault =>
    rw [checked] at opens
    cases opens
  | ok _ =>
    rw [checked] at opens
    cases parsed : Size.parse size with
    | error fault =>
      rw [parsed] at opens
      cases opens
    | ok given =>
      rw [parsed] at opens
      simp only [Except.mapError, bind, Except.bind] at opens
      split at opens
      · cases opens
      · cases opens
      · cases opens
        rfl

theorem addFile_cases (options : SetupOptions) :
    (options.opens system.files = false ∧
      ∃ fault, system.addFile created options = (system, .error fault)) ∨
    (options.opens system.files = true ∧
      ∃ added, options.Asks (consoleHandler (.ofName options.format) :: added) ∧
        (system.addFile created options).2 = .ok () ∧
        (system.addFile created options).1.configuration =
          { system.configuration with handlers := system.handlers ++ added }) := by
  unfold addFile SetupOptions.opens
  cases named : options.file.filter (· != "") with
  | none =>
    refine .inr ⟨rfl, [], .console named, rfl, ?_⟩
    rw [List.append_nil]
    rfl
  | some file =>
    rw [Option.all_some]
    dsimp only
    cases opens : sizeLimit system.files file options.rotationSize with
    | error fault => exact .inl ⟨rfl, fault, rfl⟩
    | ok limit =>
      refine .inr ⟨rfl, _, .file named (parse_of_sizeLimit opens), rfl, ?_⟩
      dsimp only
      rw [logInfo, configuration_log]
      rfl

/-- What a setup makes of a configuration: nothing, if its level has no such name; a console handler
alone, if its file cannot be opened; else all that it asks for, up to a level that has no such
name. -/
theorem setup_cases (options : SetupOptions) :
    (∃ fault, Level.ofName options.level = .error fault ∧
      system.setup created options = (system, .error (.level fault))) ∨
    ∃ level, Level.ofName options.level = .ok level ∧
      ((options.opens system.files = false ∧
        ∃ fault, (system.setup created options).2 = .error fault ∧
        (system.setup created options).1.configuration =
          ⟨level, [consoleHandler (.ofName options.format)], system.levels⟩) ∨
      (options.opens system.files = true ∧ ∃ handlers, options.Asks handlers ∧
        (system.setup created options).1.configuration =
          Configuration.setLevels ⟨level, handlers, system.levels⟩ options.given ∧
        ((system.setup created options).2 = .ok () →
          options.given.map Prod.fst = (options.loggerLevels.getD []).map Prod.fst))) := by
  unfold setup
  cases Level.ofName options.level with
  | error fault => exact .inl ⟨fault, rfl, rfl⟩
  | ok level =>
    refine .inr ⟨level, rfl, ?_⟩
    dsimp only
    rcases addFile_cases { system with
        rootLevel := level
        handlers := [consoleHandler (.ofName options.format)] } created options with
      ⟨shut, fault, failed⟩ | ⟨opens, added, asks, succeeds, configured⟩
    · rw [failed]
      exact .inl ⟨shut, fault, rfl, rfl⟩
    · -- From here on only levels of loggers change, whether all of them have names or not.
      refine .inr ⟨opens, _, asks, ?_⟩
      generalize addFile _ created options = opened at succeeds configured ⊢
      obtain ⟨withFile, outcome⟩ := opened
      cases succeeds
      dsimp only at configured ⊢
      obtain ⟨later, names⟩ := withFile.setLevels_spec created (options.loggerLevels.getD [])
      rw [configured] at later
      generalize setLevels created (options.loggerLevels.getD []) withFile = levelled
        at later names ⊢
      obtain ⟨withLevels, outcome⟩ := levelled
      cases outcome with
      | error fault => exact ⟨later, nofun⟩
      | ok _ => exact ⟨(withLevels.configuration_log _).trans later, names⟩

variable {system created} in
theorem setup_ok {options : SetupOptions} (succeeds : (system.setup created options).2 = .ok ()) :
    ∃ level handlers, Level.ofName options.level = .ok level ∧
      options.opens system.files = true ∧ options.Asks handlers ∧
      (system.setup created options).1.configuration =
        Configuration.setLevels ⟨level, handlers, system.levels⟩ options.given ∧
      options.given.map Prod.fst = (options.loggerLevels.getD []).map Prod.fst := by
  rcases system.setup_cases created options with
    ⟨fault, -, failed⟩ |
      ⟨level, isLevel, ⟨-, fault, failed, -⟩ | ⟨opens, handlers, asks, later, names⟩⟩
  · rw [failed] at succeeds
    cases succeeds
  · cases failed.symm.trans succeeds
  · exact ⟨level, handlers, isLevel, opens, asks, later, names succeeds⟩

variable {system created} in
theorem root_of_setup_ok {options : SetupOptions}
    (succeeds : (system.setup created options).2 = .ok ()) :
    options.Asks (system.setup created options).1.handlers ∧
      ∃ level, Level.ofName options.level = .ok level ∧
        (system.setup created options).1.rootLevel =
          (lastLevel? isRoot options.given).getD level := by
  obtain ⟨level, handlers, isLevel, -, asks, later, -⟩ := setup_ok succeeds
  have sameHandlers : (system.setup created options).1.handlers = handlers :=
    (congrArg Configuration.handlers later).trans (Configuration.handlers_setLevels _ _)
  have sameLevel := (congrArg Configuration.rootLevel later).trans
    (Configuration.rootLevel_setLevels _ _)
  rw [sameHandlers]
  exact ⟨asks, level, isLevel, sameLevel⟩

end LogSystem

/-! ## Sequences of setups -/

structure SetupCall where
  created : Double
  options : SetupOptions

/-- A setup whose level has no such name changes nothing. -/
def SetupCall.HasLevel (call : SetupCall) : Prop :=
  ∃ level, Level.ofName call.options.level = .ok level

/-- The handlers that a setup can leave: those it asks for, or the console handler alone. -/
def SetupOptions.Leaves (options : SetupOptions) (handlers : List Handler) : Prop :=
  options.Asks handlers ∨ handlers = [consoleHandler (.ofName options.format)]

section Leaves

variable {options : SetupOptions} {handlers : List Handler}

theorem SetupOptions.Leaves.length_le (leaves : options.Leaves handlers) : handlers.length ≤ 2 := by
  rcases leaves with asks | rfl
  · cases asks <;> simp
  · simp

theorem SetupOptions.Leaves.forall_mem (leaves : options.Leaves handlers) :
    ∀ handler ∈ handlers, handler.redacts = true ∧ handler.level = .debug ∧
      handler.format = .ofName options.format := by
  rcases leaves with asks | rfl
  · cases asks <;> simp [consoleHandler, fileHandler]
  · simp [consoleHandler]

end Leaves

namespace LogSystem

def setupAll (system : LogSystem) : List SetupCall → LogSystem
  | [] => system
  | call :: rest => setupAll (system.setup call.created call.options).1 rest

variable {start : LogSystem}

theorem leaves_setup {call : SetupCall} (hasLevel : call.HasLevel) :
    call.options.Leaves (start.setup call.created call.options).1.handlers := by
  obtain ⟨given, isGiven⟩ := hasLevel
  rcases start.setup_cases call.created call.options with
    ⟨fault, unknown, -⟩ |
      ⟨level, -, ⟨-, fault, -, later⟩ | ⟨-, handlers, asks, later, -⟩⟩
  · cases isGiven.symm.trans unknown
  · exact .inr (congrArg Configuration.handlers later)
  · have same : (start.setup call.created call.options).1.handlers = handlers :=
      (congrArg Configuration.handlers later).trans (Configuration.handlers_setLevels _ _)
    rw [same]
    exact .inl asks

theorem setup_of_not_hasLevel {call : SetupCall} (unknown : ¬ call.HasLevel) :
    (start.setup call.created call.options).1 = start := by
  rcases start.setup_cases call.created call.options with ⟨fault, -, failed⟩ | ⟨level, known, -⟩
  · rw [failed]
  · exact absurd ⟨level, known⟩ unknown

theorem setupAll_append (earlier later : List SetupCall) :
    start.setupAll (earlier ++ later) = (start.setupAll earlier).setupAll later := by
  induction earlier generalizing start with
  | nil => rfl
  | cons call rest ih => exact ih

theorem setupAll_of_not_hasLevel {calls : List SetupCall}
    (unknown : ∀ call ∈ calls, ¬ call.HasLevel) : start.setupAll calls = start := by
  induction calls with
  | nil => rfl
  | cons call rest ih =>
    rw [List.forall_mem_cons] at unknown
    rw [setupAll, setup_of_not_hasLevel unknown.1, ih unknown.2]

theorem exists_last_hasLevel (calls : List SetupCall) :
    (∀ call ∈ calls, ¬ call.HasLevel) ∨
      ∃ earlier call later, calls = earlier ++ call :: later ∧ call.HasLevel ∧
        ∀ other ∈ later, ¬ other.HasLevel := by
  induction calls with
  | nil => exact .inl nofun
  | cons first rest ih =>
    rcases ih with unknown | ⟨earlier, call, later, rfl, known, unknown⟩
    · by_cases known : first.HasLevel
      · exact .inr ⟨[], first, rest, rfl, known, unknown⟩
      · exact .inl (List.forall_mem_cons.mpr ⟨known, unknown⟩)
    · exact .inr ⟨first :: earlier, call, later, rfl, known, unknown⟩

/-- The handlers are those that the last setup left whose level has a name, if there is any. -/
theorem handlers_setupAll (calls : List SetupCall) :
    (start.setupAll calls).handlers = start.handlers ∨
      ∃ earlier call later, calls = earlier ++ call :: later ∧ call.HasLevel ∧
        (∀ other ∈ later, ¬ other.HasLevel) ∧
        (start.setupAll calls).handlers =
          ((start.setupAll earlier).setup call.created call.options).1.handlers := by
  -- A setup whose level has a name starts the handlers anew, so those before it do not count.
  rcases exists_last_hasLevel calls with unknown | ⟨earlier, call, later, rfl, known, unknown⟩
  · left
    rw [setupAll_of_not_hasLevel unknown]
  · refine .inr ⟨earlier, call, later, rfl, known, unknown, ?_⟩
    rw [setupAll_append, setupAll, setupAll_of_not_hasLevel unknown]

/-- Wherever setups lead, each handler of the root masks secrets, shows all levels from the lowest
named one, and has the format of the setup that made it.  After a setup that succeeds the handlers
are those that it asks for, and the root has the level that it gave last to the root. -/
theorem root_handlers_mask (bare : start.handlers = []) (calls : List SetupCall) :
    let system := start.setupAll calls
    system.handlers.length ≤ 2 ∧
      (∀ handler ∈ system.handlers, handler.redacts = true ∧
        (∀ level, Level.debug ≤ level → ¬ level < handler.level) ∧
        ∃ earlier call later, calls = earlier ++ call :: later ∧ call.HasLevel ∧
          (∀ other ∈ later, ¬ other.HasLevel) ∧
          handler ∈ ((start.setupAll earlier).setup call.created call.options).1.handlers ∧
          handler.format = .ofName call.options.format) ∧
      ∀ call : SetupCall, (system.setup call.created call.options).2 = .ok () →
        let after := (system.setup call.created call.options).1
        call.options.Asks after.handlers ∧
          ∃ level, Level.ofName call.options.level = .ok level ∧
            after.rootLevel = (lastLevel? isRoot call.options.given).getD level := by
  intro system
  have all : system.handlers = [] ∨ ∃ earlier call later, calls = earlier ++ call :: later ∧
      call.HasLevel ∧ (∀ other ∈ later, ¬ other.HasLevel) ∧ system.handlers =
        ((start.setupAll earlier).setup call.created call.options).1.handlers := by
    rw [← bare]
    exact handlers_setupAll calls
  refine ⟨?_, fun handler listed => ?_, fun call succeeds => root_of_setup_ok succeeds⟩
  · rcases all with none | ⟨earlier, call, later, -, known, -, same⟩
    · rw [none]
      exact Nat.zero_le 2
    · rw [same]
      exact (leaves_setup known).length_le
  · rcases all with none | ⟨earlier, call, later, split, known, unknown, same⟩
    · rw [none] at listed
      exact absurd listed List.not_mem_nil
    · rw [same] at listed
      obtain ⟨masks, isDebug, format⟩ := (leaves_setup known).forall_mem handler listed
      refine ⟨masks, fun level atLeast => ?_, earlier, call, later, split, known, unknown, listed,
        format⟩
      rw [isDebug]
      exact Int.not_lt.mpr atLeast

/-- One setup fails over its rotation size, the next succeeds, and the last fails over its level. -/
theorem root_handlers_mask_failures :
    let now := Double.ofDecimal false 0 0
    let calls : List SetupCall := [
      ⟨now, { format := "text", file := some "b.log", rotationSize := "large" }⟩,
      ⟨now, { file := some "a.log" }⟩, ⟨now, { level := "loud" }⟩]
    (fresh.setupAll calls).handlers =
        [consoleHandler .json, fileHandler .json "a.log" 10485760 5] ∧
      ∀ handler ∈ (fresh.setupAll calls).handlers, handler.redacts = true := by
  intro now calls
  obtain ⟨-, masks, -⟩ := @root_handlers_mask fresh rfl calls
  exact ⟨by decide +kernel, fun handler listed => (masks handler listed).1⟩

/-- Among the levels of single loggers that of the root replaces the level that was asked for. -/
theorem setup_root_level_replaced :
    let now := Double.ofDecimal false 0 0
    let options : SetupOptions := { level := "INFO", loggerLevels := some [("root", "DEBUG")] }
    (fresh.setup now options).2 = .ok () ∧ Level.ofName options.level = .ok .info ∧
      (fresh.setup now options).1.rootLevel = .debug := by
  decide +kernel

end LogSystem
end StagedTables.Logging
