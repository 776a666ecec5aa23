import StagedTables.Proofs.Path
import StagedTables.Settings.Manager

/-! # What a load gives and what it changes

Loading logs what it does, but neither what it gives nor what it changes depends on the log, and
what it gives does not depend on the manager either.  Main statement: a load gives the settings that
its sources denote; it makes them the active ones when there are any, and it remembers the file that
it could read in either case. -/
set_option autoImplicit false
namespace StagedTables.Settings

variable {ο : Type} (libraries : Libraries ο)

/-! ## Settings of sources -/

def settingsOf (document : Datum ο) : Except LoadFault Settings := do
  let fields ← fieldsOf document
  (libraries.validate Settings.brokenRule? fields).mapError .invalid

def overridden [BEq ο] (document : Datum ο) (upper : Datum.Members ο) :
    Except LoadFault (Datum ο) :=
  if upper.isEmpty then .ok document else overlaid document upper

namespace Sources

def fileDocument (sources : Sources) (file : Option String) : Except LoadFault (Datum ο) :=
  match file.filter (· != "") with
  | none => .ok (.object [])
  | some name => sources.document libraries name

def readable? (sources : Sources) (file : Option String) : Option String :=
  (file.filter (· != "")).bind fun name =>
    (sources.document libraries name).toOption.map fun _ => Path.tidy name

/-- The settings that a file, the environment and a caller denote together, each laid over the one
before. -/
def settings [BEq ο] (sources : Sources) (file : Option String) (overrides : Datum.Members ο) :
    Except LoadFault Settings := do
  let fromFile ← sources.fileDocument libraries file
  let fromEnvironment ← sources.environment
  let lower ← overlaid fromFile fromEnvironment
  let document ← overridden lower overrides
  settingsOf libraries document

end Sources

def Manager.settled (manager : Manager) (given : Except LoadFault Settings) : Manager :=
  { manager with active := given.toOption.or manager.active }

/-! ## Steps of a load -/

namespace Load

/-- A step gives a result and makes one manager of another, whatever was logged before. -/
def Does {α : Type} (step : Load α) (before : Manager) (result : Except LoadFault α)
    (after : Manager) : Prop :=
  ∀ log, ∃ more, step.run.run ⟨before, log⟩ = (result, ⟨after, more⟩)

section Steps

variable {α β : Type} {step : Load α} {next : α → Load β} {manager between after : Manager}

theorem run_bind (step : Load α) (next : α → Load β) (state : LoadState) :
    (step >>= next).run.run state = match step.run.run state with
      | (.ok a, after) => (next a).run.run after
      | (.error fault, after) => (.error fault, after) := by
  change (step.run >>= ExceptT.bindCont next).run state = _
  rw [StateT.run_bind]
  rcases step.run.run state with ⟨fault | a, after⟩ <;> rfl

theorem does_pure (a : α) : Does (pure a) manager (.ok a) manager := fun log => ⟨log, rfl⟩

theorem does_throw (fault : LoadFault) :
    Does (throw fault : Load α) manager (.error fault) manager := fun log => ⟨log, rfl⟩

theorem does_liftM (result : Except LoadFault α) : Does (liftM result) manager result manager := by
  intro log
  cases result <;> exact ⟨log, rfl⟩

theorem Does.bind {a : α} {result : Except LoadFault β} (does : step.Does manager (.ok a) between)
    (goes : (next a).Does between result after) : (step >>= next).Does manager result after := by
  intro log
  obtain ⟨more, ran⟩ := does log
  rw [run_bind, ran]
  exact goes more

theorem Does.bind_error {fault : LoadFault} (does : step.Does manager (.error fault) after) :
    (step >>= next).Does manager (.error fault) after := by
  intro log
  obtain ⟨more, ran⟩ := does log
  rw [run_bind, ran]
  exact ⟨more, rfl⟩

theorem does_of_ok {given : Except LoadFault α} {a : α} {result : Except LoadFault β}
    (found : given = .ok a) (goes : (next a).Does manager result after) :
    (liftM given >>= next).Does manager result after := by
  subst found
  exact (does_liftM _).bind goes

theorem does_of_error {given : Except LoadFault α} {fault : LoadFault}
    (found : given = .error fault) :
    (liftM given >>= next).Does manager (.error fault) manager := by
  subst found
  exact (does_liftM _).bind_error

theorem Does.settles {given : Except LoadFault α} {next : α → Load Settings}
    {more : α → Except LoadFault Settings} (does : step.Does manager given between)
    (goes : ∀ a, given = .ok a → (next a).Does between (more a) (between.settled (more a))) :
    (step >>= next).Does manager (given >>= more) (between.settled (given >>= more)) := by
  cases given with
  | error fault => exact does.bind_error
  | ok a => exact does.bind (goes a rfl)

theorem does_note (level : Logging.Level) (message : String) :
    (note level message).Does manager (.ok ()) manager := fun _ => ⟨_, rfl⟩

theorem does_setFile (file : String) :
    (setFile file).Does manager (.ok ()) { manager with file := some file } := fun _ => ⟨_, rfl⟩

theorem does_setActive (settings : Settings) :
    (setActive settings).Does manager (.ok ()) { manager with active := some settings } :=
  fun _ => ⟨_, rfl⟩

theorem does_readFile (sources : Sources) (file : Option String) :
    (readFile libraries sources file).Does manager (sources.fileDocument libraries file)
      { manager with file := (sources.readable? libraries file).or manager.file } := by
  unfold readFile Sources.fileDocument Sources.readable?
  cases file.filter (· != "") with
  | none => exact does_pure _
  | some name =>
    dsimp only [Option.bind_some]
    cases found : sources.document libraries name with
    | error fault => exact does_of_error rfl
    | ok document =>
      exact does_of_ok rfl ((does_setFile _).bind ((does_note _ _).bind (does_pure _)))

theorem does_override [BEq ο] (document : Datum ο) (upper : Datum.Members ο) :
    (override document upper).Does manager (overridden document upper) manager := by
  unfold override overridden
  split
  · exact does_pure _
  · cases found : overlaid document upper with
    | error fault => exact does_of_error rfl
    | ok result => exact does_of_ok rfl ((does_note _ _).bind (does_pure _))

theorem does_activate (document : Datum ο) :
    (activate libraries document).Does manager (settingsOf libraries document)
      (manager.settled (settingsOf libraries document)) := by
  unfold activate settingsOf
  refine (does_liftM _).settles fun fields _ => ?_
  cases libraries.validate Settings.brokenRule? fields with
  | error refusal => exact (does_note _ _).bind (does_throw _)
  | ok settings =>
    exact (does_setActive _).bind ((does_note _ _).bind ((does_note _ _).bind (does_pure _)))

variable (manager) in
/-- A load remembers the file that it could read, and makes active what its sources denote. -/
theorem does_settings [BEq ο] (sources : Sources) (file : Option String)
    (overrides : Datum.Members ο) :
    let denoted := sources.settings libraries file overrides
    (settings libraries sources file overrides).Does manager denoted
      (Manager.settled { manager with file := (sources.readable? libraries file).or manager.file }
        denoted) := by
  unfold settings Sources.settings
  refine (does_note _ _).bind ((does_readFile libraries sources file).settles fun fromFile _ => ?_)
  refine (does_liftM _).settles fun fromEnvironment _ => (does_liftM _).settles fun lower _ => ?_
  dsimp only
  split
  · exact (does_note _ _).bind
      ((does_override lower overrides).settles fun document _ => does_activate libraries document)
  · exact (does_override lower overrides).settles fun document _ => does_activate libraries document

end Steps
end Load

/-! ## Loads -/

namespace Manager

variable [BEq ο] {libraries} {manager : Manager} {sources : Sources} {file : Option String}
  {overrides : Datum.Members ο}

theorem outcome_load :
    (manager.load libraries sources file overrides).outcome =
      sources.settings libraries file overrides := by
  obtain ⟨log, ran⟩ := Load.does_settings libraries manager sources file overrides []
  unfold load
  rw [ran]

theorem manager_load :
    (manager.load libraries sources file overrides).manager =
      settled { manager with file := (sources.readable? libraries file).or manager.file }
        (sources.settings libraries file overrides) := by
  obtain ⟨log, ran⟩ := Load.does_settings libraries manager sources file overrides []
  unfold load
  rw [ran]

end Manager
end StagedTables.Settings
