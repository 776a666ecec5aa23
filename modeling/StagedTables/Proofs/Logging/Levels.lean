import StagedTables.Proofs.Logging.Setup

/-! # Levels that outlast a setup

A setup replaces the handlers and the level of the root, but of the loggers below it only those
that it names get a level; none loses one.  Main statement: whatever setups came before one that
succeeds, it leaves the same handlers and the same level of the root.  A logger below the root has
the level that any of these setups gave last, to it or to the nearest logger above it that has one;
so only what was given to loggers that the last setup leaves out can tell histories apart. -/
set_option autoImplicit false
namespace StagedTables.Logging

/-! ## Levels given by setups -/

theorem levelOf?_isSome_iff (logger : String) (given : List (String × Level)) :
    (levelOf? logger given).isSome ↔
      LogSystem.isRoot logger = false ∧ logger ∈ given.map Prod.fst := by
  unfold levelOf? lastLevel?
  rw [List.getLast?_isSome, ne_eq, List.map_eq_nil_iff]
  constructor
  · intro chosen
    obtain ⟨⟨name, level⟩, kept⟩ := List.exists_mem_of_ne_nil _ chosen
    obtain ⟨listed, isOne⟩ := List.mem_filter.mp kept
    obtain ⟨below, rfl⟩ : LogSystem.isRoot name = false ∧ name = logger := by simpa using isOne
    exact ⟨below, List.mem_map_of_mem listed⟩
  · rintro ⟨below, listed⟩
    obtain ⟨entry, isEntry, rfl⟩ := List.mem_map.mp listed
    exact List.ne_nil_of_mem (List.mem_filter.mpr ⟨isEntry, by simp [below]⟩)

theorem levelOf?_eq_none_of_isRoot {logger : String} (root : ¬ LogSystem.isRoot logger = false)
    (given : List (String × Level)) : levelOf? logger given = none := by
  rw [← Option.not_isSome_iff_eq_none, levelOf?_isSome_iff]
  exact fun named => root named.1

theorem levelOf?_append (logger : String) (given more : List (String × Level)) :
    levelOf? logger (given ++ more) = (levelOf? logger more).or (levelOf? logger given) :=
  lastLevel?_append _ given more

theorem levelOf?_append_congr {logger : String} {given past otherPast : List (String × Level)}
    (same : logger ∉ given.map Prod.fst → levelOf? logger past = levelOf? logger otherPast) :
    levelOf? logger (past ++ given) = levelOf? logger (otherPast ++ given) := by
  rw [levelOf?_append, levelOf?_append]
  by_cases named : logger ∈ given.map Prod.fst
  · by_cases below : LogSystem.isRoot logger = false
    · have chosen := (levelOf?_isSome_iff logger given).mpr ⟨below, named⟩
      exact (Option.or_of_isSome chosen).trans (Option.or_of_isSome chosen).symm
    · rw [levelOf?_eq_none_of_isRoot below past, levelOf?_eq_none_of_isRoot below otherPast]
  · rw [same named]

/-- The levels that a setup gives to loggers: none, if it fails before it comes to them. -/
def SetupOptions.gives (options : SetupOptions) (files : FileStore) : List (String × Level) :=
  match Level.ofName options.level with
  | .error _ => []
  | .ok _ => if options.opens files then options.given else []

namespace LogSystem

theorem get?_levels_setup (system : LogSystem) (created : Double) (options : SetupOptions)
    (logger : String) :
    Fields.get? (system.setup created options).1.levels logger =
      (levelOf? logger (options.gives system.files)).or (Fields.get? system.levels logger) := by
  unfold SetupOptions.gives
  rcases system.setup_cases created options with
    ⟨fault, unknown, failed⟩ |
      ⟨level, known, ⟨shut, fault, -, later⟩ | ⟨opens, handlers, -, later, -⟩⟩
  · rw [unknown, failed]
    rfl
  · have levels := congrArg Configuration.levels later
    dsimp only [configuration] at levels
    rw [known, shut, levels]
    rfl
  · have levels := congrArg Configuration.levels later
    dsimp only [configuration] at levels
    rw [known, opens, levels, Configuration.get?_setLevels]
    rfl

def levelsGiven (system : LogSystem) : List SetupCall → List (String × Level)
  | [] => []
  | call :: rest =>
    call.options.gives system.files ++
      levelsGiven (system.setup call.created call.options).1 rest

/-- After some setups a logger has the level that they gave last. -/
theorem get?_levels_setupAll (system : LogSystem) (calls : List SetupCall) (logger : String) :
    Fields.get? (system.setupAll calls).levels logger =
      (levelOf? logger (system.levelsGiven calls)).or (Fields.get? system.levels logger) := by
  induction calls generalizing system with
  | nil => rfl
  | cons call rest ih =>
    rw [setupAll, ih, get?_levels_setup, levelsGiven, levelOf?_append, Option.or_assoc]

end LogSystem

/-! ## The same setup after two histories -/

theorem SetupOptions.Asks.unique {options : SetupOptions} {handlers others : List Handler}
    (asks : options.Asks handlers) (asksOthers : options.Asks others) : handlers = others := by
  cases asks with
  | console unnamed =>
    cases asksOthers with
    | console _ => rfl
    | file named _ => cases unnamed.symm.trans named
  | file named parsed =>
    cases asksOthers with
    | console unnamed => cases unnamed.symm.trans named
    | file otherNamed otherParsed =>
      cases named.symm.trans otherNamed
      cases parsed.symm.trans otherParsed
      rfl

namespace LogSystem

variable {system other : LogSystem}

theorem effectiveLevel_congr (sameRoot : system.rootLevel = other.rootLevel)
    (same : ∀ logger, Fields.get? system.levels logger = Fields.get? other.levels logger)
    (name : String) : system.effectiveLevel name = other.effectiveLevel name := by
  unfold effectiveLevel
  simp only [sameRoot, same]

theorem effectiveLevel_of_own {logger : String} {level : Level} (below : isRoot logger = false)
    (own : Fields.get? system.levels logger = some level) (isSet : level ≠ .notSet) :
    system.effectiveLevel logger = level := by
  have counts : (Fields.get? system.levels logger).filter (· != .notSet) = some level := by
    rw [own, Option.filter_some, if_pos (bne_iff_ne.mpr isSet)]
  unfold effectiveLevel lineage
  simp only [below, List.findSome?_cons, counts]
  rfl

theorem root_of_setup_congr {created otherCreated : Double} {options : SetupOptions}
    (succeeds : (system.setup created options).2 = .ok ())
    (otherSucceeds : (other.setup otherCreated options).2 = .ok ()) :
    (system.setup created options).1.rootLevel = (other.setup otherCreated options).1.rootLevel ∧
      (system.setup created options).1.handlers =
        (other.setup otherCreated options).1.handlers := by
  obtain ⟨asks, level, isLevel, root⟩ := root_of_setup_ok succeeds
  obtain ⟨otherAsks, otherLevel, isOther, otherRoot⟩ := root_of_setup_ok otherSucceeds
  cases isLevel.symm.trans isOther
  exact ⟨root.trans otherRoot.symm, asks.unique otherAsks⟩

theorem names_of_setup_ok {created : Double} {options : SetupOptions}
    (succeeds : (system.setup created options).2 = .ok ()) :
    options.gives system.files = options.given ∧
      options.given.map Prod.fst = (options.loggerLevels.getD []).map Prod.fst := by
  obtain ⟨level, -, isLevel, opens, -, -, names⟩ := setup_ok succeeds
  refine ⟨?_, names⟩
  unfold SetupOptions.gives
  rw [isLevel, opens]
  rfl

variable {start : LogSystem} {options : SetupOptions}

theorem levelsGiven_concat (earlier : List SetupCall) {created : Double}
    (succeeds : ((start.setupAll earlier).setup created options).2 = .ok ()) :
    start.levelsGiven (earlier ++ [⟨created, options⟩]) =
      start.levelsGiven earlier ++ options.given := by
  -- The start changes from setup to setup, since a setup may create files.
  induction earlier generalizing start with
  | nil =>
    have gives : options.gives start.files = options.given := (names_of_setup_ok succeeds).1
    change options.gives start.files ++ [] = [] ++ options.given
    rw [gives, List.append_nil, List.nil_append]
  | cons past rest ih =>
    change past.options.gives start.files ++ levelsGiven _ (rest ++ [⟨created, options⟩]) = _
    rw [ih succeeds, ← List.append_assoc]
    rfl

/-- After a setup that succeeds a logger below the root has the level that was given to it last. -/
theorem get?_levels_concat {earlier : List SetupCall} {created : Double}
    (succeeds : ((start.setupAll earlier).setup created options).2 = .ok ()) (logger : String) :
    Fields.get? (start.setupAll (earlier ++ [⟨created, options⟩])).levels logger =
      (levelOf? logger (start.levelsGiven earlier ++ options.given)).or
        (Fields.get? start.levels logger) := by
  rw [get?_levels_setupAll, levelsGiven_concat earlier succeeds]

/-- After two histories that end with the same setup, and it succeeds, the root is the same.  The
level of a logger below it is the last that was given to it, or else to the nearest logger above it
that has one.  So which loggers are enabled is the same, if the histories gave the same levels to
loggers that the last setup leaves out; such a logger keeps its level, whichever one is asked
for. -/
theorem setup_keeps_levels {earlier others : List SetupCall} {created otherCreated : Double}
    (succeeds : ((start.setupAll earlier).setup created options).2 = .ok ())
    (otherSucceeds : ((start.setupAll others).setup otherCreated options).2 = .ok ()) :
    let after := start.setupAll (earlier ++ [⟨created, options⟩])
    let otherwise := start.setupAll (others ++ [⟨otherCreated, options⟩])
    let leavesOut (logger : String) := logger ∉ (options.loggerLevels.getD []).map Prod.fst
    after.rootLevel = otherwise.rootLevel ∧ after.handlers = otherwise.handlers ∧
      (∀ name, isRoot name = false → after.effectiveLevel name =
        ((lineage name).findSome? fun logger =>
          ((levelOf? logger (start.levelsGiven earlier ++ options.given)).or
            (Fields.get? start.levels logger)).filter (· != .notSet)).getD after.rootLevel) ∧
      ((∀ logger, leavesOut logger →
          levelOf? logger (start.levelsGiven earlier) =
            levelOf? logger (start.levelsGiven others)) →
        ∀ name level, after.isEnabled name level = otherwise.isEnabled name level) ∧
      ∀ logger level, leavesOut logger → levelOf? logger (start.levelsGiven earlier) = some level →
        level ≠ .notSet → after.effectiveLevel logger = level := by
  intro after otherwise leavesOut
  have own := get?_levels_concat succeeds
  have otherOwn := get?_levels_concat otherSucceeds
  have names := (names_of_setup_ok succeeds).2
  obtain ⟨root, handlers⟩ := root_of_setup_congr succeeds otherSucceeds
  have last (calls : List SetupCall) (created : Double) :
      start.setupAll (calls ++ [⟨created, options⟩]) =
        ((start.setupAll calls).setup created options).1 := setupAll_append calls [_]
  rw [← last, ← last] at root handlers
  refine ⟨root, handlers, fun name below => ?_, fun same name level => ?_,
    fun logger level leftOut given isSet => ?_⟩
  · unfold effectiveLevel
    simp only [below, after, own]
    rfl
  · -- Loggers that the last setup names have the level it gave, the others that of before.
    have sameLevels (logger : String) :
        Fields.get? after.levels logger = Fields.get? otherwise.levels logger := by
      have given : levelOf? logger (start.levelsGiven earlier ++ options.given) =
          levelOf? logger (start.levelsGiven others ++ options.given) :=
        levelOf?_append_congr (by rw [names]; exact same logger)
      rw [own, otherOwn, given]
    unfold isEnabled
    rw [effectiveLevel_congr root sameLevels]
  · obtain ⟨below, -⟩ := (levelOf?_isSome_iff logger _).mp (Option.isSome_of_eq_some given)
    have unnamed : levelOf? logger options.given = none := by
      rw [← Option.not_isSome_iff_eq_none, levelOf?_isSome_iff, names]
      exact fun named => leftOut named.2
    have ownLevel : Fields.get? after.levels logger = some level := by
      rw [own, levelOf?_append, unnamed, given]
      rfl
    exact effectiveLevel_of_own below ownLevel isSet

/-- The level of a single logger outlasts a setup that does not name it. -/
theorem setup_keeps_levels_module :
    let now := Double.ofDecimal false 0 0
    let earlier : List SetupCall := [⟨now, { loggerLevels := some [("azuretackle", "ERROR")] }⟩]
    let options : SetupOptions := { level := "DEBUG" }
    let after := fresh.setupAll (earlier ++ [⟨now, options⟩])
    ((fresh.setupAll earlier).setup now options).2 = .ok () ∧
      (fresh.setup now options).2 = .ok () ∧
      after.rootLevel = (fresh.setupAll [⟨now, options⟩]).rootLevel ∧
      after.handlers = (fresh.setupAll [⟨now, options⟩]).handlers ∧
      after.effectiveLevel "azuretackle" = .error := by
  intro now earlier options after
  have succeeds : ((fresh.setupAll earlier).setup now options).2 = .ok () := by decide
  have alone : ((fresh.setupAll []).setup now options).2 = .ok () := by decide
  obtain ⟨root, handlers, -, -, keeps⟩ := setup_keeps_levels succeeds alone
  refine ⟨succeeds, alone, root, handlers,
    keeps "azuretackle" .error ?_ (by decide) (by decide)⟩
  exact List.not_mem_nil

/-- Two histories that end with the same setup, and only one of them gave a level to a logger.  It
counts for the loggers below that one, too. -/
theorem isEnabled_depends_on_history :
    let now := Double.ofDecimal false 0 0
    let earlier : SetupCall := ⟨now, { loggerLevels := some [("azuretackle", "ERROR")] }⟩
    let call : SetupCall := ⟨now, { level := "DEBUG" }⟩
    ((fresh.setupAll [earlier]).setup call.created call.options).2 = .ok () ∧
      (fresh.setup call.created call.options).2 = .ok () ∧
      (fresh.setupAll [earlier, call]).isEnabled "azuretackle.table" .debug = false ∧
      (fresh.setupAll [call]).isEnabled "azuretackle.table" .debug = true := by
  decide +kernel

end LogSystem
end StagedTables.Logging
