import Mathlib.Control.Monad.Basic
import StagedTables.Proofs.Settings.Loading
import StagedTables.Settings.Usual

/-! # Loading again

A manager is asked to load and to load again, in any order, while files and environment change
between the calls.  It remembers two things: the settings that the last successful call gave, and
the last file that a call could read, whether that call then succeeded or not.  So a call that fails
after it read a new file is noticed by the next reload, though the active settings stay.  And since
nothing else is remembered, a reload gives what the remembered file denotes with the environment
alone: a caller's settings are lost, and a load from no file does not forget the file before it. -/
set_option autoImplicit false
namespace StagedTables.Settings

/-! ## Histories -/

inductive ManagerCall (ο : Type) where
  | load (file : Option String) (overrides : Datum.Members ο)
  | reload

structure Loading (ο : Type) where
  sources : Sources
  call : ManagerCall ο

variable {ο : Type} (libraries : Libraries ο)

namespace Loading

def perform [BEq ο] (loading : Loading ο) (manager : Manager) : Loaded :=
  match loading.call with
  | .load file overrides => manager.load libraries loading.sources file overrides
  | .reload => manager.reload libraries loading.sources

def readable? (loading : Loading ο) : Option String :=
  match loading.call with
  | .load file _ => loading.sources.readable? libraries file
  | .reload => none

end Loading

namespace Manager

variable [BEq ο]

def after (manager : Manager) (calls : List (Loading ο)) : Manager :=
  calls.foldl (fun manager loading => (loading.perform libraries manager).manager) manager

def outcomes (manager : Manager) : List (Loading ο) → List (Except LoadFault Settings)
  | [] => []
  | loading :: rest =>
    let loaded := loading.perform libraries manager
    loaded.outcome :: outcomes loaded.manager rest

/-- No calls from now on tell two managers apart. -/
def LooksLike (manager other : Manager) : Prop :=
  ∀ later : List (Loading ο), manager.outcomes libraries later = other.outcomes libraries later ∧
    (manager.after libraries later).get = (other.after libraries later).get

end Manager

def lastRead? (history : List (Loading ο)) : Option String :=
  (history.filterMap (Loading.readable? libraries)).getLast?

/-! ## Remembered files -/

variable {libraries}

theorem ne_of_filter {file : Option String} {name : String}
    (named : file.filter (· != "") = some name) : name ≠ "" :=
  bne_iff_ne.mp (Option.filter_eq_some_iff.mp named).2

theorem Sources.fileDocument_some {sources : Sources} {name : String} (named : name ≠ "") :
    sources.fileDocument libraries (some name) = sources.document libraries name := by
  unfold fileDocument
  rw [Option.filter_some, if_pos (bne_iff_ne.mpr named)]

theorem Sources.document_tidy {sources : Sources} {name : String} {document : Datum ο}
    (found : sources.document libraries name = .ok document) :
    sources.document libraries (Path.tidy name) = .ok document := by
  unfold Sources.document at found ⊢
  rw [FileStore.read_tidy, Path.suffix_tidy]
  cases content : sources.files.read name with
  | error fault =>
    rw [content] at found
    cases found
  | ok text =>
    rw [content] at found
    cases text with
    | none => cases found
    | some text => exact found

theorem Sources.readable?_eq_some {sources : Sources} {file : Option String} {tidied : String}
    (readable : sources.readable? libraries file = some tidied) :
    ∃ name document, file.filter (· != "") = some name ∧
      sources.document libraries name = .ok document ∧ tidied = Path.tidy name := by
  obtain ⟨name, named, found⟩ := Option.bind_eq_some_iff.mp readable
  obtain ⟨document, given, rfl⟩ := Option.map_eq_some_iff.mp found
  cases read : sources.document libraries name with
  | error fault =>
    rw [read] at given
    cases given
  | ok other => exact ⟨name, other, named, read, rfl⟩

def Manager.IsTidy (manager : Manager) : Prop :=
  ∀ name, manager.file = some name → Path.tidy name = name

theorem Sources.tidy_of_readable? {sources : Sources} {file : Option String} {name : String}
    (readable : sources.readable? libraries file = some name) : Path.tidy name = name := by
  obtain ⟨given, document, -, -, rfl⟩ := readable?_eq_some readable
  exact Path.tidy_tidy given

namespace Manager

variable [BEq ο] {manager : Manager} {sources : Sources}

theorem isTidy_fresh : fresh.IsTidy := nofun

omit [BEq ο] in
theorem IsTidy.remembers (tidy : manager.IsTidy) :
    (sources.readable? libraries manager.file).or manager.file = manager.file := by
  cases readable : sources.readable? libraries manager.file with
  | none => exact Option.none_or
  | some name =>
    obtain ⟨given, document, named, -, rfl⟩ := Sources.readable?_eq_some readable
    obtain ⟨remembered, -⟩ := Option.filter_eq_some_iff.mp named
    rw [remembered, Option.some_or, tidy given remembered]

/-- A call makes active what it gives, and remembers the file that its caller named. -/
theorem IsTidy.perform (tidy : manager.IsTidy) (loading : Loading ο) :
    (loading.perform libraries manager).manager =
      settled { manager with file := (loading.readable? libraries).or manager.file }
        (loading.perform libraries manager).outcome := by
  obtain ⟨sources, call⟩ := loading
  cases call with
  | load file overrides =>
    change (manager.load libraries sources file overrides).manager =
      settled _ (manager.load ..).outcome
    rw [manager_load, outcome_load]
    rfl
  | reload =>
    change (manager.load libraries sources manager.file []).manager =
      settled _ (manager.load ..).outcome
    rw [manager_load, outcome_load, tidy.remembers]
    rfl

theorem IsTidy.perform_isTidy (tidy : manager.IsTidy) (loading : Loading ο) :
    (loading.perform libraries manager).manager.IsTidy := by
  rw [tidy.perform]
  intro name remembered
  rcases Option.or_eq_some_iff.mp remembered with readable | ⟨-, kept⟩
  · obtain ⟨sources, call⟩ := loading
    cases call with
    | load file overrides => exact Sources.tidy_of_readable? readable
    | reload => cases readable
  · exact tidy name kept

theorem IsTidy.after (tidy : manager.IsTidy) (calls : List (Loading ο)) :
    (manager.after libraries calls).IsTidy := by
  induction calls generalizing manager with
  | nil => exact tidy
  | cons loading rest ih => exact ih (tidy.perform_isTidy loading)

theorem IsTidy.file_after (tidy : manager.IsTidy) (calls : List (Loading ο)) :
    (manager.after libraries calls).file = (lastRead? libraries calls).or manager.file := by
  induction calls generalizing manager with
  | nil => rfl
  | cons loading rest ih =>
    change (((loading.perform libraries manager).manager).after libraries rest).file = _
    rw [ih (tidy.perform_isTidy loading), tidy.perform]
    change (lastRead? libraries rest).or ((loading.readable? libraries).or manager.file) = _
    unfold lastRead?
    cases readable : loading.readable? libraries with
    | none => rw [List.filterMap_cons_none readable, Option.none_or]
    | some name =>
      rw [List.filterMap_cons_some readable, List.getLast?_cons]
      cases (rest.filterMap (Loading.readable? libraries)).getLast? <;> rfl

end Manager

/-! ## Failed calls -/

def Sources.nowhere : Sources := ⟨[], []⟩

def LoadFault.file? : LoadFault → Option String
  | missingFile name => some name
  | path fault => some fault.path
  | _ => none

def toldFile? : Except LoadFault Settings → Option String
  | .ok _ => none
  | .error fault => fault.file?

theorem Sources.document_nowhere {name : String} (tidy : Path.tidy name = name) :
    ∃ fault, nowhere.document libraries name = .error fault ∧ fault.file? = some name := by
  unfold document FileStore.read
  rw [tidy]
  cases nowhere.files.locate name with
  | error lost =>
    cases lost with
    | missing => exact ⟨_, rfl, rfl⟩
    | nameTooLong => exact ⟨_, rfl, rfl⟩
  | ok place =>
    cases place with
    | outside => exact ⟨_, rfl, rfl⟩
    | inside parts => exact ⟨_, rfl, rfl⟩

namespace Manager

variable [BEq ο] {manager other : Manager}

/-- A reload where there are no files tells which file is remembered. -/
theorem IsTidy.toldFile_reload_nowhere (tidy : manager.IsTidy) :
    toldFile? (manager.reload libraries .nowhere).outcome = manager.file := by
  unfold reload
  rw [outcome_load]
  cases remembered : manager.file with
  | none =>
    change toldFile? ((libraries.validate Settings.brokenRule? []).mapError .invalid) = none
    cases libraries.validate Settings.brokenRule? [] <;> rfl
  | some name =>
    -- The file is missing, and the fault carries its name.
    have isTidy := tidy name remembered
    obtain ⟨fault, missing, isAbout⟩ := Sources.document_nowhere isTidy
    have named : name ≠ "" := isTidy ▸ Path.tidy_ne_empty name
    unfold Sources.settings
    rw [Sources.fileDocument_some named, missing]
    exact isAbout

theorem IsTidy.file_eq_of_looksLike (tidy : manager.IsTidy) (otherTidy : other.IsTidy)
    (same : manager.LooksLike libraries other) : manager.file = other.file := by
  have agrees : (manager.reload libraries .nowhere).outcome =
      (other.reload libraries .nowhere).outcome :=
    (List.cons.inj (same [⟨.nowhere, .reload⟩]).1).1
  calc
    manager.file = toldFile? (manager.reload libraries .nowhere).outcome :=
      tidy.toldFile_reload_nowhere.symm
    _ = toldFile? (other.reload libraries .nowhere).outcome := by rw [agrees]
    _ = other.file := otherTidy.toldFile_reload_nowhere

/-- A failed call leaves the active settings.  It is noticed later exactly if it could read a file
other than the one that was remembered. -/
theorem failed_call_noticed_iff {history : List (Loading ο)} {loading : Loading ο}
    {fault : LoadFault}
    (failed : (loading.perform libraries (fresh.after libraries history)).outcome = .error fault) :
    let before := fresh.after libraries history
    let later := (loading.perform libraries before).manager
    later.get = before.get ∧ later.file = (loading.readable? libraries).or before.file ∧
      (later.LooksLike libraries before ↔ later = before) ∧
      (later = before ↔ ∀ name, loading.readable? libraries = some name →
        lastRead? libraries history = some name) := by
  intro before later
  have tidy : before.IsTidy := isTidy_fresh.after history
  have changed : later = { before with file := (loading.readable? libraries).or before.file } := by
    refine (tidy.perform loading).trans ?_
    rw [failed]
    rfl
  have remembered : before.file = lastRead? libraries history := by
    rw [isTidy_fresh.file_after history]
    exact Option.or_none
  have unchanged_iff : later = before ↔ later.file = before.file := by
    refine ⟨fun same => by rw [same], fun same => ?_⟩
    rw [changed] at same ⊢
    change (loading.readable? libraries).or before.file = before.file at same
    rw [same]
  refine ⟨by rw [changed]; rfl, by rw [changed], ⟨fun same => ?_, ?_⟩, ?_⟩
  · exact unchanged_iff.mpr ((tidy.perform_isTidy loading).file_eq_of_looksLike tidy same)
  · rintro same calls
    rw [same]
    exact ⟨rfl, rfl⟩
  · rw [unchanged_iff, changed, remembered]
    cases loading.readable? libraries with
    | none => simp
    | some name => simp [eq_comm]

def smallPages : Settings := { pageSize := ⟨10, by decide⟩ }

def pageSizeFiles : Sources :=
  ⟨[("a.json", "\x7b\"query\": \x7b\"page_size\": 10\x7d\x7d"),
    ("b.json", "\x7b\"query\": \x7b\"page_size\": 0\x7d\x7d")], []⟩

def noPages : Refusal :=
  ⟨[⟨["query", "page_size"], "greater_than_equal", none⟩], "query.page_size greater_than_equal"⟩

/-- A load from a file without valid settings, after one from a file with such. -/
theorem failed_call_noticed_new_file :
    let before := fresh.after .usual [⟨pageSizeFiles, .load (some "a.json") []⟩]
    let failing : Loading Scalar := ⟨pageSizeFiles, .load (some "b.json") []⟩
    let failed := failing.perform .usual before
    failed.outcome = .error (.invalid noPages) ∧ failed.manager.get = before.get ∧
      ¬ failed.manager.LooksLike .usual before := by
  intro before failing failed
  have refused : failed.outcome = .error (.invalid noPages) := by decide +kernel
  obtain ⟨kept, -, noticed, changed⟩ := failed_call_noticed_iff refused
  refine ⟨refused, kept, fun same => ?_⟩
  exact absurd (changed.mp (noticed.mp same) "b.json" (by decide +kernel)) (by decide +kernel)

/-- The settings of the first file stay active, but cannot be loaded again any more. -/
theorem failed_load_breaks_reload :
    let before := fresh.after .usual [⟨pageSizeFiles, .load (some "a.json") []⟩]
    let later := (before.load .usual pageSizeFiles (some "b.json") []).manager
    before.get = .ok smallPages ∧ later.get = .ok smallPages ∧
      (before.reload .usual pageSizeFiles).outcome = .ok smallPages ∧
      (later.reload .usual pageSizeFiles).outcome = .error (.invalid noPages) := by
  decide +kernel

end Manager

/-! ## Reloads -/

theorem Sources.settings_eq [BEq ο] {sources : Sources} {file other : Option String}
    {overrides : Datum.Members ο}
    (same : sources.fileDocument libraries file = sources.fileDocument libraries other) :
    sources.settings libraries file overrides = sources.settings libraries other overrides := by
  unfold settings
  rw [same]

theorem Sources.fileDocument_filter (sources : Sources) (file : Option String) :
    sources.fileDocument libraries (file.filter (· != "")) =
      sources.fileDocument libraries file := by
  unfold fileDocument
  rw [Option.filter_filter]
  simp only [Bool.and_self]

theorem Sources.exists_fileDocument [BEq ο] {sources : Sources} {file : Option String}
    {overrides : Datum.Members ο} {settings : Settings}
    (given : sources.settings libraries file overrides = .ok settings) :
    ∃ document, sources.fileDocument libraries file = .ok document := by
  unfold Sources.settings at given
  cases read : sources.fileDocument libraries file with
  | error fault =>
    rw [read] at given
    cases given
  | ok document => exact ⟨document, rfl⟩

/-- A file that was read is read again under the name that is remembered. -/
theorem Sources.fileDocument_readable? {sources : Sources} {file : Option String}
    {document : Datum ο} (read : sources.fileDocument libraries file = .ok document)
    (older : Option String) :
    sources.fileDocument libraries ((sources.readable? libraries file).or older) =
      sources.fileDocument libraries ((file.filter (· != "")).or older) := by
  rw [← fileDocument_filter] at read
  unfold readable?
  cases isNamed : file.filter (· != "") with
  | none => rfl
  | some name =>
    have named := ne_of_filter isNamed
    rw [isNamed, fileDocument_some named] at read
    have remembered : ((some name).bind fun name =>
        (sources.document libraries name).toOption.map fun _ => Path.tidy name) =
          some (Path.tidy name) := by
      rw [Option.bind_some, read]
      rfl
    rw [remembered, Option.some_or, Option.some_or, fileDocument_some named,
      fileDocument_some (Path.tidy_ne_empty name), read]
    exact document_tidy read

theorem lastRead?_append_reloads (history : List (Loading ο)) (loading : Loading ο)
    (sources : Sources) (reloads : Nat) :
    lastRead? libraries (history ++ loading :: List.replicate reloads ⟨sources, .reload⟩) =
      (loading.readable? libraries).or (lastRead? libraries history) := by
  have none (count : Nat) :
      (List.replicate count (⟨sources, .reload⟩ : Loading ο)).filterMap
        (Loading.readable? libraries) = [] := by
    induction count with
    | zero => rfl
    | succ count ih => exact ih
  unfold lastRead?
  rw [List.filterMap_append, List.filterMap_cons, none]
  cases loading.readable? libraries with
  | none => simp
  | some name => simp

namespace Manager

variable [BEq ο]

/-- A reload gives what the file of the last load denotes without the caller's settings; if it had
no file, the last file that was read counts. -/
theorem reload_outcome {history : List (Loading ο)} {sources : Sources} {file : Option String}
    {overrides : Datum.Members ο} {settings : Settings}
    (loaded : ((fresh.after libraries history).load libraries sources file overrides).outcome =
      .ok settings) (reloads : Nat) :
    let manager := fresh.after libraries
      (history ++ ⟨sources, .load file overrides⟩ :: List.replicate reloads ⟨sources, .reload⟩)
    let named := file.filter (· != "")
    (manager.reload libraries sources).outcome =
        sources.settings libraries (named.or (lastRead? libraries history)) [] ∧
      (overrides = [] → named.isSome ∨ lastRead? libraries history = none →
        (manager.reload libraries sources).outcome = .ok settings) := by
  intro manager named
  rw [outcome_load] at loaded
  have remembered :
      manager.file = (sources.readable? libraries file).or (lastRead? libraries history) := by
    refine (isTidy_fresh.file_after _).trans ?_
    rw [lastRead?_append_reloads]
    exact Option.or_none
  have outcome : (manager.reload libraries sources).outcome =
      sources.settings libraries (named.or (lastRead? libraries history)) [] := by
    unfold reload
    rw [outcome_load, remembered]
    obtain ⟨document, read⟩ := Sources.exists_fileDocument loaded
    exact Sources.settings_eq (Sources.fileDocument_readable? read _)
  refine ⟨outcome, ?_⟩
  rintro rfl enough
  have chosen : named.or (lastRead? libraries history) = named := by
    rcases enough with isNamed | none
    · exact Option.or_of_isSome isNamed
    · rw [none, Option.or_none]
  rw [outcome, chosen, ← loaded]
  exact Sources.settings_eq (sources.fileDocument_filter file)

/-- A load from no file, after one from a file, which is read again by the reload. -/
theorem reload_outcome_older_file :
    let earlier : Loading Scalar := ⟨pageSizeFiles, .load (some "a.json") []⟩
    let loaded := (fresh.after .usual [earlier]).load .usual pageSizeFiles none []
    loaded.outcome = .ok {} ∧
      (loaded.manager.reload .usual pageSizeFiles).outcome =
        pageSizeFiles.settings .usual (some "a.json") [] := by
  intro earlier loaded
  have given : loaded.outcome = .ok {} := by decide +kernel
  obtain ⟨outcome, -⟩ := reload_outcome given 0
  refine ⟨given, outcome.trans ?_⟩
  decide +kernel

/-- A reload after a load with settings of the caller does not give them, and a reload after a load
without a file gives those of an older file. -/
theorem reload_loses_sources :
    let pages : Datum.Members Scalar :=
      [(.text "query", .object [(.text "page_size", .integer 10)])]
    let chosen := fresh.load .usual .nowhere none pages
    let before := fresh.after .usual [⟨pageSizeFiles, .load (some "a.json") []⟩]
    let unnamed := before.load .usual pageSizeFiles none []
    (chosen.outcome = .ok smallPages ∧
        (chosen.manager.reload .usual .nowhere).outcome = .ok {}) ∧
      unnamed.outcome = .ok {} ∧
      (unnamed.manager.reload .usual pageSizeFiles).outcome = .ok smallPages := by
  decide +kernel

end Manager
end StagedTables.Settings
