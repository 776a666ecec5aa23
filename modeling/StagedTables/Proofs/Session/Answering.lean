import StagedTables.Proofs.Program.Callbacks
import StagedTables.Proofs.Session.Drawing

/-! # Answers to a query

A query is compiled, checked for cancellation, started and paged, each only if what comes before it
did not fail; then its rows are read in turn.  Main statement: what becomes of that is the result of
`execute`, and `executeDirect` returns the same values or fails with the same cause. -/
set_option autoImplicit false
namespace StagedTables

def RowStream.error? : RowStream → Option ForeignError
  | finished => none
  | failed error => some error
  | row _ rest => rest.error?

section Answering

variable {α σ : Type} {answers : Program.Answers σ} {token : Token} {query : Query}

namespace Session

/-! ## Paging -/

/-- Whether the token says that it is cancelled when a row has come, so many places after the given
position. -/
def toldAt (answers : Program.Answers σ) (token : Token) (query : Query) (position : Nat)
    (state : σ) : Nat → Bool
  | 0 => (answers (.isCancelled token) (answers (.awaitRow query position) state).2).1
  | count + 1 => toldAt answers token query (position + 1)
    (answers (.isCancelled token) (answers (.awaitRow query position) state).2).2 count

/-- What becomes of a stream of rows: a cancellation that is seen at one of them, or else the error
with which it breaks off, or else all of them. -/
inductive Paged (answers : Program.Answers σ) (token : Token) (query : Query) (rows : RowStream)
    (position : Nat) (state : σ) : Except Failure (List Entity) → Prop
  | interrupted {count : Nat} (within : count < rows.rows.length)
    (before : ∀ i < count, toldAt answers token query position state i = false)
    (told : toldAt answers token query position state count = true) :
    Paged answers token query rows position state (.error (.cancelled queryOperation))
  | broken {error : ForeignError}
    (passed : ∀ i < rows.rows.length, toldAt answers token query position state i = false)
    (breaks : rows.error? = some error) :
    Paged answers token query rows position state (.error (.foreign error))
  | whole (passed : ∀ i < rows.rows.length, toldAt answers token query position state i = false)
    (ends : rows.error? = none) : Paged answers token query rows position state (.ok rows.rows)

theorem Paged.row {entity : Entity} {rest : RowStream} {position : Nat} {state : σ}
    {outcome : Except Failure (List Entity)}
    (live : toldAt answers token query position state 0 = false)
    (pages : Paged answers token query rest (position + 1)
      (answers (.isCancelled token) (answers (.awaitRow query position) state).2).2 outcome) :
    Paged answers token query (.row entity rest) position state (outcome.map (entity :: ·)) := by
  have next (bound : Nat) (passed : ∀ i < bound, toldAt answers token query (position + 1)
      (answers (.isCancelled token) (answers (.awaitRow query position) state).2).2 i = false) :
      ∀ i < bound + 1, toldAt answers token query position state i = false := by
    intro i within
    cases i with
    | zero => exact live
    | succ i => exact passed i (Nat.lt_of_succ_lt_succ within)
  cases pages with
  | interrupted within before told =>
    exact .interrupted (Nat.succ_lt_succ within) (next _ before) told
  | broken passed breaks => exact .broken (next _ passed) breaks
  | whole passed ends => exact .whole (next _ passed) ends

theorem paged_collect (rows : RowStream) (position : Nat) (state : σ) :
    Paged answers token query rows position state
      ((collect token query rows position).run.run answers state).1 := by
  have none (position : Nat) (state : σ) :
      ∀ i < 0, toldAt answers token query position state i = false :=
    fun i within => absurd within (Nat.not_lt_zero i)
  induction rows generalizing position state with
  | finished => exact .whole (none position state) rfl
  | failed error => exact .broken (none position state) rfl
  | row entity rest ih =>
    rw [collect_row]
    simp only [Program.run]
    cases told : (answers (.isCancelled token) (answers (.awaitRow query position) state).2).1 with
    | true => exact .interrupted (Nat.zero_lt_succ _) (none position state) told
    | false =>
      have run := Program.run_andThen answers
        (collect token query rest (position + 1)).run
        (fun outcome => .done (outcome.map (entity :: ·)))
        (answers (.isCancelled token) (answers (.awaitRow query position) state).2).2
      simp only [Bool.false_eq_true, if_false, run, Program.run]
      exact .row told (ih _ _)

/-! ## Fetching -/

variable {session : Session} {zone : Calendar.LocalZone} {table : TableClient} {state : σ}

def asking (session : Session) (answers : Program.Answers σ) (clause : Option String) (state : σ) :
    σ :=
  let checked := (answers (.isCancelled session.token) state).2
  match clause with
  | none => checked
  | some text =>
    (answers (.log ⟨operationsLogger.name, .debug, "query: $filter=" ++ text⟩) checked).2

/-- What becomes of the attached filter.  Without one, and where one leaves nothing to filter by,
every row is asked for. -/
inductive Compiled (zone : Calendar.LocalZone) :
    Option Filter → Except Failure (Option String) → Prop
  | unfiltered : Compiled zone none (.ok none)
  | written {filter : Filter} {clause : Option String}
    (written : filter.toQuery zone = .ok clause) : Compiled zone (some filter) (.ok clause)
  | unwritten {filter : Filter} {fault : ConversionFault}
    (unwritten : filter.toQuery zone = .error fault) :
    Compiled zone (some filter) (.error (.conversion fault))

theorem compiled_filterText (session : Session) (zone : Calendar.LocalZone) :
    Compiled zone session.filter (session.filterText zone) := by
  unfold filterText
  cases session.filter with
  | none => exact .unfiltered
  | some filter =>
    dsimp only
    cases written : filter.toQuery zone with
    | ok clause => exact .written written
    | error fault => exact .unwritten written

/-- What becomes of a query before its rows are read.  Of what fails the first counts: the filter,
the token before the call, the call, and the pages. -/
inductive Fetched (answers : Program.Answers σ) (zone : Calendar.LocalZone) (session : Session)
    (table : TableClient) (state : σ) : Except Failure (List Entity) → Prop
  | unwritten {failure : Failure} (compiled : Compiled zone session.filter (.error failure)) :
    Fetched answers zone session table state (.error failure)
  | stopped {clause : Option String} (compiled : Compiled zone session.filter (.ok clause))
    (told : (answers (.isCancelled session.token) state).1 = true) :
    Fetched answers zone session table state (.error (.cancelled queryOperation))
  | refused {clause : Option String} {error : ForeignError}
    (compiled : Compiled zone session.filter (.ok clause))
    (live : (answers (.isCancelled session.token) state).1 = false)
    (refused : (answers (.startQuery ⟨table, clause, session.pageSize⟩)
      (session.asking answers clause state)).1 = .error error) :
    Fetched answers zone session table state (.error (.foreign error))
  | paged {clause : Option String} {rows : RowStream} {outcome : Except Failure (List Entity)}
    (compiled : Compiled zone session.filter (.ok clause))
    (live : (answers (.isCancelled session.token) state).1 = false)
    (started : (answers (.startQuery ⟨table, clause, session.pageSize⟩)
      (session.asking answers clause state)).1 = .ok rows)
    (pages : Paged answers session.token ⟨table, clause, session.pageSize⟩ rows 0
      (answers (.startQuery ⟨table, clause, session.pageSize⟩)
        (session.asking answers clause state)).2 outcome) :
    Fetched answers zone session table state outcome

theorem run_startQuery (token : Token) (query : Query) (state : σ) :
    (ExceptT.run (do
      let reply : Except ForeignError RowStream ← Action.send (.startQuery query)
      collect token query (← Action.ofReply reply) 0)).run answers state =
      match (answers (.startQuery query) state).1 with
      | .error error => (.error (.foreign error), (answers (.startQuery query) state).2)
      | .ok rows => (collect token query rows 0).run.run answers
          (answers (.startQuery query) state).2 := by
  let rest (reply : Except ForeignError RowStream) : Action (List Entity) := do
    collect token query (← Action.ofReply reply) 0
  change (rest (answers (.startQuery query) state).1).run.run answers _ = _
  cases (answers (.startQuery query) state).1 <;> rfl

theorem run_fetch_of_live {clause : Option String} (written : session.filterText zone = .ok clause)
    (live : (answers (.isCancelled session.token) state).1 = false) (table : TableClient) :
    let query : Query := ⟨table, clause, session.pageSize⟩
    let started := answers (.startQuery query) (session.asking answers clause state)
    (session.fetch zone table).run.run answers state =
      match started.1 with
      | .error error => (.error (.foreign error), started.2)
      | .ok rows => (collect session.token query rows 0).run.run answers started.2 := by
  intro query started
  rw [← run_startQuery]
  unfold fetch
  rw [Action.run_bind, Action.run_liftM, written]
  dsimp only
  rw [Action.run_bind, Action.run_raiseIfCancelled_of_tells live]
  cases clause <;> rfl

theorem fetched_fetch (answers : Program.Answers σ) (zone : Calendar.LocalZone)
    (session : Session) (table : TableClient) (state : σ) :
    Fetched answers zone session table state
      ((session.fetch zone table).run.run answers state).1 := by
  have compiled := session.compiled_filterText zone
  cases written : session.filterText zone with
  | error failure =>
    rw [written] at compiled
    unfold fetch
    rw [Action.run_bind, Action.run_liftM, written]
    exact .unwritten compiled
  | ok clause =>
    rw [written] at compiled
    cases told : (answers (.isCancelled session.token) state).1 with
    | true =>
      unfold fetch
      rw [Action.run_bind, Action.run_liftM, written]
      dsimp only
      rw [Action.run_bind, Action.run_raiseIfCancelled_of_tells told]
      exact .stopped compiled told
    | false =>
      rw [run_fetch_of_live written told table]
      cases replied : (answers (.startQuery ⟨table, clause, session.pageSize⟩)
        (session.asking answers clause state)).1 with
      | error error => exact .refused compiled told replied
      | ok rows => exact .paged compiled told replied (paged_collect rows 0 _)

/-! ## Reading -/

/-- The rows that are shown to a reader, and what becomes of a query: its failure when it could not
be fetched whole, and else what becomes of the reader's calls. -/
inductive Queried (answers : Program.Answers σ) (zone : Calendar.LocalZone) (session : Session)
    (table : TableClient) (read : Entity → Reaction α) (state : σ) :
    List Entity → Except Failure (List α) → Prop
  | unfetched {failure : Failure}
    (failed : Fetched answers zone session table state (.error failure)) :
    Queried answers zone session table read state [] (.error failure)
  | fetched {entities shown : List Entity} {outcome : Except Failure (List α)}
    (whole : Fetched answers zone session table state (.ok entities))
    (turns : InTurn read entities shown outcome) :
    Queried answers zone session table read state shown outcome

/-- The reader is called in turn on the rows of a query that was fetched whole, and on nothing
else. -/
theorem queried_fetchAndRead (answers : Program.Answers σ) (zone : Calendar.LocalZone)
    (session : Session) (table : TableClient) (read : Entity → Reaction α) (state : σ) :
    ∃ shown outcome after, Queried answers zone session table read state shown outcome ∧
      ∀ other : Entity → Reaction α, (∀ entity ∈ shown, other entity = read entity) →
        (session.fetchAndRead zone table other).run.run answers state = (outcome, after) := by
  have fetched := fetched_fetch answers zone session table state
  unfold fetchAndRead
  cases result : ((session.fetch zone table).run.run answers state).1 with
  | error failure =>
    rw [result] at fetched
    refine ⟨[], _, ((session.fetch zone table).run.run answers state).2, .unfetched fetched, ?_⟩
    intro other _
    rw [Action.run_bind, result]
  | ok entities =>
    rw [result] at fetched
    obtain ⟨shown, outcome, turns⟩ := InTurn.exists_of_items read entities
    refine ⟨shown, outcome, Action.afterCalls answers session.token read shown
      ((session.fetch zone table).run.run answers state).2, .fetched fetched turns, ?_⟩
    intro other same
    rw [Action.run_bind, result]
    dsimp only
    rw [(Action.goes_mapM answers _ (turns.congr same) _).run,
      Action.afterCalls_congr answers _ same]

/-! ## Results -/

def queriedTable (session : Session) : Except Failure TableClient := do
  (← session.requireStorage).prodTable

/-- What `execute` ends with beside what `executeDirect` ends with. -/
inductive TwoFaces : Except Failure (Except Failure α) → Except Failure α → Prop
  | misused (cause : Misuse) : TwoFaces (.error (.misuse cause)) (.error (.misuse cause))
  | given (value : α) : TwoFaces (.ok (.ok value)) (.ok value)
  | failed (failure : Failure) : TwoFaces (.ok (.error failure)) (.error (.query failure))

theorem TwoFaces.given_iff {once : Except Failure (Except Failure α)} {direct : Except Failure α}
    (faces : TwoFaces once direct) (value : α) : once = .ok (.ok value) ↔ direct = .ok value := by
  cases faces <;> simp

theorem TwoFaces.failed_iff {once : Except Failure (Except Failure α)} {direct : Except Failure α}
    (faces : TwoFaces once direct) (failure : Failure) :
    once = .ok (.error failure) ↔ direct = .error (.query failure) := by
  cases faces <;> simp

theorem run_readTable (session : Session) (state : σ) :
    session.readTable.run.run answers state = (session.queriedTable, state) := by
  unfold readTable queriedTable
  rw [Action.run_bind, Action.run_liftM]
  cases session.requireStorage <;> rfl

theorem misuse_of_queriedTable {failure : Failure}
    (nowhere : session.queriedTable = .error failure) : ∃ cause, failure = .misuse cause := by
  unfold queriedTable requireStorage at nowhere
  cases connected : session.storage with
  | none =>
    rw [connected] at nowhere
    cases nowhere
    exact ⟨_, rfl⟩
  | some storage =>
    rw [connected] at nowhere
    change storage.prodTable = _ at nowhere
    unfold Storage.prodTable at nowhere
    split at nowhere
    · cases nowhere
    · cases nowhere
      exact ⟨_, rfl⟩

def afterNote (answers : Program.Answers σ) (result : Except Failure (List α)) (state : σ) : σ :=
  match result with
  | .ok _ => state
  | .error failure => (answers
      (.log ⟨operationsLogger.name, .error, s!"execute failed: {failure.message}"⟩) state).2

theorem run_execute (chosen : session.queriedTable = .ok table) (read : Entity → Reaction α)
    (state : σ) :
    (session.execute zone read).run.run answers state =
      (.ok ((session.fetchAndRead zone table read).run.run answers state).1,
        afterNote answers ((session.fetchAndRead zone table read).run.run answers state).1
          ((session.fetchAndRead zone table read).run.run answers state).2) := by
  unfold execute
  rw [Action.run_bind, run_readTable, chosen]
  dsimp only
  rw [Action.run_bind, Action.run_capture]
  cases ((session.fetchAndRead zone table read).run.run answers state).1 <;> rfl

theorem run_executeDirect (chosen : session.queriedTable = .ok table)
    (read : Entity → Reaction α) (state : σ) :
    (session.executeDirect zone read).run.run answers state =
      (((session.fetchAndRead zone table read).run.run answers state).1.mapError .query,
        ((session.fetchAndRead zone table read).run.run answers state).2) := by
  unfold executeDirect
  rw [Action.run_bind, run_readTable, chosen]
  dsimp only
  rw [Action.run_bind, Action.run_capture]
  cases ((session.fetchAndRead zone table read).run.run answers state).1 <;> rfl

theorem run_execute_of_nowhere {failure : Failure}
    (nowhere : session.queriedTable = .error failure) (read : Entity → Reaction α) (state : σ) :
    (session.execute zone read).run.run answers state = (.error failure, state) := by
  unfold execute
  rw [Action.run_bind, run_readTable, nowhere]

theorem run_executeDirect_of_nowhere {failure : Failure}
    (nowhere : session.queriedTable = .error failure) (read : Entity → Reaction α) (state : σ) :
    (session.executeDirect zone read).run.run answers state = (.error failure, state) := by
  unfold executeDirect
  rw [Action.run_bind, run_readTable, nowhere]

/-- What `execute` ends with, and on which rows the reader is called for it: on none when there is
no table, and as it is told by `Queried` when there is one. -/
inductive Executed (answers : Program.Answers σ) (zone : Calendar.LocalZone) (session : Session)
    (read : Entity → Reaction α) (state : σ) :
    List Entity → Except Failure (Except Failure (List α)) → Prop
  | misused {cause : Misuse} (nowhere : session.queriedTable = .error (.misuse cause)) :
    Executed answers zone session read state [] (.error (.misuse cause))
  | queried {table : TableClient} {shown : List Entity} {outcome : Except Failure (List α)}
    (chosen : session.queriedTable = .ok table)
    (queried : Queried answers zone session table read state shown outcome) :
    Executed answers zone session read state shown (.ok outcome)

/-- `execute` and `executeDirect` are two faces of one query.  Both fail with the same misuse of the
session, or the result of the one is what the other returns or has as the cause of its failure.
That is what the first step that fails comes to, or else the values of all rows in their order.  A
reader is called on rows of a whole result only, and how it would read others makes no
difference. -/
theorem execute_executeDirect_agree (answers : Program.Answers σ) (zone : Calendar.LocalZone)
    (session : Session) (read : Entity → Reaction α) (state : σ) :
    let once := ((session.execute zone read).run.run answers state).1
    let direct := ((session.executeDirect zone read).run.run answers state).1
    TwoFaces once direct ∧ (∀ values, once = .ok (.ok values) ↔ direct = .ok values) ∧
      (∀ failure, once = .ok (.error failure) ↔ direct = .error (.query failure)) ∧
      ∃ shown, Executed answers zone session read state shown once ∧
        ∀ other : Entity → Reaction α, (∀ entity ∈ shown, other entity = read entity) →
          (session.execute zone other).run.run answers state =
              (session.execute zone read).run.run answers state ∧
            (session.executeDirect zone other).run.run answers state =
              (session.executeDirect zone read).run.run answers state := by
  intro once direct
  cases chosen : session.queriedTable with
  | error failure =>
    obtain ⟨cause, rfl⟩ := misuse_of_queriedTable chosen
    have ends (other : Entity → Reaction α) :
        (session.execute zone other).run.run answers state = (.error (.misuse cause), state) :=
      run_execute_of_nowhere chosen other state
    have endsToo (other : Entity → Reaction α) :
        (session.executeDirect zone other).run.run answers state =
          (.error (.misuse cause), state) :=
      run_executeDirect_of_nowhere chosen other state
    have faces : TwoFaces once direct := by
      unfold once direct
      rw [ends, endsToo]
      exact .misused cause
    refine ⟨faces, faces.given_iff, faces.failed_iff, [], ?_, fun other _ => ?_⟩
    · unfold once
      rw [ends]
      exact .misused chosen
    · rw [ends, ends, endsToo, endsToo]
      exact ⟨rfl, rfl⟩
  | ok table =>
    obtain ⟨shown, outcome, after, queried, ran⟩ :=
      queried_fetchAndRead answers zone session table read state
    have faces : TwoFaces once direct := by
      unfold once direct
      rw [run_execute chosen, run_executeDirect chosen]
      cases ((session.fetchAndRead zone table read).run.run answers state).1 with
      | ok values => exact .given values
      | error failure => exact .failed failure
    refine ⟨faces, faces.given_iff, faces.failed_iff, shown, ?_, fun other same => ?_⟩
    · unfold once
      rw [run_execute chosen, ran read fun _ _ => rfl]
      exact .queried chosen queried
    · simp only [run_execute chosen, run_executeDirect chosen, ran other same,
        ran read fun _ _ => rfl, and_self]

end Session

end Answering
end StagedTables
