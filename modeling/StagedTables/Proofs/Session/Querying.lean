import StagedTables.Proofs.Filter.Elision
import StagedTables.Proofs.Program.Cancellation
import StagedTables.Proofs.Session.Sequence

/-! # The query of a session

Reading a session's rows starts one query at most: of the table selected for reading, with the text
of the session's filter, and only if nothing is cancelled before.  What the filter's text is follows
from elision. -/
set_option autoImplicit false
namespace StagedTables

def Request.query? : Request → Option Query
  | startQuery query => some query
  | _ => none

def Contract.queryless : Contract :=
  .only fun request => request.query? = none

theorem Contract.permitsAside_queryless : queryless.PermitsAside := by
  intro request isAside
  cases request with
  | startQuery => exact isAside.elim
  | _ => rfl

section Queries

variable {α β σ : Type} (answers : Program.Answers σ)

def Program.queries (program : Program α) (state : σ) : List Query :=
  (program.requests answers state).filterMap Request.query?

namespace Action

theorem queries_bind (action : Action α) (more : α → Action β) (state : σ) :
    (action >>= more).run.queries answers state =
      action.run.queries answers state ++
        match (action.run.run answers state).1 with
        | .ok value => (more value).run.queries answers (action.run.run answers state).2
        | .error _ => [] := by
  simp only [Program.queries, requests_bind, List.filterMap_append]
  cases (action.run.run answers state).1 <;> rfl

variable {answers}

theorem Keeps.queries_eq_nil {good : α → Prop} {action : Action α}
    (kept : Keeps .queryless good action) (state : σ) :
    action.run.queries answers state = [] := by
  have obliging : Contract.queryless.IsKeptBy answers fun _ => True :=
    fun _ _ _ _ => ⟨trivial, trivial⟩
  exact List.filterMap_eq_nil_iff.mpr (kept.run.run obliging trivial).2.2

/-- What is done with the outcome of an action starts no query. -/
theorem queries_bind_of_keeps (good : α → β → Prop) (action : Action α) {more : α → Action β}
    (kept : ∀ value, Keeps .queryless (good value) (more value)) (state : σ) :
    (action >>= more).run.queries answers state = action.run.queries answers state := by
  rw [queries_bind]
  cases (action.run.run answers state).1 with
  | ok value => simp only [(kept value).queries_eq_nil, List.append_nil]
  | error failure => exact List.append_nil _

theorem queries_capture (action : Action α) (state : σ) :
    (capture action).run.queries answers state = action.run.queries answers state := by
  simp only [Program.queries, ← Program.map_steps, steps_capture]

theorem queries_raiseIfCancelled (token : Token) (operation : String) (more : Unit → Action β)
    {told : Bool} {state : σ} (tells : (answers (.isCancelled token) state).1 = told) :
    (raiseIfCancelled token operation >>= more).run.queries answers state =
      if told then []
      else (more ()).run.queries answers (answers (.isCancelled token) state).2 := by
  have silent : (raiseIfCancelled token operation).run.queries answers state = [] :=
    (keeps_raiseIfCancelled Contract.permitsAside_queryless token operation).queries_eq_nil state
  rw [queries_bind, silent, run_raiseIfCancelled_of_tells tells, List.nil_append]
  cases told <;> rfl

end Action

namespace Session

variable {answers} {session : Session} {zone : Calendar.LocalZone} {clause : Option String}

theorem queries_startQuery (query : Query) (token : Token) (state : σ) :
    Program.queries answers (ExceptT.run (do
      let reply : Except ForeignError RowStream ← Action.send (.startQuery query)
      collect token query (← Action.ofReply reply) 0)) state = [query] := by
  refine (Action.queries_bind_of_keeps (fun _ _ => True) _ (fun reply => ?_) state).trans rfl
  exact (Action.keeps_ofReply reply).bind fun rows _ =>
    keeps_collect Contract.permitsAside_queryless token (fun _ => rfl) rows 0

theorem queries_fetch (written : session.filterText zone = .ok clause) (table : TableClient)
    {told : Bool} {state : σ} (tells : (answers (.isCancelled session.token) state).1 = told) :
    (session.fetch zone table).run.queries answers state =
      if told then [] else [⟨table, clause, session.pageSize⟩] := by
  unfold fetch
  rw [written]
  refine (Action.queries_raiseIfCancelled _ _ _ tells).trans ?_
  congr 1
  cases clause <;> exact queries_startQuery ⟨table, _, session.pageSize⟩ session.token _

theorem queries_fetchAndRead (written : session.filterText zone = .ok clause) (table : TableClient)
    (read : Entity → Reaction α) {told : Bool} {state : σ}
    (tells : (answers (.isCancelled session.token) state).1 = told) :
    (session.fetchAndRead zone table read).run.queries answers state =
      if told then [] else [⟨table, clause, session.pageSize⟩] := by
  rw [← queries_fetch written table tells]
  have only (entities : List Entity) : Action.Keeps .queryless
      (List.Forall₂ (fun entity value => (read entity).outcome = .ok value) entities)
      (entities.mapM fun entity => (read entity).perform session.token) :=
    Action.keeps_mapM fun entity _ =>
      Action.keeps_perform Contract.permitsAside_queryless (read entity) session.token
  exact Action.queries_bind_of_keeps _ _ only state

theorem queries_readTable (more : TableClient → Action β) (state : σ) :
    (session.readTable >>= more).run.queries answers state =
      match session.prodTable with
      | .ok table => (more table).run.queries answers state
      | .error _ => [] := by
  unfold readTable requireStorage Session.prodTable
  cases session.storage with
  | none => rfl
  | some storage =>
    obtain ⟨stage, dev, account, table, name⟩ := storage
    cases table <;> rfl

/-- The query that reading starts in given surroundings: of the table selected for reading, as long
as there is one and nothing is cancelled. -/
def startedQueries (session : Session) (clause : Option String) (answers : Program.Answers σ)
    (state : σ) : List Query :=
  let told : Bool := (answers (.isCancelled session.token) state).1
  match session.prodTable with
  | .ok table => if told then [] else [⟨table, clause, session.pageSize⟩]
  | .error _ => []

theorem queries_read (written : session.filterText zone = .ok clause) (table : TableClient)
    (read : Entity → Reaction α) {more : Except Failure (List α) → Action β}
    (quiet : ∀ result, Action.Keeps .queryless (fun _ => True) (more result)) {told : Bool}
    {state : σ} (tells : (answers (.isCancelled session.token) state).1 = told) :
    (Action.capture (session.fetchAndRead zone table read) >>= more).run.queries answers state =
      if told then [] else [⟨table, clause, session.pageSize⟩] := by
  rw [← queries_fetchAndRead written table read tells,
    ← Action.queries_capture (session.fetchAndRead zone table read)]
  exact Action.queries_bind_of_keeps (fun _ _ => True) _ quiet state

theorem queries_execute (written : session.filterText zone = .ok clause)
    (read : Entity → Reaction α)
    (state : σ) :
    (session.execute zone read).run.queries answers state =
      session.startedQueries clause answers state := by
  unfold execute startedQueries
  rw [queries_readTable]
  cases session.prodTable with
  | error failure => rfl
  | ok table =>
    refine queries_read written table read (fun result => ?_) rfl
    cases result with
    | ok values => exact Action.keeps_pure trivial
    | error failure =>
      exact (Action.keeps_log Contract.permitsAside_queryless ..).bind fun _ _ =>
        Action.keeps_pure trivial

theorem queries_executeDirect (written : session.filterText zone = .ok clause)
    (read : Entity → Reaction α) (state : σ) :
    (session.executeDirect zone read).run.queries answers state =
      session.startedQueries clause answers state := by
  unfold executeDirect startedQueries
  rw [queries_readTable]
  cases session.prodTable with
  | error failure => rfl
  | ok table =>
    refine queries_read written table read (fun result => ?_) rfl
    cases result with
    | ok values => exact Action.keeps_pure trivial
    | error failure => exact Action.keeps_throw _

end Session

end Queries

/-- Whoever reads the session's rows, and in whatever surroundings, the query is started with the
given clause. -/
def Session.ReadsWith (session : Session) (zone : Calendar.LocalZone) (clause : Option String) :
    Prop :=
  ∀ (α σ : Type) (read : Entity → Reaction α) (answers : Program.Answers σ) (state : σ),
    (session.execute zone read).run.queries answers state =
        session.startedQueries clause answers state ∧
      (session.executeDirect zone read).run.queries answers state =
        session.startedQueries clause answers state

theorem Session.readsWith_of_filterText {session : Session} {zone : Calendar.LocalZone}
    {clause : Option String}
    (written : session.filterText zone = .ok clause) : session.ReadsWith zone clause :=
  fun _ _ read _ state => ⟨queries_execute written read state,
    queries_executeDirect written read state⟩

namespace Filter

/-- A filter has a query text exactly if it has a column; empty parts make no difference to the
text, which is the plain clause of what is left without them; and reading sends the text, or lists
everything where there is none. -/
theorem toQuery_elides (zone : Calendar.LocalZone) {f : Filter} (encodable : f.IsEncodable zone) :
    (f.toQuery zone = .ok none ↔ ¬ f.HasColumn) ∧
    (∀ g, Relation.ReflTransGen Elides f g → g.toQuery zone = f.toQuery zone) ∧
    (f.HasColumn → ∃ g text, (∀ h, f.ReducesTo h ↔ h = g) ∧ g.IsFull ∧
      g.plainClause zone = .ok text ∧ text ≠ [] ∧
        f.toQuery zone = .ok (some (String.ofList text))) ∧
    (∀ session : Session, session.filter = some f →
      ∃ clause, f.toQuery zone = .ok clause ∧ (clause.isSome ↔ f.HasColumn) ∧
        session.ReadsWith zone clause) ∧
    ∀ session : Session, session.filter = none → session.ReadsWith zone none := by
  have same : ∀ g, Relation.ReflTransGen Elides f g → g.toQuery zone = f.toQuery zone := by
    intro g steps
    rw [toQuery, toQuery, clause_eq_of_elides steps]
  have reads : ∀ session : Session, session.filter = some f →
      ∀ clause, f.toQuery zone = .ok clause → session.ReadsWith zone clause := by
    intro session attached clause written
    apply Session.readsWith_of_filterText
    rw [Session.filterText, attached]
    simp only [written]
    rfl
  have unfiltered : ∀ session : Session, session.filter = none → session.ReadsWith zone none := by
    intro session nothing
    apply Session.readsWith_of_filterText
    rw [Session.filterText, nothing]
  rcases encodable.toQuery_cases with ⟨nothing, absent⟩ | ⟨g, text, left, written, present⟩
  · have columnless : ¬ f.HasColumn := by
      rw [hasColumn_iff, nothing]
      rintro ⟨g, left⟩
      cases left
    refine ⟨iff_of_true absent columnless, same, fun has => absurd has columnless, ?_, unfiltered⟩
    intro session attached
    exact ⟨none, absent, by simp [columnless], reads session attached none absent⟩
  · have has : f.HasColumn := (hasColumn_iff f).mpr ⟨g, left⟩
    have full : g.IsFull := isFull_of_reduced left
    refine ⟨iff_of_false (by simp [present]) (not_not_intro has), same, fun _ => ?_, ?_, unfiltered⟩
    · refine ⟨g, text, fun h => ?_, full, written, full.plainClause_ne_nil written, present⟩
      rw [reducesTo_iff, left, Option.getD_some]
    · intro session attached
      exact ⟨some _, present, by simp [has], reads session attached _ present⟩

theorem toQuery_elides_beside_empty :
    let rest := Filter.not (.column "Open" .equal (.boolean true))
    let f := Filter.or (.not (.and .empty (.column "Open" .equal (.boolean true)))) (.not .empty)
    f.toQuery .utc = .ok (some "not (Open eq true)") ∧ f.ReducesTo rest ∧
      ∀ session : Session, session.filter = some f →
        session.ReadsWith .utc (some "not (Open eq true)") := by
  intro rest f
  have encodable : f.IsEncodable .utc := ⟨⟨trivial, ⟨_, rfl⟩⟩, trivial⟩
  obtain ⟨-, same, whole, reads, -⟩ := toQuery_elides .utc encodable
  have reduces : f.ReducesTo rest := reducesTo_iff.mpr rfl
  have written : f.toQuery .utc = .ok (some "not (Open eq true)") := by
    rw [← same rest reduces.1]
    rfl
  refine ⟨written, reduces, fun session attached => ?_⟩
  obtain ⟨clause, again, -, sent⟩ := reads session attached
  rw [written] at again
  cases again
  exact sent

end Filter
end StagedTables
