import StagedTables.Proofs.Program.Cancellation
import StagedTables.Proofs.Session.Sequence

/-! # Rows of a result

A query keeps a row only if nothing is cancelled when it has come; what is done before the query and
with its rows waits for no other row.  So the values of a result are read from rows that all came
before the cancellation. -/
set_option autoImplicit false
namespace StagedTables

def RowStream.rows : RowStream → List Entity
  | finished => []
  | failed _ => []
  | row entity rest => entity :: rest.rows

section Rows

variable {α σ : Type} {answers : Program.Answers σ} {token : Token} {cancelled : σ → Bool}

/-- The row at a position was waited for, and whenever it came nothing was cancelled yet. -/
structure Arrived (answers : Program.Answers σ) (cancelled : σ → Bool) (query : Query)
    (steps : List (Request × σ)) (position : Nat) : Prop where
  awaited : ∃ waiting, (.awaitRow query position, waiting) ∈ steps
  live : ∀ waiting, (.awaitRow query position, waiting) ∈ steps →
    Live cancelled (answers (.awaitRow query position) waiting).2

/-- Entities are all the rows of a query, and each of them arrived before the cancellation. -/
def Drawn (answers : Program.Answers σ) (cancelled : σ → Bool) (steps : List (Request × σ))
    (entities : List Entity) : Prop :=
  ∃ query asked rows, (.startQuery query, asked) ∈ steps ∧
    (answers (.startQuery query) asked).1 = .ok rows ∧ entities = rows.rows ∧
      ∀ position < entities.length, Arrived answers cancelled query steps position

def Action.Draws (answers : Program.Answers σ) (cancelled : σ → Bool)
    (made : List Entity → α → Prop) (action : Action α) : Prop :=
  ∀ state value, (action.run.run answers state).1 = .ok value →
    ∃ entities, made entities value ∧
      Drawn answers cancelled (action.run.steps answers state) entities

def Contract.rowless : Contract :=
  .only fun request => ∀ query position, request ≠ .awaitRow query position

theorem Contract.permitsAside_rowless : rowless.PermitsAside := by
  intro request isAside
  cases request with
  | isCancelled | cancel | log | setUpLogging | sleep => exact nofun
  | _ => exact isAside.elim

theorem Contract.isKeptBy_rowless : rowless.IsKeptBy answers fun _ => True :=
  fun _ _ _ _ => ⟨trivial, trivial⟩

theorem Drawn.among {steps more : List (Request × σ)} {entities : List Entity}
    (drawn : Drawn answers cancelled steps entities) (inside : ∀ step ∈ steps, step ∈ more)
    (others : ∀ step ∈ more, step ∈ steps ∨ Contract.rowless.Permits step.1) :
    Drawn answers cancelled more entities := by
  obtain ⟨query, asked, rows, starts, replied, all, arrived⟩ := drawn
  refine ⟨query, asked, rows, inside _ starts, replied, all, fun position bound => ?_⟩
  obtain ⟨⟨waiting, member⟩, live⟩ := arrived position bound
  refine ⟨⟨waiting, inside _ member⟩, fun waiting member => ?_⟩
  obtain member | rowless := others _ member
  · exact live waiting member
  · exact absurd rfl (rowless query position)

namespace Action

variable {β : Type} {made : List Entity → α → Prop}

theorem Keeps.steps {good : α → Prop} {action : Action α} (kept : Keeps .rowless good action)
    (state : σ) : ∀ step ∈ action.run.steps answers state, Contract.rowless.Permits step.1 := by
  have holds : (fun _ : σ => True) state := trivial
  obtain ⟨-, -, permitted⟩ := kept.run.run Contract.isKeptBy_rowless holds
  rw [← Program.map_steps] at permitted
  exact fun step member => permitted _ (List.mem_map_of_mem member)

theorem Keeps.value {good : α → Prop} {action : Action α} (kept : Keeps .rowless good action)
    {state : σ} {value : α} (ends : (action.run.run answers state).1 = .ok value) : good value := by
  have holds : (fun _ : σ => True) state := trivial
  exact (kept.run.run Contract.isKeptBy_rowless holds).1 value ends

theorem Keeps.drawn {good : β → Prop} {action : Action β} {more : β → Action α}
    (kept : Keeps .rowless good action) {state : σ} {value : α}
    (ends : ((action >>= more).run.run answers state).1 = .ok value) :
    ∃ first later, ((more first).run.run answers later).1 = .ok value ∧
      ∀ entities, Drawn answers cancelled ((more first).run.steps answers later) entities →
        Drawn answers cancelled ((action >>= more).run.steps answers state) entities := by
  rw [run_bind] at ends
  rw [steps_bind]
  cases outcome : (action.run.run answers state).1 with
  | error failure => simp [outcome] at ends
  | ok first =>
    rw [outcome] at ends
    refine ⟨first, _, ends, fun entities drawn => ?_⟩
    refine drawn.among (fun _ => List.mem_append_right _) fun step member => ?_
    exact (List.mem_append.mp member).symm.imp_right (kept.steps state step)

theorem Keeps.draws {good : β → Prop} {action : Action β} {more : β → Action α}
    (kept : Keeps .rowless good action)
    (rest : ∀ value, (more value).Draws answers cancelled made) :
    (action >>= more).Draws answers cancelled made := by
  intro state value ends
  obtain ⟨first, later, ends, widen⟩ := kept.drawn ends
  obtain ⟨entities, taken, drawn⟩ := rest first later value ends
  exact ⟨entities, taken, widen entities drawn⟩

theorem Draws.bind {drawn : List Entity → β → Prop} {action : Action β} {more : β → Action α}
    (draws : action.Draws answers cancelled drawn)
    (rest : ∀ value, Keeps .rowless (fun result => ∀ entities, drawn entities value →
      made entities result) (more value)) :
    (action >>= more).Draws answers cancelled made := by
  intro state value ends
  rw [run_bind] at ends
  rw [steps_bind]
  cases outcome : (action.run.run answers state).1 with
  | error failure => simp [outcome] at ends
  | ok first =>
    rw [outcome] at ends
    obtain ⟨entities, taken, inTime⟩ := draws state first outcome
    refine ⟨entities, (rest first).value ends entities taken, ?_⟩
    refine inTime.among (fun _ => List.mem_append_left _) fun step member => ?_
    exact (List.mem_append.mp member).imp_right ((rest first).steps _ step)

/-- A captured failure draws nothing; it must show in what the action ends with. -/
theorem Draws.capture {action : Action α} {more : Except Failure α → Action β} {state : σ}
    {result : β} {good : List Entity → Prop} (draws : action.Draws answers cancelled made)
    (ends : ((capture action >>= more).run.run answers state).1 = .ok result)
    (fails : ∀ failure, Keeps .rowless (· ≠ result) (more (.error failure)))
    (succeeds : ∀ value, Keeps .rowless
      (fun later => later = result → ∀ entities, made entities value → good entities)
      (more (.ok value))) :
    ∃ entities, good entities ∧
      Drawn answers cancelled ((capture action >>= more).run.steps answers state) entities := by
  rw [run_bind, run_capture] at ends
  rw [steps_bind, steps_capture, run_capture]
  dsimp only at ends ⊢
  cases outcome : (action.run.run answers state).1 with
  | error failure =>
    rw [outcome] at ends
    exact absurd rfl ((fails failure).value ends)
  | ok value =>
    rw [outcome] at ends
    obtain ⟨entities, taken, drawn⟩ := draws state value outcome
    refine ⟨entities, (succeeds value).value ends rfl entities taken, ?_⟩
    refine drawn.among (fun _ => List.mem_append_left _) fun step member => ?_
    exact (List.mem_append.mp member).imp_right ((succeeds value).steps _ step)

end Action

namespace Session

theorem collect_row (token : Token) (query : Query) (entity : Entity) (rest : RowStream)
    (position : Nat) :
    (collect token query (.row entity rest) position).run =
      .ask (.awaitRow query position) fun _ => .ask (.isCancelled token) fun told : Bool =>
        if told then .done (.error (.cancelled queryOperation))
        else (collect token query rest (position + 1)).run.andThen fun outcome =>
          .done (outcome.map (entity :: ·)) := by
  refine congrArg (Program.ask _) (funext fun _ => ?_)
  refine congrArg (Program.ask (.isCancelled token)) (funext fun told => ?_)
  cases (told : Bool) with
  | true => rfl
  | false =>
    have ends : (fun outcome => Program.done (outcome.map (entity :: ·))) =
        ExceptT.bindCont fun others => (pure (entity :: others) : Action (List Entity)) := by
      funext outcome
      cases outcome <;> rfl
    rw [ends]
    rfl

theorem run_collect_row (cancels : Cancels answers token cancelled) (query : Query)
    (entity : Entity) (rest : RowStream) (position : Nat) {state : σ} {entities : List Entity}
    (collected : ((collect token query (.row entity rest) position).run.run answers state).1 =
      .ok entities) :
    let came := (answers (.awaitRow query position) state).2
    let later := (answers (.isCancelled token) came).2
    Live cancelled came ∧
      (collect token query (.row entity rest) position).run.steps answers state =
        (.awaitRow query position, state) :: (.isCancelled token, came) ::
          (collect token query rest (position + 1)).run.steps answers later ∧
      ∃ others, entities = entity :: others ∧
        ((collect token query rest (position + 1)).run.run answers later).1 = .ok others := by
  intro came later
  have told := cancels.tells came
  rw [collect_row] at collected ⊢
  simp only [Program.run, Program.steps] at collected ⊢
  cases live : cancelled came with
  | true => simp [came, told, live, Program.run] at collected
  | false =>
    rw [live] at told
    simp only [came, told, Bool.false_eq_true, if_false] at collected ⊢
    rw [Program.run_andThen] at collected
    rw [Program.steps_andThen]
    refine ⟨live, by rw [Program.steps, List.append_nil], ?_⟩
    cases outcome : ((collect token query rest (position + 1)).run.run answers later).1 with
    | error failure =>
      rw [outcome] at collected
      cases collected
    | ok others =>
      rw [outcome] at collected
      cases collected
      exact ⟨others, rfl, rfl⟩

theorem run_collect (cancels : Cancels answers token cancelled) (query : Query) (rows : RowStream)
    (position : Nat) {state : σ} {entities : List Entity}
    (collected : ((collect token query rows position).run.run answers state).1 = .ok entities) :
    entities = rows.rows ∧
      (∀ i < entities.length, ∃ waiting, (.awaitRow query (position + i), waiting) ∈
        (collect token query rows position).run.steps answers state) ∧
      ∀ i waiting, (.awaitRow query i, waiting) ∈
          (collect token query rows position).run.steps answers state →
        i < position + entities.length →
          Live cancelled (answers (.awaitRow query i) waiting).2 := by
  induction rows generalizing position state entities with
  | finished =>
    cases collected
    refine ⟨rfl, nofun, fun i waiting member before => ?_⟩
    cases List.mem_singleton.mp member
    exact absurd before (Nat.lt_irrefl _)
  | failed error => cases collected
  | row entity rest ih =>
    obtain ⟨live, steps, others, rfl, outcome⟩ :=
      run_collect_row cancels query entity rest position collected
    obtain ⟨all, awaited, before⟩ := ih (position + 1) outcome
    rw [steps]
    refine ⟨congrArg (entity :: ·) all, fun i bound => ?_, fun i waiting member bound => ?_⟩
    · cases i with
      | zero => exact ⟨state, List.mem_cons_self⟩
      | succ i =>
        obtain ⟨waiting, member⟩ := awaited i (Nat.lt_of_succ_lt_succ bound)
        rw [Nat.add_right_comm] at member
        exact ⟨waiting, List.mem_cons_of_mem _ (List.mem_cons_of_mem _ member)⟩
    · obtain first | member := List.mem_cons.mp member
      · cases first
        exact live
      · obtain check | member := List.mem_cons.mp member
        · cases check
        · refine before i waiting member ?_
          rw [List.length_cons] at bound
          omega

section Cancels

variable (cancels : Cancels answers token cancelled) {zone : Calendar.LocalZone}
include cancels

theorem draws_rows (query : Query) :
    Action.Draws answers cancelled Eq (do
      let reply : Except ForeignError RowStream ← Action.send (.startQuery query)
      collect token query (← Action.ofReply reply) 0) := by
  intro state entities ends
  let after := (answers (.startQuery query) state).2
  let rest (reply : Except ForeignError RowStream) : Action (List Entity) := do
    collect token query (← Action.ofReply reply) 0
  change ((rest (answers (.startQuery query) state).1).run.run answers after).1 = _ at ends
  change ∃ entities, _ ∧ Drawn answers cancelled ((.startQuery query, state) ::
    (rest (answers (.startQuery query) state).1).run.steps answers after) entities
  cases replied : (answers (.startQuery query) state).1 with
  | error error =>
    rw [replied] at ends
    cases ends
  | ok rows =>
    rw [replied] at ends
    change ((collect token query rows 0).run.run answers after).1 = .ok entities at ends
    obtain ⟨all, awaited, live⟩ := run_collect cancels query rows 0 ends
    refine ⟨entities, rfl, query, state, rows, List.mem_cons_self, replied, all, fun i bound => ?_⟩
    obtain ⟨waiting, member⟩ := awaited i bound
    rw [Nat.zero_add] at member
    refine ⟨⟨waiting, List.mem_cons_of_mem _ member⟩, fun waiting member => ?_⟩
    obtain start | member := List.mem_cons.mp member
    · cases start
    · exact live i waiting member (by omega)

theorem draws_fetch {session : Session} (holds : session.token = token) (table : TableClient) :
    (session.fetch zone table).Draws answers cancelled Eq := by
  have aside := Contract.permitsAside_rowless
  unfold fetch
  rw [holds]
  refine (Action.keeps_liftM _).draws fun filter => ?_
  refine (Action.keeps_raiseIfCancelled aside token queryOperation).draws fun _ => ?_
  have drawn := draws_rows cancels ⟨table, filter, session.pageSize⟩
  cases filter with
  | none => exact drawn
  | some text => exact (Action.keeps_log aside ..).draws fun _ => drawn

theorem draws_fetchAndRead {session : Session} (holds : session.token = token)
    (table : TableClient) (read : Entity → Reaction α) :
    (session.fetchAndRead zone table read).Draws answers cancelled
      (List.Forall₂ fun entity value => (read entity).outcome = .ok value) := by
  refine (draws_fetch cancels holds table).bind fun entities => ?_
  have each : ∀ entity ∈ entities, Action.Keeps .rowless
      (fun value => (read entity).outcome = .ok value) ((read entity).perform session.token) :=
    fun entity _ => Action.keeps_perform Contract.permitsAside_rowless ..
  refine (Action.keeps_mapM each).mono fun values all drawn same => ?_
  rw [same]
  exact all

/-- The values of a query are read from rows that all came before the cancellation. -/
theorem execute_drawn {session : Session} (holds : session.token = token)
    (read : Entity → Reaction α) {state : σ} {values : List α}
    (ends : ((session.execute zone read).run.run answers state).1 = .ok (.ok values)) :
    ∃ entities, List.Forall₂ (fun entity value => (read entity).outcome = .ok value)
        entities values ∧
      Drawn answers cancelled ((session.execute zone read).run.steps answers state) entities := by
  unfold execute at ends ⊢
  obtain ⟨table, later, ends, widen⟩ := (keeps_readTable_any session).drawn ends
  have fails (failure : Failure) : Action.Keeps .rowless (· ≠ Except.ok values) (do
      operationsLogger.error s!"execute failed: {failure.message}"
      return (.error failure : Except Failure (List α))) :=
    (Action.keeps_log Contract.permitsAside_rowless ..).bind fun _ _ => Action.keeps_pure nofun
  obtain ⟨entities, taken, drawn⟩ := (draws_fetchAndRead cancels holds table read).capture ends
    fails fun value => Action.keeps_pure fun same _ taken => Except.ok.inj same ▸ taken
  exact ⟨entities, taken, widen entities drawn⟩

theorem executeDirect_drawn {session : Session} (holds : session.token = token)
    (read : Entity → Reaction α) {state : σ} {values : List α}
    (ends : ((session.executeDirect zone read).run.run answers state).1 = .ok values) :
    ∃ entities, List.Forall₂ (fun entity value => (read entity).outcome = .ok value)
        entities values ∧
      Drawn answers cancelled ((session.executeDirect zone read).run.steps answers state)
        entities := by
  unfold executeDirect at ends ⊢
  obtain ⟨table, later, ends, widen⟩ := (keeps_readTable_any session).drawn ends
  obtain ⟨entities, taken, drawn⟩ := (draws_fetchAndRead cancels holds table read).capture ends
    (fun failure => Action.keeps_throw _)
    fun value => Action.keeps_pure fun same _ taken => same ▸ taken
  exact ⟨entities, taken, widen entities drawn⟩

end Cancels

end Session
end Rows
end StagedTables
