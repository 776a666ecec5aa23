import StagedTables.Proofs.Program.Callbacks
import StagedTables.Proofs.Session.Building

/-! # Batches

A batch is built of its items before the service is called, and then sent in one transaction.  Main
statement: there is that one call when there is a table, an item, an entity for each of them and no
cancellation, and else there is none; the result is a success exactly if the transaction was one or
was not needed. -/
set_option autoImplicit false
namespace StagedTables

namespace Request

instance : DecidablePred IsService
  | createTable .. => .isTrue trivial
  | getEntity .. => .isTrue trivial
  | startQuery _ => .isTrue trivial
  | awaitRow .. => .isTrue trivial
  | upsert .. => .isTrue trivial
  | delete .. => .isTrue trivial
  | transact .. => .isTrue trivial
  | isCancelled _ => .isFalse id
  | cancel _ => .isFalse id
  | log _ => .isFalse id
  | setUpLogging _ => .isFalse id
  | sleep _ => .isFalse id
  | cached _ => .isFalse id
  | keep .. => .isFalse id
  | openTable .. => .isFalse id

def isCancel : Request → Bool
  | cancel _ => true
  | _ => false

end Request

def Reaction.toAction (reaction : Reaction Session.Payload) (kind : BatchKind) :
    Reaction TableAction :=
  ⟨reaction.outcome.map fun payload => kind.action payload.toEntity, reaction.cancels⟩

theorem Reaction.perform_toAction (reaction : Reaction Session.Payload) (kind : BatchKind)
    (token : Token) :
    (reaction.toAction kind).perform token = do
      return kind.action (← reaction.perform token).toEntity := by
  obtain ⟨outcome, cancels⟩ := reaction
  cases cancels <;> cases outcome <;> rfl

namespace Session

/-- What is handed over for an entity: a builder gives its properties with fresh metadata. -/
inductive Payload.Builds : Payload → Entity → Prop
  | builder (builder : EntityBuilder) :
    Builds (.builder builder) ⟨builder.properties, some Entity.freshMetadata⟩
  | entity (entity : Entity) : Builds (.entity entity) entity

inductive Payload.ActsIn : Payload → BatchKind → TableAction → Prop
  | upsert {payload : Payload} {entity : Entity} (builds : payload.Builds entity) :
    ActsIn payload .upsert (.upsert entity .replace)
  | delete {payload : Payload} {entity : Entity} (builds : payload.Builds entity) :
    ActsIn payload .delete (.delete entity)

theorem Payload.actsIn (payload : Payload) (kind : BatchKind) :
    payload.ActsIn kind (kind.action payload.toEntity) := by
  have builds : payload.Builds payload.toEntity := by
    cases payload with
    | builder builder => exact .builder builder
    | entity entity => exact .entity entity
  cases kind with
  | upsert => exact .upsert builds
  | delete => exact .delete builds

section Batching

variable {ι σ : Type} {answers : Program.Answers σ} {session : Session} {table : TableClient}
  {kind : BatchKind} {items called : List ι} {build : ι → Reaction Payload} {state : σ}

def submitBuilt (session : Session) (table : TableClient) (kind : BatchKind)
    (actions : List TableAction) : Action Unit := do
  let name := kind.access.name
  if actions.isEmpty then operationsLogger.debug s!"{name} batch: no items, nothing submitted"
  else
    Action.raiseIfCancelled session.token s!"{name}_batch"
    Action.ofReply (← Action.send (.transact table actions))
    operationsLogger.debug s!"{name} batch: submitted {actions.length} action(s)"

theorem submit_eq :
    session.submit table kind items build =
      (items.mapM fun item => ((build item).toAction kind).perform session.token) >>=
        session.submitBuilt table kind := by
  unfold submit submitBuilt
  simp only [Reaction.perform_toAction]

/-! ## Outcomes -/

def toldAtCheck (answers : Program.Answers σ) (token : Token) (items : List ι)
    (build : ι → Reaction Payload) (start : σ) : Bool :=
  (answers (.isCancelled token) (Action.afterCalls answers token build items start)).1

def checkedState (answers : Program.Answers σ) (token : Token) (items : List ι)
    (build : ι → Reaction Payload) (start : σ) : σ :=
  (answers (.isCancelled token) (Action.afterCalls answers token build items start)).2

/-- What becomes of a batch when it has been routed: the items on which the callback is called, the
calls of the service, and the result. -/
inductive Batched (answers : Program.Answers σ) (token : Token) (target? : Option TableClient)
    (kind : BatchKind) (items : List ι) (build : ι → Reaction Payload) (start : σ) :
    List ι → List Request → Except Failure Unit → Prop
  | nowhere (skipped : target? = none) :
    Batched answers token target? kind items build start [] [] (.ok ())
  | empty (nothing : items = []) :
    Batched answers token target? kind items build start [] [] (.ok ())
  | unmapped {table : TableClient} {called : List ι} {failure : Failure}
    (found : target? = some table)
    (turns : InTurn (fun item => (build item).toAction kind) items called (.error failure)) :
    Batched answers token target? kind items build start called [] (.error failure)
  | stopped {table : TableClient} {actions : List TableAction} (found : target? = some table)
    (filled : items ≠ [])
    (turns : InTurn (fun item => (build item).toAction kind) items items (.ok actions))
    (told : toldAtCheck answers token items build start = true) :
    Batched answers token target? kind items build start items []
      (.error (.cancelled s!"{kind.access.name}_batch"))
  | sent {table : TableClient} {actions : List TableAction} (found : target? = some table)
    (filled : items ≠ [])
    (turns : InTurn (fun item => (build item).toAction kind) items items (.ok actions))
    (live : toldAtCheck answers token items build start = false) :
    Batched answers token target? kind items build start items [.transact table actions]
      ((answers (.transact table actions)
        (checkedState answers token items build start)).1.mapError .foreign)

/-! ## Runs -/

/-- An action ends with an outcome, and on the way it calls the service and cancels as given. -/
def EndsWith (answers : Program.Answers σ) {α : Type} (action : Action α) (state : σ)
    (outcome : Except Failure α) (calls cancellations : List Request) : Prop :=
  ∃ after asked, Action.Goes answers action state outcome after asked ∧
    asked.filter (·.IsService) = calls ∧ asked.filter Request.isCancel = cancellations

theorem EndsWith.after {α β : Type} {action : Action α} {more : α → Action β} {between : σ}
    {value : α} {outcome : Except Failure β} {asked calls cancellations : List Request}
    (goes : Action.Goes answers action state (.ok value) between asked)
    (later : EndsWith answers (more value) between outcome calls cancellations) :
    EndsWith answers (action >>= more) state outcome (asked.filter (·.IsService) ++ calls)
      (asked.filter Request.isCancel ++ cancellations) := by
  obtain ⟨after, rest, goes', rfl, rfl⟩ := later
  exact ⟨after, asked ++ rest, goes.bind goes', List.filter_append .., List.filter_append ..⟩

/-- An action that is quiet makes no difference to what comes after it. -/
theorem EndsWith.after_quiet {α β : Type} {action : Action α} {more : α → Action β} {between : σ}
    {value : α} {outcome : Except Failure β} {asked calls cancellations : List Request}
    (goes : Action.Goes answers action state (.ok value) between asked)
    (noCalls : asked.filter (·.IsService) = [])
    (noCancellations : asked.filter Request.isCancel = [])
    (later : EndsWith answers (more value) between outcome calls cancellations) :
    EndsWith answers (action >>= more) state outcome calls cancellations := by
  have both := EndsWith.after goes later
  rwa [noCalls, noCancellations, List.nil_append, List.nil_append] at both

theorem endsWith_submitBuilt_nil (session : Session) (table : TableClient) (kind : BatchKind)
    (state : σ) : EndsWith answers (session.submitBuilt table kind []) state (.ok ()) [] [] :=
  ⟨_, _, Action.goes_send _ _ state, rfl, rfl⟩

section Filled

variable {actions : List TableAction} (filled : actions ≠ [])
include filled

theorem submitBuilt_eq (session : Session) (table : TableClient) (kind : BatchKind) :
    session.submitBuilt table kind actions = (do
      Action.raiseIfCancelled session.token s!"{kind.access.name}_batch"
      Action.ofReply (← Action.send (.transact table actions))
      operationsLogger.debug
        s!"{kind.access.name} batch: submitted {actions.length} action(s)") := by
  have isFilled : ¬ actions.isEmpty = true := by simpa using filled
  unfold submitBuilt
  rw [if_neg isFilled]

theorem endsWith_submitBuilt_of_told (table : TableClient) (kind : BatchKind)
    (told : (answers (.isCancelled session.token) state).1 = true) :
    EndsWith answers (session.submitBuilt table kind actions) state
      (.error (.cancelled s!"{kind.access.name}_batch")) [] [] := by
  rw [submitBuilt_eq filled]
  exact ⟨_, _, (Action.goes_raiseIfCancelled told _).bind_error, rfl, rfl⟩

theorem endsWith_submitBuilt_of_live (table : TableClient) (kind : BatchKind)
    (live : (answers (.isCancelled session.token) state).1 = false) :
    EndsWith answers (session.submitBuilt table kind actions) state
      ((answers (.transact table actions)
        (answers (.isCancelled session.token) state).2).1.mapError .foreign)
      [.transact table actions] [] := by
  have check := Action.goes_raiseIfCancelled live s!"{kind.access.name}_batch"
  have sent := Action.goes_send answers (.transact table actions)
    (answers (.isCancelled session.token) state).2
  rw [submitBuilt_eq filled]
  cases reply : (answers (.transact table actions)
    (answers (.isCancelled session.token) state).2).1 with
  | error error =>
    rw [reply] at sent
    exact ⟨_, _, check.bind (sent.bind (Action.goes_throw _ _).bind_error), rfl, rfl⟩
  | ok done =>
    rw [reply] at sent
    exact ⟨_, _, check.bind (sent.bind ((Action.goes_pure done _).bind (Action.goes_send _ _ _))),
      rfl, rfl⟩

end Filled

theorem filter_isService_callRequests (token : Token) (build : ι → Reaction Payload)
    (called : List ι) : (Action.callRequests token build called).filter (·.IsService) = [] := by
  refine List.filter_eq_nil_iff.mpr fun request member => ?_
  obtain ⟨item, -, rfl⟩ := List.mem_map.mp member
  exact of_decide_eq_true rfl

theorem filter_isCancel_callRequests (token : Token) (build : ι → Reaction Payload)
    (called : List ι) :
    (Action.callRequests token build called).filter Request.isCancel =
      Action.callRequests token build called := by
  refine List.filter_eq_self.mpr fun request member => ?_
  obtain ⟨item, -, rfl⟩ := List.mem_map.mp member
  rfl

section Building

variable {other : ι → Reaction Payload} {outcome : Except Failure (List TableAction)} {start : σ}

theorem goes_build (answers : Program.Answers σ)
    (turns : InTurn (fun item => (build item).toAction kind) items called outcome)
    (same : ∀ item ∈ called, other item = build item) (token : Token) (start : σ) :
    Action.Goes answers (items.mapM fun item => ((other item).toAction kind).perform token) start
      outcome (Action.afterCalls answers token build called start)
      (Action.callRequests token build called) := by
  have alike : ∀ item ∈ called, (other item).toAction kind = (build item).toAction kind := by
    intro item member
    rw [same item member]
  have goes := Action.goes_mapM answers token (turns.congr alike) start
  rw [Action.afterCalls_congr answers token alike, Action.callRequests_congr token alike] at goes
  exact goes

theorem batched_of_built {target? : Option TableClient} {actions : List TableAction}
    (found : target? = some table)
    (each : List.Forall₂ (fun item action => ((build item).toAction kind).outcome = .ok action)
      items actions) (session : Session) (start : σ) :
    ∃ calls result,
      Batched answers session.token target? kind items build start items calls result ∧
      EndsWith answers (session.submitBuilt table kind actions)
        (Action.afterCalls answers session.token build items start) result calls [] := by
  by_cases nothing : items = []
  · subst nothing
    cases each
    exact ⟨[], _, .empty rfl, endsWith_submitBuilt_nil session table kind _⟩
  · have filled : actions ≠ [] := by
      rintro rfl
      cases each
      exact nothing rfl
    cases told : toldAtCheck answers session.token items build start with
    | true =>
      exact ⟨[], _, .stopped found nothing (.all each) told,
        endsWith_submitBuilt_of_told filled table kind told⟩
    | false =>
      exact ⟨_, _, .sent found nothing (.all each) told,
        endsWith_submitBuilt_of_live filled table kind told⟩

theorem batched_submit (answers : Program.Answers σ) {target? : Option TableClient}
    (found : target? = some table) (session : Session) (kind : BatchKind) (items : List ι)
    (build : ι → Reaction Payload) (start : σ) :
    ∃ called calls result,
      Batched answers session.token target? kind items build start called calls result ∧
      EndsWith answers (session.submit table kind items build) start result calls
        (Action.callRequests session.token build called) ∧
      ∀ other : ι → Reaction Payload, (∀ item ∈ called, other item = build item) →
        (session.submit table kind items other).run.run answers start =
          (session.submit table kind items build).run.run answers start := by
  obtain ⟨called, outcome, turns⟩ :=
    InTurn.exists_of_items (fun item => (build item).toAction kind) items
  have built := goes_build answers turns (fun _ _ => rfl) session.token start
  have others (other : ι → Reaction Payload) (same : ∀ item ∈ called, other item = build item) :
      (session.submit table kind items other).run.run answers start =
        (session.submit table kind items build).run.run answers start := by
    rw [submit_eq, submit_eq, Action.run_bind, Action.run_bind, built.run,
      (goes_build answers turns same session.token start).run]
  cases outcome with
  | error failure =>
    refine ⟨called, [], _, .unmapped found turns, ?_, others⟩
    rw [submit_eq]
    exact ⟨_, _, built.bind_error, filter_isService_callRequests ..,
      filter_isCancel_callRequests ..⟩
  | ok actions =>
    cases turns with
    | all each =>
      obtain ⟨calls, result, batched, ends⟩ := batched_of_built found each session start
      have both := EndsWith.after built ends
      rw [← submit_eq, filter_isService_callRequests, filter_isCancel_callRequests,
        List.nil_append, List.append_nil] at both
      exact ⟨items, calls, result, batched, both, others⟩

end Building

/-! ## Routes -/

def afterRouting (answers : Program.Answers σ) (route : Route) (access : AccessKind) (state : σ) :
    σ :=
  match route.note? access with
  | none => state
  | some note => (answers (.log ⟨routingLogger.name, .debug, note⟩) state).2

theorem goes_target? (answers : Program.Answers σ) {access : AccessKind} {route : Route}
    (leads : session.route access = .ok route) (state : σ) :
    ∃ asked, Action.Goes answers (session.target? access) state (.ok route.table?)
        (afterRouting answers route access state) asked ∧
      asked.filter (·.IsService) = [] ∧ asked.filter Request.isCancel = [] := by
  rw [target?_eq leads]
  unfold afterRouting
  cases route.note? access with
  | none => exact ⟨[], Action.goes_pure _ _, rfl, rfl⟩
  | some note =>
    exact ⟨_, (Action.goes_send _ _ state).bind (Action.goes_pure _ _), rfl, rfl⟩

theorem cancelled_afterRouting {token : Token} {cancelled : σ → Bool}
    (cancels : Cancels answers token cancelled) (route : Route) (access : AccessKind) (state : σ) :
    cancelled (afterRouting answers route access state) = cancelled state := by
  unfold afterRouting
  cases route.note? access with
  | none => rfl
  | some note =>
    cases already : cancelled state with
    | true => exact cancels.stays _ state already
    | false => exact cancels.between _ state id nofun already

/-! ## Whole batches -/

theorem endsWith_attempt {write : Action Unit} {result : Except Failure Unit}
    {calls cancellations : List Request}
    (ends : EndsWith answers write state result calls cancellations) (title : String) :
    EndsWith answers (attempt title write) state (.ok result) calls cancellations := by
  obtain ⟨after, asked, goes, rfl, rfl⟩ := ends
  unfold attempt
  cases result with
  | ok done =>
    refine ⟨_, _, goes.capture.bind (Action.goes_pure _ _), ?_, ?_⟩ <;> rw [List.append_nil]
  | error failure =>
    refine ⟨_, _, goes.capture.bind ((Action.goes_send _ _ _).bind (Action.goes_pure _ _)), ?_, ?_⟩
    · rw [List.filter_append]
      exact List.append_nil _
    · rw [List.filter_append]
      exact List.append_nil _

theorem batched_batch (answers : Program.Answers σ) {route : Route}
    (routed : session.route kind.access = .ok route)
    (items : List ι) (build : ι → Reaction Payload) (state : σ) :
    ∃ called calls result,
      Batched answers session.token route.table? kind items build
          (afterRouting answers route kind.access state) called calls result ∧
        EndsWith answers (session.batch kind items build) state (.ok result) calls
          (Action.callRequests session.token build called) ∧
        ∀ other : ι → Reaction Payload, (∀ item ∈ called, other item = build item) →
          (session.batch kind items other).run.run answers state =
            (session.batch kind items build).run.run answers state := by
  obtain ⟨asked, goes, noCalls, noCancellations⟩ :=
    goes_target? answers routed state
  cases found : route.table? with
  | none =>
    rw [found] at goes
    refine ⟨[], [], .ok (), .nowhere rfl, ?_, fun other _ => ?_⟩
    · exact .after_quiet goes noCalls noCancellations ⟨_, _, Action.goes_pure _ _, rfl, rfl⟩
    · unfold batch
      rw [Action.run_bind, Action.run_bind, goes.run]
  | some table =>
    rw [found] at goes
    obtain ⟨called, calls, result, batched, ends, others⟩ :=
      batched_submit answers found session kind items build
        (afterRouting answers route kind.access state)
    rw [found] at batched
    refine ⟨called, calls, result, batched, ?_, fun other same => ?_⟩
    · exact .after_quiet goes noCalls noCancellations (endsWith_attempt ends _)
    · unfold batch
      rw [Action.run_bind, Action.run_bind, goes.run]
      dsimp only
      unfold attempt
      rw [Action.run_bind, Action.run_bind, Action.run_capture, Action.run_capture,
        others other same]

/-! ## All or nothing -/

theorem outcome_toAction {reaction : Reaction Payload} {action : TableAction} :
    (reaction.toAction kind).outcome = .ok action ↔
      ∃ payload, reaction.outcome = .ok payload ∧ action = kind.action payload.toEntity := by
  unfold Reaction.toAction
  cases reaction.outcome with
  | error failure => simp [Except.map]
  | ok payload => simp [Except.map, eq_comm]

theorem built_iff {outcome : Except Failure (List TableAction)}
    (turns : InTurn (fun item => (build item).toAction kind) items called outcome) :
    (∃ actions, outcome = .ok actions) ↔
      ∀ item ∈ items, ∃ payload, (build item).outcome = .ok payload := by
  simp only [turns.ok_iff, outcome_toAction, exists_comm, exists_and_left, exists_eq, and_true]

section Outcome

variable {token : Token} {target? : Option TableClient} {start : σ} {calls : List Request}
  {result : Except Failure Unit}

theorem Batched.inOrder
    (batched : Batched answers token target? kind items build start called calls result) :
    called <+: items := by
  cases batched with
  | nowhere skipped => exact List.nil_prefix
  | empty nothing => exact List.nil_prefix
  | unmapped found turns => exact turns.called_prefix
  | stopped found filled turns told => exact List.prefix_rfl
  | sent found filled turns live => exact List.prefix_rfl

/-- The service is called exactly if there is a table, an item, an action for each and no
cancellation. -/
theorem Batched.sends_iff
    (batched : Batched answers token target? kind items build start called calls result) :
    calls ≠ [] ↔ target?.isSome ∧ items ≠ [] ∧
      (∀ item ∈ items, ∃ payload, (build item).outcome = .ok payload) ∧
      toldAtCheck answers token items build start = false := by
  cases batched with
  | nowhere skipped => simp [skipped]
  | empty nothing => simp [nothing]
  | unmapped found turns =>
    refine iff_of_false (fun sent => sent rfl) fun ⟨_, _, mapped, _⟩ => ?_
    obtain ⟨actions, same⟩ := (built_iff turns).mpr mapped
    cases same
  | stopped found filled turns told => simp [told]
  | sent found filled turns live =>
    have mapped := (built_iff turns).mp ⟨_, rfl⟩
    exact iff_of_true (List.cons_ne_nil _ _) ⟨by rw [found]; rfl, filled, mapped, live⟩

theorem Batched.sends
    (batched : Batched answers token target? kind items build start called calls result)
    (sends : calls ≠ []) :
    ∃ table actions, target? = some table ∧ calls = [.transact table actions] ∧
      List.Forall₂ (fun item action => ∃ payload, (build item).outcome = .ok payload ∧
        payload.ActsIn kind action) items actions := by
  cases batched with
  | sent found _ turns live =>
    have each := turns.each_of_ok rfl
    refine ⟨_, _, found, rfl, each.imp fun item action built => ?_⟩
    obtain ⟨payload, came, rfl⟩ := outcome_toAction.mp built
    exact ⟨payload, came, payload.actsIn kind⟩
  | _ => exact absurd rfl sends

theorem Batched.ok_iff
    (batched : Batched answers token target? kind items build start called calls result) :
    result = .ok () ↔ target? = none ∨ items = [] ∨
      ∃ table actions, calls = [.transact table actions] ∧
        (answers (.transact table actions)
          (checkedState answers token items build start)).1 = .ok () := by
  cases batched with
  | nowhere skipped => simp [skipped]
  | empty nothing => simp [nothing]
  | @unmapped table called failure found turns =>
    have filled : items ≠ [] := by
      rintro rfl
      obtain ⟨actions, same⟩ := (built_iff turns).mpr nofun
      cases same
    simp [found, filled]
  | stopped found filled turns told => simp [found, filled]
  | @sent table actions found filled turns live =>
    have accepted (reply : Except ForeignError Unit) :
        reply.mapError Failure.foreign = .ok () ↔ reply = .ok () := by
      cases reply <;> simp [Except.mapError]
    refine (accepted _).trans ⟨fun ok => .inr (.inr ⟨table, actions, rfl, ok⟩), ?_⟩
    rintro (skipped | nothing | ⟨_, _, same, ok⟩)
    · cases found.symm.trans skipped
    · exact absurd nothing filled
    · cases same
      exact ok

end Outcome

theorem toldAtCheck_eq {token : Token} {cancelled : σ → Bool}
    (cancels : Cancels answers token cancelled) (items : List ι) (build : ι → Reaction Payload)
    (start : σ) :
    toldAtCheck answers token items build start =
      (cancelled start || items.any fun item => (build item).cancels) := by
  unfold toldAtCheck
  rw [cancels.tells, Action.cancelled_afterCalls cancels]

/-- A batch on a route: on which items the callback is called, how the service is called, and what
the result is.  The batch is given as a function of the callback. -/
structure BatchRun (answers : Program.Answers σ) (session : Session) (route : Route)
    (kind : BatchKind) (items : List ι)
    (batchOf : (ι → Reaction Payload) → Action (Except Failure Unit)) (build : ι → Reaction Payload)
    (state : σ) (called : List ι) (sent : List Request) (result : Except Failure Unit) : Prop where
  outcome : Batched answers session.token route.table? kind items build
    (afterRouting answers route kind.access state) called sent result
  ends : ((batchOf build).run.run answers state).1 = .ok result
  calls : ((batchOf build).run.requests answers state).filter (·.IsService) = sent
  inOrder : called <+: items
  cancellations : ((batchOf build).run.requests answers state).filter Request.isCancel =
    Action.callRequests session.token build called
  others : ∀ other : ι → Reaction Payload, (∀ item ∈ called, other item = build item) →
    (batchOf other).run.run answers state = (batchOf build).run.run answers state
  transaction : sent ≠ [] → ∃ table actions, route.table? = some table ∧
    sent = [.transact table actions] ∧
      List.Forall₂ (fun item action => ∃ payload, (build item).outcome = .ok payload ∧
        payload.ActsIn kind action) items actions
  sends_iff : sent ≠ [] ↔ route.table?.isSome ∧ items ≠ [] ∧
    (∀ item ∈ items, ∃ payload, (build item).outcome = .ok payload) ∧
    toldAtCheck answers session.token items build (afterRouting answers route kind.access state) =
      false
  told : ∀ cancelled, Cancels answers session.token cancelled →
    toldAtCheck answers session.token items build (afterRouting answers route kind.access state) =
      (cancelled state || items.any fun item => (build item).cancels)
  ok_iff : result = .ok () ↔ route.table? = none ∨ items = [] ∨
    ∃ table actions, sent = [.transact table actions] ∧
      (answers (.transact table actions) (checkedState answers session.token items build
        (afterRouting answers route kind.access state))).1 = .ok ()

theorem batchRun {route : Route} (routed : session.route kind.access = .ok route)
    (items : List ι) (build : ι → Reaction Payload) (state : σ) :
    ∃ called sent result,
      BatchRun answers session route kind items (session.batch kind items) build state called sent
        result := by
  obtain ⟨called, sent, result, batched, ⟨after, asked, goes, rfl, cancellations⟩, others⟩ :=
    batched_batch answers routed items build state
  refine ⟨called, _, result, {
    outcome := batched
    ends := by rw [goes.run]
    calls := by rw [goes.requests]
    inOrder := batched.inOrder
    cancellations := by rw [goes.requests, cancellations]
    others := others
    transaction := batched.sends
    sends_iff := batched.sends_iff
    told := fun cancelled cancels => by
      rw [toldAtCheck_eq cancels, cancelled_afterRouting cancels]
    ok_iff := batched.ok_iff }⟩

/-- Batches are all or nothing.  On whatever route, the callback is called on the items in order
until it fails, and the service is called once, in a transaction with one action for every item, if
there is a table, an item, an entity of each and no cancellation; else it is not called.  An action
replaces what is stored with the entity that the callback built, or deletes it.  The result is a
success exactly if the transaction was one or if none was needed, and else the first failure. -/
theorem batches_all_or_nothing (answers : Program.Answers σ) (session : Session) (items : List ι)
    (build : ι → Reaction Payload) (state : σ) :
    (∀ route, session.route .write = .ok route → ∃ called sent result,
        BatchRun answers session route .upsert items (session.insertBatch items) build state called
          sent result) ∧
      ∀ route, session.route .delete = .ok route → ∃ called sent result,
        BatchRun answers session route .delete items (session.deleteBatch items) build state called
          sent result :=
  ⟨fun _ routed => batchRun routed items build state,
    fun _ routed => batchRun routed items build state⟩

end Batching

/-- A callback that fails on the second of three items. -/
theorem batches_all_or_nothing_failing :
    let session : Session := { unconnected ⟨0⟩ with
      storage := some { prod := { table := some ⟨"cprod", "abc"⟩ } } }
    let store : AtomicStore := ⟨[], fun _ _ => none, []⟩
    let refused : Failure := .foreign ⟨.value, "second"⟩
    let build (key : String) : Reaction Payload :=
      if key = "b" then ⟨.error refused, false⟩
      else ⟨.ok (.builder (.start (.text "p") (.text key))), false⟩
    session.route .write = .ok (.straight ⟨"cprod", "abc"⟩) ∧
      ∃ called, BatchRun AtomicStore.answers session (.straight ⟨"cprod", "abc"⟩) .upsert
        ["a", "b", "c"] (session.insertBatch ["a", "b", "c"]) build store called []
          (.error refused) := by
  intro session store refused build
  have routed : session.route .write = .ok (.straight ⟨"cprod", "abc"⟩) := rfl
  obtain ⟨called, sent, result, batch⟩ :=
    (batches_all_or_nothing AtomicStore.answers session ["a", "b", "c"] build store).1 _ routed
  have ends : ((session.insertBatch ["a", "b", "c"] build).run.run AtomicStore.answers store).1 =
      .ok (.error refused) := rfl
  have failed : result = .error refused := Except.ok.inj (batch.ends.symm.trans ends)
  have nothing : sent = [] := by
    by_contra sends
    obtain ⟨-, -, mapped, -⟩ := batch.sends_iff.mp sends
    obtain ⟨payload, built⟩ := mapped "b" (by decide)
    cases built
  subst failed nothing
  exact ⟨routed, called, batch⟩

end Session
end StagedTables
