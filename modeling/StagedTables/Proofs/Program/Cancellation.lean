import StagedTables.Proofs.Program.Contract

/-! # Programs and cancellation

A token may be cancelled by callbacks, and by anybody while a program waits for a reply.  A program
heeds the cancellation if it calls the service only before it; the rules for that go along with the
state in which each request is made. -/
set_option autoImplicit false
namespace StagedTables

namespace Request

/-- A request by which the service is called or its pager is asked for a row. -/
def IsService : Request → Prop
  | createTable _ _ => True
  | getEntity _ _ _ => True
  | startQuery _ => True
  | awaitRow _ _ => True
  | upsert _ _ _ => True
  | delete _ _ _ => True
  | transact _ _ => True
  | _ => False

/-- A request for whose reply the program waits, while others go on. -/
def IsAwaited : Request → Prop
  | sleep _ => True
  | startQuery _ => False
  | request => request.IsService

end Request

/-- Surroundings in which a token is cancelled once and for all: by callbacks and while a program
waits for a reply, at no other time. -/
structure Cancels {σ : Type} (answers : Program.Answers σ) (token : Token) (cancelled : σ → Bool) :
    Prop where
  tells : ∀ state, (answers (.isCancelled token) state).1 = cancelled state
  obeys : ∀ state, cancelled (answers (.cancel token) state).2 = true
  stays : ∀ request state, cancelled state = true → cancelled (answers request state).2 = true
  between : ∀ request state, ¬ request.IsAwaited → request ≠ .cancel token →
    cancelled state = false → cancelled (answers request state).2 = false

/-! ## Steps of a run -/

namespace Program

variable {α β σ : Type} {answers : Answers σ}

def steps (answers : Answers σ) : Program α → σ → List (Request × σ)
  | done _, _ => []
  | ask request next, state =>
    (request, state) :: (next (answers request state).1).steps answers (answers request state).2

theorem steps_andThen (program : Program α) (more : α → Program β) (state : σ) :
    (program.andThen more).steps answers state =
      program.steps answers state ++
        (more (program.run answers state).1).steps answers (program.run answers state).2 := by
  induction program generalizing state with
  | done value => rfl
  | ask request next ih => simp only [andThen, steps, run, ih, List.cons_append]

theorem map_steps (program : Program α) (state : σ) :
    (program.steps answers state).map (·.1) = program.requests answers state := by
  induction program generalizing state with
  | done value => rfl
  | ask request next ih => simp only [steps, requests, List.map_cons, ih]

theorem cancelled_run {token : Token} {cancelled : σ → Bool}
    (cancels : Cancels answers token cancelled) (program : Program α) {state : σ}
    (already : cancelled state = true) : cancelled (program.run answers state).2 = true := by
  induction program generalizing state with
  | done value => exact already
  | ask request next ih => exact ih _ (cancels.stays request state already)

end Program

namespace Action

variable {α β σ : Type} {answers : Program.Answers σ}

theorem steps_bind (action : Action α) (more : α → Action β) (state : σ) :
    (action >>= more).run.steps answers state =
      action.run.steps answers state ++
        match (action.run.run answers state).1 with
        | .ok value => (more value).run.steps answers (action.run.run answers state).2
        | .error _ => [] := by
  refine (Program.steps_andThen action.run _ state).trans ?_
  cases (action.run.run answers state).1 <;> rfl

theorem requests_bind (action : Action α) (more : α → Action β) (state : σ) :
    (action >>= more).run.requests answers state =
      action.run.requests answers state ++
        match (action.run.run answers state).1 with
        | .ok value => (more value).run.requests answers (action.run.run answers state).2
        | .error _ => [] := by
  simp only [← Program.map_steps, steps_bind, List.map_append]
  cases (action.run.run answers state).1 <;> rfl

theorem steps_capture (action : Action α) (state : σ) :
    (capture action).run.steps answers state = action.run.steps answers state :=
  (Program.steps_andThen action.run _ state).trans (List.append_nil _)

end Action

/-! ## Heeding a cancellation -/

section Heeding

variable {α β σ : Type} {answers : Program.Answers σ} {token : Token} {cancelled : σ → Bool}
  {before : σ → Prop}

def Anyhow (_ : σ) : Prop := True

def Live (cancelled : σ → Bool) (state : σ) : Prop := cancelled state = false

namespace Program

/-- From any state with the condition `before`, the service is called only as long as nothing is
cancelled, and the run ends with the condition `after`. -/
def Heeds (answers : Answers σ) (cancelled : σ → Bool) (before : σ → Prop) (program : Program α)
    (after : α → σ → Prop) : Prop :=
  ∀ state, before state →
    (∀ step ∈ program.steps answers state, step.1.IsService → Live cancelled step.2) ∧
      after (program.run answers state).1 (program.run answers state).2

theorem heeds_done {after : α → σ → Prop} {value : α}
    (holds : ∀ state, before state → after value state) :
    (done value).Heeds answers cancelled before after :=
  fun state ready => ⟨nofun, holds state ready⟩

theorem Heeds.andThen {middle : α → σ → Prop} {after : β → σ → Prop} {program : Program α}
    {more : α → Program β} (heeds : program.Heeds answers cancelled before middle)
    (rest : ∀ value, (more value).Heeds answers cancelled (middle value) after) :
    (program.andThen more).Heeds answers cancelled before after := by
  intro state ready
  obtain ⟨first, between⟩ := heeds state ready
  obtain ⟨later, ends⟩ := rest _ _ between
  rw [steps_andThen, run_andThen]
  exact ⟨List.forall_mem_append.mpr ⟨first, later⟩, ends⟩

end Program

namespace Action

/-- The same for an action; what it ends with counts only if it does not fail. -/
structure Heeds (answers : Program.Answers σ) (cancelled : σ → Bool) (before : σ → Prop)
    (action : Action α) (after : α → σ → Prop) : Prop where
  run : Program.Heeds answers cancelled before action.run fun outcome state =>
    ∀ value, outcome = .ok value → after value state

variable {after : α → σ → Prop}

theorem heeds_pure {value : α} (holds : ∀ state, before state → after value state) :
    Heeds answers cancelled before (pure value : Action α) after := by
  refine ⟨Program.heeds_done fun state ready => ?_⟩
  rintro _ ⟨⟩
  exact holds state ready

theorem heeds_throw (failure : Failure) :
    Heeds answers cancelled before (throw failure : Action α) after :=
  ⟨Program.heeds_done fun _ _ => nofun⟩

theorem Heeds.bind {later : β → σ → Prop} {action : Action α} {more : α → Action β}
    (heeds : Heeds answers cancelled before action after)
    (rest : ∀ value, Heeds answers cancelled (after value) (more value) later) :
    Heeds answers cancelled before (action >>= more) later := by
  refine ⟨Program.Heeds.andThen heeds.run fun outcome => ?_⟩
  cases outcome with
  | ok value => exact fun state ready => (rest value).run state (ready value rfl)
  | error failure => exact Program.heeds_done fun _ _ => nofun

theorem heeds_liftM (result : Except Failure α) :
    Heeds answers cancelled before (liftM result : Action α) fun _ => before :=
  ⟨Program.heeds_done fun _ ready _ _ => ready⟩

theorem heeds_ofReply (reply : Except ForeignError α) :
    Heeds answers cancelled before (ofReply reply) fun _ => before := by
  cases reply with
  | ok value => exact heeds_pure fun _ ready => ready
  | error error => exact heeds_throw _

theorem Heeds.capture {good : α → Prop} {action : Action α}
    (heeds : Heeds answers cancelled before action fun value _ => good value) :
    Heeds answers cancelled before (capture action) fun outcome _ =>
      ∀ value, outcome = .ok value → good value := by
  refine ⟨Program.Heeds.andThen heeds.run fun outcome => Program.heeds_done ?_⟩
  rintro state holds _ ⟨⟩
  exact holds

theorem heeds_send (request : Request)
    (timely : ∀ state, before state → request.IsService → Live cancelled state) {after : σ → Prop}
    (leads : ∀ state, before state → after (answers request state).2) :
    Heeds answers cancelled before (send request) fun _ => after := by
  refine ⟨fun state ready => ⟨?_, fun _ _ => leads state ready⟩⟩
  rintro step member service
  cases List.mem_singleton.mp member
  exact timely state ready service

theorem heeds_call (request : Request) :
    Heeds answers cancelled (Live cancelled) (send request) fun _ => Anyhow :=
  heeds_send request (fun _ live _ => live) fun _ _ => trivial

theorem heeds_aside (request : Request) (aside : ¬ request.IsService) :
    Heeds answers cancelled before (send request) fun _ => Anyhow :=
  heeds_send request (fun _ _ service => absurd service aside) fun _ _ => trivial

theorem heeds_log (logger : Logger) (level : Logging.Level) (message : String) :
    Heeds answers cancelled before (logger.log level message) fun _ => Anyhow :=
  heeds_aside _ id

theorem heeds_perform (reaction : Reaction α) (token : Token) :
    Heeds answers cancelled before (reaction.perform token) fun _ => Anyhow := by
  obtain ⟨outcome, cancels⟩ := reaction
  have ends : Heeds answers cancelled Anyhow
      (match outcome with
        | .ok value => return value
        | .error failure => throw failure) fun (_ : α) => Anyhow := by
    cases outcome with
    | ok value => exact heeds_pure fun _ ready => ready
    | error failure => exact heeds_throw failure
  cases cancels with
  | true => exact (heeds_aside _ id).bind fun _ => ends
  | false =>
    refine ⟨fun state _ => ends.run state trivial⟩

theorem heeds_mapM {ι : Type} {f : ι → Action α} {items : List ι}
    (each : ∀ item ∈ items, Heeds answers cancelled Anyhow (f item) fun _ => Anyhow) :
    Heeds answers cancelled Anyhow (items.mapM f) fun _ => Anyhow := by
  induction items with
  | nil => exact heeds_pure fun _ ready => ready
  | cons item rest ih =>
    obtain ⟨first, later⟩ := List.forall_mem_cons.mp each
    rw [List.mapM_cons]
    refine first.bind fun value => (ih later).bind fun values => ?_
    exact heeds_pure fun _ ready => ready

theorem raiseIfCancelled_eq (token : Token) (operation : String) :
    (raiseIfCancelled token operation).run = .ask (.isCancelled token) fun told : Bool =>
      .done (if told then .error (.cancelled operation) else .ok ()) := by
  refine congrArg (Program.ask (.isCancelled token)) (funext fun told => ?_)
  cases (told : Bool) <;> rfl

theorem run_raiseIfCancelled_of_tells {told : Bool} {state : σ}
    (tells : (answers (.isCancelled token) state).1 = told) (operation : String) :
    (raiseIfCancelled token operation).run.run answers state =
      (if told then .error (.cancelled operation) else .ok (),
        (answers (.isCancelled token) state).2) := by
  rw [raiseIfCancelled_eq, ← tells]
  rfl

section Cancels

variable (cancels : Cancels answers token cancelled)
include cancels

theorem heeds_between (request : Request) (meanwhile : ¬ request.IsAwaited)
    (silent : request ≠ .cancel token) :
    Heeds answers cancelled (Live cancelled) (send request) fun _ => Live cancelled :=
  heeds_send request (fun _ live _ => live) fun state live =>
    cancels.between request state meanwhile silent live

theorem run_raiseIfCancelled (operation : String) (state : σ) :
    (raiseIfCancelled token operation).run.run answers state =
      (if cancelled state then .error (.cancelled operation) else .ok (),
        (answers (.isCancelled token) state).2) :=
  run_raiseIfCancelled_of_tells (cancels.tells state) operation

theorem heeds_raiseIfCancelled (operation : String) :
    Heeds answers cancelled before (raiseIfCancelled token operation) fun _ => Live cancelled := by
  refine ⟨fun state _ => ⟨?_, fun _ passed => ?_⟩⟩
  · intro step member service
    rw [raiseIfCancelled_eq] at member
    cases List.mem_singleton.mp member
    exact service.elim
  · rw [run_raiseIfCancelled cancels] at passed ⊢
    cases told : cancelled state with
    | true => simp [told] at passed
    | false => exact cancels.between _ state id nofun told

end Cancels

end Action

end Heeding
end StagedTables
