import Mathlib.Data.List.Forall2
import StagedTables.Proofs.Program.Cancellation

/-! # Callbacks in turn

A callback is called on one item after another until it fails.  All that a program tells of these
calls are the cancellations on the way, and it ends with the values or with the first failure. -/
set_option autoImplicit false
namespace StagedTables

section Callbacks

variable {ι α σ : Type}

/-- The items on which a callback is called, and what comes of it: its values on all items, or the
failure on the first item on which it fails. -/
inductive InTurn (react : ι → Reaction α) : List ι → List ι → Except Failure (List α) → Prop
  | all {items : List ι} {values : List α}
    (each : List.Forall₂ (fun item value => (react item).outcome = .ok value) items values) :
    InTurn react items items (.ok values)
  | fails {before rest : List ι} {item : ι} {failure : Failure}
    (fine : ∀ earlier ∈ before, ∃ value, (react earlier).outcome = .ok value)
    (failed : (react item).outcome = .error failure) :
    InTurn react (before ++ item :: rest) (before ++ [item]) (.error failure)

variable {react other : ι → Reaction α} {items called : List ι} {outcome : Except Failure (List α)}

namespace InTurn

theorem cons {item : ι} {value : α} (passed : (react item).outcome = .ok value)
    (turns : InTurn react items called outcome) :
    InTurn react (item :: items) (item :: called) (outcome.map (value :: ·)) := by
  cases turns with
  | all each => exact .all (.cons passed each)
  | fails fine failed =>
    exact .fails (List.forall_mem_cons.mpr ⟨⟨value, passed⟩, fine⟩) failed

theorem exists_of_items (react : ι → Reaction α) (items : List ι) :
    ∃ called outcome, InTurn react items called outcome := by
  induction items with
  | nil => exact ⟨[], .ok [], .all .nil⟩
  | cons item rest ih =>
    cases result : (react item).outcome with
    | ok value =>
      obtain ⟨called, outcome, turns⟩ := ih
      exact ⟨_, _, turns.cons result⟩
    | error failure =>
      have nothing : ∀ earlier ∈ ([] : List ι), ∃ value, (react earlier).outcome = .ok value :=
        nofun
      exact ⟨[item], .error failure, .fails nothing result⟩

theorem called_prefix (turns : InTurn react items called outcome) : called <+: items := by
  cases turns with
  | all each => exact List.prefix_rfl
  | fails fine failed => exact ⟨_, List.append_assoc _ [_] _⟩

theorem congr (turns : InTurn react items called outcome)
    (same : ∀ item ∈ called, other item = react item) : InTurn other items called outcome := by
  cases turns with
  | all each =>
    refine .all ?_
    induction each with
    | nil => exact .nil
    | cons first _ ih =>
      obtain ⟨here, later⟩ := List.forall_mem_cons.mp same
      refine .cons ?_ (ih later)
      rw [here, first]
  | fails fine failed =>
    obtain ⟨before, last⟩ := List.forall_mem_append.mp same
    refine .fails (fun earlier member => ?_) ?_
    · rw [before earlier member]
      exact fine earlier member
    · rw [last _ List.mem_cons_self, failed]

theorem each_of_ok {values : List α} (turns : InTurn react items called outcome)
    (given : outcome = .ok values) :
    List.Forall₂ (fun item value => (react item).outcome = .ok value) items values := by
  cases turns with
  | all each =>
    cases given
    exact each
  | fails fine failed => cases given

theorem ok_iff (turns : InTurn react items called outcome) :
    (∃ values, outcome = .ok values) ↔
      ∀ item ∈ items, ∃ value, (react item).outcome = .ok value := by
  cases turns with
  | all each =>
    refine iff_of_true ⟨_, rfl⟩ ?_
    induction each with
    | nil => exact nofun
    | cons first _ ih => exact List.forall_mem_cons.mpr ⟨⟨_, first⟩, ih⟩
  | @fails before rest item failure fine failed =>
    refine iff_of_false nofun fun every => ?_
    obtain ⟨value, passed⟩ := every item (List.mem_append_right _ List.mem_cons_self)
    rw [failed] at passed
    cases passed

end InTurn

/-! ## Runs -/

namespace Action

variable {β : Type}

/-- A run of an action: what it ends with, in which state, and what it asked for. -/
structure Goes (answers : Program.Answers σ) (action : Action α) (state : σ)
    (outcome : Except Failure α) (after : σ) (asked : List Request) : Prop where
  run : action.run.run answers state = (outcome, after)
  requests : action.run.requests answers state = asked

variable {answers : Program.Answers σ} {action : Action α} {more : α → Action β}
  {state between after : σ} {asked later : List Request}

theorem goes_pure (value : α) (state : σ) :
    Goes answers (pure value : Action α) state (.ok value) state [] :=
  ⟨rfl, rfl⟩

theorem goes_throw (failure : Failure) (state : σ) :
    Goes answers (throw failure : Action α) state (.error failure) state [] :=
  ⟨rfl, rfl⟩

theorem goes_send (answers : Program.Answers σ) (request : Request) (state : σ) :
    Goes answers (send request) state (.ok (answers request state).1) (answers request state).2
      [request] :=
  ⟨rfl, rfl⟩

theorem Goes.bind {value : α} {result : Except Failure β}
    (first : Goes answers action state (.ok value) between asked)
    (rest : Goes answers (more value) between result after later) :
    Goes answers (action >>= more) state result after (asked ++ later) := by
  constructor
  · rw [run_bind, first.run]
    exact rest.run
  · rw [requests_bind, first.run, first.requests]
    exact congrArg (asked ++ ·) rest.requests

theorem Goes.bind_error {failure : Failure}
    (first : Goes answers action state (.error failure) after asked) :
    Goes answers (action >>= more) state (.error failure) after asked := by
  constructor
  · rw [run_bind, first.run]
  · rw [requests_bind, first.run, first.requests]
    exact List.append_nil _

theorem Goes.capture {result : Except Failure α}
    (goes : Goes answers action state result after asked) :
    Goes answers (capture action) state (.ok result) after asked := by
  constructor
  · rw [run_capture, goes.run]
  · rw [← Program.map_steps, steps_capture, Program.map_steps, goes.requests]

theorem goes_raiseIfCancelled {token : Token} {told : Bool}
    (tells : (answers (.isCancelled token) state).1 = told) (operation : String) :
    Goes answers (raiseIfCancelled token operation) state
      (if told then .error (.cancelled operation) else .ok ())
      (answers (.isCancelled token) state).2 [.isCancelled token] :=
  ⟨run_raiseIfCancelled_of_tells tells operation, by rw [raiseIfCancelled_eq]; rfl⟩

/-! ## Calls -/

variable (answers) (token : Token)

def afterCall (reaction : Reaction α) (state : σ) : σ :=
  if reaction.cancels then (answers (.cancel token) state).2 else state

def afterCalls (react : ι → Reaction α) (called : List ι) (state : σ) : σ :=
  called.foldl (fun state item => afterCall answers token (react item) state) state

def callRequests (react : ι → Reaction α) (called : List ι) : List Request :=
  (called.filter fun item => (react item).cancels).map fun _ => .cancel token

theorem afterCalls_congr (same : ∀ item ∈ called, other item = react item) (state : σ) :
    afterCalls answers token other called state = afterCalls answers token react called state := by
  unfold afterCalls
  induction called generalizing state with
  | nil => rfl
  | cons item rest ih =>
    obtain ⟨here, later⟩ := List.forall_mem_cons.mp same
    rw [List.foldl_cons, List.foldl_cons, here, ih later]

theorem cancelled_afterCalls {answers : Program.Answers σ} {token : Token} {cancelled : σ → Bool}
    (cancels : Cancels answers token cancelled) (react : ι → Reaction α) (called : List ι)
    (state : σ) :
    cancelled (afterCalls answers token react called state) =
      (cancelled state || called.any fun item => (react item).cancels) := by
  unfold afterCalls
  induction called generalizing state with
  | nil => simp
  | cons item rest ih =>
    rw [List.foldl_cons, ih, List.any_cons, afterCall]
    cases (react item).cancels with
    | false => simp
    | true => simp [cancels.obeys]

theorem callRequests_congr (same : ∀ item ∈ called, other item = react item) :
    callRequests token other called = callRequests token react called := by
  unfold callRequests
  rw [List.filter_congr fun item member => by rw [same item member]]

theorem callRequests_cons (react : ι → Reaction α) (item : ι) (rest : List ι) :
    callRequests token react (item :: rest) =
      (if (react item).cancels then [.cancel token] else []) ++ callRequests token react rest := by
  unfold callRequests
  cases cancels : (react item).cancels <;> simp [cancels]

theorem goes_perform (reaction : Reaction α) (state : σ) :
    Goes answers (reaction.perform token) state reaction.outcome
      (afterCall answers token reaction state)
      (if reaction.cancels then [.cancel token] else []) := by
  obtain ⟨outcome, cancels⟩ := reaction
  cases cancels <;> cases outcome <;> exact ⟨rfl, rfl⟩

variable {answers token}

theorem goes_mapM_cons {item : ι} {value : α} (passed : (react item).outcome = .ok value)
    (goes : Goes answers (items.mapM fun item => (react item).perform token)
      (afterCall answers token (react item) state) outcome after asked) :
    Goes answers ((item :: items).mapM fun item => (react item).perform token) state
      (outcome.map (value :: ·)) after
      ((if (react item).cancels then [.cancel token] else []) ++ asked) := by
  have first := goes_perform answers token (react item) state
  rw [passed] at first
  rw [List.mapM_cons]
  refine first.bind ?_
  cases outcome with
  | error failure => exact goes.bind_error
  | ok values =>
    rw [← List.append_nil asked]
    exact goes.bind (goes_pure (value :: values) after)

theorem goes_mapM_fails {item : ι} {failure : Failure}
    (failed : (react item).outcome = .error failure) (rest : List ι) (state : σ) :
    Goes answers ((item :: rest).mapM fun item => (react item).perform token) state
      (.error failure) (afterCall answers token (react item) state)
      (if (react item).cancels then [.cancel token] else []) := by
  have first := goes_perform answers token (react item) state
  rw [failed] at first
  rw [List.mapM_cons]
  exact first.bind_error

/-- A callback that is called in turn asks for nothing but cancellations. -/
theorem goes_mapM (answers : Program.Answers σ) (token : Token)
    (turns : InTurn react items called outcome) (state : σ) :
    Goes answers (items.mapM fun item => (react item).perform token) state outcome
      (afterCalls answers token react called state) (callRequests token react called) := by
  cases turns with
  | all each =>
    induction each generalizing state with
    | nil => exact goes_pure [] state
    | cons passed _ ih =>
      rw [callRequests_cons]
      exact goes_mapM_cons passed (ih _)
  | @fails before rest item failure fine failed =>
    induction before generalizing state with
    | nil =>
      rw [List.nil_append, List.nil_append, callRequests_cons]
      exact (List.append_nil _).symm ▸ goes_mapM_fails failed rest state
    | cons first before ih =>
      obtain ⟨⟨value, passed⟩, fine⟩ := List.forall_mem_cons.mp fine
      rw [List.cons_append, List.cons_append, callRequests_cons]
      exact goes_mapM_cons passed (ih _ fine)

end Action

end Callbacks
end StagedTables
