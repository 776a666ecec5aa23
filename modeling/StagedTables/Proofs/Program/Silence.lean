import StagedTables.Proofs.Program.Cancellation

/-! # Programs that are not told of a cancellation

What a program does once its token is cancelled is compared with its run in the same surroundings,
had nobody told it.  Either it would have called the service, and then it reports the cancellation
instead, or it does just the same. -/
set_option autoImplicit false
namespace StagedTables

/-- The same surroundings, except that they tell nobody that the token is cancelled. -/
def silent {σ : Type} (answers : Program.Answers σ) (token : Token) : Program.Answers σ
  | .isCancelled other, state =>
    if other = token then (false, (answers (.isCancelled other) state).2)
    else answers (.isCancelled other) state
  | request, state => answers request state

def Contract.unaware : Contract :=
  .only fun request => ¬ request.IsService ∧ ∀ token, request ≠ .isCancelled token

section Silence

variable {α β σ : Type} {answers : Program.Answers σ} {token : Token} {cancelled : σ → Bool}

theorem silent_of_ne {request : Request} (other : ∀ token, request ≠ .isCancelled token) :
    silent answers token request = answers request := by
  cases request with
  | isCancelled token => exact absurd rfl (other token)
  | _ => rfl

theorem Program.Keeps.silent {good : α → Prop} {program : Program α}
    (kept : program.Keeps .unaware good) (state : σ) :
    good (program.run answers state).1 ∧
      program.run (silent answers token) state = program.run answers state ∧
      ∀ step ∈ program.steps (silent answers token) state, ¬ step.1.IsService := by
  induction program generalizing state with
  | done value => exact ⟨kept, rfl, nofun⟩
  | ask request next ih =>
    obtain ⟨⟨aside, unaware⟩, later⟩ := kept
    obtain ⟨ends, same, rest⟩ := ih _ (later _ trivial) (answers request state).2
    simp only [Program.run, Program.steps, silent_of_ne unaware]
    exact ⟨ends, same, List.forall_mem_cons.mpr ⟨aside, rest⟩⟩

namespace Action

def Calls (answers : Program.Answers σ) (action : Action α) : Prop :=
  ∀ state, ∃ step ∈ action.run.steps answers state, step.1.IsService

theorem calls_send (request : Request) (service : request.IsService)
    (more : request.Reply → Action α) : (send request >>= more).Calls answers :=
  fun state => ⟨(request, state), List.mem_cons_self, service⟩

theorem calls_after (request : Request) {more : request.Reply → Action α}
    (rest : ∀ reply, (more reply).Calls answers) : (send request >>= more).Calls answers := by
  intro state
  obtain ⟨step, member, service⟩ := rest (answers request state).1 (answers request state).2
  exact ⟨step, List.mem_cons_of_mem _ member, service⟩

/-- Without being told of a cancellation an action does not call the service, and being told makes
no difference; a value that it ends with is good. -/
structure IsSpared (answers : Program.Answers σ) (token : Token) (good : α → Prop)
    (action : Action α) (state : σ) : Prop where
  aside : ∀ step ∈ action.run.steps (silent answers token) state, ¬ step.1.IsService
  same : action.run.run (silent answers token) state = action.run.run answers state
  ends : ∀ value, (action.run.run answers state).1 = .ok value → good value

/-- Without being told of a cancellation an action would call the service; so it ends with a report
instead. -/
structure IsStopped (answers : Program.Answers σ) (token : Token) (report : Except Failure α)
    (action : Action α) (state : σ) : Prop where
  calls : ∃ step ∈ action.run.steps (silent answers token) state, step.1.IsService
  ends : (action.run.run answers state).1 = report

/-- What an action does that begins when the token is cancelled. -/
structure Reports (answers : Program.Answers σ) (token : Token) (cancelled : σ → Bool)
    (report : Except Failure α) (good : α → Prop) (action : Action α) : Prop where
  once : ∀ state, cancelled state = true →
    action.IsStopped answers token report state ∨ action.IsSpared answers token good state

variable {report : Except Failure α} {later : Except Failure β} {good : α → Prop}
  {fine : β → Prop} {action : Action α} {more : α → Action β}

theorem Keeps.isSpared (kept : Keeps .unaware good action) (state : σ) :
    action.IsSpared answers token good state := by
  obtain ⟨ends, same, aside⟩ := kept.run.silent state
  exact ⟨aside, same, ends⟩

theorem Keeps.reports (kept : Keeps .unaware good action) :
    action.Reports answers token cancelled report good :=
  ⟨fun state _ => .inr (kept.isSpared state)⟩

theorem keeps_unaware (request : Request) (aside : ¬ request.IsService)
    (unaware : ∀ token, request ≠ .isCancelled token) :
    Keeps .unaware (fun _ => True) (send request) :=
  keeps_request request ⟨aside, unaware⟩

theorem keeps_log_unaware (logger : Logger) (level : Logging.Level) (message : String) :
    Keeps .unaware (fun _ => True) (logger.log level message) :=
  keeps_unaware (.log ⟨logger.name, level, message⟩) id nofun

theorem keeps_perform_unaware (reaction : Reaction α) (token : Token) :
    Keeps .unaware (fun _ => True) (reaction.perform token) := by
  have permitted : Contract.unaware.Permits (.cancel token) := ⟨id, nofun⟩
  exact (keeps_reaction reaction permitted).mono fun _ _ => trivial

theorem Reports.capture {failure : Failure}
    (reports : action.Reports answers token cancelled (.error failure) good) :
    (capture action).Reports answers token cancelled (.ok (.error failure))
      fun result => ∀ value, result = .ok value → good value := by
  refine ⟨fun state already => ?_⟩
  obtain stopped | spared := reports.once state already
  · refine .inl ⟨?_, ?_⟩
    · rw [steps_capture]
      exact stopped.calls
    · rw [run_capture, stopped.ends]
  · refine .inr ⟨?_, ?_, ?_⟩
    · rw [steps_capture]
      exact spared.aside
    · rw [run_capture, run_capture, spared.same]
    · rw [run_capture]
      rintro _ ⟨⟩
      exact spared.ends

section Cancels

variable (cancels : Cancels answers token cancelled)
include cancels

/-- What would call the service after a check reports at the check. -/
theorem reports_raiseIfCancelled (operation : String) {more : Unit → Action β}
    (calls : (more ()).Calls (silent answers token)) :
    (raiseIfCancelled token operation >>= more).Reports answers token cancelled
      (.error (.cancelled operation)) fine := by
  refine ⟨fun state already => .inl ⟨?_, ?_⟩⟩
  · obtain ⟨step, member, service⟩ := calls (answers (.isCancelled token) state).2
    refine ⟨step, ?_, service⟩
    rw [steps_bind, raiseIfCancelled_eq]
    simp [Program.run, Program.steps, silent, member]
  · rw [run_bind, run_raiseIfCancelled cancels, already]
    rfl

theorem IsSpared.bind {state : σ} (spared : action.IsSpared answers token good state)
    (already : cancelled state = true)
    (rest : ∀ value, good value → (more value).Reports answers token cancelled later fine) :
    (action >>= more).IsStopped answers token later state ∨
      (action >>= more).IsSpared answers token fine state := by
  have still := Program.cancelled_run cancels action.run already
  cases outcome : (action.run.run answers state).1 with
  | error failure =>
    refine .inr ⟨?_, ?_, ?_⟩
    · rw [steps_bind, spared.same, outcome, List.append_nil]
      exact spared.aside
    · rw [run_bind, run_bind, spared.same, outcome]
    · rw [run_bind, outcome]
      exact nofun
  | ok value =>
    obtain stopped | quiet := (rest value (spared.ends value outcome)).once _ still
    · refine .inl ⟨?_, ?_⟩
      · obtain ⟨step, member, service⟩ := stopped.calls
        rw [steps_bind, spared.same, outcome]
        exact ⟨step, List.mem_append_right _ member, service⟩
      · rw [run_bind, outcome]
        exact stopped.ends
    · refine .inr ⟨?_, ?_, ?_⟩
      · rw [steps_bind, spared.same, outcome]
        exact List.forall_mem_append.mpr ⟨spared.aside, quiet.aside⟩
      · rw [run_bind, run_bind, spared.same, outcome]
        exact quiet.same
      · rw [run_bind, outcome]
        exact quiet.ends

theorem Keeps.before (kept : Keeps .unaware good action)
    (rest : ∀ value, good value → (more value).Reports answers token cancelled later fine) :
    (action >>= more).Reports answers token cancelled later fine :=
  ⟨fun state already => (kept.isSpared state).bind cancels already rest⟩

theorem Reports.bind (first : action.Reports answers token cancelled report good)
    (rest : ∀ value, good value → (more value).Reports answers token cancelled later fine)
    (passes : ∀ state, (match report with
      | .ok value => ((more value).run.run answers state).1
      | .error failure => .error failure) = later) :
    (action >>= more).Reports answers token cancelled later fine := by
  refine ⟨fun state already => ?_⟩
  obtain stopped | spared := first.once state already
  · refine .inl ⟨?_, ?_⟩
    · obtain ⟨step, member, service⟩ := stopped.calls
      rw [steps_bind]
      exact ⟨step, List.mem_append_left _ member, service⟩
    · rw [run_bind, stopped.ends, ← passes (action.run.run answers state).2]
      cases report <;> rfl
  · exact spared.bind cancels already rest

end Cancels
end Action
end Silence
end StagedTables
