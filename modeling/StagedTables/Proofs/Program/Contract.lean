import Mathlib.Data.List.Forall2
import StagedTables.Program

/-! # Contracts of programs

A contract says which requests a program may make and which replies its surroundings may give.  A
program keeps a contract when it makes permitted requests only, as long as it is given allowed
replies, and ends well.  In surroundings that keep their part every run does so: `Keeps.run`. -/
set_option autoImplicit false
namespace StagedTables

structure Contract where
  Permits : Request → Prop
  Allows : (request : Request) → request.Reply → Prop

def Request.IsAside : Request → Prop
  | isCancelled _ => True
  | cancel _ => True
  | log _ => True
  | setUpLogging _ => True
  | sleep _ => True
  | _ => False

namespace Contract

def any : Contract := ⟨fun _ => True, fun _ _ => True⟩

def only (permits : Request → Prop) : Contract := ⟨permits, fun _ _ => True⟩

def PermitsAside (contract : Contract) : Prop :=
  ∀ request, request.IsAside → contract.Permits request

/-- Surroundings keep their part of a contract: while an invariant holds, they give allowed replies
to permitted requests, and the invariant holds on. -/
def IsKeptBy {σ : Type} (contract : Contract) (answers : Program.Answers σ) (inv : σ → Prop) :
    Prop :=
  ∀ request state, contract.Permits request → inv state →
    contract.Allows request (answers request state).1 ∧ inv (answers request state).2

theorem isKeptBy_any {σ : Type} {answers : Program.Answers σ} :
    any.IsKeptBy answers fun _ => True :=
  fun _ _ _ _ => ⟨trivial, trivial⟩

end Contract

/-! ## Programs -/

namespace Program

variable {α β σ : Type} {contract : Contract}

def Keeps (contract : Contract) (good : α → Prop) : Program α → Prop
  | done value => good value
  | ask request next =>
    contract.Permits request ∧
      ∀ reply, contract.Allows request reply → (next reply).Keeps contract good

theorem Keeps.mono {good better : α → Prop} {program : Program α}
    (kept : program.Keeps contract good) (implies : ∀ value, good value → better value) :
    program.Keeps contract better := by
  induction program with
  | done value => exact implies value kept
  | ask request next ih => exact ⟨kept.1, fun reply allowed => ih reply (kept.2 reply allowed)⟩

theorem Keeps.andThen {good : α → Prop} {better : β → Prop} {program : Program α}
    {more : α → Program β} (kept : program.Keeps contract good)
    (rest : ∀ value, good value → (more value).Keeps contract better) :
    (program.andThen more).Keeps contract better := by
  induction program with
  | done value => exact rest value kept
  | ask request next ih => exact ⟨kept.1, fun reply allowed => ih reply (kept.2 reply allowed)⟩

theorem keeps_send {request : Request} {good : request.Reply → Prop}
    (permitted : contract.Permits request)
    (replies : ∀ reply, contract.Allows request reply → good reply) :
    (send request).Keeps contract good :=
  ⟨permitted, replies⟩

def requests (answers : Answers σ) : Program α → σ → List Request
  | done _, _ => []
  | ask request next, state =>
    request :: (next (answers request state).1).requests answers (answers request state).2

/-- A run in surroundings that keep their part of a contract makes permitted requests only, keeps
the invariant and ends well. -/
theorem Keeps.run {good : α → Prop} {program : Program α} (kept : program.Keeps contract good)
    {answers : Answers σ} {inv : σ → Prop} (obliging : contract.IsKeptBy answers inv) {state : σ}
    (holds : inv state) :
    good (program.run answers state).1 ∧ inv (program.run answers state).2 ∧
      ∀ request ∈ program.requests answers state, contract.Permits request := by
  induction program generalizing state with
  | done value => exact ⟨kept, holds, nofun⟩
  | ask request next ih =>
    obtain ⟨permitted, later⟩ := kept
    obtain ⟨allowed, after⟩ := obliging request state permitted holds
    obtain ⟨ends, still, rest⟩ := ih _ (later _ allowed) after
    exact ⟨ends, still, List.forall_mem_cons.mpr ⟨permitted, rest⟩⟩

end Program

/-! ## Runs of actions -/

namespace Action

variable {α β σ : Type} (answers : Program.Answers σ)

theorem run_bind (action : Action α) (more : α → Action β) (state : σ) :
    (action >>= more).run.run answers state =
      match (action.run.run answers state).1 with
      | .ok value => (more value).run.run answers (action.run.run answers state).2
      | .error failure => (.error failure, (action.run.run answers state).2) := by
  refine (Program.run_andThen answers action.run _ state).trans ?_
  cases (action.run.run answers state).1 <;> rfl

theorem run_liftM (result : Except Failure α) (state : σ) :
    (liftM result : Action α).run.run answers state = (result, state) :=
  rfl

theorem run_capture (action : Action α) (state : σ) :
    (capture action).run.run answers state =
      (.ok (action.run.run answers state).1, (action.run.run answers state).2) :=
  Program.run_andThen answers action.run _ state

end Action

/-! ## Actions that keep a contract -/

/-- The action keeps the contract, and a value that it ends with is good; it may also fail. -/
structure Action.Keeps {α : Type} (contract : Contract) (good : α → Prop) (action : Action α) :
    Prop where
  run : Program.Keeps contract (fun outcome => ∀ value, outcome = .ok value → good value)
    action.run

namespace Action

variable {α β : Type} {contract : Contract}

theorem keeps_pure {good : α → Prop} {value : α} (holds : good value) :
    Keeps contract good (pure value : Action α) := by
  constructor
  rintro _ ⟨⟩
  exact holds

theorem keeps_throw {good : α → Prop} (failure : Failure) :
    Keeps contract good (throw failure : Action α) :=
  ⟨nofun⟩

theorem Keeps.bind {good : α → Prop} {better : β → Prop} {action : Action α} {more : α → Action β}
    (kept : Keeps contract good action)
    (rest : ∀ value, good value → Keeps contract better (more value)) :
    Keeps contract better (action >>= more) := by
  refine ⟨Program.Keeps.andThen kept.run fun outcome holds => ?_⟩
  cases outcome with
  | ok value => exact (rest value (holds value rfl)).run
  | error failure => exact nofun

theorem Keeps.mono {good better : α → Prop} {action : Action α}
    (kept : Keeps contract good action) (implies : ∀ value, good value → better value) :
    Keeps contract better action :=
  ⟨kept.run.mono fun _ holds value same => implies value (holds value same)⟩

theorem keeps_any (action : Action α) : Keeps .any (fun _ => True) action := by
  have any (program : Program (Except Failure α)) :
      program.Keeps .any fun outcome => ∀ value, outcome = .ok value → True := by
    induction program with
    | done outcome => exact fun _ _ => trivial
    | ask request next ih => exact ⟨trivial, fun reply _ => ih reply⟩
  exact ⟨any action.run⟩

theorem keeps_lift {good : α → Prop} {program : Program α} (kept : program.Keeps contract good) :
    Keeps contract good (ExceptT.lift program : Action α) := by
  refine ⟨Program.Keeps.andThen kept fun value holds => ?_⟩
  rintro _ ⟨⟩
  exact holds

theorem keeps_send (request : Request) {good : request.Reply → Prop}
    (permitted : contract.Permits request)
    (replies : ∀ reply, contract.Allows request reply → good reply) :
    Keeps contract good (send request) :=
  keeps_lift (Program.keeps_send permitted replies)

theorem keeps_request (request : Request) (permitted : contract.Permits request) :
    Keeps contract (fun _ => True) (send request) :=
  keeps_send request permitted fun _ _ => trivial

theorem keeps_liftM (result : Except Failure α) :
    Keeps contract (fun value => result = .ok value) (liftM result : Action α) :=
  ⟨fun _ same => same⟩

theorem keeps_ofReply (reply : Except ForeignError α) :
    Keeps contract (fun value => reply = .ok value) (ofReply reply) := by
  cases reply with
  | ok value => exact keeps_pure rfl
  | error error => exact keeps_throw _

theorem Keeps.capture {good : α → Prop} {action : Action α} (kept : Keeps contract good action) :
    Keeps contract (fun outcome => ∀ value, outcome = .ok value → good value) (capture action) :=
  keeps_lift kept.run

theorem keeps_mapM {ι : Type} {good : ι → β → Prop} {f : ι → Action β} {items : List ι}
    (kept : ∀ item ∈ items, Keeps contract (good item) (f item)) :
    Keeps contract (List.Forall₂ good items) (items.mapM f) := by
  induction items with
  | nil => exact keeps_pure .nil
  | cons item rest ih =>
    obtain ⟨first, later⟩ := List.forall_mem_cons.mp kept
    rw [List.mapM_cons]
    refine first.bind fun value holds => (ih later).bind fun values all => ?_
    exact keeps_pure (.cons holds all)

theorem keeps_reaction (reaction : Reaction α) {token : Token}
    (permitted : contract.Permits (.cancel token)) :
    Keeps contract (fun value => reaction.outcome = .ok value) (reaction.perform token) := by
  obtain ⟨outcome, cancels⟩ := reaction
  have cancel := keeps_request _ permitted
  cases outcome with
  | ok value => cases cancels with
    | true => exact cancel.bind fun _ _ => keeps_pure rfl
    | false => exact keeps_pure rfl
  | error failure => cases cancels with
    | true => exact cancel.bind fun _ _ => keeps_throw failure
    | false => exact keeps_throw failure

section Aside

variable (aside : contract.PermitsAside)
include aside

theorem keeps_raiseIfCancelled (token : Token) (operation : String) :
    Keeps contract (fun _ => True) (raiseIfCancelled token operation) := by
  refine (keeps_request _ (aside (.isCancelled token) trivial)).bind fun cancelled _ => ?_
  split
  · exact keeps_throw _
  · exact keeps_pure trivial

theorem keeps_log (logger : Logger) (level : Logging.Level) (message : String) :
    Keeps contract (fun _ => True) (logger.log level message) :=
  keeps_request _ (aside (.log ⟨logger.name, level, message⟩) trivial)

theorem keeps_perform (reaction : Reaction α) (token : Token) :
    Keeps contract (fun value => reaction.outcome = .ok value) (reaction.perform token) :=
  keeps_reaction reaction (aside (.cancel token) trivial)

end Aside

end Action
end StagedTables
