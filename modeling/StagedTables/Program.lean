import StagedTables.Program.Request

/-! # Programs

A program is done, or it asks for something and goes on with the reply.  What it does depends on
nothing but the replies, so that every way in which its surroundings can behave is a way to answer
its requests. -/
set_option autoImplicit false
namespace StagedTables

inductive Program (α : Type) : Type where
  | done (value : α)
  | ask (request : Request) (next : request.Reply → Program α)

namespace Program

variable {α β γ : Type}

def andThen : Program α → (α → Program β) → Program β
  | done value, more => more value
  | ask request next, more => ask request fun reply => (next reply).andThen more

instance : Monad Program where
  pure := done
  bind := andThen

theorem andThen_done (program : Program α) : program.andThen done = program := by
  induction program with
  | done value => rfl
  | ask request next ih => simp only [andThen, ih]

theorem andThen_assoc (program : Program α) (f : α → Program β) (g : β → Program γ) :
    (program.andThen f).andThen g = program.andThen fun value => (f value).andThen g := by
  induction program with
  | done value => rfl
  | ask request next ih => simp only [andThen, ih]

instance : LawfulMonad Program :=
  LawfulMonad.mk' Program andThen_done (fun _ _ => rfl) andThen_assoc

def send (request : Request) : Program request.Reply := ask request done

/-- How surroundings with a state answer requests. -/
abbrev Answers (σ : Type) := (request : Request) → σ → request.Reply × σ

def run {σ : Type} (answers : Answers σ) : Program α → σ → α × σ
  | done value, state => (value, state)
  | ask request next, state =>
    let (reply, after) := answers request state
    (next reply).run answers after

theorem run_andThen {σ : Type} (answers : Answers σ) (program : Program α) (more : α → Program β)
    (state : σ) :
    (program.andThen more).run answers state =
      (more (program.run answers state).1).run answers (program.run answers state).2 := by
  induction program generalizing state with
  | done value => rfl
  | ask request next ih => simp only [andThen, run, ih]

end Program

abbrev Action (α : Type) := ExceptT Failure Program α

namespace Action

def send (request : Request) : Action request.Reply := ExceptT.lift (Program.send request)

def ofReply {α : Type} (reply : Except ForeignError α) : Action α :=
  match reply with
  | .ok value => pure value
  | .error error => throw (.foreign error)

def raiseIfCancelled (token : Token) (operation : String) : Action Unit := do
  let cancelled : Bool ← send (.isCancelled token)
  if cancelled then throw (.cancelled operation)

/-- The program that ends with the failure of an action as its value. -/
def capture {α : Type} (action : Action α) : Action (Except Failure α) :=
  ExceptT.lift action.run

end Action

structure Logger where
  name : String

namespace Logger

def log (logger : Logger) (level : Logging.Level) (message : String) : Action Unit :=
  Action.send (.log ⟨logger.name, level, message⟩)

def debug (logger : Logger) (message : String) : Action Unit := logger.log .debug message

def warning (logger : Logger) (message : String) : Action Unit := logger.log .warning message

def error (logger : Logger) (message : String) : Action Unit := logger.log .error message

end Logger

/-- What a callback comes to: a value or a failure, and whether it cancelled the session on the
way. -/
structure Reaction (α : Type) where
  outcome : Except Failure α
  cancels : Bool := false

def Reaction.perform {α : Type} (reaction : Reaction α) (token : Token) : Action α := do
  if reaction.cancels then Action.send (.cancel token)
  match reaction.outcome with
  | .ok value => return value
  | .error failure => throw failure

end StagedTables
