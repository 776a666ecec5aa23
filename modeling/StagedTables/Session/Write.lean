import StagedTables.Session.Read
import StagedTables.Session.Routing

/-! # Writing

Storing and deleting entities, one by one or many in one transaction.  Where the stage leaves no
table to write to, nothing is done and the result is a success.  Any other failure than a misuse
of the session is the result. -/
set_option autoImplicit false
namespace StagedTables
namespace Session

/-- What a callback hands over to be stored: a builder or an entity as it is. -/
inductive Payload where
  | builder (builder : EntityBuilder)
  | entity (entity : Entity)
  deriving Repr

def Payload.toEntity : Payload → Entity
  | builder b => b.toEntity
  | entity e => e

/-- Carries out a write; its failure is logged and is the result. -/
def attempt (title : String) (write : Action Unit) : Action (Except Failure Unit) := do
  let result ← Action.capture write
  if let .error failure := result then
    operationsLogger.error s!"{title} failed: {failure.message}"
  return result

def shownKeys (partitionKey rowKey : String) : String :=
  s!"({Text.quoted partitionKey}, {Text.quoted rowKey})"

/-- Stores the entity that a callback builds, in place of any other with its keys. -/
def insert (session : Session) (partitionKey rowKey : String)
    (build : EntityBuilder → Reaction Payload) : Action (Except Failure Unit) := do
  match ← session.target? .write with
  | none => return .ok ()
  | some table => attempt s!"insert {shownKeys partitionKey rowKey}" do
    let payload ← (build (.start (.text partitionKey) (.text rowKey))).perform session.token
    Action.raiseIfCancelled session.token "insert"
    Action.ofReply (← Action.send (.upsert table payload.toEntity .replace))

/-- Deletes an entity; that it is missing is no failure. -/
def delete (session : Session) (partitionKey rowKey : String) : Action (Except Failure Unit) := do
  match ← session.target? .delete with
  | none => return .ok ()
  | some table => attempt s!"delete {shownKeys partitionKey rowKey}" do
    Action.raiseIfCancelled session.token "delete"
    Action.ofReply (← Action.send (.delete table partitionKey rowKey))

end Session

inductive BatchKind where
  | upsert
  | delete
  deriving DecidableEq, Repr

namespace BatchKind

def access : BatchKind → AccessKind
  | upsert => .write
  | delete => .delete

def action (kind : BatchKind) (entity : Entity) : TableAction :=
  match kind with
  | upsert => .upsert entity .replace
  | delete => .delete entity

end BatchKind

namespace Session

/-- Builds the entities of a batch and submits them, unless there are none. -/
def submit {ι : Type} (session : Session) (table : TableClient) (kind : BatchKind)
    (items : List ι) (build : ι → Reaction Payload) : Action Unit := do
  let name := kind.access.name
  let actions ← items.mapM fun item => do
    return kind.action (← (build item).perform session.token).toEntity
  if actions.isEmpty then operationsLogger.debug s!"{name} batch: no items, nothing submitted"
  else
    Action.raiseIfCancelled session.token s!"{name}_batch"
    Action.ofReply (← Action.send (.transact table actions))
    operationsLogger.debug s!"{name} batch: submitted {actions.length} action(s)"

def batch {ι : Type} (session : Session) (kind : BatchKind) (items : List ι)
    (build : ι → Reaction Payload) : Action (Except Failure Unit) := do
  match ← session.target? kind.access with
  | none => return .ok ()
  | some table => attempt s!"{kind.access.name} batch" (session.submit table kind items build)

def insertBatch {ι : Type} (session : Session) (items : List ι) (build : ι → Reaction Payload) :
    Action (Except Failure Unit) :=
  session.batch .upsert items build

def deleteBatch {ι : Type} (session : Session) (items : List ι) (build : ι → Reaction Payload) :
    Action (Except Failure Unit) :=
  session.batch .delete items build

end Session
end StagedTables
