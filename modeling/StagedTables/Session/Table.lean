import StagedTables.Number.Shortest
import StagedTables.Program
import StagedTables.Session
import StagedTables.Table.Name

/-! # Selecting tables

A table is created where it is missing and its handle is kept, so that it is asked for only once.
The service refuses a name for a while after a table of that name was deleted; creation is then
tried again after a delay, up to a number of attempts. -/
set_option autoImplicit false
namespace StagedTables

namespace Provisioning

def logger : Logger := ⟨"azuretackle.table.connection"⟩

def operation : String := "create_table"

def checkToken (token : Option Token) : Action Unit :=
  match token with
  | some token => Action.raiseIfCancelled token operation
  | none => pure ()

/-- Creates a table in the attempt after `before` others, with at most `more` after it. -/
def createTable (provisioning : Provisioning) (account : Account) (name : String)
    (token : Option Token) (more before : Nat) : Action Unit := do
  checkToken token
  let reply : Except ForeignError Unit ← Action.send (.createTable account name)
  match reply with
  | .ok _ => return ()
  | .error error =>
    let attempt := before + 1
    if !error.kind.isService then throw (.foreign error)
    match more with
    | 0 =>
      logger.error s!"Could not create table '{name}' after {attempt} attempt(s): {error.message}"
      throw (.provisioning name attempt error)
    | more + 1 =>
      let attempts := provisioning.maxAttempts.1
      let delay := provisioning.retryDelay
      let place := s!"Table '{name}' not available yet (attempt {attempt}/{attempts})"
      logger.warning s!"{place}, retrying in {delay.text}s: {error.message}"
      let _ ← Action.send (.sleep delay)
      createTable provisioning account name token more attempt

def resolve (provisioning : Provisioning) (account : Account) (name : String)
    (token : Option Token) : Action TableClient := do
  if let some fault := TableName.fault? name then throw (.tableName name fault)
  let key := CacheKey.of account name
  let kept : Option TableClient ← Action.send (.cached key)
  match kept with
  | some table => return table
  | none =>
    createTable provisioning account name token (provisioning.maxAttempts.1 - 1) 0
    let table : TableClient ← Action.send (.openTable account name)
    logger.debug s!"Resolved table '{name}' on {account.key.text}"
    Action.send (.keep key table)

end Provisioning

namespace Session

def selectOn (session : Session) (target : AccountTable) (account : Account) (name : String) :
    Action AccountTable := do
  let table ← session.provisioning.resolve account name (some session.token)
  return { target with table := some table, tableName := some name }

def select (session : Session) (name : String) : Action Session := do
  let storage ← session.requireStorage
  match storage.prod.account with
  | none => throw (.misuse .notConnected)
  | some account =>
    let prod ← session.selectOn storage.prod account name
    match storage.dev with
    | none => return { session with storage := some { storage with prod } }
    | some target => match target.account with
      | none => throw (.misuse .devNotConnected)
      | some account =>
        let dev ← session.selectOn target account name
        return { session with storage := some { storage with prod, dev := some dev } }

end Session
end StagedTables
