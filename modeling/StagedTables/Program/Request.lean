import StagedTables.Entity
import StagedTables.Failure
import StagedTables.Logging.Entry
import StagedTables.Logging.Setup
import StagedTables.Settings
import StagedTables.Table.Client

/-! # Requests

What a program asks its surroundings for: the storage service, the tokens by which it is
cancelled, the table handles that are kept, time and logs.  Each request says what its reply is. -/
set_option autoImplicit false
namespace StagedTables

/-- A signal by which operations are cancelled; who holds it can cancel them. -/
structure Token where
  number : Nat
  deriving DecidableEq, Repr

/-- What a query asks a table for; without a filter text every entity is listed. -/
structure Query where
  table : TableClient
  filter : Option String
  pageSize : Count
  deriving DecidableEq, Repr

inductive RowStream where
  | finished
  | failed (error : ForeignError)
  | row (entity : Entity) (rest : RowStream)
  deriving Repr

/-- Whether an entity that is stored is merged with the one of its keys, or replaces it. -/
inductive UpdateMode where
  | merge
  | replace
  deriving DecidableEq, Repr

def UpdateMode.stored (mode : UpdateMode) (old : Option Entity) (properties : Fields Value) :
    Entity :=
  match mode, old with
  | merge, some old => .plain (Fields.setAll old.properties properties)
  | _, _ => .plain properties

inductive TableAction where
  | upsert (entity : Entity) (mode : UpdateMode)
  | delete (entity : Entity)
  deriving Repr

inductive Request where
  | isCancelled (token : Token)
  | cancel (token : Token)
  | log (entry : LogEntry)
  | setUpLogging (options : Logging.SetupOptions)
  | sleep (seconds : Double)
  | cached (key : CacheKey)
  /-- Keeps a handle unless one is kept already. -/
  | keep (key : CacheKey) (table : TableClient)
  | createTable (account : Account) (name : String)
  | openTable (account : Account) (name : String)
  | getEntity (table : TableClient) (partitionKey rowKey : String)
  | startQuery (query : Query)
  | awaitRow (query : Query) (position : Nat)
  | upsert (table : TableClient) (entity : Entity) (mode : UpdateMode)
  | delete (table : TableClient) (partitionKey rowKey : String)
  /-- Carries out all actions, or none. -/
  | transact (table : TableClient) (actions : List TableAction)
  deriving Repr

namespace Request

def Reply : Request → Type
  | isCancelled _ => Bool
  | cancel _ => Unit
  | log _ => Unit
  | setUpLogging _ => Except Logging.SetupFault Unit
  | sleep _ => Unit
  | cached _ => Option TableClient
  | keep _ _ => TableClient
  | createTable _ _ => Except ForeignError Unit
  | openTable _ _ => TableClient
  | getEntity _ _ _ => Except ForeignError (Option Entity)
  | startQuery _ => Except ForeignError RowStream
  | awaitRow _ _ => Unit
  | upsert _ _ _ => Except ForeignError Unit
  | delete _ _ _ => Except ForeignError Unit
  | transact _ _ => Except ForeignError Unit

end Request
end StagedTables
