import StagedTables.Filter
import StagedTables.Program.Request
import StagedTables.Settings

/-! # Sessions

A session is the state that operations on tables share: the accounts with the tables selected on
them, the filter and the keys to read by, and how to page, to create tables and to cancel.  It is a
value; selecting something gives another session. -/
set_option autoImplicit false
namespace StagedTables

structure AccountTable where
  account : Option Account := none
  table : Option TableClient := none
  tableName : Option String := none
  deriving DecidableEq, Repr

/-- The production account, and perhaps a development account beside it. -/
structure Storage where
  stage : Option Stage := none
  dev : Option AccountTable := none
  prod : AccountTable := {}
  deriving DecidableEq, Repr

structure Session where
  filter : Option Filter
  keys : Option (String × String)
  storage : Option Storage
  token : Token
  pageSize : Count
  provisioning : Provisioning
  deriving Repr

namespace Session

def unconnected (token : Token) : Session :=
  ⟨none, none, none, token, defaultPageSize.count, {}⟩

def withFilter (session : Session) (filter : Filter) : Session :=
  { session with filter := some filter }

def withKeys (session : Session) (partitionKey rowKey : String) : Session :=
  { session with keys := some (partitionKey, rowKey) }

end Session

namespace Storage

def prodTable (storage : Storage) : Except Failure TableClient :=
  match storage.prod.table with
  | some table => .ok table
  | none => .error (.misuse .noTable)

def devTable? (storage : Storage) : Option TableClient := storage.dev.bind (·.table)

end Storage

namespace Session

def requireStorage (session : Session) : Except Failure Storage :=
  match session.storage with
  | some storage => .ok storage
  | none => .error (.misuse .notConnected)

def prodTable (session : Session) : Except Failure TableClient :=
  match session.storage with
  | some storage => storage.prodTable
  | none => .error (.misuse .noStorage)

def devTable? (session : Session) : Option TableClient :=
  session.storage.bind (·.devTable?)

end Session
end StagedTables
