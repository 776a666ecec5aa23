import StagedTables.Program
import StagedTables.Session

/-! # Routing

Which table an operation touches.  Reading goes to production.  Writing goes to production in a
session without a stage; with a development account beside it, writing goes to the development
table, and where that table is missing the stage decides: in stage `dev` nothing is written, in
stage `prod` production is. -/
set_option autoImplicit false
namespace StagedTables

inductive AccessKind where
  | write
  | delete
  | query
  | receive
  deriving DecidableEq, Repr

namespace AccessKind

def all : List AccessKind := [write, delete, query, receive]

def name : AccessKind → String
  | write => "write"
  | delete => "delete"
  | query => "query"
  | receive => "receive"

def ofName? (text : String) : Option AccessKind := all.find? (·.name = text)

def reads : AccessKind → Bool
  | query => true
  | receive => true
  | _ => false

end AccessKind

inductive Route where
  | straight (table : TableClient)
  /-- A write to production that the development table takes. -/
  | diverted (table : TableClient)
  /-- A write for which there is no table. -/
  | skipped
  deriving DecidableEq, Repr

namespace Route

def table? : Route → Option TableClient
  | straight table => some table
  | diverted table => some table
  | skipped => none

def note? (route : Route) (kind : AccessKind) : Option String :=
  match route with
  | straight _ => none
  | diverted _ => some s!"{kind.name}: stage prod routed to dev table"
  | skipped => some s!"{kind.name}: stage dev without a dev table, skipping"

end Route

namespace Storage

/-- The route of a write.  In stage `prod` a production table must be selected even where the
development table takes the write. -/
def writeRoute (storage : Storage) : Except Failure Route := do
  match storage.stage with
  | none => return .straight (← storage.prodTable)
  | some .dev => match storage.devTable? with
    | some table => return .straight table
    | none => return .skipped
  | some .prod =>
    let fallback ← storage.prodTable
    match storage.devTable? with
    | some table => return .diverted table
    | none => return .straight fallback

def route (storage : Storage) (kind : AccessKind) : Except Failure Route :=
  if kind.reads then storage.prodTable.map .straight else storage.writeRoute

end Storage

namespace Session

def routingLogger : Logger := ⟨"azuretackle.table.routing"⟩

def target? (session : Session) (kind : AccessKind) : Action (Option TableClient) := do
  let storage ← session.requireStorage
  let route ← storage.route kind
  if let some note := route.note? kind then routingLogger.debug note
  return route.table?

def readTable (session : Session) : Action TableClient := do
  let storage ← session.requireStorage
  storage.prodTable

end Session
end StagedTables
