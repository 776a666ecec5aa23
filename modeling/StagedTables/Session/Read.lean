import StagedTables.Filter.Query
import StagedTables.Session.Routing

/-! # Reading

One entity by its keys, or every row that the session's filter asks for.  A query is first fetched
whole and then read row by row.  Its failure is the result of `execute`, and a failure of
`executeDirect` with the first one as its cause. -/
set_option autoImplicit false
namespace StagedTables.Session

variable {α : Type}

def operationsLogger : Logger := ⟨"azuretackle.table.operations"⟩

/-- An entity by the session's keys, read by a callback; none where there is no such entity. -/
def receive (session : Session) (read : Entity → Reaction α) : Action (Option α) := do
  let table ← session.readTable
  match session.keys with
  | none => throw (.misuse .noReceiveKeys)
  | some (partitionKey, rowKey) =>
    Action.raiseIfCancelled session.token "receive"
    let reply : Except ForeignError (Option Entity) ←
      Action.send (.getEntity table partitionKey rowKey)
    match reply with
    | .error error =>
      if error.kind = .resourceNotFound then
        let keys := s!"({Text.quoted partitionKey}, {Text.quoted rowKey})"
        operationsLogger.debug s!"receive: no entity {keys}"
        return none
      else throw (.foreign error)
    | .ok none => return none
    | .ok (some entity) => some <$> (read entity).perform session.token

def queryOperation : String := "query"

def collect (token : Token) (query : Query) : RowStream → (position : Nat) → Action (List Entity)
  | .finished, position => do
    let _ ← Action.send (.awaitRow query position)
    return []
  | .failed error, position => do
    let _ ← Action.send (.awaitRow query position)
    throw (.foreign error)
  | .row entity rest, position => do
    let _ ← Action.send (.awaitRow query position)
    Action.raiseIfCancelled token queryOperation
    return entity :: (← collect token query rest (position + 1))

/-- The text of the session's filter; none where it leaves nothing to filter by. -/
def filterText (session : Session) (zone : Calendar.LocalZone) : Except Failure (Option String) :=
  match session.filter with
  | none => .ok none
  | some filter => (filter.toQuery zone).mapError .conversion

def fetch (session : Session) (zone : Calendar.LocalZone) (table : TableClient) :
    Action (List Entity) := do
  let filter ← session.filterText zone
  Action.raiseIfCancelled session.token queryOperation
  if let some text := filter then operationsLogger.debug ("query: $filter=" ++ text)
  let query : Query := ⟨table, filter, session.pageSize⟩
  let reply : Except ForeignError RowStream ← Action.send (.startQuery query)
  collect session.token query (← Action.ofReply reply) 0

def fetchAndRead (session : Session) (zone : Calendar.LocalZone) (table : TableClient)
    (read : Entity → Reaction α) : Action (List α) := do
  let entities ← session.fetch zone table
  entities.mapM fun entity => (read entity).perform session.token

/-- Queries the session's table; a failure of the query is the result. -/
def execute (session : Session) (zone : Calendar.LocalZone) (read : Entity → Reaction α) :
    Action (Except Failure (List α)) := do
  let table ← session.readTable
  let result ← Action.capture (session.fetchAndRead zone table read)
  if let .error failure := result then
    operationsLogger.error s!"execute failed: {failure.message}"
  return result

/-- Queries the session's table; a failure of the query is a failure with that cause. -/
def executeDirect (session : Session) (zone : Calendar.LocalZone) (read : Entity → Reaction α) :
    Action (List α) := do
  let table ← session.readTable
  match ← Action.capture (session.fetchAndRead zone table read) with
  | .ok values => return values
  | .error failure => throw (.query failure)

end StagedTables.Session
