import StagedTables.Logging.Setup
import StagedTables.Memory.Table
import StagedTables.Program
import StagedTables.Table.Cache

/-! # Surroundings in memory

Everything that programs ask for, held in memory: storage services with their tables, tokens, kept
table handles and logs.  The clock stands still, and the calls of programs are recorded. -/
set_option autoImplicit false
namespace StagedTables

structure MemoryService where
  account : Account
  /-- How many more attempts to create a table fail, and with what. -/
  failures : Nat
  error : ForeignError
  tables : List MemoryTable
  deriving Repr

structure Memory where
  services : List MemoryService
  kept : TableCache
  cancelled : List Token
  tokens : Nat
  /-- The token that faults cancel. -/
  holder : Token
  /-- The number of the pause from which on pauses cancel. -/
  cancelAtSleep : Option Nat
  logging : Logging.LogSystem
  now : Double
  calls : List Request
  sleeps : List Double
  log : List LogEntry
  deriving Repr

namespace MemoryService

def beingDeleted : ForeignError := ⟨.httpResponse, "TableBeingDeleted"⟩

def name (service : MemoryService) : String := service.account.client

def table? (service : MemoryService) (name : String) : Option MemoryTable :=
  service.tables.find? (·.name = name)

def opened (service : MemoryService) (name : String) : MemoryService :=
  if (service.table? name).isSome then service
  else { service with tables := service.tables ++ [{ name }] }

def updateTable (service : MemoryService) (name : String) (change : MemoryTable → MemoryTable) :
    MemoryService :=
  let tables := (service.opened name).tables.map fun table =>
    if table.name = name then change table else table
  { service with tables }

end MemoryService

namespace Memory

def fresh (now : Double) : Memory :=
  ⟨[], [], [], 1, ⟨0⟩, none, .fresh, now, [], [], []⟩

def service? (memory : Memory) (name : String) : Option MemoryService :=
  memory.services.find? (·.name = name)

def addService (memory : Memory) (service : MemoryService) : Memory :=
  let services := if (memory.service? service.name).isSome then
      memory.services.map fun other => if other.name = service.name then service else other
    else memory.services ++ [service]
  { memory with services }

def updateService (memory : Memory) (name : String) (change : MemoryService → MemoryService) :
    Memory :=
  let services := memory.services.map fun service =>
    if service.name = name then change service else service
  { memory with services }

def table (memory : Memory) (client : TableClient) : MemoryTable :=
  ((memory.service? client.client).bind (·.table? client.table)).getD { name := client.table }

def updateTable (memory : Memory) (client : TableClient) (change : MemoryTable → MemoryTable) :
    Memory :=
  memory.updateService client.client (·.updateTable client.table change)

def setTable (memory : Memory) (table : TableClient) (value : MemoryTable) : Memory :=
  memory.updateTable table fun _ => value

/-- Stores entities in a table without a call, up to the first whose keys do not serve. -/
def seed (memory : Memory) (client : TableClient) (entities : List Entity) :
    Except ForeignError Unit × Memory :=
  let actions := entities.map fun entity => TableAction.upsert entity .replace
  let (table, result) := (memory.table client).applyAll actions
  (result, memory.setTable client table)

def newToken (memory : Memory) : Token × Memory :=
  (⟨memory.tokens⟩, { memory with tokens := memory.tokens + 1 })

def cancel (memory : Memory) (token : Token) : Memory :=
  { memory with cancelled := token :: memory.cancelled }

def isCancelled (memory : Memory) (token : Token) : Bool := memory.cancelled.contains token

def describeToken (memory : Memory) (token : Token) : String :=
  let shown := if memory.isCancelled token then "True" else "False"
  s!"CancellationToken(cancelled={shown})"

def kept? (memory : Memory) (key : CacheKey) : Option TableClient := memory.kept.get? key

def keep (memory : Memory) (key : CacheKey) (table : TableClient) : TableClient × Memory :=
  let (first, kept) := memory.kept.add key table
  (first, { memory with kept })

def writeLog (memory : Memory) (entry : LogEntry) : Memory :=
  let record := Logging.plainRecord memory.now entry.logger entry.level entry.message
  { memory with log := memory.log ++ [entry], logging := memory.logging.log record }

def setUpLogging (memory : Memory) (options : Logging.SetupOptions) :
    Except Logging.SetupFault Unit × Memory :=
  let (logging, result) := memory.logging.setup memory.now options
  (result, { memory with logging })

/-- Records a pause, which cancels where it is told to. -/
def sleep (memory : Memory) (seconds : Double) : Memory :=
  let sleeps := memory.sleeps ++ [seconds]
  let rested := { memory with sleeps }
  if rested.cancelAtSleep.any (· ≤ sleeps.length) then rested.cancel rested.holder else rested

def create (memory : Memory) (account : Account) : Except ForeignError Unit × Memory :=
  match memory.service? account.client with
  | none => (.ok (), memory)
  | some service =>
    if service.failures = 0 then (.ok (), memory)
    else (.error service.error, memory.updateService account.client fun service =>
      { service with failures := service.failures - 1 })

def openTable (memory : Memory) (account : Account) (name : String) : TableClient × Memory :=
  (⟨account.client, name⟩, memory.updateService account.client (·.opened name))

def onTable {α : Type} (memory : Memory) (client : TableClient)
    (act : MemoryTable → Except ForeignError α × Memory) : Except ForeignError α × Memory :=
  let table := memory.table client
  match table.failure with
  | some error => (.error error, memory)
  | none => act table

def upsert (memory : Memory) (client : TableClient) (entity : Entity) (mode : UpdateMode) :
    Except ForeignError Unit × Memory :=
  memory.onTable client fun table => match table.store entity mode with
    | .ok next => (.ok (), memory.setTable client next)
    | .error error => (.error error, memory)

def transact (memory : Memory) (client : TableClient) (actions : List TableAction) :
    Except ForeignError Unit × Memory :=
  memory.onTable client fun table =>
    let (next, result) := table.applyAll actions
    (result, memory.setTable client next)

def awaitRow (memory : Memory) (query : Query) (position : Nat) : Memory :=
  if (memory.table query.table).cancelsAt position then memory.cancel memory.holder else memory

def record (memory : Memory) (call : Request) : Memory :=
  { memory with calls := memory.calls ++ [call] }

def answers : Program.Answers Memory
  | .isCancelled token, memory => (memory.isCancelled token, memory)
  | .cancel token, memory => ((), memory.cancel token)
  | .log entry, memory => ((), memory.writeLog entry)
  | .setUpLogging options, memory => memory.setUpLogging options
  | .sleep seconds, memory => ((), memory.sleep seconds)
  | .cached key, memory => (memory.kept? key, memory)
  | .keep key table, memory => memory.keep key table
  | .createTable account name, memory => (memory.record (.createTable account name)).create account
  | .openTable account name, memory => memory.openTable account name
  | .getEntity table partitionKey rowKey, memory =>
    let after := memory.record (.getEntity table partitionKey rowKey)
    after.onTable table fun found => (found.get (.text partitionKey) (.text rowKey), after)
  | .startQuery query, memory =>
    let after := memory.record (.startQuery query)
    after.onTable query.table fun found =>
      (.ok (MemoryTable.stream found.failAfter found.entities 0), after)
  | .awaitRow query position, memory => ((), memory.awaitRow query position)
  | .upsert table entity mode, memory =>
    (memory.record (.upsert table entity mode)).upsert table entity mode
  | .delete table partitionKey rowKey, memory =>
    let after := memory.record (.delete table partitionKey rowKey)
    after.onTable table fun found =>
      (.ok (), after.setTable table (found.remove (.text partitionKey) (.text rowKey)))
  | .transact table actions, memory =>
    (memory.record (.transact table actions)).transact table actions

def perform {α : Type} (memory : Memory) (action : Action α) : Except Failure α × Memory :=
  Program.run answers action.run memory

end Memory
end StagedTables
