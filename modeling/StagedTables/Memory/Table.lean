import StagedTables.Program.Request
import StagedTables.Value.Equality

/-! # Tables in memory

A table that holds its entities in memory, by their keys and in the order in which they were first
stored.  It can be told to fail, to fail or cancel in the middle of a query, and to find nothing. -/
set_option autoImplicit false
namespace StagedTables

structure MemoryTable where
  name : String
  entities : List Entity := []
  failure : Option ForeignError := none
  /-- The position from which on rows fail. -/
  failAfter : Option Nat := none
  /-- The position from which on waiting for a row cancels. -/
  cancelAfter : Option Nat := none
  /-- Whether an entity asked for by its keys is left out of the reply. -/
  findsNothing : Bool := false
  deriving Repr

namespace MemoryTable

def required (entity : Entity) (name : String) : Except ForeignError Value :=
  match Fields.get? entity.properties name with
  | some value => .ok value
  | none => .error ⟨.key, name⟩

/-- Why nothing can be stored under a value: its content may change, or it equals nothing. -/
def keyFault? : Value → Option String
  | .bytes .buffer _ => some "unhashable type: 'bytearray'"
  | .list _ => some "unhashable type: 'list'"
  | .record _ => some "unhashable type: 'dict'"
  | .decimal (.notANumber _ true _) => some "Cannot hash a signaling NaN value."
  | .typed _ value => keyFault? value
  | .property _ value => keyFault? value
  | _ => none

def keysOf (entity : Entity) : Except ForeignError (Value × Value) := do
  let partitionKey ← required entity partitionKeyName
  let rowKey ← required entity rowKeyName
  return (partitionKey, rowKey)

def checkKeys (keys : Value × Value) : Except ForeignError Unit :=
  match keyFault? keys.1 <|> keyFault? keys.2 with
  | some text => .error ⟨.wrongKind, text⟩
  | none => .ok ()

def hasKeys (partitionKey rowKey : Value) (entity : Entity) : Bool :=
  let holds := fun (name : String) (key : Value) =>
    (Fields.get? entity.properties name).any key.equal
  holds partitionKeyName partitionKey && holds rowKeyName rowKey

/-- Puts properties in the place of the first entity with their keys, or at the end. -/
def put (partitionKey rowKey : Value) (mode : UpdateMode) (properties : Fields Value) :
    List Entity → List Entity
  | [] => [mode.stored none properties]
  | first :: rest =>
    if hasKeys partitionKey rowKey first then mode.stored (some first) properties :: rest
    else first :: put partitionKey rowKey mode properties rest

def store (table : MemoryTable) (entity : Entity) (mode : UpdateMode) :
    Except ForeignError MemoryTable := do
  let (partitionKey, rowKey) ← keysOf entity
  checkKeys (partitionKey, rowKey)
  return { table with entities := put partitionKey rowKey mode entity.properties table.entities }

def remove (table : MemoryTable) (partitionKey rowKey : Value) : MemoryTable :=
  { table with entities := table.entities.filter (!hasKeys partitionKey rowKey ·) }

/-- Carries out one action of a transaction.  In an empty table no keys are looked up. -/
def apply (table : MemoryTable) : TableAction → Except ForeignError MemoryTable
  | .upsert entity mode => table.store entity mode
  | .delete entity => do
    let (partitionKey, rowKey) ← keysOf entity
    if !table.entities.isEmpty then checkKeys (partitionKey, rowKey)
    return table.remove partitionKey rowKey

/-- Carries out actions in turn, up to the first whose keys do not serve. -/
def applyAll : List TableAction → MemoryTable → MemoryTable × Except ForeignError Unit
  | [], table => (table, .ok ())
  | action :: rest, table => match table.apply action with
    | .ok next => applyAll rest next
    | .error error => (table, .error error)

def find? (table : MemoryTable) (partitionKey rowKey : Value) : Option Entity :=
  table.entities.find? (hasKeys partitionKey rowKey)

def notFound : ForeignError := ⟨.resourceNotFound, "The specified resource does not exist."⟩

def get (table : MemoryTable) (partitionKey rowKey : Value) :
    Except ForeignError (Option Entity) :=
  if table.findsNothing then .ok none
  else match table.find? partitionKey rowKey with
    | some entity => .ok (some entity)
    | none => .error notFound

def queryFailed : ForeignError := ⟨.httpResponse, "query failed"⟩

def reached (limit : Option Nat) (position : Nat) : Bool := limit.any (· ≤ position)

def stream (failAfter : Option Nat) : List Entity → Nat → RowStream
  | [], _ => .finished
  | entity :: rest, position =>
    if reached failAfter position then .failed queryFailed
    else .row entity (stream failAfter rest (position + 1))

def cancelsAt (table : MemoryTable) (position : Nat) : Bool :=
  position < table.entities.length && !reached table.failAfter position &&
    reached table.cancelAfter position

end MemoryTable
end StagedTables
