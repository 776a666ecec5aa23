import StagedTables.Filter
import StagedTables.Value.Conversion

/-! # Entities

An entity is what a table holds under a partition key and a row key: named properties, in order.
One made for the service carries metadata, a plain one does not. -/
set_option autoImplicit false
namespace StagedTables

structure Entity where
  properties : Fields Value
  metadata : Option (Fields Value)
  deriving Inhabited, Repr

namespace Entity

def etagName : String := "etag"
def timestampName : String := "timestamp"

/-- The metadata of an entity that the service has not seen yet. -/
def freshMetadata : Fields Value := [(etagName, .null), (timestampName, .null)]

def plain (properties : Fields Value) : Entity := ⟨properties, none⟩

def forService (properties : Fields Value) : Entity := ⟨properties, some freshMetadata⟩

end Entity

structure EntityBuilder where
  properties : Fields Value
  deriving Repr

namespace EntityBuilder

def start (partitionKey rowKey : Value) : EntityBuilder :=
  ⟨[(partitionKeyName, partitionKey), (rowKeyName, rowKey)]⟩

def add (builder : EntityBuilder) (name : String) (value : Value) : EntityBuilder :=
  ⟨Fields.set builder.properties name value⟩

/-- Sets a property that is stored as a 64-bit integer whatever its size. -/
def addInt64 (builder : EntityBuilder) (name : String) (value : Value) :
    Except ConversionFault EntityBuilder := do
  let n ← value.asInteger
  return builder.add name (.property .int64 (.integer n))

def toEntity (builder : EntityBuilder) : Entity := .forService builder.properties

def partitionKey (builder : EntityBuilder) : Value :=
  (Fields.get? builder.properties partitionKeyName).getD .null

def rowKey (builder : EntityBuilder) : Value :=
  (Fields.get? builder.properties rowKeyName).getD .null

def describe (builder : EntityBuilder) : Except ValueFault String := do
  let shown ← Value.quoted (.record builder.properties)
  return s!"SetEntity({shown})"

end EntityBuilder
end StagedTables
