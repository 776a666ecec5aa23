import StagedTables.Entity
import StagedTables.Failure

/-! # Reading rows

Typed access to the properties of an entity that came back from a table.  A property that names
its type is read as the value it carries.  A missing property is a failure, except where a default
is given. -/
set_option autoImplicit false
namespace StagedTables.Entity

def unwrap : Value → Value
  | .property _ value => value
  | value => value

def stored (row : Entity) (name : String) : Except Failure Value :=
  match Fields.get? row.properties name with
  | some value => .ok value
  | none => .error (.missingKey name)

def item (row : Entity) (name : String) : Except Failure Value :=
  (row.stored name).map unwrap

def get (row : Entity) (name : String) (default : Value) : Value :=
  match Fields.get? row.properties name with
  | some value => unwrap value
  | none => default

def contains (row : Entity) (name : String) : Bool := Fields.contains row.properties name

def convert {α : Type} (conversion : Value → Except ConversionFault α) (row : Entity)
    (name : String) : Except Failure α :=
  match row.item name with
  | .error failure => .error failure
  | .ok value => (conversion value).mapError .conversion

def getString (row : Entity) (name : String) : Except Failure String :=
  row.convert (fun value => value.plainText.mapError .value) name

def getInteger (row : Entity) (name : String) : Except Failure Int :=
  row.convert Value.asInteger name

def getDouble (row : Entity) (name : String) : Except Failure Double :=
  row.convert Value.asDouble name

def getBoolean (row : Entity) (name : String) : Except Failure Bool :=
  row.convert Value.asBoolean name

def getDateTime (row : Entity) (name : String) : Except Failure Value :=
  row.convert Value.asDateTime name

def getUuid (row : Entity) (name : String) : Except Failure Uuid :=
  row.convert Value.asUuid name

def getBytes (row : Entity) (name : String) : Except Failure (List UInt8) :=
  row.convert Value.asBytes name

def partitionKey (row : Entity) : Except Failure Value := row.stored partitionKeyName

def rowKey (row : Entity) : Except Failure Value := row.stored rowKeyName

def metadataFields (row : Entity) : Fields Value := row.metadata.getD []

def timestamp (row : Entity) : Value :=
  (Fields.get? row.metadataFields timestampName).getD .null

def etag (row : Entity) : Value :=
  (Fields.get? row.metadataFields etagName).getD .null

def describeRow (row : Entity) : Except Failure String :=
  match Value.quoted (.record row.properties) with
  | .ok shown => .ok s!"RowEntity({shown})"
  | .error fault => .error (.ofValueFault fault)

end StagedTables.Entity
