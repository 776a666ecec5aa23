import StagedTables.Filter.Parser
import StagedTables.Foreign
import StagedTables.Logging.SetupFault
import StagedTables.Settings.Issue
import StagedTables.Table.Name
import StagedTables.Value.Fault

/-! # Failures

What can go wrong in a session.  Failures raised by services and callbacks keep the text they came
with; the session's own failures keep their cause. -/
set_option autoImplicit false
namespace StagedTables

/-- A session used before it is configured, or configured wrongly. -/
inductive Misuse where
  | accountSources
  | devWithoutStage
  | notConnected
  | devNotConnected
  | noTable
  | noStorage
  | noReceiveKeys
  | noProdConnectionString
  | connectionString (redacted : String) (error : ForeignError)
  deriving DecidableEq, Repr

def Misuse.message : Misuse → String
  | accountSources => "AzureConnection needs exactly one of connection_string or service_client"
  | devWithoutStage => "a dev client and a stage must be given together"
  | notConnected => "please use connect to initialize the Azure connection"
  | devNotConnected => "please use connect to initialize the Azure backup connection"
  | noTable => "please add a table"
  | noStorage => "please add a storage account"
  | noReceiveKeys => "please use filter_receive to set the PartitionKey and RowKey"
  | noProdConnectionString => "prod_connection_string is not configured"
  | connectionString redacted error => s!"Invalid connection string '{redacted}': {error.message}"

inductive Failure where
  | conversion (fault : ConversionFault)
  | foreign (error : ForeignError)
  | misuse (cause : Misuse)
  | tableName (name : String) (fault : TableName.Fault)
  | provisioning (table : String) (attempts : Nat) (cause : ForeignError)
  | cancelled (operation : String)
  | query (cause : Failure)
  | filterText (fault : Filter.ParseFault)
  | unknownStage (text : String)
  | logging (fault : Logging.SetupFault)
  | invalid (refusal : Refusal)
  deriving DecidableEq, Repr

def Failure.missingKey (name : String) : Failure := .foreign ⟨.key, name⟩

def Failure.ofValueFault (fault : ValueFault) : Failure := .conversion (.value fault)

end StagedTables
