import StagedTables.Program
import StagedTables.Session
import StagedTables.Text.Quoted

/-! # Connecting

Starting sessions from connection strings, from service clients or from settings.  No request
reaches an account before a table is selected. -/
set_option autoImplicit false
namespace StagedTables

inductive Connection where
  | text (connectionString : String)
  | client (account : Account)
  deriving DecidableEq, Repr

namespace Connection

def logger : Logger := ⟨"azuretackle.table.connection"⟩

/-- A connection by a connection string or by a client, of which exactly one is given. -/
def of (text : Option String) (client : Option Account) : Except Failure Connection :=
  match text, client with
  | some text, none => .ok (.text text)
  | none, some account => .ok (.client account)
  | _, _ => .error (.misuse .accountSources)

def describe : Connection → String
  | text s => s!"AzureConnection(connection_string={Text.quoted (Redaction.redact s)})"
  | client account => s!"AzureConnection(service_client={account.describe})"

def connect (factory : ClientFactory) : Connection → Action Account
  | client account => return account
  | text s => match factory s with
    | .error error =>
      if error.kind.isValue then throw (.misuse (.connectionString (Redaction.redact s) error))
      else throw (.foreign error)
    | .ok description => do
      logger.debug ("Connected to storage account " ++ description.name.getD "None")
      return ⟨description.url, some description.url⟩

end Connection

def Stage.read (text : String) : Except Failure Stage :=
  let name := Text.lower text
  match ofName? name with
  | some stage => .ok stage
  | none => .error (.unknownStage name)

namespace Session

def checkedPageSize (pageSize : Except Refusal Count) : Except Failure Count :=
  pageSize.mapError .invalid

def usualPageSize : Except Refusal Count := .ok defaultPageSize.count

variable (factory : ClientFactory)

/-- Starts a session.  A page size that is refused shows only after the accounts are connected. -/
def start (prod : Connection) (dev : Option Connection) (stage : Option Stage) (token : Token)
    (pageSize : Except Refusal Count) : Action Session := do
  let prodAccount ← prod.connect factory
  let devAccount ← match dev with
    | none => pure none
    | some dev => some <$> dev.connect factory
  let storage : Storage := {
    stage
    prod := { account := some prodAccount }
    dev := devAccount.map fun account => { account := some account } }
  let pageSize ← checkedPageSize pageSize
  return { Session.unconnected token with storage := some storage, pageSize }

def ofText (prod : Option String) (token : Token) (pageSize : Except Refusal Count) :
    Action Session := do
  start factory (← Connection.of prod none) none none token pageSize

def ofTexts (prod dev : Option String) (stage : Except Failure Stage) (token : Token)
    (pageSize : Except Refusal Count) : Action Session := do
  let prod ← Connection.of prod none
  let dev ← Connection.of dev none
  start factory prod (some dev) (some (← stage)) token pageSize

/-- A session on service clients; a development client and a stage go together. -/
def ofClients (prod : Account) (dev : Option Account) (stage : Option String) (token : Token)
    (pageSize : Except Refusal Count) : Action Session := do
  match dev, stage with
  | none, none => start factory (.client prod) none none token pageSize
  | some dev, some stage =>
    let stage ← Stage.read stage
    start factory (.client prod) (some (.client dev)) (some stage) token pageSize
  | _, _ => throw (.misuse .devWithoutStage)

/-- A session from settings, which first sets up logging. -/
def ofSettings (settings : Settings) (token : Token) : Action Session := do
  match settings.prodConnection.filter (· != "") with
  | none => throw (.misuse .noProdConnectionString)
  | some prod =>
    let setUp : Except Logging.SetupFault Unit ←
      Action.send (.setUpLogging settings.logging.options)
    match setUp with
    | .error fault => throw (.logging fault)
    | .ok _ =>
      let pageSize : Except Refusal Count := .ok settings.pageSize.count
      let session ← match settings.stage with
        | some stage =>
          ofTexts factory (some prod) settings.devConnection (.ok stage) token pageSize
        | none => ofText factory (some prod) token pageSize
      return { session with provisioning := settings.provisioning }

end Session
end StagedTables
