import StagedTables.Connection.Address
import StagedTables.Fields
import StagedTables.Table.Client
import StagedTables.Text.Blank
import StagedTables.Text.LetterCase

/-! # Connection strings

Settings of a storage account, separated by semicolons, each a name in any letter case and a value.
The address of the account is given, or made up of its name, a protocol and a suffix. -/
set_option autoImplicit false
namespace StagedTables.ConnectionText

open Text

/-- The settings' texts; separators at the end do not count. -/
def segments (text : String) : List (List Char) :=
  let cs := trimBy isBlank text.toList
  let kept := (cs.reverse.dropWhile (· == ';')).reverse
  kept.foldr (fun c parts =>
    match c, parts with
    | ';', _ => [] :: parts
    | _, part :: rest => (c :: part) :: rest
    | _, [] => [[c]]) [[]]

/-- A name and a value, neither of them empty, around the first equals sign. -/
def setting? (cs : List Char) : Option (String × String) :=
  let name := cs.takeWhile (· != '=')
  let value := cs.drop (name.length + 1)
  if name = [] ∨ value = [] then none
  else some (String.ofList name, String.ofList value)

def lowerNames (settings : List (String × String)) : Except ConnectionFault (Fields String) :=
  settings.foldlM (fun fields (name, value) =>
    let lowered := lower name
    if Fields.contains fields lowered then .error (.duplicateName lowered)
    else .ok (Fields.set fields lowered value)) []

def settings (text : String) : Except ConnectionFault (Fields String) :=
  match (segments text).mapM setting? with
  | none => .error .malformed
  | some settings =>
    if (settings.map Prod.fst).eraseDups.length < settings.length then .error .malformed
    else lowerNames settings

def accountName : String := "accountname"
def accountKey : String := "accountkey"
def sharedSignature : String := "sharedaccesssignature"
def endpoint : String := "tableendpoint"
def secondaryEndpoint : String := "tablesecondaryendpoint"
def protocol : String := "defaultendpointsprotocol"
def suffix : String := "endpointsuffix"

def usualSuffix : String := "core.windows.net"

/-- Whether the settings hold a credential: a name with its key, or a signature. -/
def hasCredential (settings : Fields String) : Bool :=
  (Fields.contains settings accountName && Fields.contains settings accountKey) ||
    Fields.contains settings sharedSignature

/-- The address that the settings make up.  A protocol counts only together with a suffix. -/
def endpoint? (settings : Fields String) : Option String :=
  match Fields.get? settings endpoint with
  | some text => some text
  | none => (Fields.get? settings accountName).map fun name =>
    match Fields.get? settings protocol, Fields.get? settings suffix with
    | some protocol, some suffix => s!"{protocol}://{name}.table.{suffix}"
    | _, other => s!"https://{name}.table.{other.getD usualSuffix}"

def read (text : String) : Except ConnectionFault ClientDescription := do
  let settings ← settings text
  if !hasCredential settings then throw .incomplete
  if !Fields.contains settings endpoint && Fields.contains settings secondaryEndpoint then
    throw .secondaryOnly
  match endpoint? settings with
  | none => throw .incomplete
  | some text =>
    let address ← Address.read text
    let named := Fields.contains settings accountKey
    let name := (Fields.get? settings accountName).filter fun _ => named
    return ⟨name <|> address.accountName?, address.url⟩

def factory : ClientFactory := fun text =>
  (read text).mapError fun fault => ⟨.value, fault.message⟩

end StagedTables.ConnectionText
