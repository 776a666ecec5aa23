import StagedTables.Text.Alphabetic
import StagedTables.Text.LetterCase
import StagedTables.Text.Numeric

/-! # Service addresses

An address is a scheme, a host and a path; what follows them, and slashes at the end, do not
count. -/
set_option autoImplicit false
namespace StagedTables

inductive ConnectionFault where
  | malformed
  | duplicateName (name : String)
  | incomplete
  | secondaryOnly
  | address (text : String)
  deriving DecidableEq, Repr

def ConnectionFault.message : ConnectionFault → String
  | malformed => "Connection string is either blank or malformed."
  | duplicateName name => s!"Duplicate key in connection string: {name}"
  | incomplete => "Connection string missing required connection details."
  | secondaryOnly => "Connection string specifies only secondary endpoint."
  | address text => s!"Invalid URL: {text}"

open Text

structure Address where
  scheme : String
  host : List Char
  path : List Char
  deriving DecidableEq, Repr

namespace Address

def isSchemePart (c : Char) : Bool :=
  isAsciiLetter c || isAsciiDigit c || c == '+' || c == '-' || c == '.'

def endsHost (c : Char) : Bool := c == '/' || c == '?' || c == '#'

def endsPath (c : Char) : Bool := c == '?' || c == '#'

def dropSlashes (cs : List Char) : List Char := (cs.reverse.dropWhile (· == '/')).reverse

/-- An address without the scheme that most have is given it. -/
def complete (cs : List Char) : List Char :=
  if "http".toList.isPrefixOf (cs.map asciiLower) then cs else "https://".toList ++ cs

def split? (cs : List Char) : Option Address :=
  let scheme := cs.takeWhile (· != ':')
  match cs.drop scheme.length with
  | ':' :: '/' :: '/' :: rest =>
    let host := rest.takeWhile (!endsHost ·)
    let path := (rest.drop host.length).takeWhile (!endsPath ·)
    if host.isEmpty || !scheme.all isSchemePart then none
    else some ⟨String.ofList (scheme.map asciiLower), host, path⟩
  | _ => none

def read (text : String) : Except ConnectionFault Address :=
  let full := complete text.toList
  match split? (dropSlashes full) with
  | some address => .ok address
  | none => .error (.address (String.ofList full))

def url (address : Address) : String :=
  address.scheme ++ "://" ++ String.ofList (dropSlashes (address.host ++ address.path))

def before? (mark : List Char) (cs : List Char) : Option (List Char) :=
  if mark.isPrefixOf cs then some []
  else match cs with
    | [] => none
    | c :: rest => (before? mark rest).map (c :: ·)

def hostHas (address : Address) (mark : String) : Bool :=
  (before? mark.toList address.host).isSome

/-- The account that an address names: the first part of a host of the usual form, or the first
part of the path. -/
def accountName? (address : Address) : Option String :=
  if address.hostHas ".core." || address.hostHas ".cosmos." then
    let mark := if address.hostHas "cosmos" then ".table.cosmos." else ".table.core."
    (before? mark.toList address.host).map String.ofList
  else match address.path with
    | '/' :: rest => some (String.ofList (rest.takeWhile (· != '/')))
    | _ => none

end Address
end StagedTables
