import StagedTables.Foreign
import StagedTables.Text.LetterCase

/-! # Accounts and tables

Handles of storage accounts and of the tables on them.  Two handles belong to one account when
their keys agree: the address of the account, or the client itself where it has none.  Table names
count in any letter case. -/
set_option autoImplicit false
namespace StagedTables

structure Account where
  /-- The name that tells service clients apart. -/
  client : String
  url : Option String
  deriving DecidableEq, Repr

inductive AccountKey where
  | url (text : String)
  | client (name : String)
  deriving DecidableEq, Repr

/-- A client has no address to show, only its identity. -/
def AccountKey.text : AccountKey → String
  | url text => text
  | client _ => "client-<id>"

namespace Account

/-- An empty address counts as none. -/
def key (account : Account) : AccountKey :=
  match account.url.filter (· != "") with
  | some text => .url text
  | none => .client account.client

def describe (account : Account) : String := s!"<service {account.client}>"

end Account

structure ClientDescription where
  name : Option String
  url : String
  deriving DecidableEq, Repr

abbrev ClientFactory := String → Except ForeignError ClientDescription

/-- A handle of a table, by the service client it was taken from. -/
structure TableClient where
  client : String
  table : String
  deriving DecidableEq, Repr

def TableClient.label (table : TableClient) : String := s!"{table.client}/{table.table}"

structure CacheKey where
  account : AccountKey
  name : String
  deriving DecidableEq, Repr

def CacheKey.of (account : Account) (name : String) : CacheKey := ⟨account.key, Text.lower name⟩

end StagedTables
