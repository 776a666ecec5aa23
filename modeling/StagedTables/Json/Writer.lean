import StagedTables.Json
import StagedTables.Number.Shortest
import StagedTables.Text.Quoted
import StagedTables.Text.Surrogate

/-! # JSON text

Text in ASCII: other characters are escaped by their UTF-16 units.  On one line members are
separated by a comma and a blank; indented, each stands on a line of its own. -/
set_option autoImplicit false
namespace StagedTables.Json

def unitEscape (unit : Nat) : List Char := '\\' :: 'u' :: Text.hexPadded 4 unit

def escapeChar (c : Char) : List Char :=
  if c = '"' then ['\\', '"']
  else if c = '\\' then ['\\', '\\']
  else if c = '\n' then ['\\', 'n']
  else if c = '\r' then ['\\', 'r']
  else if c = '\t' then ['\\', 't']
  else if c.toNat = 8 then ['\\', 'b']
  else if c.toNat = 12 then ['\\', 'f']
  else if let some unit := Text.half? c then unitEscape unit
  else if 0x10000 ≤ c.toNat then
    let code := c.toNat - 0x10000
    unitEscape (0xD800 + code / 0x400) ++ unitEscape (0xDC00 + code % 0x400)
  else if c.toNat < 0x20 ∨ 0x7F ≤ c.toNat then unitEscape c.toNat
  else [c]

/-- Writes a text between quotes in front of what follows it. -/
def textOnto (s : String) (tail : List Char) : List Char :=
  '"' :: s.toList.foldr (fun c rest => escapeChar c ++ rest) ('"' :: tail)

def numberLayout : Double.Layout := ⟨16, 3, 2, "Infinity", "NaN"⟩

def leafOnto (json : Json) (tail : List Char) : List Char :=
  match json with
  | null => "null".toList ++ tail
  | boolean b => (if b then "true".toList else "false".toList) ++ tail
  | integer n => (toString n).toList ++ tail
  | number x => x.renderChars numberLayout ++ tail
  | text s => textOnto s tail
  | array _ => tail
  | object _ => tail

/-- How members are set apart. -/
structure Spacing where
  /-- Blanks by which each level is indented; on one line when absent. -/
  indent : Option Nat
  deriving Repr

def lineStart (spacing : Spacing) (level : Nat) : List Char :=
  match spacing.indent with
  | some width => '\n' :: List.replicate (width * level) ' '
  | none => []

def itemGap (spacing : Spacing) (level : Nat) : List Char :=
  match spacing.indent with
  | some _ => ',' :: lineStart spacing level
  | none => [',', ' ']

mutual

def onto (spacing : Spacing) (level : Nat) : Json → List Char → List Char
  | array [], tail => '[' :: ']' :: tail
  | array (item :: rest), tail =>
    '[' :: lineStart spacing (level + 1) ++ onto spacing (level + 1) item
      (itemsOnto spacing (level + 1) rest (lineStart spacing level ++ ']' :: tail))
  | object [], tail => '\x7b' :: '\x7d' :: tail
  | object ((name, value) :: rest), tail =>
    '\x7b' :: lineStart spacing (level + 1) ++ textOnto name (':' :: ' ' ::
      onto spacing (level + 1) value
        (membersOnto spacing (level + 1) rest (lineStart spacing level ++ '\x7d' :: tail)))
  | leaf, tail => leafOnto leaf tail

def itemsOnto (spacing : Spacing) (level : Nat) : List Json → List Char → List Char
  | [], tail => tail
  | item :: rest, tail =>
    itemGap spacing level ++ onto spacing level item (itemsOnto spacing level rest tail)

def membersOnto (spacing : Spacing) (level : Nat) : List (String × Json) → List Char → List Char
  | [], tail => tail
  | (name, value) :: rest, tail =>
    itemGap spacing level ++ textOnto name (':' :: ' ' ::
      onto spacing level value (membersOnto spacing level rest tail))

end

def line (json : Json) : String := String.ofList (onto ⟨none⟩ 0 json [])

def indented (width : Nat) (json : Json) : String :=
  String.ofList (onto ⟨some width⟩ 0 json [])

end StagedTables.Json
