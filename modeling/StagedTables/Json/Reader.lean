import StagedTables.Json
import StagedTables.Number.Numeral
import StagedTables.Text.Surrogate

/-! # Reading JSON

The grammar of JSON with three words more: `NaN`, `Infinity` and `-Infinity` are numbers.  Of two
members with one name the later value counts, at the place of the earlier.  The reader takes one
token after the other; its state is what it expects next and the stack of open arrays and
objects. -/
set_option autoImplicit false
namespace StagedTables.Json

open Text

inductive ReadFault where
  | malformed
  | integerTooLong (digits : Nat)
  deriving DecidableEq, Repr

inductive Token where
  | openArray
  | closeArray
  | openObject
  | closeObject
  | comma
  | colon
  | text (s : String)
  | numeral (cs : List Char)
  | word (value : Json)

def isSpace (c : Char) : Bool := c == ' ' || c == '\t' || c == '\n' || c == '\r'

def hexValue? (cs : List Char) : Option Nat :=
  if cs.length = 4 then
    cs.foldlM (fun value c => do
      let digit ← Numeral.Base.sixteen.digit? c
      if c.toNat < 128 then some (value * 16 + digit) else none) 0
  else none

def letterEscape? (c : Char) : Option Char :=
  if c = '"' ∨ c = '\\' ∨ c = '/' then some c
  else if c = 'b' then some '\x08'
  else if c = 'f' then some '\x0c'
  else if c = 'n' then some '\n'
  else if c = 'r' then some '\r'
  else if c = 't' then some '\t'
  else none

/-- The second half of a surrogate pair, as an escape at the front of a text. -/
def secondHalf? : List Char → Option Nat
  | '\\' :: 'u' :: rest =>
    (hexValue? (rest.take 4)).filter isSecondHalf
  | _ => none

/-- A character of a string from the front, and the length of its text. -/
def takeCharacter? : List Char → Option (Char × Nat)
  | '\\' :: 'u' :: rest => do
    let unit ← hexValue? (rest.take 4)
    match (secondHalf? (rest.drop 4)).filter fun _ => isFirstHalf unit with
    | some second => some (Char.ofNat (joinHalves unit second), 12)
    | none => some (ofUnit unit, 6)
  | '\\' :: c :: _ => (letterEscape? c).map fun c => (c, 2)
  | c :: _ => if c.toNat < 0x20 ∨ c = '\\' then none else some (c, 1)
  | [] => none

/-- The characters of a string up to its closing quote, and the length of their text with it. -/
def stringBody? (cs : List Char) : Option (List Char × Nat) :=
  match cs with
  | [] => none
  | c :: rest =>
    if c = '"' then some ([], 1)
    else match takeCharacter? (c :: rest) with
      | none => none
      | some (character, length) =>
        (stringBody? (rest.drop (length - 1))).map fun (body, more) =>
          (character :: body, length + more)
termination_by cs.length
decreasing_by simp +arith [List.length_drop]

/-- The digits of an integer part: a lone zero, or digits that do not start with one. -/
def wholeSpan : List Char → List Char
  | '0' :: _ => ['0']
  | cs => cs.takeWhile isAsciiDigit

def fractionSpan : List Char → List Char
  | '.' :: rest =>
    let digits := rest.takeWhile isAsciiDigit
    if digits = [] then [] else '.' :: digits
  | _ => []

def exponentSpan : List Char → List Char
  | mark :: rest =>
    if mark = 'e' ∨ mark = 'E' then
      let sign := rest.take 1 |>.filter fun c => c == '+' || c == '-'
      let digits := (rest.drop sign.length).takeWhile isAsciiDigit
      if digits = [] then [] else mark :: sign ++ digits
    else []
  | [] => []

/-- The numeral at the front of a text; empty when there is none. -/
def numeralSpan (cs : List Char) : List Char :=
  let sign := if cs.head? = some '-' then ['-'] else []
  let afterSign := cs.drop sign.length
  let whole := wholeSpan afterSign
  if whole = [] then []
  else
    let afterWhole := afterSign.drop whole.length
    let fraction := fractionSpan afterWhole
    sign ++ whole ++ fraction ++ exponentSpan (afterWhole.drop fraction.length)

def words : List (String × Json) :=
  [("null", null), ("true", boolean true), ("false", boolean false), ("NaN", number .nan),
    ("Infinity", number (.infinite false)), ("-Infinity", number (.infinite true))]

def scan? (cs : List Char) : Option (Token × Nat) :=
  match cs with
  | [] => none
  | c :: rest =>
    if c = '[' then some (.openArray, 1)
    else if c = ']' then some (.closeArray, 1)
    else if c = '\x7b' then some (.openObject, 1)
    else if c = '\x7d' then some (.closeObject, 1)
    else if c = ',' then some (.comma, 1)
    else if c = ':' then some (.colon, 1)
    else if c = '"' then
      (stringBody? rest).map fun (body, length) => (.text (String.ofList body), length + 1)
    else match words.find? fun (word, _) => word.toList.isPrefixOf cs with
      | some (word, value) => some (.word value, word.length)
      | none =>
        let numeral := numeralSpan cs
        if numeral = [] then none else some (.numeral numeral, numeral.length)

def ofNumeral (cs : List Char) : Except ReadFault Json :=
  if cs.all fun c => isAsciiDigit c || c == '-' then
    match Numeral.integer? .ten cs with
    | .ok n => .ok (integer n)
    | .error (.tooLong digits) => .error (.integerTooLong digits)
    | .error .malformed => .error .malformed
  else match Numeral.double? cs with
    | some x => .ok (number x)
    | none => .error .malformed

/-- An open array, its latest item first, or an open object that waits for the value of a name. -/
inductive Frame where
  | array (items : List Json)
  | object (members : List (String × Json)) (name : String)

inductive Expectation where
  | value
  | itemOrEnd
  | nameOrEnd
  | name (members : List (String × Json))
  | colon (members : List (String × Json)) (name : String)
  | separator
  | nothing (result : Json)

structure ReaderState where
  stack : List Frame
  expects : Expectation

namespace ReaderState

def start : ReaderState := ⟨[], .value⟩

def complete : List Frame → Json → ReaderState
  | [], value => ⟨[], .nothing value⟩
  | .array items :: stack, value => ⟨.array (value :: items) :: stack, .separator⟩
  | .object members name :: stack, value =>
    ⟨.object (Fields.set members name value) name :: stack, .separator⟩

def stepValue (stack : List Frame) (token : Token) : Except ReadFault ReaderState :=
  match token with
  | .openArray => .ok ⟨.array [] :: stack, .itemOrEnd⟩
  | .openObject => .ok ⟨stack, .nameOrEnd⟩
  | .text s => .ok (complete stack (text s))
  | .word value => .ok (complete stack value)
  | .numeral cs => (ofNumeral cs).map (complete stack)
  | _ => .error .malformed

def step (state : ReaderState) (token : Token) : Except ReadFault ReaderState :=
  match state.expects, token, state.stack with
  | .itemOrEnd, .closeArray, .array _ :: stack => .ok (complete stack (array []))
  | .itemOrEnd, token, stack => stepValue stack token
  | .value, token, stack => stepValue stack token
  | .nameOrEnd, .closeObject, stack => .ok (complete stack (object []))
  | .nameOrEnd, .text name, stack => .ok ⟨stack, .colon [] name⟩
  | .name members, .text name, stack => .ok ⟨stack, .colon members name⟩
  | .colon members name, .colon, stack => .ok ⟨.object members name :: stack, .value⟩
  | .separator, .comma, .array items :: stack => .ok ⟨.array items :: stack, .value⟩
  | .separator, .comma, .object members _ :: stack => .ok ⟨stack, .name members⟩
  | .separator, .closeArray, .array items :: stack =>
    .ok (complete stack (array items.reverse))
  | .separator, .closeObject, .object members _ :: stack =>
    .ok (complete stack (object members))
  | _, _, _ => .error .malformed

end ReaderState

def readFrom (state : ReaderState) (cs : List Char) : Except ReadFault Json :=
  match cs with
  | [] => match state.expects with
    | .nothing result => .ok result
    | _ => .error .malformed
  | c :: rest =>
    if isSpace c then readFrom state rest
    else match scan? (c :: rest) with
      | none => .error .malformed
      | some (token, length) => match state.step token with
        | .error fault => .error fault
        | .ok next => readFrom next (rest.drop (length - 1))
termination_by cs.length
decreasing_by all_goals simp +arith [List.length_drop]

def read (text : String) : Except ReadFault Json := readFrom .start text.toList

end StagedTables.Json
