import StagedTables.Number.Numeral
import StagedTables.Text.Quoted

/-! # Universally unique identifiers

A 128-bit number, written as 32 hexadecimal digits in groups of 8, 4, 4, 4 and 12.  The reader
takes the digits with hyphens anywhere, in braces, or after a `urn:uuid:` mark. -/
set_option autoImplicit false
namespace StagedTables

structure Uuid where
  bits : BitVec 128
  deriving DecidableEq, Repr

namespace Uuid

def groupLengths : List Nat := [8, 4, 4, 4, 12]

def cut {α : Type} : List Nat → List α → List (List α)
  | [], _ => []
  | length :: lengths, xs => xs.take length :: cut lengths (xs.drop length)

def digits (u : Uuid) : List Char :=
  Text.hexPadded 32 u.bits.toNat

def text (u : Uuid) : String :=
  "-".intercalate ((cut groupLengths u.digits).map String.ofList)

def removeAll (pattern : List Char) : List Char → List Char
  | [] => []
  | c :: rest =>
    if pattern.isPrefixOf (c :: rest) then removeAll pattern (rest.drop (pattern.length - 1))
    else c :: removeAll pattern rest
termination_by cs => cs.length
decreasing_by all_goals simp +arith [List.length_drop]

inductive Fault where
  | wrongLength
  | numeral (digits : String) (fault : Numeral.Fault)
  deriving DecidableEq, Repr

/-- The characters taken as digits: marks, surrounding braces and hyphens are dropped. -/
def bareDigits (cs : List Char) : List Char :=
  let unmarked := removeAll "uuid:".toList (removeAll "urn:".toList cs)
  (Text.trimBy (fun c => c == '\x7b' || c == '\x7d') unmarked).filter (· != '-')

/-- The identifier that a text denotes: 32 characters that read as one hexadecimal numeral. -/
def read (s : String) : Except Fault Uuid :=
  let bare := bareDigits s.toList
  if bare.length ≠ 32 then .error .wrongLength
  else match Numeral.integer? .sixteen bare with
    | .ok n => .ok ⟨BitVec.ofInt 128 n⟩
    | .error fault => .error (.numeral (String.ofList bare) fault)

end Uuid
end StagedTables
