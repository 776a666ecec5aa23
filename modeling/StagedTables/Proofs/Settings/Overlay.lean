import Mathlib.Data.List.Nodup
import StagedTables.Proofs.Settings.Loading

/-! # Settings laid over one another

What stands at a path of names after one datum is laid over another.  Main statements: where the
upper datum has a value, it is laid over the lower datum's, and where it has none, the lower datum's
stays, unless something else than a mapping is in the way. -/
set_option autoImplicit false
namespace StagedTables

/-! ## Entries by their names -/

namespace Fields

variable {ν α : Type} [BEq ν] {fields : List (ν × α)} {name : ν} {value : α}

def Distinct (names : List ν) : Prop := names.Pairwise fun name other => (name == other) = false

variable [EquivBEq ν]

end Fields

/-! ## Paths -/

namespace Datum

variable {ο : Type}

def at? [BEq ο] : Datum ο → List (Name ο) → Option (Datum ο)
  | datum, [] => some datum
  | object members, name :: path => (Fields.get? members name).bind fun value => value.at? path
  | _, _ :: _ => none
termination_by structural _ path => path

def IsObject : Datum ο → Prop
  | object _ => True
  | _ => False

instance (datum : Datum ο) : Decidable datum.IsObject :=
  match datum with
  | object _ => .isTrue trivial
  | scalar _ => .isFalse id
  | other _ => .isFalse id
  | array _ => .isFalse id
  | set _ => .isFalse id

/-- No mapping that stands at a path has two entries of one name. -/
def IsWellNamed [BEq ο] (datum : Datum ο) : Prop :=
  ∀ path members, datum.at? path = some (object members) →
    Fields.Distinct (Fields.names members)

variable [BEq ο] {datum value : Datum ο} {members : Datum.Members ο} {name : Name ο}
  {path front : List (Name ο)}

theorem IsWellNamed.names (named : (object members).IsWellNamed) :
    Fields.Distinct (Fields.names members) :=
  named [] members rfl

theorem IsWellNamed.get? (named : (object members).IsWellNamed)
    (found : Fields.get? members name = some value) : value.IsWellNamed := by
  intro path entries inside
  refine named (name :: path) entries ?_
  rw [at?, found]
  exact inside

end Datum

namespace Settings

open Datum

variable {ο : Type} [BEq ο] {lower : Option (Datum ο)} {upper value : Datum ο}
  {entries : Datum.Members ο} {path : List (Name ο)}

/-! ## One level -/

variable [EquivBEq ο]

/-- A name that is equal to a lower one keeps the spelling of that one. -/
example :
    let below : Datum.Members Scalar := [(.other (.integer 1), .text "a")]
    let entries : Datum.Members Scalar :=
      [(.other (.boolean true), .text "b"), (.text "1", .text "c")]
    merge below entries = [(.other (.integer 1), .text "b"), (.text "1", .text "c")] :=
  rfl

end Settings
end StagedTables
