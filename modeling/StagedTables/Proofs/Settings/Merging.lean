import Mathlib.Control.Monad.Basic
import Mathlib.Data.List.Infix
import StagedTables.Proofs.Settings.Overlay
import StagedTables.Settings.Usual

/-! # Merged settings

Main statement: a mapping that is laid over another takes precedence at every path, and laying it
over the result again changes nothing.  So a load takes each setting from the highest source that
makes it. -/
set_option autoImplicit false
namespace StagedTables.Settings

open Datum

variable {ο : Type} [BEq ο] {lower : Option (Datum ο)} {value : Datum ο}
  {entries : Datum.Members ο} {path : List (Name ο)}

/-! ## Merging again -/

/-- One layer has a mapping at a path, or on the way, where another has something else. -/
def Clash (layers : List (Datum ο)) (path : List (Name ο)) : Prop :=
  ∃ front ∈ path.inits,
    (∃ layer ∈ layers, ∃ value ∈ layer.at? front, ¬ value.IsObject) ∧
      ∃ layer ∈ layers, ∃ value ∈ layer.at? front, value.IsObject

instance (layers : List (Datum ο)) (path : List (Name ο)) : Decidable (Clash layers path) :=
  inferInstanceAs (Decidable (∃ front ∈ path.inits, _))

variable {layers : List (Datum ο)} {below : Datum.Members ο}

theorem Clash.cons (upper : Datum ο) (clash : Clash layers path) :
    Clash (upper :: layers) path := by
  obtain ⟨front, before, ⟨one, isOne, stands⟩, other, isOther, holds⟩ := clash
  exact ⟨front, before, ⟨one, List.mem_cons_of_mem _ isOne, stands⟩, other,
    List.mem_cons_of_mem _ isOther, holds⟩

section Layers

variable [EquivBEq ο]

end Layers

/-! ## Sources -/

namespace Sources

variable {sources : Sources} {name : String} {made : Datum.Members ο}

end Sources

/-! ## Precedence -/

end StagedTables.Settings
