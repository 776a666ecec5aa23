import StagedTables.Datum

/-! # Merging settings

One mapping is laid over another: a value of the upper one replaces the value of the same name
below it, except that two mappings are merged in turn. -/
set_option autoImplicit false
namespace StagedTables.Settings

variable {ο : Type} [BEq ο]

mutual

/-- The value of a name after `upper` is laid over what stands there. -/
def overlay (lower : Option (Datum ο)) (upper : Datum ο) : Datum ο :=
  match lower, upper with
  | some (.object below), .object entries => .object (merge below entries)
  | _, upper => upper
termination_by structural upper

def merge (below : Datum.Members ο) : Datum.Members ο → Datum.Members ο
  | [] => below
  | (name, value) :: rest =>
    merge (Fields.set below name (overlay (Fields.get? below name) value)) rest
termination_by structural entries => entries

end

end StagedTables.Settings
