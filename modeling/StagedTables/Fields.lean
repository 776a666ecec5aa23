/-! # Ordered fields

Named entries kept in the order in which their names first appeared.  Setting a name that is
present replaces its value in place and keeps the name as it stands; a new name goes to the end.
Names are texts, or of any other type that can tell whether two of them are one. -/
set_option autoImplicit false
namespace StagedTables

abbrev Fields (α : Type) := List (String × α)

namespace Fields

variable {ν α : Type} [BEq ν]

def get? : List (ν × α) → ν → Option α
  | [], _ => none
  | (key, value) :: rest, name => if key == name then some value else get? rest name

def set : List (ν × α) → ν → α → List (ν × α)
  | [], name, value => [(name, value)]
  | (key, old) :: rest, name, value =>
    if key == name then (key, value) :: rest else (key, old) :: set rest name value

def names (fields : List (ν × α)) : List ν := fields.map Prod.fst

def contains (fields : List (ν × α)) (name : ν) : Bool := (get? fields name).isSome

def setAll (fields entries : List (ν × α)) : List (ν × α) :=
  entries.foldl (fun fields entry => set fields entry.1 entry.2) fields

/-- The fields that a list of entries denotes: the last entry of a name counts. -/
def ofList (entries : List (ν × α)) : List (ν × α) := setAll [] entries

theorem get?_set [EquivBEq ν] (fields : List (ν × α)) (name : ν) (value : α) (key : ν) :
    get? (set fields name value) key = if name == key then some value else get? fields key := by
  induction fields with
  | nil => rfl
  | cons entry rest ih =>
    obtain ⟨first, old⟩ := entry
    cases same : first == name with
    | true =>
      have agree : (first == key) = (name == key) := BEq.congr_left same
      cases hit : name == key <;> simp [set, get?, same, agree, hit]
    | false =>
      cases hit : first == key with
      | true =>
        have other : (name == key) = false := by
          rw [← BEq.congr_right hit, BEq.comm, same]
        simp [set, get?, same, hit, other]
      | false => simp [set, get?, same, hit, ih]

end Fields
end StagedTables
