import StagedTables.Table.Client

/-! # Kept handles

A handle of a table is kept under its account and the lower-cased name of its table.  Of several
handles that are offered under one key the first is kept. -/
set_option autoImplicit false
namespace StagedTables

abbrev TableCache := List (CacheKey × TableClient)

namespace TableCache

def get? (cache : TableCache) (key : CacheKey) : Option TableClient := cache.lookup key

/-- Keeps a handle unless one is kept already; the one that is kept then, and the cache. -/
def add (cache : TableCache) (key : CacheKey) (table : TableClient) : TableClient × TableCache :=
  match cache.get? key with
  | some first => (first, cache)
  | none => (table, cache ++ [(key, table)])

variable {cache : TableCache} {key : CacheKey} {table first : TableClient}

theorem add_of_some (kept : cache.get? key = some first) :
    cache.add key table = (first, cache) := by
  simp only [add, kept]

theorem add_of_none (missing : cache.get? key = none) :
    cache.add key table = (table, cache ++ [(key, table)]) := by
  simp only [add, missing]

/-- What is added is found, and what was kept under any key stays there. -/
theorem get?_add (other : CacheKey) :
    (cache.add key table).2.get? other =
      if other = key then some (cache.add key table).1 else cache.get? other := by
  cases kept : cache.get? key with
  | some first =>
    rw [add_of_some kept]
    split
    · next same => rw [same, kept]
    · rfl
  | none =>
    rw [add_of_none kept]
    unfold get? at kept ⊢
    by_cases same : other = key
    · simp [same, List.lookup_append, kept]
    · simp [same, List.lookup_append, List.lookup_cons, beq_eq_false_iff_ne.mpr same]

/-- No entry is replaced or removed. -/
def PersistsIn (cache later : TableCache) : Prop :=
  ∀ key table, cache.get? key = some table → later.get? key = some table

theorem PersistsIn.refl (cache : TableCache) : cache.PersistsIn cache := fun _ _ => id

theorem PersistsIn.trans {middle later : TableCache} (first : cache.PersistsIn middle)
    (second : middle.PersistsIn later) : cache.PersistsIn later :=
  fun key table kept => second key table (first key table kept)

theorem persistsIn_add (cache : TableCache) (key : CacheKey) (table : TableClient) :
    cache.PersistsIn (cache.add key table).2 := by
  intro other found kept
  by_cases same : other = key
  · subst same
    rwa [add_of_some kept]
  · rwa [get?_add, if_neg same]

end TableCache
end StagedTables
