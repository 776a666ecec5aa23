import Mathlib.Logic.Function.Basic
import StagedTables.Proofs.Table.Sharing
import StagedTables.Proofs.Session.Sequence

/-! # Tables as maps

A table maps partition and row keys to entities, and what writes to it makes changes to the map.
Each call of a service makes all its changes or none.  An atomic store is such a service, with the
cache of handles beside it. -/
set_option autoImplicit false
namespace StagedTables

abbrev EntityMap := Value × Value → Option Entity

def Entity.keys? (entity : Entity) : Option (Value × Value) := do
  let partitionKey ← Fields.get? entity.properties partitionKeyName
  let rowKey ← Fields.get? entity.properties rowKeyName
  return (partitionKey, rowKey)

def sameKeys (keys others : Value × Value) : Bool :=
  keys.1.equal others.1 && keys.2.equal others.2

inductive Change where
  | put (keys : Value × Value) (mode : UpdateMode) (properties : Fields Value)
  | remove (keys : Value × Value)

namespace Change

def apply : Change → EntityMap → EntityMap
  | put keys mode properties, map => fun others =>
    if sameKeys keys others then some (mode.stored (map others) properties) else map others
  | remove keys, map => fun others => if sameKeys keys others then none else map others

/-- The change that an action makes, unless its entity lacks a key. -/
def of? : TableAction → Option Change
  | .upsert entity mode => entity.keys?.map (put · mode entity.properties)
  | .delete entity => entity.keys?.map remove

def all? (actions : List TableAction) : Option (List Change) := actions.mapM of?

def applyAll (changes : List Change) (map : EntityMap) : EntityMap :=
  changes.foldl (fun map change => change.apply map) map

end Change

/-- Changes that took effect, all in order, where the result says so, and none where it is an
error. -/
def Settled {ε : Type} (changes? : Option (List Change)) (result : Except ε Unit)
    (before after : EntityMap) : Prop :=
  match result with
  | .ok _ => ∃ changes, changes? = some changes ∧ after = Change.applyAll changes before
  | .error _ => after = before

/-- Surroundings in which each call on a table takes effect wholly or fails without effect, and
nothing else changes the table. -/
structure AppliesWholly {σ : Type} (answers : Program.Answers σ) (table : TableClient)
    (view : σ → EntityMap) : Prop where
  upsert : ∀ entity mode state,
    Settled (Change.all? [.upsert entity mode]) (answers (.upsert table entity mode) state).1
      (view state) (view (answers (.upsert table entity mode) state).2)
  delete : ∀ partitionKey rowKey state,
    Settled (some [.remove (.text partitionKey, .text rowKey)])
      (answers (.delete table partitionKey rowKey) state).1
      (view state) (view (answers (.delete table partitionKey rowKey) state).2)
  transact : ∀ actions state,
    Settled (Change.all? actions) (answers (.transact table actions) state).1
      (view state) (view (answers (.transact table actions) state).2)
  others : ∀ request state, request.written? ≠ some table →
    view (answers request state).2 = view state

/-! ## An atomic store -/

structure AtomicStore where
  cache : TableCache
  tables : TableClient → EntityMap
  refusals : List Bool

namespace AtomicStore

/-- Makes the changes to a table unless they are refused or there is a key missing. -/
def submit (store : AtomicStore) (table : TableClient) (changes? : Option (List Change)) :
    Except ForeignError Unit × AtomicStore :=
  let later := { store with refusals := store.refusals.tail }
  if store.refusals.head? = some true then (.error ⟨.httpResponse, "refused"⟩, later)
  else match changes? with
    | none => (.error ⟨.key, partitionKeyName⟩, later)
    | some changes =>
      let map := Change.applyAll changes (store.tables table)
      (.ok (), { later with tables := Function.update store.tables table map })

def labelled (account : Account) (name : String) : TableClient :=
  match account.key with
  | .url text => ⟨"u" ++ text, name⟩
  | .client client => ⟨"c" ++ client, name⟩

/-- How the store answers.  Nothing is cancelled, and queries find nothing. -/
def answers : Program.Answers AtomicStore
  | .isCancelled _, store => (false, store)
  | .cancel _, store => ((), store)
  | .log _, store => ((), store)
  | .setUpLogging _, store => (.ok (), store)
  | .sleep _, store => ((), store)
  | .cached key, store => (store.cache.get? key, store)
  | .keep key table, store =>
    let (kept, cache) := store.cache.add key table
    (kept, { store with cache })
  | .createTable _ _, store => (.ok (), store)
  | .openTable account name, store => (labelled account name, store)
  | .getEntity table partitionKey rowKey, store =>
    (.ok (store.tables table (.text partitionKey, .text rowKey)), store)
  | .startQuery _, store => (.ok .finished, store)
  | .awaitRow _ _, store => ((), store)
  | .upsert table entity mode, store => store.submit table (Change.all? [.upsert entity mode])
  | .delete table partitionKey rowKey, store =>
    store.submit table (some [.remove (.text partitionKey, .text rowKey)])
  | .transact table actions, store => store.submit table (Change.all? actions)

theorem submit_other (store : AtomicStore) {table other : TableClient}
    (changes? : Option (List Change)) (different : other ≠ table) :
    (store.submit table changes?).2.tables other = store.tables other := by
  unfold submit
  split
  · rfl
  · cases changes? with
    | none => rfl
    | some changes => exact Function.update_of_ne different ..

theorem submit_cache (store : AtomicStore) (table : TableClient)
    (changes? : Option (List Change)) : (store.submit table changes?).2.cache = store.cache := by
  unfold submit
  split
  · rfl
  · cases changes? <;> rfl

theorem tables_answers (request : Request) (store : AtomicStore) {table : TableClient}
    (spared : request.written? ≠ some table) :
    (answers request store).2.tables table = store.tables table := by
  cases request with
  | upsert | delete | transact =>
    exact submit_other _ _ fun same => spared (congrArg some same.symm)
  | _ => rfl

end AtomicStore
end StagedTables
