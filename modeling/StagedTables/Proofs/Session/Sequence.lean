import StagedTables.Proofs.Program.Contract
import StagedTables.Session.Connect
import StagedTables.Session.Table
import StagedTables.Session.Write

/-! # Sequences of calls on sessions

What the users of sessions do: they open a session and call its operations one after another, in any
order, on this session and on those that the calls give.  A call may fail, and it may be abandoned
while it waits for a reply; then the sessions at hand are what they were.  A condition on sessions
that no call breaks holds of all sessions at the end. -/
set_option autoImplicit false
namespace StagedTables

/-! ## Tables that requests touch -/

namespace Request

def written? : Request → Option TableClient
  | upsert table _ _ => some table
  | delete table _ _ => some table
  | transact table _ => some table
  | _ => none

def read? : Request → Option TableClient
  | getEntity table _ _ => some table
  | startQuery query => some query.table
  | awaitRow query _ => some query.table
  | _ => none

end Request

/-! ## Calls -/

inductive WriteCall : Type 1 where
  | insert (partitionKey rowKey : String) (build : EntityBuilder → Reaction Session.Payload)
  | delete (partitionKey rowKey : String)
  | batch {ι : Type} (kind : BatchKind) (items : List ι) (build : ι → Reaction Session.Payload)

def WriteCall.perform (session : Session) : WriteCall → Action (Except Failure Unit)
  | insert partitionKey rowKey build => session.insert partitionKey rowKey build
  | delete partitionKey rowKey => session.delete partitionKey rowKey
  | batch kind items build => session.batch kind items build

def WriteCall.performAll (session : Session) (calls : List WriteCall) :
    Action (List (Except Failure Unit)) :=
  calls.mapM fun call => call.perform session

inductive SessionCall : Type 1 where
  | withFilter (filter : Filter)
  | withKeys (partitionKey rowKey : String)
  | select (name : String)
  | receive {α : Type} (read : Entity → Reaction α)
  | execute {α : Type} (zone : Calendar.LocalZone) (read : Entity → Reaction α)
  | executeDirect {α : Type} (zone : Calendar.LocalZone) (read : Entity → Reaction α)
  | write (call : WriteCall)

def SessionCall.perform (session : Session) : SessionCall → Action Session
  | withFilter filter => return session.withFilter filter
  | withKeys partitionKey rowKey => return session.withKeys partitionKey rowKey
  | select name => session.select name
  | receive read => do
    let _ ← session.receive read
    return session
  | execute zone read => do
    let _ ← session.execute zone read
    return session
  | executeDirect zone read => do
    let _ ← session.executeDirect zone read
    return session
  | write call => do
    let _ ← call.perform session
    return session

theorem Session.keeps_readTable_any {contract : Contract} (session : Session) :
    Action.Keeps contract (fun _ => True) session.readTable :=
  (Action.keeps_liftM _).bind fun _ _ => (Action.keeps_liftM _).mono fun _ _ => trivial

theorem Session.keeps_collect {contract : Contract} (aside : contract.PermitsAside) (token : Token)
    {query : Query} (waits : ∀ position, contract.Permits (.awaitRow query position))
    (rows : RowStream) (position : Nat) :
    Action.Keeps contract (fun _ => True) (collect token query rows position) := by
  induction rows generalizing position with
  | finished =>
    exact .bind (Action.keeps_request (.awaitRow query position) (waits position)) fun _ _ =>
      Action.keeps_pure trivial
  | failed error =>
    exact .bind (Action.keeps_request (.awaitRow query position) (waits position)) fun _ _ =>
      Action.keeps_throw _
  | row entity rest ih =>
    rw [collect]
    refine .bind (Action.keeps_request (.awaitRow query position) (waits position)) fun _ _ => ?_
    refine (Action.keeps_raiseIfCancelled aside ..).bind fun _ _ => ?_
    exact (ih (position + 1)).bind fun _ _ => Action.keeps_pure trivial

/-! ## Sequences -/

namespace Program

variable {α : Type} {contract : Contract}

/-- A program that is abandoned after so many requests, and then has no value. -/
def upTo : Nat → Program α → Program (Option α)
  | 0, _ => done none
  | _ + 1, done value => done (some value)
  | limit + 1, ask request next => ask request fun reply => upTo limit (next reply)

theorem Keeps.upTo {good : α → Prop} {program : Program α} (kept : program.Keeps contract good)
    (limit : Nat) :
    (program.upTo limit).Keeps contract fun outcome =>
      ∀ value, outcome = some value → good value := by
  induction limit generalizing program with
  | zero => exact nofun
  | succ limit ih =>
    cases program with
    | done value =>
      rintro _ ⟨⟩
      exact kept
    | ask request next => exact ⟨kept.1, fun reply allowed => ih (kept.2 reply allowed)⟩

def within (limit : Option Nat) (program : Program α) : Program (Option α) :=
  match limit with
  | none => program.andThen fun value => .done (some value)
  | some limit => program.upTo limit

theorem Keeps.within {good : α → Prop} {program : Program α} (kept : program.Keeps contract good)
    (limit : Option Nat) :
    (program.within limit).Keeps contract fun outcome =>
      ∀ value, outcome = some value → good value := by
  cases limit with
  | none =>
    refine kept.andThen fun value holds => ?_
    rintro _ ⟨⟩
    exact holds
  | some limit => exact kept.upTo limit

end Program

/-- A call on one of the sessions at hand.  It may be abandoned after some of its requests. -/
structure Turn : Type 1 where
  session : Nat
  call : SessionCall
  limit : Option Nat := none

namespace Turn

/-- Carries out a call; it adds a session unless it fails or is abandoned. -/
def perform (turn : Turn) (sessions : List Session) : Program (List Session) :=
  match sessions[turn.session]? with
  | none => .done sessions
  | some session => ((turn.call.perform session).run.within turn.limit).andThen fun outcome =>
    match outcome with
    | some (.ok next) => .done (sessions ++ [next])
    | _ => .done sessions

def performAll : List Turn → List Session → Program (List Session)
  | [], sessions => .done sessions
  | turn :: rest, sessions => (turn.perform sessions).andThen (performAll rest)

variable {contract : Contract} {good : Session → Prop} {sessions : List Session}

theorem keeps_perform (turn : Turn)
    (calls : ∀ session call, good session →
      Action.Keeps contract good (SessionCall.perform session call))
    (all : ∀ session ∈ sessions, good session) :
    (turn.perform sessions).Keeps contract fun later => ∀ session ∈ later, good session := by
  unfold perform
  cases found : sessions[turn.session]? with
  | none => exact all
  | some session =>
    have kept := calls session turn.call (all session (List.mem_of_getElem? found))
    refine (kept.run.within turn.limit).andThen fun outcome holds => ?_
    split
    · next later =>
      have isGood := holds _ rfl later rfl
      exact List.forall_mem_append.mpr ⟨all, List.forall_mem_singleton.mpr isGood⟩
    · exact all

theorem keeps_performAll (turns : List Turn)
    (calls : ∀ session call, good session →
      Action.Keeps contract good (SessionCall.perform session call))
    (all : ∀ session ∈ sessions, good session) :
    (performAll turns sessions).Keeps contract fun later => ∀ session ∈ later, good session := by
  induction turns generalizing sessions with
  | nil => exact all
  | cons turn rest ih => exact (keeps_perform turn calls all).andThen fun _ later => ih later

end Turn

/-! ## Openings -/

inductive Opening where
  | text (prod : Option String) (pageSize : Except Refusal Count)
  | texts (prod dev : Option String) (stage : Except Failure Stage)
      (pageSize : Except Refusal Count)
  | clients (prod : Account) (dev : Option Account) (stage : Option String)
    (pageSize : Except Refusal Count)
  | settings (read : Settings)

def Opening.perform (factory : ClientFactory) (token : Token) : Opening → Action Session
  | text prod pageSize => Session.ofText factory prod token pageSize
  | texts prod dev stage pageSize => Session.ofTexts factory prod dev stage token pageSize
  | clients prod dev stage pageSize => Session.ofClients factory prod dev stage token pageSize
  | settings read => Session.ofSettings factory read token

def Opening.pageSize : Opening → Except Refusal Count
  | text _ pageSize => pageSize
  | texts _ _ _ pageSize => pageSize
  | clients _ _ _ pageSize => pageSize
  | settings read => .ok read.pageSize.count

def Opening.provisioning : Opening → Provisioning
  | settings read => read.provisioning
  | _ => {}

def Session.IsOpened (session : Session) : Prop :=
  ∃ (σ : Type) (answers : Program.Answers σ) (state : σ) (factory : ClientFactory)
    (opening : Opening) (token : Token),
    ((opening.perform factory token).run.run answers state).1 = .ok session

/-- A session on accounts of which no table is selected, with a development account if there is a
stage. -/
def Session.IsUnselected (session : Session) : Prop :=
  ∃ storage, session.storage = some storage ∧ storage.prod.table = none ∧
    (∀ target, storage.dev = some target → target.table = none) ∧
    storage.dev.isSome = storage.stage.isSome

/-- A session as it is opened: nothing is selected and there is neither a filter nor keys. -/
structure Session.IsNew (token : Token) (pageSize : Except Refusal Count)
    (provisioning : Provisioning)
    (session : Session) : Prop where
  unselected : session.IsUnselected
  filter : session.filter = none
  keys : session.keys = none
  token : session.token = token
  pageSize : checkedPageSize pageSize = .ok session.pageSize
  provisioning : session.provisioning = provisioning

namespace Session

variable {factory : ClientFactory} {pageSize : Except Refusal Count} {token : Token}

theorem keeps_start (prod : Connection) {dev : Option Connection} {stage : Option Stage}
    (together : dev.isSome = stage.isSome) :
    Action.Keeps .any (IsNew token pageSize {}) (start factory prod dev stage token pageSize) := by
  have ends (account : Account) (beside : Option Account) (same : beside.isSome = stage.isSome) :
      Action.Keeps .any (IsNew token pageSize {}) (do
        let size ← checkedPageSize pageSize
        return { Session.unconnected token with
          storage := some {
            stage
            prod := { account := some account }
            dev := beside.map fun account => { account := some account } }
          pageSize := size }) := by
    refine (Action.keeps_liftM _).bind fun size isSize => ?_
    refine Action.keeps_pure ⟨⟨_, rfl, rfl, fun target found => ?_, ?_⟩, rfl, rfl, rfl, isSize, rfl⟩
    · obtain ⟨account, -, rfl⟩ := Option.map_eq_some_iff.mp found
      rfl
    · rw [Option.isSome_map, same]
  refine (Action.keeps_any _).bind fun account _ => ?_
  cases dev with
  | none => exact ends account none together
  | some dev =>
    simp only [map_eq_pure_bind, bind_assoc]
    exact (Action.keeps_any _).bind fun beside _ => ends account (some beside) together

theorem keeps_ofText (prod : Option String) :
    Action.Keeps .any (IsNew token pageSize {}) (ofText factory prod token pageSize) := by
  unfold ofText
  exact (Action.keeps_any _).bind fun prod _ => keeps_start prod rfl

theorem keeps_ofTexts (prod dev : Option String) (stage : Except Failure Stage) :
    Action.Keeps .any (IsNew token pageSize {})
      (ofTexts factory prod dev stage token pageSize) := by
  unfold ofTexts
  refine (Action.keeps_any _).bind fun prod _ => (Action.keeps_any _).bind fun dev _ => ?_
  exact (Action.keeps_any _).bind fun stage _ => keeps_start prod rfl

theorem keeps_ofClients (prod : Account) (dev : Option Account) (stage : Option String) :
    Action.Keeps .any (IsNew token pageSize {})
      (ofClients factory prod dev stage token pageSize) := by
  unfold ofClients
  split
  · exact keeps_start _ rfl
  · exact (Action.keeps_any _).bind fun stage _ => keeps_start _ rfl
  · exact Action.keeps_throw _

theorem keeps_ofSettings (read : Settings) :
    Action.Keeps .any (IsNew token (.ok read.pageSize.count) read.provisioning)
      (ofSettings factory read token) := by
  have provisioned (session : Session) (new : session.IsNew token (.ok read.pageSize.count) {}) :
      Action.Keeps .any (IsNew token (.ok read.pageSize.count) read.provisioning)
        (pure { session with provisioning := read.provisioning }) :=
    Action.keeps_pure ⟨new.unselected, new.filter, new.keys, new.token, new.pageSize, rfl⟩
  unfold ofSettings
  split
  · exact Action.keeps_throw _
  · refine (Action.keeps_any _).bind fun setUp _ => ?_
    cases setUp with
    | error fault => exact Action.keeps_throw _
    | ok _ =>
      dsimp only
      split
      · exact (keeps_ofTexts ..).bind provisioned
      · exact (keeps_ofText _).bind provisioned

end Session

theorem Opening.keeps_perform (factory : ClientFactory) (opening : Opening) (token : Token) :
    Action.Keeps .any (Session.IsNew token opening.pageSize opening.provisioning)
      (opening.perform factory token) := by
  cases opening with
  | text prod pageSize => exact Session.keeps_ofText prod
  | texts prod dev stage pageSize => exact Session.keeps_ofTexts prod dev stage
  | clients prod dev stage pageSize => exact Session.keeps_ofClients prod dev stage
  | settings read => exact Session.keeps_ofSettings read

theorem Opening.isNew {σ : Type} {answers : Program.Answers σ} {state : σ}
    {factory : ClientFactory} {opening : Opening} {token : Token} {session : Session}
    (outcome : ((opening.perform factory token).run.run answers state).1 = .ok session) :
    session.IsNew token opening.pageSize opening.provisioning :=
  ((opening.keeps_perform factory token).run.run Contract.isKeptBy_any trivial).1 session outcome

theorem Session.IsOpened.isUnselected {session : Session} (opened : session.IsOpened) :
    session.IsUnselected := by
  obtain ⟨σ, answers, state, factory, opening, token, outcome⟩ := opened
  exact (Opening.isNew outcome).unselected

end StagedTables
