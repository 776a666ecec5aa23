import StagedTables.Memory
import StagedTables.Proofs.Session.Drawing
import StagedTables.Proofs.Session.Heeding
import StagedTables.Proofs.Session.Reporting

/-! # Cancellation is final

No operation calls the service once the token of its session is cancelled, no row that comes later
is in a result, and an operation that would need a call reports the cancellation instead.  Which
operations still succeed is told apart from that: a write for which there is nothing to do, and the
choice of a table whose handles are kept. -/
set_option autoImplicit false
namespace StagedTables

section Succeeding

variable {σ : Type} {answers : Program.Answers σ} {token : Token} {cancelled : σ → Bool}
  {session : Session}

/-! ## Kept tables -/

def kept? (answers : Program.Answers σ) (key : CacheKey) (state : σ) : Option TableClient :=
  (answers (.cached key) state).1

/-- When they are looked up one after another, a handle is kept under each key. -/
def AreKept (answers : Program.Answers σ) : List CacheKey → σ → Prop
  | [], _ => True
  | key :: rest, state =>
    (kept? answers key state).isSome ∧ AreKept answers rest (answers (.cached key) state).2

def Session.accounts? (session : Session) : Option (List Account) :=
  session.storage.bind fun storage => storage.prod.account.bind fun prod =>
    match storage.dev with
    | none => some [prod]
    | some target => target.account.map fun dev => [prod, dev]

section Cancels

variable (cancels : Cancels answers token cancelled) {state : σ} (already : cancelled state = true)
include cancels already

theorem Provisioning.run_createTable_cancelled (provisioning : Provisioning) (account : Account)
    (name : String) (more before : Nat) :
    (provisioning.createTable account name (some token) more before).run.run answers state =
      (.error (.cancelled operation), (answers (.isCancelled token) state).2) := by
  have checked : (checkToken (some token)).run.run answers state =
      (.error (.cancelled operation), (answers (.isCancelled token) state).2) := by
    unfold checkToken
    rw [Action.run_raiseIfCancelled cancels, already]
    rfl
  rw [createTable_eq, Action.run_bind, checked]

theorem Provisioning.run_resolve_cancelled (provisioning : Provisioning) (account : Account)
    {name : String} (valid : TableName.fault? name = none) :
    (provisioning.resolve account name (some token)).run.run answers state =
      let after := (answers (.cached (.of account name)) state).2
      match kept? answers (.of account name) state with
      | some table => (.ok table, after)
      | none => (.error (.cancelled operation), (answers (.isCancelled token) after).2) := by
  have still := cancels.stays (.cached (.of account name)) state already
  unfold resolve
  rw [valid]
  let after := (answers (.cached (.of account name)) state).2
  change (match kept? answers (.of account name) state with
    | some table => pure table
    | none => _ : Action TableClient).run.run answers after = _
  cases kept? answers (.of account name) state with
  | some table => rfl
  | none =>
    dsimp only
    rw [Action.run_bind, run_createTable_cancelled cancels still]

/-- A table is selected exactly if its name is valid and its handle is kept. -/
theorem Session.run_selectOn_cancelled (holds : session.token = token) (target : AccountTable)
    (account : Account) (name : String) :
    (∃ later, TableName.fault? name = none ∧ (kept? answers (.of account name) state).isSome ∧
      (session.selectOn target account name).run.run answers state =
        (.ok later, (answers (.cached (.of account name)) state).2)) ∨
    (¬ (TableName.fault? name = none ∧ (kept? answers (.of account name) state).isSome) ∧
      ∃ failure, ((session.selectOn target account name).run.run answers state).1 =
        .error failure) := by
  unfold selectOn
  rw [holds, Action.run_bind]
  cases valid : TableName.fault? name with
  | some fault =>
    refine .inr ⟨nofun, .tableName name fault, ?_⟩
    unfold Provisioning.resolve
    rw [valid]
    rfl
  | none =>
    rw [Provisioning.run_resolve_cancelled cancels already _ account valid]
    cases kept? answers (.of account name) state with
    | some table => exact .inl ⟨_, rfl, rfl, rfl⟩
    | none => exact .inr ⟨by simp, _, rfl⟩

omit cancels already in
theorem Session.accounts?_eq_cons {storage : Storage} {account : Account} {accounts : List Account}
    (connected : session.storage = some storage) (onProd : storage.prod.account = some account)
    (found : session.accounts? = some accounts) : ∃ rest, accounts = account :: rest := by
  unfold accounts? at found
  rw [connected, Option.bind_some, onProd, Option.bind_some] at found
  cases beside : storage.dev with
  | none =>
    rw [beside] at found
    cases found
    exact ⟨[], rfl⟩
  | some target =>
    rw [beside] at found
    obtain ⟨dev, -, rfl⟩ := Option.map_eq_some_iff.mp found
    exact ⟨[dev], rfl⟩

theorem Session.select_succeeds_iff (holds : session.token = token) (name : String) :
    (∃ later, ((session.select name).run.run answers state).1 = .ok later) ↔
      TableName.fault? name = none ∧ ∃ accounts, session.accounts? = some accounts ∧
        AreKept answers (accounts.map (CacheKey.of · name)) state := by
  unfold select requireStorage
  cases connected : session.storage with
  | none =>
    refine iff_of_false (fun ⟨_, impossible⟩ => nomatch impossible) ?_
    simp [accounts?, connected]
  | some storage =>
    rw [Action.run_bind, Action.run_liftM]
    dsimp only
    cases onProd : storage.prod.account with
    | none =>
      refine iff_of_false (fun ⟨_, impossible⟩ => nomatch impossible) ?_
      simp [accounts?, connected, onProd]
    | some account =>
      dsimp only
      rw [Action.run_bind]
      obtain ⟨prod, valid, kept, run⟩ | ⟨missing, failure, fails⟩ :=
        run_selectOn_cancelled cancels already holds storage.prod account name
      · rw [run]
        cases beside : storage.dev with
        | none =>
          have found : session.accounts? = some [account] := by
            simp [accounts?, connected, onProd, beside]
          exact iff_of_true ⟨_, rfl⟩ ⟨valid, [account], found, kept, trivial⟩
        | some target =>
          dsimp only
          cases onDev : target.account with
          | none =>
            refine iff_of_false (fun ⟨_, impossible⟩ => nomatch impossible) ?_
            simp [accounts?, connected, onProd, beside, onDev]
          | some dev =>
            have found : session.accounts? = some [account, dev] := by
              simp [accounts?, connected, onProd, beside, onDev]
            have still := cancels.stays (.cached (.of account name)) state already
            dsimp only
            rw [Action.run_bind]
            obtain ⟨_, -, keptToo, run⟩ | ⟨missing, failure, fails⟩ :=
              run_selectOn_cancelled cancels still holds target dev name
            · rw [run]
              exact iff_of_true ⟨_, rfl⟩ ⟨valid, [account, dev], found, kept, keptToo, trivial⟩
            · rw [fails, found]
              refine iff_of_false (fun ⟨_, impossible⟩ => nomatch impossible) ?_
              rintro ⟨-, _, ⟨⟩, -, keptToo, -⟩
              exact missing ⟨valid, keptToo⟩
      · rw [fails]
        refine iff_of_false (fun ⟨_, impossible⟩ => nomatch impossible) ?_
        rintro ⟨valid, accounts, found, kept⟩
        obtain ⟨rest, rfl⟩ := accounts?_eq_cons connected onProd found
        exact missing ⟨valid, kept.1⟩

end Cancels

theorem WriteCall.succeeds_iff (cancels : Cancels answers token cancelled) {state : σ}
    (already : cancelled state = true) (holds : session.token = token) (call : WriteCall) :
    ((call.perform session).run.run answers state).1 = .ok (.ok ()) ↔ call.IsIdle session := by
  constructor
  · intro succeeds
    obtain stopped | spared := (call.reports_perform cancels holds).once state already
    · rw [stopped.ends] at succeeds
      cases succeeds
    · exact spared.ends _ succeeds rfl
  · exact fun idle => call.run_idle idle answers state

end Succeeding

/-! ## Cancellation is final -/

/-- What the cancellation of its token means for a session, and for all that come of it. -/
structure Session.HeedsCancellation {σ : Type} (answers : Program.Answers σ) (cancelled : σ → Bool)
    (session : Session) : Prop where
  /-- Whatever happens, the service is called only as long as nothing is cancelled. -/
  calls : ∀ (events : List Event) (state : σ),
    (∀ step ∈ (Event.performAll session.token events [session]).steps answers state,
      step.1.IsService → cancelled step.2 = false) ∧
    ∀ later ∈ ((Event.performAll session.token events [session]).run answers state).1,
      later.token = session.token
  /-- The values of a query are read from rows that all came before the cancellation. -/
  rows : ∀ {α : Type} (zone : Calendar.LocalZone) (read : Entity → Reaction α) (state : σ)
    (values : List α),
    ((session.execute zone read).run.run answers state).1 = .ok (.ok values) →
      ∃ entities, List.Forall₂ (fun entity value => (read entity).outcome = .ok value)
          entities values ∧
        Drawn answers cancelled ((session.execute zone read).run.steps answers state) entities
  rowsDirect : ∀ {α : Type} (zone : Calendar.LocalZone) (read : Entity → Reaction α) (state : σ)
    (values : List α),
    ((session.executeDirect zone read).run.run answers state).1 = .ok values →
      ∃ entities, List.Forall₂ (fun entity value => (read entity).outcome = .ok value)
          entities values ∧
        Drawn answers cancelled ((session.executeDirect zone read).run.steps answers state) entities
  /-- An operation that would call the service reports the cancellation; reading never succeeds. -/
  select : ∀ name, (session.select name).Reports answers session.token cancelled
    (.error (.cancelled "create_table")) fun _ => True
  receive : ∀ {α : Type} (read : Entity → Reaction α),
    (session.receive read).Reports answers session.token cancelled
      (.error (.cancelled "receive")) fun _ => False
  execute : ∀ {α : Type} (zone : Calendar.LocalZone) (read : Entity → Reaction α),
    (session.execute zone read).Reports answers session.token cancelled
      (.ok (.error (.cancelled "query"))) fun result => ∀ values, result ≠ .ok values
  executeDirect : ∀ {α : Type} (zone : Calendar.LocalZone) (read : Entity → Reaction α),
    (session.executeDirect zone read).Reports answers session.token cancelled
      (.error (.query (.cancelled "query"))) fun _ => False
  write : ∀ call : WriteCall, (call.perform session).Reports answers session.token cancelled
    (.ok (.error (.cancelled call.operation))) fun result => result = .ok () → call.IsIdle session
  /-- Only what needs no call of the service still succeeds. -/
  selected : ∀ name state, cancelled state = true →
    ((∃ later, ((session.select name).run.run answers state).1 = .ok later) ↔
      TableName.fault? name = none ∧ ∃ accounts, session.accounts? = some accounts ∧
        AreKept answers (accounts.map (CacheKey.of · name)) state)
  written : ∀ (call : WriteCall) (state : σ), cancelled state = true →
    (((call.perform session).run.run answers state).1 = .ok (.ok ()) ↔ call.IsIdle session)

/-- Cancellation is final.  In surroundings in which the token of a session may be cancelled by
callbacks, between calls and whenever a call waits for the service or between two attempts, no call
of the service and no wait for a row begins after the cancellation, and no row that comes after it
is in a result.  Every later operation that would need a call of the service reports the
cancellation instead, and only those succeed that need none. -/
theorem Session.cancellation_is_final {σ : Type} {answers : Program.Answers σ}
    {cancelled : σ → Bool} {session : Session} (cancels : Cancels answers session.token cancelled) :
    session.HeedsCancellation answers cancelled where
  calls events state :=
    Event.heeds_performAll cancels (List.forall_mem_singleton.mpr rfl) events state trivial
  rows _ read _ _ ends := execute_drawn cancels rfl read ends
  rowsDirect _ read _ _ ends := executeDirect_drawn cancels rfl read ends
  select name := reports_select cancels rfl name
  receive read := reports_receive cancels rfl read
  execute _ read := reports_execute cancels rfl read
  executeDirect _ read := reports_executeDirect cancels rfl read
  write call := call.reports_perform cancels rfl
  selected name _ already := select_succeeds_iff cancels already rfl name
  written call _ already := call.succeeds_iff cancels already rfl

/-! ## Surroundings in memory -/

namespace Memory

theorem cancelled_onTable {α : Type} (memory : Memory) (client : TableClient)
    {act : MemoryTable → Except ForeignError α × Memory}
    (keeps : ∀ table, (act table).2.cancelled = memory.cancelled) :
    (memory.onTable client act).2.cancelled = memory.cancelled := by
  unfold onTable
  dsimp only
  cases (memory.table client).failure with
  | some error => rfl
  | none => exact keeps _

theorem cancelled_create (memory : Memory) (account : Account) :
    (memory.create account).2.cancelled = memory.cancelled := by
  unfold create
  cases memory.service? account.client with
  | none => rfl
  | some service =>
    dsimp only
    split <;> rfl

theorem cancelled_upsert (memory : Memory) (client : TableClient) (entity : Entity)
    (mode : UpdateMode) : (memory.upsert client entity mode).2.cancelled = memory.cancelled := by
  refine memory.cancelled_onTable client fun table => ?_
  cases table.store entity mode <;> rfl

/-- At most one token is cancelled by a request, by a callback or while a program waits. -/
theorem cancelled_answers (request : Request) (memory : Memory) :
    (answers request memory).2.cancelled = memory.cancelled ∨
      ∃ token, (answers request memory).2.cancelled = token :: memory.cancelled ∧
        (request.IsAwaited ∨ request = .cancel token) := by
  cases request with
  | cancel token => exact .inr ⟨token, rfl, .inr rfl⟩
  | sleep seconds =>
    simp only [answers, sleep]
    split
    · exact .inr ⟨memory.holder, rfl, .inl trivial⟩
    · exact .inl rfl
  | awaitRow query position =>
    simp only [answers, awaitRow]
    split
    · exact .inr ⟨memory.holder, rfl, .inl trivial⟩
    · exact .inl rfl
  | createTable account name => exact .inl (cancelled_create ..)
  | upsert table entity mode => exact .inl (cancelled_upsert ..)
  | getEntity table partitionKey rowKey =>
    exact .inl (cancelled_onTable (memory.record _) table fun _ => rfl)
  | startQuery query =>
    exact .inl (cancelled_onTable (memory.record _) query.table fun _ => rfl)
  | delete table partitionKey rowKey =>
    exact .inl (cancelled_onTable (memory.record _) table fun _ => rfl)
  | transact table actions =>
    exact .inl (cancelled_onTable (memory.record _) table fun _ => rfl)
  | _ => exact .inl rfl

theorem cancels (token : Token) : Cancels answers token (·.isCancelled token) where
  tells _ := rfl
  obeys memory := by simp [answers, cancel, isCancelled]
  stays request memory already := by
    unfold isCancelled at already ⊢
    obtain same | ⟨other, more, -⟩ := cancelled_answers request memory
    · rwa [same]
    · rw [more, List.contains_cons, already, Bool.or_true]
  between request memory calm silent live := by
    unfold isCancelled at live ⊢
    obtain same | ⟨other, more, awaited | cancel⟩ := cancelled_answers request memory
    · rwa [same]
    · exact absurd awaited calm
    · have different : token ≠ other := by
        rintro rfl
        exact silent cancel
      rw [more, List.contains_cons, live, Bool.or_false]
      exact beq_eq_false_iff_ne.mpr different

end Memory

/-- A query of three rows is cancelled while the second is awaited, and nothing that is called after
it reaches the service. -/
theorem Session.cancellation_is_final_paging :
    let entity (key : String) : Entity :=
      ((EntityBuilder.start (.text "p") (.text key)).add "N" (.integer 1)).toEntity
    let table : MemoryTable :=
      { name := "abc"
        entities := [entity "a", entity "b", entity "c"]
        cancelAfter := some 1 }
    let account : Account := ⟨"acc", none⟩
    let memory : Memory := { Memory.fresh (Double.ofDecimal false 0 0) with
      services := [⟨account, 0, MemoryService.beingDeleted, [table]⟩] }
    let session : Session := { Session.unconnected ⟨0⟩ with
      storage := some ⟨none, none, ⟨some account, some ⟨"acc", "abc"⟩, some "abc"⟩⟩ }
    let read (_ : Entity) : Reaction Unit := ⟨.ok (), false⟩
    let events : List Event := [.turn ⟨0, .execute .utc read, none⟩,
      .turn ⟨0, .write (.delete "p" "a"), none⟩, .turn ⟨0, .select "xyz", none⟩]
    let queried := (session.execute .utc read).run.run Memory.answers memory
    session.HeedsCancellation Memory.answers (·.isCancelled ⟨0⟩) ∧
      queried.1 = .ok (.error (.cancelled "query")) ∧ queried.2.isCancelled ⟨0⟩ = true ∧
      ((Event.performAll ⟨0⟩ events [session]).run Memory.answers memory).2.calls.length = 1 := by
  intro entity table account memory session read events queried
  exact ⟨Session.cancellation_is_final (Memory.cancels ⟨0⟩), rfl, by decide,
    by decide +kernel⟩

end StagedTables
