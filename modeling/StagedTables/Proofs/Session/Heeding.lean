import StagedTables.Proofs.Program.Cancellation
import StagedTables.Proofs.Session.Sequence
import StagedTables.Proofs.Table.Creating

/-! # Sessions heed cancellation

Every operation looks at the token of its session before it calls the service, and again after each
row of a query.  In between nothing can happen, so that no call is made once the token is cancelled,
whatever operations are called one after another and wherever they are abandoned. -/
set_option autoImplicit false
namespace StagedTables

section Heeding

variable {α σ : Type} {answers : Program.Answers σ} {token : Token} {cancelled : σ → Bool}

section Cancels

variable (cancels : Cancels answers token cancelled)
include cancels

/-! ## Selecting -/

namespace Provisioning

theorem heeds_createTable (provisioning : Provisioning) (account : Account) (name : String)
    (more before : Nat) :
    Action.Heeds answers cancelled Anyhow
      (provisioning.createTable account name (some token) more before) fun _ => Anyhow := by
  have checked : Action.Heeds answers cancelled Anyhow (checkToken (some token))
      fun _ => Live cancelled := Action.heeds_raiseIfCancelled cancels operation
  have created : Action.Heeds answers cancelled (Live cancelled)
      (Action.send (.createTable account name)) fun _ => Anyhow := Action.heeds_call _
  have slept : Action.Heeds answers cancelled Anyhow
      (Action.send (.sleep provisioning.retryDelay)) fun _ => Anyhow := Action.heeds_aside _ id
  apply createTable_rule (P := fun action =>
    Action.Heeds answers cancelled Anyhow action fun _ => Anyhow)
  · intro next rest
    exact checked.bind fun _ => created.bind rest
  · exact Action.heeds_pure fun _ _ => trivial
  · exact fun failure => Action.heeds_throw failure
  · intro level message next rest
    exact (Action.heeds_log ..).bind fun _ => rest
  · intro next rest
    exact slept.bind fun _ => rest

theorem heeds_resolve (provisioning : Provisioning) (account : Account) (name : String) :
    Action.Heeds answers cancelled Anyhow (provisioning.resolve account name (some token))
      fun _ => Anyhow := by
  have looked : Action.Heeds answers cancelled Anyhow
      (Action.send (.cached (.of account name))) fun _ => Anyhow := Action.heeds_aside _ id
  unfold resolve
  cases TableName.fault? name with
  | some fault => exact Action.heeds_throw _
  | none =>
    refine looked.bind fun kept => ?_
    cases kept with
    | some table => exact Action.heeds_pure fun _ _ => trivial
    | none =>
      refine (heeds_createTable cancels ..).bind fun _ => ?_
      refine (Action.heeds_aside (.openTable account name) id).bind fun table => ?_
      exact (Action.heeds_log ..).bind fun _ => Action.heeds_aside (.keep _ table) id

end Provisioning

namespace Session

variable {session : Session} {zone : Calendar.LocalZone}

theorem heeds_selectOn (holds : session.token = token) (target : AccountTable)
    (account : Account) (name : String) :
    Action.Heeds answers cancelled Anyhow (session.selectOn target account name)
      fun _ => Anyhow := by
  unfold selectOn
  rw [holds]
  exact (Provisioning.heeds_resolve cancels ..).bind fun _ => Action.heeds_pure fun _ _ => trivial

theorem heeds_select (holds : session.token = token) (name : String) :
    Action.Heeds answers cancelled Anyhow (session.select name)
      fun later _ => later.token = token := by
  unfold select
  refine (Action.heeds_liftM _).bind fun storage => ?_
  split
  · exact Action.heeds_throw _
  · refine (heeds_selectOn cancels holds ..).bind fun prod => ?_
    split
    · exact Action.heeds_pure fun _ _ => holds
    · split
      · exact Action.heeds_throw _
      · refine (heeds_selectOn cancels holds ..).bind fun dev => ?_
        exact Action.heeds_pure fun _ _ => holds

/-! ## Reading -/

omit cancels in
theorem heeds_readTable (session : Session) :
    Action.Heeds answers cancelled Anyhow session.readTable fun _ => Anyhow :=
  (Action.heeds_liftM _).bind fun _ => Action.heeds_liftM _

theorem heeds_receive (holds : session.token = token) (read : Entity → Reaction α) :
    Action.Heeds answers cancelled Anyhow (session.receive read) fun _ => Anyhow := by
  unfold receive
  rw [holds]
  refine (heeds_readTable session).bind fun table => ?_
  split
  · exact Action.heeds_throw _
  · refine (Action.heeds_raiseIfCancelled cancels _).bind fun _ => ?_
    refine (Action.heeds_call (.getEntity ..)).bind fun reply => ?_
    split
    · split
      · exact (Action.heeds_log ..).bind fun _ => Action.heeds_pure fun _ _ => trivial
      · exact Action.heeds_throw _
    · exact Action.heeds_pure fun _ _ => trivial
    · rw [map_eq_pure_bind]
      exact (Action.heeds_perform ..).bind fun _ => Action.heeds_pure fun _ _ => trivial

/-- The wait for the next row begins at once after the check that follows a row. -/
theorem heeds_collect (query : Query) (rows : RowStream) (position : Nat) :
    Action.Heeds answers cancelled (Live cancelled) (collect token query rows position)
      fun _ => Anyhow := by
  induction rows generalizing position with
  | finished =>
    exact (Action.heeds_call (.awaitRow query position)).bind fun _ =>
      Action.heeds_pure fun _ _ => trivial
  | failed error =>
    exact (Action.heeds_call (.awaitRow query position)).bind fun _ => Action.heeds_throw _
  | row entity rest ih =>
    rw [collect]
    refine (Action.heeds_call (.awaitRow query position)).bind fun _ => ?_
    refine (Action.heeds_raiseIfCancelled cancels _).bind fun _ => ?_
    exact (ih (position + 1)).bind fun _ => Action.heeds_pure fun _ _ => trivial

theorem heeds_fetch (holds : session.token = token) (table : TableClient) :
    Action.Heeds answers cancelled Anyhow (session.fetch zone table) fun _ => Anyhow := by
  unfold fetch
  rw [holds]
  refine (Action.heeds_liftM _).bind fun filter => ?_
  refine (Action.heeds_raiseIfCancelled cancels _).bind fun _ => ?_
  have collected : Action.Heeds answers cancelled (Live cancelled) (do
      let reply : Except ForeignError RowStream ←
        Action.send (.startQuery ⟨table, filter, session.pageSize⟩)
      collect token ⟨table, filter, session.pageSize⟩ (← Action.ofReply reply) 0)
      fun _ => Anyhow := by
    refine (Action.heeds_between cancels (.startQuery _) id nofun).bind fun reply => ?_
    exact (Action.heeds_ofReply reply).bind fun rows => heeds_collect cancels _ rows 0
  -- Only a text of the filter is logged.
  cases filter with
  | none => exact collected
  | some text => exact (Action.heeds_between cancels (.log _) id nofun).bind fun _ => collected

theorem heeds_fetchAndRead (holds : session.token = token) (table : TableClient)
    (read : Entity → Reaction α) :
    Action.Heeds answers cancelled Anyhow (session.fetchAndRead zone table read) fun _ => Anyhow :=
  (heeds_fetch cancels holds table).bind fun _ =>
    Action.heeds_mapM fun entity _ => Action.heeds_perform (read entity) session.token

theorem heeds_execute (holds : session.token = token) (read : Entity → Reaction α) :
    Action.Heeds answers cancelled Anyhow (session.execute zone read) fun _ => Anyhow := by
  unfold execute
  refine (heeds_readTable session).bind fun table => ?_
  refine (heeds_fetchAndRead cancels holds table read).capture.bind fun result => ?_
  cases result with
  | ok values => exact Action.heeds_pure fun _ _ => trivial
  | error failure =>
    exact (Action.heeds_log ..).bind fun _ => Action.heeds_pure fun _ _ => trivial

theorem heeds_executeDirect (holds : session.token = token) (read : Entity → Reaction α) :
    Action.Heeds answers cancelled Anyhow (session.executeDirect zone read) fun _ => Anyhow := by
  unfold executeDirect
  refine (heeds_readTable session).bind fun table => ?_
  refine (heeds_fetchAndRead cancels holds table read).capture.bind fun result => ?_
  cases result with
  | ok values => exact Action.heeds_pure fun _ _ => trivial
  | error failure => exact Action.heeds_throw _

/-! ## Writing -/

omit cancels in
theorem heeds_target? (session : Session) (kind : AccessKind) :
    Action.Heeds answers cancelled Anyhow (session.target? kind) fun _ => Anyhow := by
  unfold target?
  refine (Action.heeds_liftM _).bind fun storage => (Action.heeds_liftM _).bind fun route => ?_
  cases route.note? kind with
  | none => exact Action.heeds_pure fun _ _ => trivial
  | some note => exact (Action.heeds_log ..).bind fun _ => Action.heeds_pure fun _ _ => trivial

omit cancels in
theorem heeds_write (session : Session) (kind : AccessKind) (title : String)
    {write : TableClient → Action Unit}
    (heeds : ∀ table, Action.Heeds answers cancelled Anyhow (write table) fun _ => Anyhow) :
    Action.Heeds answers cancelled Anyhow (do
      match ← session.target? kind with
      | none => return .ok ()
      | some table => attempt title (write table)) fun _ => Anyhow := by
  refine (heeds_target? session kind).bind fun found => ?_
  cases found with
  | none => exact Action.heeds_pure fun _ _ => trivial
  | some table =>
    refine (heeds table).capture.bind fun result => ?_
    cases result with
    | ok _ => exact Action.heeds_pure fun _ _ => trivial
    | error failure =>
      exact (Action.heeds_log ..).bind fun _ => Action.heeds_pure fun _ _ => trivial

theorem heeds_submit {ι : Type} (holds : session.token = token) (table : TableClient)
    (kind : BatchKind) (items : List ι) (build : ι → Reaction Payload) :
    Action.Heeds answers cancelled Anyhow (session.submit table kind items build)
      fun _ => Anyhow := by
  unfold submit
  rw [holds]
  have built : ∀ item ∈ items, Action.Heeds answers cancelled Anyhow (do
      return kind.action (← (build item).perform token).toEntity) fun _ => Anyhow :=
    fun item _ => (Action.heeds_perform ..).bind fun _ => Action.heeds_pure fun _ _ => trivial
  refine (Action.heeds_mapM built).bind fun actions => ?_
  split
  · exact Action.heeds_log ..
  · refine (Action.heeds_raiseIfCancelled cancels _).bind fun _ => ?_
    refine (Action.heeds_call (.transact ..)).bind fun reply => ?_
    exact (Action.heeds_ofReply reply).bind fun _ => Action.heeds_log ..

end Session

theorem WriteCall.heeds_perform {session : Session} (holds : session.token = token)
    (call : WriteCall) :
    Action.Heeds answers cancelled Anyhow (call.perform session) fun _ => Anyhow := by
  cases call with
  | insert partitionKey rowKey build =>
    refine session.heeds_write .write _ fun table => (Action.heeds_perform ..).bind fun _ => ?_
    rw [holds]
    refine (Action.heeds_raiseIfCancelled cancels _).bind fun _ => ?_
    exact (Action.heeds_call (.upsert ..)).bind fun reply => Action.heeds_ofReply reply
  | delete partitionKey rowKey =>
    refine session.heeds_write .delete _ fun table => ?_
    rw [holds]
    refine (Action.heeds_raiseIfCancelled cancels _).bind fun _ => ?_
    exact (Action.heeds_call (.delete ..)).bind fun reply => Action.heeds_ofReply reply
  | batch kind items build =>
    exact session.heeds_write kind.access _ fun table =>
      Session.heeds_submit cancels holds table kind items build

theorem SessionCall.heeds_perform {session : Session} (holds : session.token = token)
    (call : SessionCall) :
    Action.Heeds answers cancelled Anyhow (call.perform session)
      fun later _ => later.token = token := by
  have same {β : Type} {action : Action β}
      (heeds : Action.Heeds answers cancelled Anyhow action fun _ => Anyhow) :
      Action.Heeds answers cancelled Anyhow (action >>= fun _ => pure session)
        fun later _ => later.token = token :=
    heeds.bind fun _ => Action.heeds_pure fun _ _ => holds
  cases call with
  | withFilter filter => exact Action.heeds_pure fun _ _ => holds
  | withKeys partitionKey rowKey => exact Action.heeds_pure fun _ _ => holds
  | select name => exact Session.heeds_select cancels holds name
  | receive read => exact same (Session.heeds_receive cancels holds read)
  | execute zone read => exact same (Session.heeds_execute cancels holds read)
  | executeDirect zone read => exact same (Session.heeds_executeDirect cancels holds read)
  | write call => exact same (call.heeds_perform cancels holds)

end Cancels
end Heeding

/-! ## Runs of many calls -/

namespace Program

variable {α σ : Type} {answers : Answers σ} {cancelled : σ → Bool} {before : σ → Prop}

theorem mem_steps_upTo {limit : Nat} {program : Program α} {state : σ} {step : Request × σ}
    (member : step ∈ (program.upTo limit).steps answers state) :
    step ∈ program.steps answers state := by
  induction limit generalizing program state with
  | zero => cases member
  | succ limit ih =>
    cases program with
    | done value => cases member
    | ask request next =>
      obtain same | later := List.mem_cons.mp member
      · exact List.mem_cons.mpr (.inl same)
      · exact List.mem_cons_of_mem _ (ih later)

theorem run_upTo {limit : Nat} {program : Program α} {state : σ} {value : α}
    (ends : ((program.upTo limit).run answers state).1 = some value) :
    (program.run answers state).1 = value := by
  induction limit generalizing program state with
  | zero => cases ends
  | succ limit ih =>
    cases program with
    | done value' => exact Option.some.inj ends
    | ask request next =>
      change ((next (answers request state).1).run answers (answers request state).2).1 = value
      exact ih ends

theorem Heeds.within {good : α → Prop} {program : Program α}
    (heeds : program.Heeds answers cancelled before fun value _ => good value)
    (limit : Option Nat) :
    (program.within limit).Heeds answers cancelled before fun outcome _ =>
      ∀ value, outcome = some value → good value := by
  cases limit with
  | none =>
    refine heeds.andThen fun value => heeds_done ?_
    rintro state holds _ ⟨⟩
    exact holds
  | some limit =>
    intro state ready
    obtain ⟨calls, ends⟩ := heeds state ready
    refine ⟨fun step member => calls step (mem_steps_upTo member), fun value same => ?_⟩
    rw [run_upTo same] at ends
    exact ends

end Program

section Events

variable {σ : Type} {answers : Program.Answers σ} {token : Token} {cancelled : σ → Bool}
  {sessions : List Session}

theorem Turn.heeds_perform (cancels : Cancels answers token cancelled)
    (share : ∀ session ∈ sessions, session.token = token) (turn : Turn) :
    (turn.perform sessions).Heeds answers cancelled Anyhow fun later _ =>
      ∀ session ∈ later, session.token = token := by
  unfold perform
  cases found : sessions[turn.session]? with
  | none => exact Program.heeds_done fun _ _ => share
  | some session =>
    have holds := share session (List.mem_of_getElem? found)
    have heeds := (turn.call.heeds_perform cancels holds).run
    refine Program.Heeds.andThen (heeds.within turn.limit) fun outcome => ?_
    split
    · next later =>
      refine Program.heeds_done fun _ same => ?_
      exact List.forall_mem_append.mpr ⟨share, List.forall_mem_singleton.mpr (same _ rfl later rfl)⟩
    · exact Program.heeds_done fun _ _ => share

/-- What happens to sessions that share a token: a call on one of them, or the token is cancelled
between two calls. -/
inductive Event : Type 1 where
  | turn (turn : Turn)
  | cancel

namespace Event

def perform (token : Token) (sessions : List Session) : Event → Program (List Session)
  | turn next => next.perform sessions
  | cancel => (Program.send (.cancel token)).andThen fun _ => .done sessions

def performAll (token : Token) : List Event → List Session → Program (List Session)
  | [], sessions => .done sessions
  | event :: rest, sessions => (event.perform token sessions).andThen (performAll token rest)

theorem heeds_perform (cancels : Cancels answers token cancelled)
    (share : ∀ session ∈ sessions, session.token = token) (event : Event) :
    (event.perform token sessions).Heeds answers cancelled Anyhow fun later _ =>
      ∀ session ∈ later, session.token = token := by
  cases event with
  | turn next => exact next.heeds_perform cancels share
  | cancel =>
    intro state _
    refine ⟨fun step member service => ?_, share⟩
    cases List.mem_singleton.mp member
    exact service.elim

theorem heeds_performAll (cancels : Cancels answers token cancelled)
    (share : ∀ session ∈ sessions, session.token = token) (events : List Event) :
    (performAll token events sessions).Heeds answers cancelled Anyhow fun later _ =>
      ∀ session ∈ later, session.token = token := by
  induction events generalizing sessions with
  | nil => exact Program.heeds_done fun _ _ => share
  | cons event rest ih =>
    refine Program.Heeds.andThen (heeds_perform cancels share event) fun later state same => ?_
    exact ih same state trivial

end Event
end Events
end StagedTables
