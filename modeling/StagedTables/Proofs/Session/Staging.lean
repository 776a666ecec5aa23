import StagedTables.Proofs.Session.Store

/-! # Staged sessions

A session with a stage works on a production account with a development account beside it.  Main
statement: whatever is called on it, only tables of production are read and only tables of
development are written to.  What carries it is a contract: handles are kept under the accounts
that own their tables, so that a session that selects a table gets the right ones. -/
set_option autoImplicit false
namespace StagedTables

abbrev Owner := TableClient → AccountKey

def Services.OpenFor (services : Services) (owner : Owner) : Prop :=
  ∀ account name table, services (.openTable account name) table → owner table = account.key

/-- Reading touches tables of one account and writing those of another, and handles are kept under
the accounts that own them. -/
def Contract.apart (owner : Owner) (prod dev : AccountKey) : Contract where
  Permits
    | .getEntity table _ _ => owner table = prod
    | .startQuery query => owner query.table = prod
    | .awaitRow query _ => owner query.table = prod
    | .upsert table _ _ => owner table = dev
    | .delete table _ _ => owner table = dev
    | .transact table _ => owner table = dev
    | .keep key table => owner table = key.account
    | _ => True
  Allows
    | .openTable account _, table => owner table = account.key
    | .cached key, kept => ∀ table, kept = some table → owner table = key.account
    | .keep key _, table => owner table = key.account
    | _, _ => True

section Apart

variable {owner : Owner} {prod dev : AccountKey} {session : Session} {zone : Calendar.LocalZone}

theorem Contract.permitsAside_apart : (apart owner prod dev).PermitsAside := by
  intro request isAside
  cases request with
  | isCancelled | cancel | log | setUpLogging | sleep => exact trivial
  | _ => exact isAside.elim

/-! ## Selecting -/

theorem Provisioning.keeps_resolve (provisioning : Provisioning) (account : Account)
    (name : String) (token : Option Token) :
    Action.Keeps (.apart owner prod dev) (fun table => owner table = account.key)
      (provisioning.resolve account name token) := by
  apply keeps_resolve_of Contract.permitsAside_apart
  · exact Action.keeps_send (.cached (.of account name)) trivial fun _ allowed => allowed
  · exact trivial
  · exact Action.keeps_send (.openTable account name) trivial fun _ allowed => allowed
  · intro table owned
    exact Action.keeps_send (.keep (.of account name) table) owned fun _ allowed => allowed

structure AccountTable.IsOn (owner : Owner) (key : AccountKey) (target : AccountTable) : Prop where
  account : ∃ account, target.account = some account ∧ account.key = key
  table : ∀ table, target.table = some table → owner table = key

/-- A storage with a stage on two accounts, with tables selected on both or on neither. -/
structure Storage.IsStaged (owner : Owner) (prod dev : AccountKey) (storage : Storage) : Prop where
  stage : storage.stage.isSome
  prod : storage.prod.IsOn owner prod
  dev : ∃ target, storage.dev = some target ∧ target.IsOn owner dev ∧
    target.table.isSome = storage.prod.table.isSome

def Session.IsStaged (owner : Owner) (prod dev : AccountKey) (session : Session) : Prop :=
  ∃ storage, session.storage = some storage ∧ storage.IsStaged owner prod dev

namespace Session

theorem keeps_selectOn {target : AccountTable} {account : Account}
    (on : target.account = some account) (session : Session) (name : String) :
    Action.Keeps (.apart owner prod dev)
      (fun later => later.IsOn owner account.key ∧ later.table.isSome)
      (session.selectOn target account name) := by
  refine (session.provisioning.keeps_resolve ..).bind fun table owned => ?_
  refine Action.keeps_pure ⟨⟨⟨account, on, rfl⟩, ?_⟩, rfl⟩
  rintro _ ⟨⟩
  exact owned

theorem keeps_select (staged : session.IsStaged owner prod dev) (name : String) :
    Action.Keeps (.apart owner prod dev) (IsStaged owner prod dev) (session.select name) := by
  obtain ⟨storage, found, stage, ⟨⟨prodAccount, isProd, rfl⟩, -⟩, target, beside,
    ⟨⟨devAccount, isDev, rfl⟩, -⟩, -⟩ := staged
  unfold select requireStorage
  rw [found]
  refine (Action.keeps_liftM _).bind fun _ same => ?_
  cases same
  rw [isProd, beside]
  -- The session is new only when both tables are found, so that neither is ever selected alone.
  refine (keeps_selectOn isProd session name).bind fun prod prodOn => ?_
  dsimp only
  rw [isDev]
  refine (keeps_selectOn isDev session name).bind fun dev devOn => ?_
  exact Action.keeps_pure ⟨_, rfl, stage, prodOn.1, dev, rfl, devOn.1, by rw [devOn.2, prodOn.2]⟩

/-! ## Reading -/

theorem keeps_readTable (staged : session.IsStaged owner prod dev) :
    Action.Keeps (.apart owner prod dev) (fun table => owner table = prod) session.readTable := by
  obtain ⟨storage, found, staged⟩ := staged
  unfold readTable requireStorage
  rw [found]
  refine (Action.keeps_liftM _).bind fun _ same => ?_
  cases same
  refine (Action.keeps_liftM _).mono fun table selected => staged.prod.table table ?_
  unfold Storage.prodTable at selected
  split at selected
  · next isSelected =>
    cases selected
    exact isSelected
  · cases selected

theorem keeps_receive {α : Type} (staged : session.IsStaged owner prod dev)
    (read : Entity → Reaction α) :
    Action.Keeps (.apart owner prod dev) (fun _ => True) (session.receive read) := by
  unfold receive
  refine (keeps_readTable staged).bind fun table owned => ?_
  split
  · exact Action.keeps_throw _
  · refine (Action.keeps_raiseIfCancelled Contract.permitsAside_apart ..).bind fun _ _ => ?_
    refine .bind (Action.keeps_request (.getEntity ..) owned) fun reply _ => ?_
    split
    · split
      · refine (Action.keeps_log Contract.permitsAside_apart ..).bind fun _ _ => ?_
        exact Action.keeps_pure trivial
      · exact Action.keeps_throw _
    · exact Action.keeps_pure trivial
    · rw [map_eq_pure_bind]
      refine (Action.keeps_perform Contract.permitsAside_apart ..).bind fun _ _ => ?_
      exact Action.keeps_pure trivial

theorem keeps_fetch (session : Session) {table : TableClient} (owned : owner table = prod) :
    Action.Keeps (.apart owner prod dev) (fun _ => True) (session.fetch zone table) := by
  unfold fetch
  refine (Action.keeps_liftM _).bind fun filter _ => ?_
  refine (Action.keeps_raiseIfCancelled Contract.permitsAside_apart ..).bind fun _ _ => ?_
  have collected : Action.Keeps (.apart owner prod dev) (fun _ => True) (do
      let reply : Except ForeignError RowStream ←
        Action.send (.startQuery ⟨table, filter, session.pageSize⟩)
      collect session.token ⟨table, filter, session.pageSize⟩ (← Action.ofReply reply) 0) := by
    refine .bind (Action.keeps_request (.startQuery ..) owned) fun reply _ => ?_
    have waits : ∀ position, (Contract.apart owner prod dev).Permits
        (.awaitRow ⟨table, filter, session.pageSize⟩ position) :=
      fun _ => owned
    exact (Action.keeps_ofReply reply).bind fun rows _ =>
      keeps_collect Contract.permitsAside_apart session.token waits rows 0
  -- Only a text of the filter is logged.
  cases filter with
  | none => exact collected
  | some text =>
    exact (Action.keeps_log Contract.permitsAside_apart ..).bind fun _ _ => collected

theorem keeps_fetchAndRead {α : Type} (session : Session) {table : TableClient}
    (owned : owner table = prod) (read : Entity → Reaction α) :
    Action.Keeps (.apart owner prod dev) (fun _ => True)
      (session.fetchAndRead zone table read) := by
  refine (keeps_fetch session owned).bind fun entities _ => ?_
  have each : ∀ entity ∈ entities, Action.Keeps (.apart owner prod dev)
      (fun value => (read entity).outcome = .ok value) ((read entity).perform session.token) :=
    fun entity _ => Action.keeps_perform Contract.permitsAside_apart ..
  exact (Action.keeps_mapM each).mono fun _ _ => trivial

theorem keeps_execute {α : Type} (staged : session.IsStaged owner prod dev)
    (read : Entity → Reaction α) :
    Action.Keeps (.apart owner prod dev) (fun _ => True) (session.execute zone read) := by
  unfold execute
  refine (keeps_readTable staged).bind fun table owned => ?_
  refine (keeps_fetchAndRead session owned read).capture.bind fun result _ => ?_
  cases result with
  | ok values => exact Action.keeps_pure trivial
  | error failure =>
    refine (Action.keeps_log Contract.permitsAside_apart ..).bind fun _ _ => ?_
    exact Action.keeps_pure trivial

theorem keeps_executeDirect {α : Type} (staged : session.IsStaged owner prod dev)
    (read : Entity → Reaction α) :
    Action.Keeps (.apart owner prod dev) (fun _ => True) (session.executeDirect zone read) := by
  unfold executeDirect
  refine (keeps_readTable staged).bind fun table owned => ?_
  refine (keeps_fetchAndRead session owned read).capture.bind fun result _ => ?_
  cases result with
  | ok values => exact Action.keeps_pure trivial
  | error failure => exact Action.keeps_throw _

end Session

/-! ## Writing -/

/-- The route of a write leads to the development account or nowhere.  In stage `prod` it would lead
to production if a table were selected on production only, which never is. -/
theorem Storage.IsStaged.writeRoute {storage : Storage} (staged : storage.IsStaged owner prod dev)
    {route : Route} (leads : storage.writeRoute = .ok route) {table : TableClient}
    (taken : route.table? = some table) : owner table = dev := by
  obtain ⟨stage, -, target, beside, on, both⟩ := staged
  have selected : storage.devTable? = target.table := by rw [devTable?, beside, Option.bind_some]
  unfold Storage.writeRoute at leads
  rw [selected] at leads
  cases found : target.table with
  | some devTable =>
    rw [found] at leads
    suffices route.table? = some devTable by
      rw [this] at taken
      exact on.table table (found.trans taken)
    split at leads
    · next none => simp [none] at stage
    · cases leads
      rfl
    · cases prodTable : storage.prodTable with
      | error failure =>
        rw [prodTable] at leads
        cases leads
      | ok fallback =>
        rw [prodTable] at leads
        cases leads
        rfl
  | none =>
    rw [found] at leads both
    have missing : storage.prod.table = none := by simpa using both.symm
    split at leads
    · next none => simp [none] at stage
    · cases leads
      cases taken
    · rw [Storage.prodTable, missing] at leads
      cases leads

namespace Session

theorem keeps_target? (staged : session.IsStaged owner prod dev) {kind : AccessKind}
    (writes : kind.reads = false) :
    Action.Keeps (.apart owner prod dev)
      (fun found => ∀ table, found = some table → owner table = dev) (session.target? kind) := by
  obtain ⟨storage, found, staged⟩ := staged
  unfold target? requireStorage
  rw [found]
  refine (Action.keeps_liftM _).bind fun _ same => ?_
  cases same
  refine (Action.keeps_liftM _).bind fun route leads => ?_
  have owned (table : TableClient) (taken : route.table? = some table) : owner table = dev := by
    rw [Storage.route, writes] at leads
    exact staged.writeRoute leads taken
  cases route.note? kind with
  | none => exact Action.keeps_pure owned
  | some note =>
    refine (Action.keeps_log Contract.permitsAside_apart ..).bind fun _ _ => ?_
    exact Action.keeps_pure owned

theorem keeps_attempt (title : String) {write : Action Unit}
    (kept : Action.Keeps (.apart owner prod dev) (fun _ => True) write) :
    Action.Keeps (.apart owner prod dev) (fun _ => True) (attempt title write) := by
  refine kept.capture.bind fun result _ => ?_
  cases result with
  | ok _ => exact Action.keeps_pure trivial
  | error failure =>
    refine (Action.keeps_log Contract.permitsAside_apart ..).bind fun _ _ => ?_
    exact Action.keeps_pure trivial

theorem keeps_write (staged : session.IsStaged owner prod dev) {kind : AccessKind}
    (writes : kind.reads = false) (title : String) {write : TableClient → Action Unit}
    (kept : ∀ table, owner table = dev →
      Action.Keeps (.apart owner prod dev) (fun _ => True) (write table)) :
    Action.Keeps (.apart owner prod dev) (fun _ => True) (do
      match ← session.target? kind with
      | none => return .ok ()
      | some table => attempt title (write table)) := by
  refine (keeps_target? staged writes).bind fun found owned => ?_
  cases found with
  | none => exact Action.keeps_pure trivial
  | some table => exact keeps_attempt title (kept table (owned table rfl))

theorem keeps_submit {ι : Type} (session : Session) {table : TableClient}
    (owned : owner table = dev) (kind : BatchKind) (items : List ι)
    (build : ι → Reaction Payload) :
    Action.Keeps (.apart owner prod dev) (fun _ => True)
      (session.submit table kind items build) := by
  have built : ∀ item ∈ items, Action.Keeps (.apart owner prod dev) (fun _ => True) (do
      return kind.action (← (build item).perform session.token).toEntity) :=
    fun item _ => (Action.keeps_perform Contract.permitsAside_apart ..).bind fun _ _ =>
      Action.keeps_pure trivial
  refine (Action.keeps_mapM built).bind fun actions _ => ?_
  split
  · exact Action.keeps_log Contract.permitsAside_apart ..
  · refine (Action.keeps_raiseIfCancelled Contract.permitsAside_apart ..).bind fun _ _ => ?_
    refine .bind (Action.keeps_request (.transact ..) owned) fun reply _ => ?_
    refine (Action.keeps_ofReply reply).bind fun _ _ => ?_
    exact Action.keeps_log Contract.permitsAside_apart ..

end Session

theorem WriteCall.keeps_perform (staged : session.IsStaged owner prod dev) (call : WriteCall) :
    Action.Keeps (.apart owner prod dev) (fun _ => True) (call.perform session) := by
  cases call with
  | insert partitionKey rowKey build =>
    refine Session.keeps_write staged rfl _ fun table owned => ?_
    refine (Action.keeps_perform Contract.permitsAside_apart ..).bind fun payload _ => ?_
    refine (Action.keeps_raiseIfCancelled Contract.permitsAside_apart ..).bind fun _ _ => ?_
    refine .bind (Action.keeps_request (.upsert ..) owned) fun reply _ => ?_
    exact (Action.keeps_ofReply reply).mono fun _ _ => trivial
  | delete partitionKey rowKey =>
    refine Session.keeps_write staged rfl _ fun table owned => ?_
    refine (Action.keeps_raiseIfCancelled Contract.permitsAside_apart ..).bind fun _ _ => ?_
    refine .bind (Action.keeps_request (.delete ..) owned) fun reply _ => ?_
    exact (Action.keeps_ofReply reply).mono fun _ _ => trivial
  | batch kind items build =>
    have writes : kind.access.reads = false := by cases kind <;> rfl
    exact Session.keeps_write staged writes _ fun table owned =>
      Session.keeps_submit session owned kind items build

theorem SessionCall.keeps_perform (staged : session.IsStaged owner prod dev)
    (call : SessionCall) :
    Action.Keeps (.apart owner prod dev) (Session.IsStaged owner prod dev)
      (call.perform session) := by
  cases call with
  | withFilter filter => exact Action.keeps_pure staged
  | withKeys partitionKey rowKey => exact Action.keeps_pure staged
  | select name => exact Session.keeps_select staged name
  | receive read =>
    exact (Session.keeps_receive staged read).bind fun _ _ => Action.keeps_pure staged
  | execute zone read =>
    exact (Session.keeps_execute staged read).bind fun _ _ => Action.keeps_pure staged
  | executeDirect zone read =>
    exact (Session.keeps_executeDirect staged read).bind fun _ _ => Action.keeps_pure staged
  | write call => exact (call.keeps_perform staged).bind fun _ _ => Action.keeps_pure staged

/-! ## The shared cache -/

namespace Calls

structure IsOwned (owner : Owner) (prod dev : AccountKey) (calls : Calls) : Prop where
  cache : ∀ key table, calls.cache.get? key = some table → owner table = key.account
  task : ∀ i call rest, calls.IsAt i call rest →
    rest.Keeps (.apart owner prod dev) fun _ => True

variable {services : Services} {calls next later : Calls} {i : Nat}

theorem isOwned_sharing : (sharing []).IsOwned owner prod dev := ⟨nofun, nofun⟩

theorem IsOwned.add (owned : calls.IsOwned owner prod dev) {key : CacheKey} {table : TableClient}
    (own : owner table = key.account) :
    owner (calls.cache.add key table).1 = key.account ∧
      ∀ other found, (calls.cache.add key table).2.get? other = some found →
        owner found = other.account := by
  have kept : owner (calls.cache.add key table).1 = key.account := by
    cases found : calls.cache.get? key with
    | some first =>
      rw [TableCache.add_of_some found]
      exact owned.cache key first found
    | none => rwa [TableCache.add_of_none found]
  refine ⟨kept, fun other found isKept => ?_⟩
  rw [TableCache.get?_add] at isKept
  split at isKept
  · next same =>
    cases isKept
    rw [kept, same]
  · exact owned.cache other found isKept

theorem IsOwned.set (owned : calls.IsOwned owner prod dev) {cache : TableCache} {call : HandleCall}
    {progress : Progress}
    (kept : ∀ key table, cache.get? key = some table → owner table = key.account)
    (keeps : ∀ rest, progress = .running rest → rest.Keeps (.apart owner prod dev) fun _ => True) :
    (calls.set i cache call progress).IsOwned owner prod dev := by
  refine ⟨kept, fun j other rest ready => ?_⟩
  obtain ⟨-, -, same⟩ | ready := isAt_set ready
  · exact keeps rest same
  · exact owned.task j other rest ready

theorem IsOwned.step (opens : services.OpenFor owner) (owned : calls.IsOwned owner prod dev)
    (step : Step services calls i next) : next.IsOwned owner prod dev := by
  cases step with
  | start call free =>
    refine owned.set owned.cache ?_
    rintro _ ⟨⟩
    exact (call.provisioning.keeps_resolve ..).run.mono fun _ _ => trivial
  | @look call key _ ready =>
    refine owned.set owned.cache ?_
    rintro _ ⟨⟩
    exact (owned.task _ _ _ ready).2 _ fun table kept => owned.cache key table kept
  | keep ready =>
    obtain ⟨own, keeps⟩ := owned.task _ _ _ ready
    obtain ⟨kept, all⟩ := owned.add own
    refine owned.set all ?_
    rintro _ ⟨⟩
    exact keeps _ kept
  | served request reply ready elsewhere replied =>
    refine owned.set owned.cache ?_
    rintro _ ⟨⟩
    refine (owned.task _ _ _ ready).2 reply ?_
    cases request with
    | cached | keep => exact absurd trivial elsewhere
    | openTable account name => exact opens account name reply replied
    | _ => exact trivial
  | cancel => exact owned.set owned.cache nofun

theorem IsOwned.reaches (opens : services.OpenFor owner) (owned : calls.IsOwned owner prod dev)
    (run : Reaches services calls later) : later.IsOwned owner prod dev := by
  induction run with
  | refl => exact owned
  | tail _ step ih =>
    obtain ⟨i, step⟩ := step
    exact ih.step opens step

def after (calls : Calls) : Request → Calls
  | .keep key table => { calls with cache := (calls.cache.add key table).2 }
  | _ => calls

end Calls

/-- Surroundings with a cache that other calls share: it answers the requests that are about kept
handles, the services answer all others, and between two requests the other calls go on. -/
structure SharesCache {σ : Type} (services : Services) (answers : Program.Answers σ)
    (calls : σ → Calls) : Prop where
  cached : ∀ key state, (answers (.cached key) state).1 = (calls state).cache.get? key
  keep : ∀ key table state,
    (answers (.keep key table) state).1 = ((calls state).cache.add key table).1
  served : ∀ request state, ¬ request.IsAboutCache → services request (answers request state).1
  goOn : ∀ request state,
    Calls.Reaches services ((calls state).after request) (calls (answers request state).2)

section Surroundings

variable {σ : Type} {services : Services} {answers : Program.Answers σ} {calls : σ → Calls}

theorem SharesCache.isOwned (shares : SharesCache services answers calls)
    (opens : services.OpenFor owner) (request : Request) (state : σ)
    (permitted : (Contract.apart owner prod dev).Permits request)
    (owned : (calls state).IsOwned owner prod dev) :
    (Contract.apart owner prod dev).Allows request (answers request state).1 ∧
      (calls (answers request state).2).IsOwned owner prod dev := by
  have goesOn := shares.goOn request state
  cases request with
  | cached key =>
    refine ⟨fun table kept => owned.cache key table ?_, owned.reaches opens goesOn⟩
    rw [← kept, shares.cached]
  | keep key table =>
    obtain ⟨kept, all⟩ := owned.add permitted
    have added : ((calls state).after (.keep key table)).IsOwned owner prod dev :=
      ⟨all, owned.task⟩
    refine ⟨?_, added.reaches opens goesOn⟩
    change owner (answers (.keep key table) state).1 = key.account
    rw [shares.keep]
    exact kept
  | openTable account name =>
    exact ⟨opens account name _ (shares.served (.openTable account name) state id),
      owned.reaches opens goesOn⟩
  | _ => exact ⟨trivial, owned.reaches opens goesOn⟩

end Surroundings

/-! ## Whole sequences -/

theorem Contract.written_apart {request : Request}
    (permitted : (apart owner prod dev).Permits request) {table : TableClient}
    (written : request.written? = some table) : owner table = dev := by
  cases request with
  | upsert | delete | transact =>
    cases written
    exact permitted
  | _ => cases written

theorem Contract.read_apart {request : Request}
    (permitted : (apart owner prod dev).Permits request) {table : TableClient}
    (read : request.read? = some table) : owner table = prod := by
  cases request with
  | getEntity | startQuery | awaitRow =>
    cases read
    exact permitted
  | _ => cases read

theorem Session.IsOpened.isStaged (opened : session.IsOpened) {storage : Storage}
    {target : AccountTable} {prod dev : Account} (connected : session.storage = some storage)
    (isProd : storage.prod.account = some prod) (beside : storage.dev = some target)
    (isDev : target.account = some dev) : session.IsStaged owner prod.key dev.key := by
  obtain ⟨_, found, prodUnselected, devUnselected, together⟩ := opened.isUnselected
  cases connected.symm.trans found
  have unselected := devUnselected target beside
  refine ⟨storage, found, ?_, ⟨⟨prod, isProd, rfl⟩, ?_⟩,
    target, beside, ⟨⟨dev, isDev, rfl⟩, ?_⟩, ?_⟩
  · rw [← together, beside]
    rfl
  · simp [prodUnselected]
  · simp [unselected]
  · rw [unselected, prodUnselected]

end Apart

/-- Staged sessions never write to production and never read from development.  On a session that
was opened on two accounts of different keys, and on those that selecting tables gives, calls follow
one another in any number and order, while the cache of handles is filled by this and by any other
calls for handles.  Every request that writes touches a table of the development account, and every
one that reads a table of production, so that what only writes to production change stays as it
was. -/
theorem Session.IsOpened.accounts_apart {σ : Type} {services : Services} {owner : Owner}
    {answers : Program.Answers σ} {calls : σ → Calls} (opens : services.OpenFor owner)
    (shares : SharesCache services answers calls) {session : Session} (opened : session.IsOpened)
    {storage : Storage} {target : AccountTable} {prod dev : Account}
    (connected : session.storage = some storage) (isProd : storage.prod.account = some prod)
    (beside : storage.dev = some target) (isDev : target.account = some dev)
    (different : prod.key ≠ dev.key) {state : σ}
    (filled : Calls.Reaches services (.sharing []) (calls state)) (turns : List Turn) :
    (∀ request ∈ (Turn.performAll turns [session]).requests answers state, ∀ table,
      (request.written? = some table → owner table = dev.key ∧ owner table ≠ prod.key) ∧
      (request.read? = some table → owner table = prod.key ∧ owner table ≠ dev.key)) ∧
    ∀ (β : Type) (stored : σ → β),
      (∀ request state, (∀ table, request.written? = some table → owner table ≠ prod.key) →
        stored (answers request state).2 = stored state) →
      stored ((Turn.performAll turns [session]).run answers state).2 = stored state := by
  have staged : session.IsStaged owner prod.key dev.key :=
    opened.isStaged connected isProd beside isDev
  have keeps := Turn.keeps_performAll turns
    (fun session call staged => SessionCall.keeps_perform staged call)
    (List.forall_mem_singleton.mpr staged)
  have owned : (calls state).IsOwned owner prod.key dev.key :=
    Calls.isOwned_sharing.reaches opens filled
  refine ⟨fun request member table => ?_, fun β stored untouched => ?_⟩
  · obtain ⟨-, -, permits⟩ := keeps.run (shares.isOwned opens) owned
    have permitted := permits request member
    refine ⟨fun written => ?_, fun read => ?_⟩
    · rw [Contract.written_apart permitted written]
      exact ⟨rfl, different.symm⟩
    · rw [Contract.read_apart permitted read]
      exact ⟨rfl, different⟩
  · have obliging : (Contract.apart owner prod.key dev.key).IsKeptBy answers fun later =>
        (calls later).IsOwned owner prod.key dev.key ∧ stored later = stored state := by
      intro request later permitted ⟨owned, same⟩
      obtain ⟨allowed, owned⟩ := shares.isOwned opens request later permitted owned
      refine ⟨allowed, owned, ?_⟩
      rw [untouched request later, same]
      intro table written
      rw [Contract.written_apart permitted written]
      exact different.symm
    exact (keeps.run obliging ⟨owned, rfl⟩).2.1.2

/-! ## A store for both accounts -/

namespace AtomicStore

def labelOwner (table : TableClient) : AccountKey :=
  match table.client.toList with
  | 'u' :: text => .url (String.ofList text)
  | label => .client (String.ofList label.tail)

theorem labelOwner_labelled (account : Account) (name : String) :
    labelOwner (labelled account name) = account.key := by
  unfold labelled
  cases account.key <;> simp [labelOwner]

def services : Services
  | .openTable account _, table => labelOwner table = account.key
  | _, _ => True

theorem sharesCache : SharesCache services answers fun store => .sharing store.cache where
  cached _ _ := rfl
  keep _ _ _ := rfl
  served request store elsewhere := by
    cases request with
    | openTable account name => exact labelOwner_labelled account name
    | _ => exact trivial
  goOn request store := by
    cases request with
    | upsert | delete | transact =>
      simp only [answers, submit_cache]
      exact .refl
    | _ => exact .refl

end AtomicStore

/-- A table is selected at the second attempt, after the first was abandoned; then an entity is
stored and asked for.  It is not found, since it was stored beside production. -/
theorem Session.accounts_apart_insert :
    let prod : Account := ⟨"prod", none⟩
    let dev : Account := ⟨"dev", none⟩
    let session : Session := { Session.unconnected ⟨0⟩ with
      storage := some ⟨some .prod, some { account := some dev }, { account := some prod }⟩ }
    let turns : List Turn := [
      ⟨0, .select "abc", some 4⟩,
      ⟨0, .select "abc", none⟩,
      ⟨1, .write (.insert "p" "r" fun builder => ⟨.ok (.builder builder), false⟩), none⟩,
      ⟨1, .withKeys "p" "r", none⟩,
      ⟨3, .receive fun _ => ⟨.ok (), false⟩, none⟩]
    let store : AtomicStore := ⟨[], fun _ _ => none, []⟩
    let requests := (Turn.performAll turns [session]).requests AtomicStore.answers store
    session.IsOpened ∧ prod.key ≠ dev.key ∧
      requests.filterMap Request.written? = [⟨"cdev", "abc"⟩] ∧
      requests.filterMap Request.read? = [⟨"cprod", "abc"⟩] ∧
      (∀ request ∈ requests, ∀ table,
        (request.written? = some table →
          AtomicStore.labelOwner table = dev.key ∧ AtomicStore.labelOwner table ≠ prod.key) ∧
        (request.read? = some table →
          AtomicStore.labelOwner table = prod.key ∧ AtomicStore.labelOwner table ≠ dev.key)) ∧
      ((Turn.performAll turns [session]).run AtomicStore.answers store).2.tables ⟨"cprod", "abc"⟩ =
        fun _ => none := by
  intro prod dev session turns store requests
  have opened : session.IsOpened :=
    ⟨AtomicStore, AtomicStore.answers, store, fun _ => .error ⟨.value, "no account"⟩,
      .clients prod (some dev) (some "prod") usualPageSize, ⟨0⟩, rfl⟩
  have different : prod.key ≠ dev.key := by decide
  have filled : Calls.Reaches AtomicStore.services (.sharing []) (.sharing store.cache) := .refl
  obtain ⟨apart, stays⟩ := opened.accounts_apart (fun _ _ _ => id) AtomicStore.sharesCache
    rfl rfl rfl rfl different filled turns
  refine ⟨opened, different, by decide +kernel, by decide +kernel, apart, ?_⟩
  refine stays _ (fun store => store.tables ⟨"cprod", "abc"⟩) fun request store spared => ?_
  exact AtomicStore.tables_answers request store fun written => spared _ written (by decide)

end StagedTables
