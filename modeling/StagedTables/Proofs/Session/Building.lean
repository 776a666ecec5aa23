import StagedTables.Proofs.Session.Store

/-! # Sessions that builders give

A filter, the keys to receive and a table are given to a session one after another, in any order and
number.  Main statement: on a session that was opened, whatever fails on the way, the two accounts
of a staged session carry the same table, namely the last one that was selected, so that every
access finds a table; and nothing changes but by the builder that is for it. -/
set_option autoImplicit false
namespace StagedTables

/-! ## Builders -/

inductive Builder where
  | filter (filter : Filter)
  | keys (partitionKey rowKey : String)
  | table (name : String)

namespace Builder

def call : Builder → SessionCall
  | filter given => .withFilter given
  | keys partitionKey rowKey => .withKeys partitionKey rowKey
  | table name => .select name

def filter? : Builder → Option Filter
  | filter given => some given
  | _ => none

def keys? : Builder → Option (String × String)
  | keys partitionKey rowKey => some (partitionKey, rowKey)
  | _ => none

def tableName? : Builder → Option String
  | table name => some name
  | _ => none

end Builder

/-- A session with the builders that succeeded on the way to it, the latest first. -/
structure Built where
  session : Session
  made : List Builder

namespace Built

/-- Carries out a builder, which may be abandoned after some of its requests; if it does not
succeed, the session stays as it was. -/
def extend (built : Built) (builder : Builder) (limit : Option Nat) : Program Built :=
  ((builder.call.perform built.session).run.within limit).andThen fun outcome =>
    match outcome with
    | some (.ok session) => .done ⟨session, builder :: built.made⟩
    | _ => .done built

def extendAll : List (Builder × Option Nat) → Built → Program Built
  | [], built => .done built
  | (builder, limit) :: rest, built => (built.extend builder limit).andThen (extendAll rest)

end Built

/-! ## Selected tables -/

/-- The table of a name is selected; without a name none is. -/
def AccountTable.Selects (name : Option String) (target : AccountTable) : Prop :=
  match name with
  | none => target.table = none
  | some _ => target.tableName = name ∧ target.table.isSome

/-- A development account beside production if there is a stage, and the table of a name selected
on each account. -/
structure Storage.Selects (name : Option String) (storage : Storage) : Prop where
  staged : storage.stage.isSome ↔ storage.dev.isSome
  prod : storage.prod.Selects name
  dev : ∀ target, storage.dev = some target → target.Selects name

section Selected

variable {session : Session} {storage : Storage} {name : String}

theorem Storage.Selects.prodTable (selects : storage.Selects (some name)) :
    ∃ table, storage.prodTable = .ok table := by
  obtain ⟨table, selected⟩ := Option.isSome_iff_exists.mp selects.prod.2
  exact ⟨table, by rw [Storage.prodTable, selected]⟩

theorem Storage.Selects.devTable? (selects : storage.Selects (some name))
    (staged : storage.stage.isSome) : ∃ table, storage.devTable? = some table := by
  obtain ⟨target, beside⟩ := Option.isSome_iff_exists.mp (selects.staged.mp staged)
  obtain ⟨table, selected⟩ := Option.isSome_iff_exists.mp (selects.dev target beside).2
  exact ⟨table, by rw [Storage.devTable?, beside, Option.bind_some, selected]⟩

theorem Storage.Selects.route (selects : storage.Selects (some name)) (kind : AccessKind) :
    ∃ route table, storage.route kind = .ok route ∧ route.table? = some table := by
  obtain ⟨prod, isProd⟩ := selects.prodTable
  unfold Storage.route
  split
  · exact ⟨.straight prod, prod, by rw [isProd]; rfl, rfl⟩
  · unfold Storage.writeRoute
    cases stage : storage.stage with
    | none => exact ⟨.straight prod, prod, by rw [isProd]; rfl, rfl⟩
    | some stage' =>
      obtain ⟨dev, isDev⟩ := selects.devTable? (by rw [stage]; rfl)
      cases stage' with
      | dev => exact ⟨.straight dev, dev, by rw [isDev]; rfl, rfl⟩
      | prod => exact ⟨.diverted dev, dev, by rw [isProd, isDev]; rfl, rfl⟩

def Session.route (session : Session) (kind : AccessKind) : Except Failure Route := do
  (← session.requireStorage).route kind

theorem Session.target?_eq {kind : AccessKind} {route : Route}
    (leads : session.route kind = .ok route) :
    session.target? kind = (do
      if let some note := route.note? kind then routingLogger.debug note
      return route.table?) := by
  unfold Session.route at leads
  unfold target?
  cases connected : session.requireStorage with
  | error failure =>
    rw [connected] at leads
    cases leads
  | ok storage =>
    rw [connected] at leads
    change storage.route kind = .ok route at leads
    change (liftM (storage.route kind) : Action Route) >>= _ = _
    rw [leads]
    rfl

theorem Session.run_target? {kind : AccessKind} {route : Route}
    (leads : session.route kind = .ok route) {σ : Type} (answers : Program.Answers σ) (state : σ) :
    ((session.target? kind).run.run answers state).1 = .ok route.table? := by
  rw [target?_eq leads]
  cases route.note? kind <;> rfl

/-! ## What builders keep -/

/-- A session that builders gave: it holds the latest filter, keys and table, and apart from these
what it was opened with. -/
structure Session.IsBuilt (token : Token) (pageSize : Except Refusal Count)
    (provisioning : Provisioning)
    (made : List Builder) (session : Session) : Prop where
  storage : ∃ storage, session.storage = some storage ∧
    storage.Selects (made.findSome? Builder.tableName?)
  filter : session.filter = made.findSome? Builder.filter?
  keys : session.keys = made.findSome? Builder.keys?
  token : session.token = token
  pageSize : checkedPageSize pageSize = .ok session.pageSize
  provisioning : session.provisioning = provisioning

theorem Session.keeps_selectOn_any (session : Session) (target : AccountTable) (account : Account)
    (name : String) :
    Action.Keeps .any (·.Selects (some name)) (session.selectOn target account name) := by
  unfold selectOn
  exact (Action.keeps_any _).bind fun table _ => Action.keeps_pure ⟨rfl, rfl⟩

theorem Session.keeps_select_any (connected : session.storage = some storage)
    (staged : storage.stage.isSome ↔ storage.dev.isSome) (name : String) :
    Action.Keeps .any
      (fun later => ∃ storage, later = { session with storage := some storage } ∧
        storage.Selects (some name))
      (session.select name) := by
  unfold select requireStorage
  rw [connected]
  refine (Action.keeps_liftM _).bind fun _ same => ?_
  cases same
  cases storage.prod.account with
  | none => exact Action.keeps_throw _
  | some account =>
    refine (keeps_selectOn_any ..).bind fun prod prodSelects => ?_
    cases beside : storage.dev with
    | none =>
      refine Action.keeps_pure ⟨_, rfl, ?_, prodSelects, nofun⟩
      simpa [beside] using staged
    | some target =>
      dsimp only
      cases target.account with
      | none => exact Action.keeps_throw _
      | some account =>
        refine (keeps_selectOn_any ..).bind fun dev devSelects => ?_
        refine Action.keeps_pure ⟨_, rfl, ?_, prodSelects, ?_⟩
        · simpa [beside] using staged
        · rintro _ ⟨⟩
          exact devSelects

variable {token : Token} {pageSize : Except Refusal Count} {provisioning : Provisioning}
  {made : List Builder}

theorem Session.IsNew.isBuilt (new : session.IsNew token pageSize provisioning) :
    session.IsBuilt token pageSize provisioning [] := by
  obtain ⟨storage, connected, prod, dev, together⟩ := new.unselected
  refine ⟨⟨storage, connected, ?_, prod, dev⟩, new.filter, new.keys, new.token, new.pageSize,
    new.provisioning⟩
  rw [together]

theorem Session.IsBuilt.keeps_perform (built : session.IsBuilt token pageSize provisioning made)
    (builder : Builder) :
    Action.Keeps .any (Session.IsBuilt token pageSize provisioning (builder :: made))
      (builder.call.perform session) := by
  cases builder with
  | filter given => exact Action.keeps_pure { built with filter := rfl }
  | keys partitionKey rowKey => exact Action.keeps_pure { built with keys := rfl }
  | table name =>
    obtain ⟨storage, connected, selects⟩ := built.storage
    refine (Session.keeps_select_any connected selects.staged name).mono ?_
    rintro _ ⟨later, rfl, selects⟩
    exact { built with storage := ⟨later, rfl, selects⟩ }

theorem Built.keeps_extend {built : Built}
    (isBuilt : built.session.IsBuilt token pageSize provisioning built.made) (builder : Builder)
    (limit : Option Nat) :
    (built.extend builder limit).Keeps .any fun later =>
      later.session.IsBuilt token pageSize provisioning later.made := by
  refine ((isBuilt.keeps_perform builder).run.within limit).andThen fun outcome holds => ?_
  split
  · next session => exact holds _ rfl session rfl
  · exact isBuilt

theorem Built.keeps_extendAll {built : Built}
    (isBuilt : built.session.IsBuilt token pageSize provisioning built.made)
    (turns : List (Builder × Option Nat)) :
    (Built.extendAll turns built).Keeps .any fun later =>
      later.session.IsBuilt token pageSize provisioning later.made := by
  induction turns generalizing built with
  | nil => exact isBuilt
  | cons turn rest ih =>
    exact (Built.keeps_extend isBuilt turn.1 turn.2).andThen fun later holds => ih holds

end Selected

/-! ## Sequences of builders -/

/-- Builders keep sessions whole.  A session that was opened is given to builders in any number and
order, of which some may fail or be abandoned.  The session at the end has a development account
exactly if it has a stage; no table is selected before one was selected with success, and then the
latest is selected on every account; filter, keys, token, page size and provisioning are as their
builders, or else the opening, left them.  Once a table is selected, every kind of access finds a
table, in whatever surroundings. -/
theorem Session.builders_keep_whole {σ τ : Type} {answers : Program.Answers σ} {state : σ}
    {factory : ClientFactory} {opening : Opening} {token : Token} {session : Session}
    (opened : ((opening.perform factory token).run.run answers state).1 = .ok session)
    (turns : List (Builder × Option Nat)) (surroundings : Program.Answers τ) (start : τ) :
    let built := ((Built.extendAll turns ⟨session, []⟩).run surroundings start).1
    built.session.IsBuilt token opening.pageSize opening.provisioning built.made ∧
      ((built.made.findSome? Builder.tableName?).isSome → ∀ kind : AccessKind, ∃ table,
        ∀ {υ : Type} (others : Program.Answers υ) (state : υ),
          ((built.session.target? kind).run.run others state).1 = .ok (some table)) := by
  intro built
  have new := (Opening.isNew opened).isBuilt
  have isBuilt : built.session.IsBuilt token opening.pageSize opening.provisioning built.made :=
    ((Built.keeps_extendAll new turns).run Contract.isKeptBy_any trivial).1
  refine ⟨isBuilt, fun selected kind => ?_⟩
  obtain ⟨name, latest⟩ := Option.isSome_iff_exists.mp selected
  obtain ⟨storage, connected, selects⟩ := isBuilt.storage
  rw [latest] at selects
  obtain ⟨route, table, leads, found⟩ := selects.route kind
  refine ⟨table, fun others state => ?_⟩
  have routed : built.session.route kind = .ok route := by
    unfold Session.route requireStorage
    rw [connected]
    exact leads
  rw [Session.run_target? routed, found]

/-- Of three tables on a staged session the first is refused for its name, the second is abandoned
when it is selected on production only, and the third is selected. -/
theorem Session.builders_keep_whole_staged :
    let prod : Account := ⟨"prod", none⟩
    let dev : Account := ⟨"dev", none⟩
    let factory : ClientFactory := fun _ => .error ⟨.value, "no account"⟩
    let opening : Opening := .clients prod (some dev) (some "DEV") (.ok ⟨7, by decide⟩)
    let session : Session := { Session.unconnected ⟨0⟩ with
      storage := some ⟨some .dev, some { account := some dev }, { account := some prod }⟩
      pageSize := ⟨7, by decide⟩ }
    let turns : List (Builder × Option Nat) :=
      [(.filter (.partition (.text "p")), none), (.table "1", none), (.table "abc", some 8),
        (.table "xyz", none), (.keys "p" "r", none)]
    let store : AtomicStore := ⟨[], fun _ _ => none, []⟩
    let built := ((Built.extendAll turns ⟨session, []⟩).run AtomicStore.answers store).1
    ((opening.perform factory ⟨0⟩).run.run AtomicStore.answers store).1 = .ok session ∧
      built.made.findSome? Builder.tableName? = some "xyz" ∧
      built.session.storage = some
        { stage := some .dev
          dev := some ⟨some dev, some ⟨"cdev", "xyz"⟩, some "xyz"⟩
          prod := ⟨some prod, some ⟨"cprod", "xyz"⟩, some "xyz"⟩ } ∧
      built.session.IsBuilt ⟨0⟩ opening.pageSize opening.provisioning built.made ∧
      ∀ kind : AccessKind, ∃ table, ∀ {υ : Type} (others : Program.Answers υ) (state : υ),
        ((built.session.target? kind).run.run others state).1 = .ok (some table) := by
  intro prod dev factory opening session turns store built
  have opened :
      ((opening.perform factory ⟨0⟩).run.run AtomicStore.answers store).1 = .ok session := rfl
  have latest : built.made.findSome? Builder.tableName? = some "xyz" := by decide +kernel
  obtain ⟨isBuilt, finds⟩ :=
    Session.builders_keep_whole opened turns AtomicStore.answers store
  exact ⟨opened, latest, by decide +kernel, isBuilt, finds (by rw [latest]; rfl)⟩

end StagedTables
