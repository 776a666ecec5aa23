import Mathlib.Logic.Function.Basic
import Mathlib.Logic.Relation
import StagedTables.Proofs.Table.Creating
import StagedTables.Table.Cache

/-! # Calls that share a cache

Any number of calls for the handles of tables, interleaved in any way, that look up and keep handles
in one cache.  Main statement: there is one handle for each table.  What is kept stays, every call
that succeeds returns what is kept for its table, and only calls that succeed keep anything. -/
set_option autoImplicit false
namespace StagedTables

/-! ## Interleaved calls -/

structure HandleCall where
  provisioning : Provisioning
  account : Account
  name : String
  token : Option Token

namespace HandleCall

def key (call : HandleCall) : CacheKey := .of call.account call.name

def program (call : HandleCall) : Program (Except Failure TableClient) :=
  (call.provisioning.resolve call.account call.name call.token).run

end HandleCall

inductive Progress where
  | running (rest : Program (Except Failure TableClient))
  | cancelled

namespace Request

def IsAboutCache : Request → Prop
  | cached _ => True
  | keep _ _ => True
  | _ => False

theorem aside_not_isAboutCache :
    Contract.PermitsAside (.only fun request => ¬ request.IsAboutCache) := by
  intro request isAside
  cases request with
  | cached | keep => exact isAside.elim
  | _ => exact id

/-- A request during which other calls go on, and in which a call can be cancelled. -/
def Suspends : Request → Prop
  | createTable _ _ => True
  | sleep _ => True
  | _ => False

end Request

abbrev Services := (request : Request) → request.Reply → Prop

/-- A cache and the calls that share it, by the numbers of their tasks. -/
structure Calls where
  cache : TableCache
  task : Nat → Option (HandleCall × Progress)

namespace Calls

def sharing (cache : TableCache) : Calls := ⟨cache, fun _ => none⟩

def set (calls : Calls) (i : Nat) (cache : TableCache) (call : HandleCall) (progress : Progress) :
    Calls :=
  ⟨cache, Function.update calls.task i (some (call, progress))⟩

def IsAt (calls : Calls) (i : Nat) (call : HandleCall)
    (rest : Program (Except Failure TableClient)) : Prop :=
  calls.task i = some (call, .running rest)

def Returned (calls : Calls) (i : Nat) (call : HandleCall)
    (outcome : Except Failure TableClient) : Prop :=
  calls.IsAt i call (.done outcome)

/-- A task starts, has one request answered, or is cancelled.  Between any two requests other tasks
may go on, not only while one waits for a service. -/
inductive Step (services : Services) (calls : Calls) (i : Nat) : Calls → Prop
  | start (call : HandleCall) (free : calls.task i = none) :
    Step services calls i (calls.set i calls.cache call (.running call.program))
  | look {call : HandleCall} {key : CacheKey} {next}
    (ready : calls.IsAt i call (.ask (.cached key) next)) :
    Step services calls i
      (calls.set i calls.cache call (.running (next (calls.cache.get? key))))
  | keep {call : HandleCall} {key : CacheKey} {table : TableClient} {next}
    (ready : calls.IsAt i call (.ask (.keep key table) next)) :
    Step services calls i
      (calls.set i (calls.cache.add key table).2 call
        (.running (next (calls.cache.add key table).1)))
  | served {call : HandleCall} (request : Request) {next} (reply : request.Reply)
    (ready : calls.IsAt i call (.ask request next)) (elsewhere : ¬ request.IsAboutCache)
    (replied : services request reply) :
    Step services calls i (calls.set i calls.cache call (.running (next reply)))
  | cancel {call : HandleCall} {request : Request} {next}
    (ready : calls.IsAt i call (.ask request next)) (suspended : request.Suspends) :
    Step services calls i (calls.set i calls.cache call .cancelled)

def Reaches (services : Services) : Calls → Calls → Prop :=
  Relation.ReflTransGen fun calls next => ∃ i, Step services calls i next

end Calls

/-! ## The course of one call -/

namespace Program

/-- A program that seeks the handle of a key: it returns the kept one, or gives up, or keeps a
handle and returns what is kept then.  In between it leaves the cache alone. -/
inductive Seeks (key : CacheKey) : Program (Except Failure TableClient) → Prop
  | gaveUp (failure : Failure) : Seeks key (.done (.error failure))
  | elsewhere {request : Request} {next} (other : ¬ request.IsAboutCache)
    (later : ∀ reply, Seeks key (next reply)) : Seeks key (.ask request next)
  | looks {next} (found : ∀ table, next (some table) = .done (.ok table))
    (missing : Seeks key (next none)) : Seeks key (.ask (.cached key) next)
  | keeps (table : TableClient) : Seeks key (.ask (.keep key table) fun kept => .done (.ok kept))

variable {α : Type} {key : CacheKey}

theorem Seeks.of_keeps {program : Program (Except Failure α)} {good : Except Failure α → Prop}
    (aloof : program.Keeps (.only fun request => ¬ request.IsAboutCache) good)
    {more : Except Failure α → Program (Except Failure TableClient)}
    (later : ∀ outcome, (more outcome).Seeks key) : (program.andThen more).Seeks key := by
  induction program with
  | done outcome => exact later outcome
  | ask request next ih => exact .elsewhere aloof.1 fun reply => ih reply (aloof.2 reply trivial)

end Program

theorem HandleCall.seeks_program (call : HandleCall) : call.program.Seeks call.key := by
  have created := call.provisioning.keeps_createTable Request.aside_not_isAboutCache
    call.account call.name id call.token (call.provisioning.maxAttempts.1 - 1) 0
  unfold HandleCall.program Provisioning.resolve
  cases TableName.fault? call.name with
  | some fault => exact .gaveUp _
  | none =>
    refine .looks (fun table => rfl) (.of_keeps created.run fun outcome => ?_)
    cases outcome with
    | error failure => exact .gaveUp failure
    | ok _ => exact .elsewhere id fun table => .elsewhere id fun _ => .keeps table

/-! ## Invariant -/

namespace Program

/-- A call that still seeks its handle, or has returned the one that is kept. -/
def Agrees (cache : TableCache) (key : CacheKey) (rest : Program (Except Failure TableClient)) :
    Prop :=
  rest.Seeks key ∨ ∃ table, rest = .done (.ok table) ∧ cache.get? key = some table

variable {cache later : TableCache} {key : CacheKey}

theorem Agrees.mono {rest : Program (Except Failure TableClient)} (agrees : rest.Agrees cache key)
    (persists : cache.PersistsIn later) : rest.Agrees later key := by
  obtain seeks | ⟨table, returned, kept⟩ := agrees
  · exact .inl seeks
  · exact .inr ⟨table, returned, persists key table kept⟩

theorem Agrees.seeks {request : Request} {next} (agrees : (ask request next).Agrees cache key) :
    (ask request next).Seeks key := by
  obtain seeks | ⟨table, returned, -⟩ := agrees
  · exact seeks
  · cases returned

end Program

namespace Calls

variable {services : Services} {cache : TableCache} {calls next later : Calls} {i j : Nat}
  {call other : HandleCall} {rest : Program (Except Failure TableClient)}

def IsSound (calls : Calls) : Prop :=
  ∀ i call rest, calls.IsAt i call rest → rest.Agrees calls.cache call.key

theorem isAt_set_self : (calls.set i cache call (.running rest)).IsAt i call rest :=
  Function.update_self i _ calls.task

theorem isAt_set_of_ne {progress : Progress} (different : j ≠ i) :
    (calls.set i cache call progress).IsAt j other rest ↔ calls.IsAt j other rest := by
  simp only [IsAt, set, Function.update_of_ne different]

theorem isAt_set {progress : Progress}
    (ready : (calls.set i cache call progress).IsAt j other rest) :
    (j = i ∧ other = call ∧ progress = .running rest) ∨ calls.IsAt j other rest := by
  by_cases same : j = i
  · subst same
    obtain ⟨rfl, rfl⟩ : call = other ∧ progress = .running rest := by
      simpa only [IsAt, set, Function.update_self, Option.some.injEq, Prod.mk.injEq] using ready
    exact .inl ⟨rfl, rfl, rfl⟩
  · exact .inr ((isAt_set_of_ne same).mp ready)

theorem isSound_sharing (cache : TableCache) : (sharing cache).IsSound := nofun

theorem IsSound.set (sound : calls.IsSound) {progress : Progress}
    (persists : calls.cache.PersistsIn cache)
    (agrees : ∀ rest, progress = .running rest → rest.Agrees cache call.key) :
    (calls.set i cache call progress).IsSound := by
  intro j other rest ready
  obtain ⟨-, rfl, same⟩ | ready := isAt_set ready
  · exact agrees rest same
  · exact (sound j other rest ready).mono persists

theorem Step.persists (step : Step services calls i next) : calls.cache.PersistsIn next.cache := by
  cases step with
  | keep ready => exact TableCache.persistsIn_add _ _ _
  | _ => exact .refl _

theorem IsSound.step (sound : calls.IsSound) (step : Step services calls i next) :
    next.IsSound := by
  have persists := step.persists
  cases step with
  | start call free =>
    refine sound.set persists ?_
    rintro _ ⟨⟩
    exact .inl call.seeks_program
  | look ready =>
    refine sound.set persists ?_
    rintro _ ⟨⟩
    cases (sound _ _ _ ready).seeks with
    | elsewhere other _ => exact absurd trivial other
    | looks found missing =>
      cases kept : calls.cache.get? _ with
      | none => exact .inl missing
      | some table => exact .inr ⟨table, found table, kept⟩
  | @keep call key table _ ready =>
    refine sound.set persists ?_
    rintro _ ⟨⟩
    -- Another call may have been first since this one looked: both return what that one kept.
    cases (sound _ _ _ ready).seeks with
    | elsewhere other _ => exact absurd trivial other
    | keeps =>
      refine .inr ⟨_, rfl, ?_⟩
      rw [TableCache.get?_add, if_pos rfl]
  | served request reply ready elsewhere =>
    refine sound.set persists ?_
    rintro _ ⟨⟩
    cases (sound _ _ _ ready).seeks with
    | elsewhere _ later => exact .inl (later reply)
    | looks => exact absurd trivial elsewhere
    | keeps => exact absurd trivial elsewhere
  | cancel => exact sound.set persists nofun

/-- A step that changes the cache is the last one of a call, which returns the handle that it has
added under its own key, where none was kept. -/
theorem Step.adds (step : Step services calls i next) (sound : calls.IsSound)
    (changed : next.cache ≠ calls.cache) :
    ∃ call table, next.Returned i call (.ok table) ∧ calls.cache.get? call.key = none ∧
      next.cache = calls.cache ++ [(call.key, table)] := by
  cases step with
  | @keep call key table _ ready =>
    cases (sound _ _ _ ready).seeks with
    | elsewhere other _ => exact absurd trivial other
    | keeps =>
      cases kept : calls.cache.get? call.key with
      | some first => exact absurd (congrArg Prod.snd (TableCache.add_of_some kept)) changed
      | none =>
        refine ⟨call, table, ?_, kept, congrArg Prod.snd (TableCache.add_of_none kept)⟩
        rw [TableCache.add_of_none kept]
        exact isAt_set_self
  | _ => exact absurd rfl changed

theorem Step.returned {outcome : Except Failure TableClient} (step : Step services calls i next)
    (returned : calls.Returned j call outcome) : next.Returned j call outcome := by
  by_cases same : j = i
  · subst same
    -- A call that has returned asks for nothing more, and its task is not free.
    have stuck {request : Request} {more} {other : HandleCall} :
        ¬ calls.IsAt j other (.ask request more) := fun ready => nomatch returned.symm.trans ready
    cases step with
    | start call free => exact nomatch returned.symm.trans free
    | look ready => exact absurd ready stuck
    | keep ready => exact absurd ready stuck
    | served _ _ ready => exact absurd ready stuck
    | cancel ready => exact absurd ready stuck
  · cases step <;> exact (isAt_set_of_ne same).mpr returned

/-! ## Calls that succeed -/

theorem set_set (calls : Calls) (i : Nat) (cache later : TableCache) (call other : HandleCall)
    (progress further : Progress) :
    (calls.set i cache call progress).set i later other further =
      calls.set i later other further := by
  simp only [set, Function.update_idem]

theorem IsAt.set_eq (ready : calls.IsAt i call rest) :
    calls.set i calls.cache call (.running rest) = calls := by
  have same : Function.update calls.task i (some (call, .running rest)) = calls.task :=
    Function.update_eq_self_iff.mpr ready.symm
  rw [set, same]

section Advance

variable {start : Calls} {key : CacheKey} {table : TableClient}

theorem Reaches.look {next}
    (run : Reaches services start (calls.set i cache call (.running (.ask (.cached key) next)))) :
    Reaches services start (calls.set i cache call (.running (next (cache.get? key)))) := by
  have after := run.tail ⟨i, .look isAt_set_self⟩
  rwa [set_set] at after

theorem Reaches.keep {next}
    (run : Reaches services start
      (calls.set i cache call (.running (.ask (.keep key table) next)))) :
    Reaches services start
      (calls.set i (cache.add key table).2 call (.running (next (cache.add key table).1))) := by
  have after := run.tail ⟨i, .keep isAt_set_self⟩
  rwa [set_set] at after

theorem Reaches.served {request : Request} {next}
    (run : Reaches services start (calls.set i cache call (.running (.ask request next))))
    (elsewhere : ¬ request.IsAboutCache) (reply : request.Reply)
    (replied : services request reply) :
    Reaches services start (calls.set i cache call (.running (next reply))) := by
  have after := run.tail ⟨i, .served request reply isAt_set_self elsewhere replied⟩
  rwa [set_set] at after

end Advance

/-- A call that finds nothing kept comes to create its table.  When the table is created and opened,
the call returns what is kept by then. -/
theorem reaches_returned (services : Services) (call : HandleCall)
    (valid : TableName.fault? call.name = none) (untold : call.token = none) :
    ∃ created,
      (∀ calls i, calls.task i = none → calls.cache.get? call.key = none →
        Reaches services calls (calls.set i calls.cache call
          (.running (.ask (.createTable call.account call.name) created)))) ∧
      ∀ calls i table, calls.IsAt i call (.ask (.createTable call.account call.name) created) →
        services (.createTable call.account call.name) (.ok ()) →
        services (.openTable call.account call.name) table → (∀ entry, services (.log entry) ()) →
        Reaches services calls (calls.set i (calls.cache.add call.key table).2 call
          (.running (.done (.ok (calls.cache.add call.key table).1)))) := by
  obtain ⟨looked, created, entry, started, missed, accepted⟩ :
      ∃ looked created entry, call.program = .ask (.cached call.key) looked ∧
        looked none = .ask (.createTable call.account call.name) created ∧
        created (.ok ()) = .ask (.openTable call.account call.name) fun table =>
          .ask (.log entry) fun _ => .ask (.keep call.key table) fun kept => .done (.ok kept) := by
    unfold HandleCall.program Provisioning.resolve
    rw [valid, Provisioning.createTable, untold]
    exact ⟨_, _, _, rfl, rfl, rfl⟩
  refine ⟨created, fun calls i free missing => ?_, fun calls i table ready creates opens logs => ?_⟩
  · have start : Step services calls i _ := .start call free
    rw [started] at start
    have looks := Reaches.look (.single ⟨i, start⟩)
    rwa [missing, missed] at looks
  · have start : Reaches services calls (calls.set i calls.cache call
        (.running (.ask (.createTable call.account call.name) created))) := by
      rw [ready.set_eq]
      exact .refl
    have creates := start.served id (.ok ()) creates
    rw [accepted] at creates
    exact ((creates.served id table opens).served id () (logs entry)).keep

/-! ## Runs -/

theorem Reaches.persists (run : Reaches services calls later) :
    calls.cache.PersistsIn later.cache := by
  induction run with
  | refl => exact .refl _
  | tail _ step ih =>
    obtain ⟨i, step⟩ := step
    exact ih.trans step.persists

theorem Reaches.returned {outcome : Except Failure TableClient} (run : Reaches services calls later)
    (returned : calls.Returned j call outcome) : later.Returned j call outcome := by
  induction run with
  | refl => exact returned
  | tail _ step ih =>
    obtain ⟨i, step⟩ := step
    exact step.returned ih

theorem IsSound.reaches (sound : calls.IsSound) (run : Reaches services calls later) :
    later.IsSound := by
  induction run with
  | refl => exact sound
  | tail _ step ih =>
    obtain ⟨i, step⟩ := step
    exact ih.step step

theorem IsSound.kept {table : TableClient} (sound : calls.IsSound)
    (returned : calls.Returned i call (.ok table)) : calls.cache.get? call.key = some table := by
  obtain seeks | ⟨_, ⟨⟩, kept⟩ := sound i call _ returned
  · cases seeks
  · exact kept

/-- There is one handle for each table, however the calls are interleaved and whatever fails or is
cancelled: an entry stays what it is; calls that succeed for one account and one name in any letter
case return the entry of that key, and so the same handle; and an entry is added only by a call that
returns it, under its own key, where there was none. -/
theorem handles_shared {services : Services} {cache : TableCache} {calls : Calls}
    (run : Reaches services (sharing cache) calls) :
    (∀ i call table, calls.Returned i call (.ok table) → calls.cache.get? call.key = some table) ∧
    (∀ i j call other table first, calls.Returned i call (.ok table) →
      calls.Returned j other (.ok first) → call.account.key = other.account.key →
      Text.lower call.name = Text.lower other.name → table = first) ∧
    (∀ later, Reaches services calls later →
      ∀ key table, calls.cache.get? key = some table → later.cache.get? key = some table) ∧
    (∀ i next later, Step services calls i next → next.cache ≠ calls.cache →
      Reaches services next later →
      ∃ call table, later.Returned i call (.ok table) ∧ calls.cache.get? call.key = none ∧
        next.cache = calls.cache ++ [(call.key, table)]) ∧
    ∀ call other : HandleCall, call.key = other.key ↔
      call.account.key = other.account.key ∧ Text.lower call.name = Text.lower other.name := by
  have sound := (isSound_sharing cache).reaches run
  have keys (call other : HandleCall) : call.key = other.key ↔
      call.account.key = other.account.key ∧ Text.lower call.name = Text.lower other.name := by
    simp only [HandleCall.key, CacheKey.of, CacheKey.mk.injEq]
  refine ⟨fun i call table => sound.kept, ?_, fun later rest => rest.persists, ?_, keys⟩
  · intro i j call other table first returned otherReturned account name
    have kept := sound.kept returned
    rw [(keys call other).mpr ⟨account, name⟩, sound.kept otherReturned] at kept
    exact (Option.some.inj kept).symm
  · intro i next later step changed rest
    obtain ⟨call, table, returned, missing, added⟩ := step.adds sound changed
    exact ⟨call, table, rest.returned returned, missing, added⟩

/-- Two calls that both find nothing kept, for one name in two letter cases: the one that keeps its
handle first decides for both. -/
theorem handles_shared_race :
    let lower : HandleCall := ⟨{}, ⟨"tables", none⟩, "abc", none⟩
    let upper : HandleCall := ⟨{}, ⟨"tables", none⟩, "ABC", none⟩
    ∃ calls, Reaches (fun _ _ => True) (sharing []) calls ∧
      calls.Returned 0 lower (.ok ⟨"tables", "ABC"⟩) ∧
      calls.Returned 1 upper (.ok ⟨"tables", "ABC"⟩) ∧
      calls.cache.get? lower.key = some ⟨"tables", "ABC"⟩ := by
  intro lower upper
  obtain ⟨_, pends, returns⟩ := reaches_returned (fun _ _ => True) lower (by decide) rfl
  obtain ⟨_, pends', returns'⟩ := reaches_returned (fun _ _ => True) upper (by decide) rfl
  have pending := (pends (sharing []) 0 rfl rfl).trans (pends' _ 1 rfl rfl)
  have kept := pending.trans
    (returns' _ 1 ⟨"tables", "ABC"⟩ isAt_set_self trivial trivial fun _ => trivial)
  have run := kept.trans (returns _ 0 ⟨"tables", "abc"⟩
    ((isAt_set_of_ne Nat.zero_ne_one).mpr ((isAt_set_of_ne Nat.zero_ne_one).mpr isAt_set_self))
    trivial trivial fun _ => trivial)
  obtain ⟨entries, agree, -⟩ := handles_shared run
  have same := agree 0 1 lower upper _ ⟨"tables", "ABC"⟩ isAt_set_self
    ((isAt_set_of_ne Nat.one_ne_zero).mpr isAt_set_self) rfl (by decide)
  rw [same] at run entries
  exact ⟨_, run, isAt_set_self, (isAt_set_of_ne Nat.one_ne_zero).mpr isAt_set_self,
    entries 0 _ _ isAt_set_self⟩

end Calls
end StagedTables
