import StagedTables.Proofs.Session.Heeding
import StagedTables.Proofs.Table.Sharing

/-! # Attempts to create a table

A table that is not kept is created in attempts, with a pause after each that the service refuses
but the last.  Main statement: what a run asks for and comes to follows from the outcomes of the
attempts, for every sequence of outcomes and every moment at which the token is cancelled, and
nothing is kept unless the handle is returned. -/
set_option autoImplicit false
namespace StagedTables

/-! ## Surroundings -/

/-- Surroundings in which the attempts to create a table come to given outcomes in their order;
`made` counts those that are over. -/
structure Attempts {σ : Type} (answers : Program.Answers σ) (account : Account) (name : String)
    (made : σ → Nat) (outcomes : Nat → Except ForeignError Unit) : Prop where
  replies : ∀ state, (answers (.createTable account name) state).1 = outcomes (made state)
  counts : ∀ state, made (answers (.createTable account name) state).2 = made state + 1
  others : ∀ request state, (∀ account name, request ≠ .createTable account name) →
    made (answers request state).2 = made state

/-- Surroundings with a cache of handles that nobody else uses meanwhile. -/
structure OwnsCache {σ : Type} (answers : Program.Answers σ) (cache : σ → TableCache) : Prop where
  cached : ∀ key state, (answers (.cached key) state).1 = (cache state).get? key
  keep : ∀ key table state, (answers (.keep key table) state).1 = ((cache state).add key table).1
  added : ∀ key table state,
    cache (answers (.keep key table) state).2 = ((cache state).add key table).2
  others : ∀ request state, (∀ key table, request ≠ .keep key table) →
    cache (answers request state).2 = cache state

/-- Surroundings that cancel the token, where there is one, and otherwise nothing. -/
structure CancelsAny {σ : Type} (answers : Program.Answers σ) (token : Option Token)
    (cancelled : σ → Bool) : Prop where
  cancels : ∀ held, token = some held → Cancels answers held cancelled
  never : token = none → ∀ state, cancelled state = false

/-! ## Attempts of a run -/

def Request.isTry : Request → Bool
  | createTable _ _ => true
  | sleep _ => true
  | _ => false

def Request.tries {σ : Type} (steps : List (Request × σ)) : List Request :=
  (steps.map (·.1)).filter (·.isTry)

theorem Request.tries_append {σ : Type} (steps later : List (Request × σ)) :
    tries (steps ++ later) = tries steps ++ tries later := by
  rw [tries, List.map_append, List.filter_append]
  rfl

section Tries

variable {α β σ : Type} {answers : Program.Answers σ}

/-- From a state the action makes these attempts and pauses, and ends so. -/
structure Action.Tries (answers : Program.Answers σ) (action : Action α) (state : σ)
    (tried : List Request) (result : Except Failure α) (final : σ) : Prop where
  tried : Request.tries (action.run.steps answers state) = tried
  run : action.run.run answers state = (result, final)

namespace Action

variable {action : Action α} {more : α → Action β} {state between final : σ}
  {tried later : List Request}

theorem Tries.bind {value : α} {result : Except Failure β}
    (first : action.Tries answers state tried (.ok value) between)
    (rest : (more value).Tries answers between later result final) :
    (action >>= more).Tries answers state (tried ++ later) result final := by
  constructor
  · rw [steps_bind, first.run, Request.tries_append, first.tried]
    exact congrArg (tried ++ ·) rest.tried
  · rw [run_bind, first.run]
    exact rest.run

theorem Tries.bind_error {failure : Failure}
    (first : action.Tries answers state tried (.error failure) final) :
    (action >>= more).Tries answers state tried (.error failure) final := by
  constructor
  · rw [steps_bind, first.run, Request.tries_append, first.tried]
    exact List.append_nil tried
  · rw [run_bind, first.run]

theorem mem_steps_bind {value : α} {step : Request × σ}
    (ran : action.run.run answers state = (.ok value, between))
    (later : step ∈ (more value).run.steps answers between) :
    step ∈ (action >>= more).run.steps answers state := by
  rw [steps_bind, ran]
  exact List.mem_append_right _ later

theorem tries_pure (value : α) (state : σ) :
    (pure value : Action α).Tries answers state [] (.ok value) state :=
  ⟨rfl, rfl⟩

theorem tries_throw (failure : Failure) (state : σ) :
    (throw failure : Action α).Tries answers state [] (.error failure) state :=
  ⟨rfl, rfl⟩

theorem tries_send (request : Request) (state : σ) :
    (send request).Tries answers state ([request].filter (·.isTry))
      (.ok (answers request state).1) (answers request state).2 :=
  ⟨rfl, rfl⟩

theorem tries_log (logger : Logger) (level : Logging.Level) (message : String) (state : σ) :
    (logger.log level message).Tries answers state [] (.ok ())
      (answers (.log ⟨logger.name, level, message⟩) state).2 :=
  tries_send (.log _) state

end Action
end Tries

/-! ## The course of the attempts -/

def IsRefusal : Except ForeignError Unit → Prop
  | .ok _ => False
  | .error error => error.kind.isService = true

namespace Provisioning

section Course

variable {provisioning : Provisioning} {account : Account} {name : String}
  {outcomes : Nat → Except ForeignError Unit}

/-- What is tried and what comes of it, after `before` attempts and with at most `more` attempts
after the next one. -/
inductive Course (provisioning : Provisioning) (account : Account) (name : String)
    (outcomes : Nat → Except ForeignError Unit) :
    (more before : Nat) → List Request → Except Failure Unit → Prop
  | cancelled {more before : Nat} :
    Course provisioning account name outcomes more before [] (.error (.cancelled operation))
  | created {more before : Nat} (outcome : outcomes before = .ok ()) :
    Course provisioning account name outcomes more before [.createTable account name] (.ok ())
  | failed {more before : Nat} {error : ForeignError} (outcome : outcomes before = .error error)
    (other : error.kind.isService = false) :
    Course provisioning account name outcomes more before [.createTable account name]
      (.error (.foreign error))
  | exhausted {before : Nat} {error : ForeignError} (outcome : outcomes before = .error error)
    (refused : error.kind.isService = true) :
    Course provisioning account name outcomes 0 before [.createTable account name]
      (.error (.provisioning name (before + 1) error))
  | again {more before : Nat} {error : ForeignError} {tried : List Request}
    {result : Except Failure Unit} (outcome : outcomes before = .error error)
    (refused : error.kind.isService = true)
    (rest : Course provisioning account name outcomes more (before + 1) tried result) :
    Course provisioning account name outcomes (more + 1) before
      (.createTable account name :: .sleep provisioning.retryDelay :: tried) result

def refusals (provisioning : Provisioning) (account : Account) (name : String) (count : Nat) :
    List Request :=
  (List.replicate count [.createTable account name, .sleep provisioning.retryDelay]).flatten

def ending (name : String) (attempts : Nat) : Except ForeignError Unit → Except Failure Unit
  | .ok _ => .ok ()
  | .error error =>
    .error (if error.kind.isService then .provisioning name attempts error else .foreign error)

/-- No attempt comes after this one: all before it are refused, and it is not, or it is the last of
the budget. -/
structure IsLast (outcomes : Nat → Except ForeignError Unit) (budget count : Nat) : Prop where
  within : count < budget
  refused : ∀ i < count, IsRefusal (outcomes i)
  ends : IsRefusal (outcomes count) → count + 1 = budget

theorem IsLast.unique {budget count other : Nat} (last : IsLast outcomes budget count)
    (otherLast : IsLast outcomes budget other) : count = other := by
  have not_less {i j : Nat} (first : IsLast outcomes budget i) (second : IsLast outcomes budget j) :
      ¬ i < j := by
    intro less
    have ends := first.ends (second.refused i less)
    have within := second.within
    omega
  have := not_less last otherLast
  have := not_less otherLast last
  omega

/-- Refused attempts and pauses come first.  Then the token is cancelled, or an attempt is made that
is not refused or is the last. -/
theorem Course.exists_refusals {more before : Nat} {tried : List Request}
    {result : Except Failure Unit}
    (course : Course provisioning account name outcomes more before tried result) :
    ∃ count ≤ more, (∀ i < count, IsRefusal (outcomes (before + i))) ∧
      (tried = refusals provisioning account name count ∧
          result = .error (.cancelled operation) ∨
        tried = refusals provisioning account name count ++ [.createTable account name] ∧
          (IsRefusal (outcomes (before + count)) → count = more) ∧
          result = ending name (before + count + 1) (outcomes (before + count))) := by
  induction course with
  | cancelled => exact ⟨0, Nat.zero_le _, nofun, .inl ⟨rfl, rfl⟩⟩
  | created outcome =>
    refine ⟨0, Nat.zero_le _, nofun, .inr ⟨rfl, ?_, ?_⟩⟩
    · intro refused
      rw [Nat.add_zero, outcome] at refused
      exact refused.elim
    · simp only [Nat.add_zero, outcome, ending]
  | failed outcome other =>
    refine ⟨0, Nat.zero_le _, nofun, .inr ⟨rfl, ?_, ?_⟩⟩
    · intro refused
      rw [Nat.add_zero, outcome] at refused
      cases other.symm.trans refused
    · simp only [Nat.add_zero, outcome, ending, other, Bool.false_eq_true, if_false]
  | exhausted outcome refused =>
    refine ⟨0, Nat.le_refl 0, nofun, .inr ⟨rfl, fun _ => rfl, ?_⟩⟩
    simp only [Nat.add_zero, outcome, ending, refused, if_true]
  | @again more before error tried result outcome refused _ ih =>
    -- The rest of the course counts its attempts from the next one on.
    obtain ⟨count, within, all, ends⟩ := ih
    have shift (i : Nat) : before + 1 + i = before + (i + 1) := by omega
    refine ⟨count + 1, Nat.succ_le_succ within, ?_, ?_⟩
    · intro i small
      cases i with
      | zero => rwa [Nat.add_zero, outcome]
      | succ i =>
        rw [← shift]
        exact all i (Nat.lt_of_succ_lt_succ small)
    · have first : refusals provisioning account name (count + 1) = .createTable account name ::
          .sleep provisioning.retryDelay :: refusals provisioning account name count := rfl
      rw [first, ← shift]
      obtain ⟨rfl, stopped⟩ | ⟨rfl, last, ended⟩ := ends
      · exact .inl ⟨rfl, stopped⟩
      · exact .inr ⟨rfl, fun refused => congrArg (· + 1) (last refused), ended⟩

/-- Refused attempts, each with its pause, are followed by an attempt that is the last, unless the
token is cancelled before. -/
def WithinBudget (provisioning : Provisioning) (account : Account) (name : String)
    (outcomes : Nat → Except ForeignError Unit) (tried : List Request)
    (result : Except Failure Unit) : Prop :=
  ∃ count < provisioning.maxAttempts.1, (∀ i < count, IsRefusal (outcomes i)) ∧
    (tried = refusals provisioning account name count ∧
        result = .error (.cancelled operation) ∨
      tried = refusals provisioning account name count ++ [.createTable account name] ∧
        IsLast outcomes provisioning.maxAttempts.1 count ∧
        result = ending name (count + 1) (outcomes count))

theorem Course.withinBudget {tried : List Request} {result : Except Failure Unit}
    (course : Course provisioning account name outcomes (provisioning.maxAttempts.1 - 1) 0 tried
      result) : WithinBudget provisioning account name outcomes tried result := by
  obtain ⟨count, within, refused, ends⟩ := course.exists_refusals
  simp only [Nat.zero_add] at refused ends
  have some := provisioning.maxAttempts.2
  have less : count < provisioning.maxAttempts.1 := by omega
  obtain stopped | ⟨tried, last, ended⟩ := ends
  · exact ⟨count, less, refused, .inl stopped⟩
  · refine ⟨count, less, refused, .inr ⟨tried, ⟨less, refused, fun again => ?_⟩, ended⟩⟩
    have := last again
    omega

section Uncancelled

variable {tried : List Request} {result : Except Failure Unit} {count : Nat} {error : ForeignError}
  (within : WithinBudget provisioning account name outcomes tried result)
  (unstopped : result ≠ .error (.cancelled operation))

include within unstopped

theorem WithinBudget.ends (last : IsLast outcomes provisioning.maxAttempts.1 count) :
    tried = refusals provisioning account name count ++ [.createTable account name] ∧
      result = ending name (count + 1) (outcomes count) := by
  obtain ⟨other, -, -, ⟨-, stopped⟩ | ⟨tried, otherLast, ended⟩⟩ := within
  · exact absurd stopped unstopped
  · rw [last.unique otherLast]
    exact ⟨tried, ended⟩

theorem WithinBudget.created (less : count < provisioning.maxAttempts.1)
    (refused : ∀ i < count, IsRefusal (outcomes i)) (outcome : outcomes count = .ok ()) :
    tried = refusals provisioning account name count ++ [.createTable account name] ∧
      result = .ok () := by
  have last : IsLast outcomes provisioning.maxAttempts.1 count := by
    refine ⟨less, refused, fun again => ?_⟩
    rw [outcome] at again
    exact again.elim
  obtain ⟨tried, ended⟩ := within.ends unstopped last
  rw [outcome] at ended
  exact ⟨tried, ended⟩

theorem WithinBudget.failed (less : count < provisioning.maxAttempts.1)
    (refused : ∀ i < count, IsRefusal (outcomes i)) (outcome : outcomes count = .error error)
    (other : error.kind.isService = false) :
    tried = refusals provisioning account name count ++ [.createTable account name] ∧
      result = .error (.foreign error) := by
  have last : IsLast outcomes provisioning.maxAttempts.1 count := by
    refine ⟨less, refused, fun again => ?_⟩
    rw [outcome] at again
    cases other.symm.trans again
  obtain ⟨tried, ended⟩ := within.ends unstopped last
  rw [outcome, ending, other] at ended
  exact ⟨tried, ended⟩

theorem WithinBudget.exhausted (last : count + 1 = provisioning.maxAttempts.1)
    (refused : ∀ i < count, IsRefusal (outcomes i)) (outcome : outcomes count = .error error)
    (again : error.kind.isService = true) :
    tried = refusals provisioning account name count ++ [.createTable account name] ∧
      result = .error (.provisioning name provisioning.maxAttempts.1 error) := by
  obtain ⟨tried, ended⟩ := within.ends unstopped ⟨by omega, refused, fun _ => last⟩
  rw [outcome, ending, again, last] at ended
  exact ⟨tried, ended⟩

end Uncancelled
end Course

/-! ## Runs of the loop -/

section Runs

variable {α σ : Type} {answers : Program.Answers σ} {account : Account} {name : String}
  {made : σ → Nat} {outcomes : Nat → Except ForeignError Unit} {token : Option Token}
  {cancelled : σ → Bool}

/-- The action runs along a course, and a run that is stopped by the cancellation ends cancelled. -/
def Follows (answers : Program.Answers σ) (cancelled : σ → Bool) (action : Action Unit) (state : σ)
    (course : List Request → Except Failure Unit → Prop) : Prop :=
  ∃ tried result final, action.Tries answers state tried result final ∧ course tried result ∧
    (result = .error (.cancelled operation) → cancelled final = true)

theorem Follows.bind {first : Action α} {more : α → Action Unit} {state between : σ}
    {tried : List Request} {value : α} {course : List Request → Except Failure Unit → Prop}
    (ran : first.Tries answers state tried (.ok value) between)
    (rest : Follows answers cancelled (more value) between fun later => course (tried ++ later)) :
    Follows answers cancelled (first >>= more) state course := by
  obtain ⟨later, result, final, tries, along, stopped⟩ := rest
  exact ⟨tried ++ later, result, final, ran.bind tries, along, stopped⟩

variable (attempts : Attempts answers account name made outcomes)
  (cancels : CancelsAny answers token cancelled)

include attempts cancels

theorem tries_checkToken (state : σ) :
    ∃ after, made after = made state ∧ cancelled after = cancelled state ∧
      (checkToken token).Tries answers state []
        (if cancelled state then .error (.cancelled operation) else .ok ()) after := by
  cases held : token with
  | none =>
    refine ⟨state, rfl, rfl, ?_⟩
    rw [cancels.never held]
    exact Action.tries_pure () state
  | some token =>
    have cancels := cancels.cancels token held
    refine ⟨(answers (.isCancelled token) state).2, attempts.others _ _ nofun, ?_, ?_, ?_⟩
    · cases told : cancelled state with
      | true => exact cancels.stays _ _ told
      | false => exact cancels.between _ _ id nofun told
    · unfold checkToken
      rw [Action.raiseIfCancelled_eq]
      rfl
    · exact Action.run_raiseIfCancelled cancels operation state

/-- The attempts run along their course if what comes after the next one does, should it be
refused. -/
theorem follows_of_afterRefusal (provisioning : Provisioning) (more : Nat) (state : σ)
    (rest : ∀ error after, outcomes (made state) = .error error → error.kind.isService = true →
      made after = made state + 1 →
      Follows answers cancelled
        (provisioning.afterRefusal account name token (made state + 1) error more) after
        fun later => Course provisioning account name outcomes more (made state)
          (.createTable account name :: later)) :
    Follows answers cancelled
      (provisioning.createTable account name token more (made state)) state
      (Course provisioning account name outcomes more (made state)) := by
  obtain ⟨checked, counted, same, check⟩ := tries_checkToken attempts cancels state
  rw [createTable_eq]
  cases told : cancelled state with
  | true =>
    rw [told] at check same
    exact ⟨[], _, checked, check.bind_error, .cancelled, fun _ => same⟩
  | false =>
    rw [told] at check
    refine .bind check (.bind (Action.tries_send _ _) ?_)
    have made_after := (attempts.counts checked).trans (congrArg (· + 1) counted)
    rw [attempts.replies, counted]
    cases outcome : outcomes (made state) with
    | ok _ => exact ⟨[], .ok (), _, Action.tries_pure _ _, .created outcome, nofun⟩
    | error error =>
      dsimp only [afterAttempt]
      cases kind : error.kind.isService with
      | false => exact ⟨[], _, _, Action.tries_throw _ _, .failed outcome kind, nofun⟩
      | true => exact rest error _ outcome kind made_after

theorem follows_createTable (provisioning : Provisioning) (more : Nat) (state : σ) :
    Follows answers cancelled
      (provisioning.createTable account name token more (made state)) state
      (Course provisioning account name outcomes more (made state)) := by
  -- After a refusal the loop goes on in the state behind the pause, with one attempt less to make.
  induction more generalizing state with
  | zero =>
    refine follows_of_afterRefusal attempts cancels _ _ _ ?_
    intro error after outcome refused _
    refine .bind (Action.tries_log ..) ?_
    exact ⟨[], _, _, Action.tries_throw _ _, .exhausted outcome refused, nofun⟩
  | succ more ih =>
    refine follows_of_afterRefusal attempts cancels _ _ _ ?_
    intro error after outcome refused ended
    refine .bind (Action.tries_log ..) (.bind (Action.tries_send ..) ?_)
    generalize same : (answers (.sleep provisioning.retryDelay) _).2 = slept
    have counted : made slept = made state + 1 := by
      rw [← same, attempts.others (.sleep _) _ nofun, attempts.others (.log _) _ nofun, ended]
    obtain ⟨tried, result, final, tries, course, stopped⟩ := ih slept
    rw [counted] at tries course
    exact ⟨tried, result, final, tries, .again outcome refused course, stopped⟩

end Runs

/-! ## Runs for a table -/

section Resolving

variable {σ : Type} {answers : Program.Answers σ} {account : Account} {name : String}
  {made : σ → Nat} {outcomes : Nat → Except ForeignError Unit} {token : Option Token}
  {cancelled : σ → Bool} {cache : σ → TableCache}

theorem cache_createTable (owns : OwnsCache answers cache) (provisioning : Provisioning)
    (account : Account) (name : String) (token : Option Token) (more before : Nat) (state : σ) :
    cache ((provisioning.createTable account name token more before).run.run answers state).2 =
      cache state := by
  have created := provisioning.keeps_createTable Request.aside_not_isAboutCache account name id
    token more before
  have kept : Contract.IsKeptBy (.only fun request => ¬ request.IsAboutCache) answers
      (cache · = cache state) := by
    intro request between aloof same
    refine ⟨trivial, (owns.others request between ?_).trans same⟩
    rintro key table rfl
    exact aloof trivial
  exact (created.run.run kept rfl).2.1

theorem tries_keepHandle (owns : OwnsCache answers cache) (account : Account) {state : σ}
    (missing : (cache state).get? (.of account name) = none) :
    ∃ (table : TableClient) (final : σ), (answers (.openTable account name) state).1 = table ∧
      (keepHandle account name).Tries answers state [] (.ok table) final ∧
      cache final = ((cache state).add (.of account name) table).2 := by
  let table : TableClient := (answers (.openTable account name) state).1
  let key : CacheKey := .of account name
  let opened := (answers (.openTable account name) state).2
  let entry : LogEntry :=
    ⟨logger.name, .debug, s!"Resolved table '{name}' on {account.key.text}"⟩
  let told := (answers (.log entry) opened).2
  have same : cache told = cache state :=
    (owns.others (.log entry) opened nofun).trans
      (owns.others (.openTable account name) state nofun)
  have kept := owns.keep key table told
  rw [same, TableCache.add_of_none missing] at kept
  have keeps : (Action.send (.keep key table)).Tries answers told [] (.ok table) _ :=
    kept ▸ Action.tries_send (.keep key table) told
  exact ⟨table, _, rfl, (Action.tries_send _ state).bind ((Action.tries_log ..).bind keeps),
    same ▸ owns.added key table told⟩

structure Settles (answers : Program.Answers σ) (cache : σ → TableCache) (cancelled : σ → Bool)
    (account : Account) (name : String) (start : σ) (steps : List (Request × σ))
    (result : Except Failure TableClient) (final : σ) : Prop where
  stopped : result = .error (.cancelled operation) → cancelled final = true
  raised : ∀ failure, result = .error failure → cache final = cache start
  /-- The handle that is returned has just been opened, and is kept. -/
  returned : ∀ table, result = .ok table →
    (∃ opened, (.openTable account name, opened) ∈ steps ∧
      (answers (.openTable account name) opened).1 = table) ∧
    (cache final).get? (.of account name) = some table ∧
    cache final = cache start ++ [(.of account name, table)]

theorem tries_resolve (attempts : Attempts answers account name made outcomes)
    (cancels : CancelsAny answers token cancelled) (owns : OwnsCache answers cache)
    (provisioning : Provisioning) (valid : TableName.fault? name = none) {state : σ}
    (missing : (cache state).get? (.of account name) = none) (start : made state = 0) :
    ∃ tried result final,
      (provisioning.resolve account name token).Tries answers state tried result final ∧
      Course provisioning account name outcomes (provisioning.maxAttempts.1 - 1) 0 tried
        (result.map fun _ => ()) ∧
      Settles answers cache cancelled account name state
        ((provisioning.resolve account name token).run.steps answers state) result final := by
  let key : CacheKey := .of account name
  let looked := (answers (.cached key) state).2
  have untouched : cache looked = cache state := owns.others (.cached key) state nofun
  have look : (Action.send (.cached key)).Tries answers state [] (.ok none) looked := by
    have replied := owns.cached key state
    rw [missing] at replied
    exact replied ▸ Action.tries_send (.cached key) state
  have counted : made looked = 0 := (attempts.others (.cached key) state nofun).trans start
  have created := follows_createTable attempts cancels provisioning
    (provisioning.maxAttempts.1 - 1) looked
  rw [counted] at created
  obtain ⟨tried, result, between, tries, course, stopped⟩ := created
  have same : cache between = cache state := by
    have same := cache_createTable owns provisioning account name token
      (provisioning.maxAttempts.1 - 1) 0 looked
    rwa [tries.run, untouched] at same
  rw [resolve_eq provisioning account token valid]
  -- The loop leaves the cache alone; only a table that has been created is kept.
  cases result with
  | error failure =>
    refine ⟨tried, .error failure, between, look.bind tries.bind_error, course, ?_⟩
    exact ⟨fun ends => stopped (by cases ends; rfl), fun _ _ => same, nofun⟩
  | ok _ =>
    rw [← same] at missing
    obtain ⟨table, final, opened, keeps, kept⟩ := tries_keepHandle owns account missing
    refine ⟨tried ++ [], .ok table, final, look.bind (tries.bind keeps), ?_, nofun, nofun, ?_⟩
    · rwa [List.append_nil]
    · rintro _ ⟨⟩
      refine ⟨⟨between, ?_, opened⟩, ?_, ?_⟩
      · exact Action.mem_steps_bind look.run (Action.mem_steps_bind tries.run List.mem_cons_self)
      · rw [kept, TableCache.get?_add, if_pos rfl, TableCache.add_of_none missing]
      · rw [kept, TableCache.add_of_none missing, same]

theorem timely_resolve (cancels : CancelsAny answers token cancelled)
    (provisioning : Provisioning) (state : σ) :
    ∀ step ∈ (provisioning.resolve account name token).run.steps answers state,
      step.1.IsService → cancelled step.2 = false := by
  intro step member service
  cases token with
  | none => exact cancels.never rfl _
  | some token =>
    have heeds := heeds_resolve (cancels.cancels token rfl) provisioning account name
    exact (heeds.run state trivial).1 step member service

theorem eq_error_of_map {α : Type} {result : Except Failure α} {failure : Failure}
    (mapped : result.map (fun _ => ()) = .error failure) : result = .error failure := by
  cases result with
  | ok value => cases mapped
  | error failure => exact congrArg _ (Except.error.inj mapped)

/-- A run for a table is as its budget allows.  It is told by its steps and how it ends. -/
structure IsBudgeted (answers : Program.Answers σ) (cache : σ → TableCache) (cancelled : σ → Bool)
    (outcomes : Nat → Except ForeignError Unit) (provisioning : Provisioning) (account : Account)
    (name : String) (start : σ) (steps : List (Request × σ)) (result : Except Failure TableClient)
    (final : σ) : Prop
    extends Settles answers cache cancelled account name start steps result final where
  course : WithinBudget provisioning account name outcomes (Request.tries steps)
    (result.map fun _ => ())
  /-- No attempt begins after the cancellation. -/
  timely : ∀ step ∈ steps, step.1.IsService → cancelled step.2 = false
  created : cancelled final = false → ∀ count < provisioning.maxAttempts.1,
    (∀ i < count, IsRefusal (outcomes i)) → outcomes count = .ok () →
    Request.tries steps =
        refusals provisioning account name count ++ [.createTable account name] ∧
      ∃ table, result = .ok table
  failed : cancelled final = false → ∀ count < provisioning.maxAttempts.1,
    (∀ i < count, IsRefusal (outcomes i)) → ∀ error, outcomes count = .error error →
    error.kind.isService = false →
    Request.tries steps =
        refusals provisioning account name count ++ [.createTable account name] ∧
      result = .error (.foreign error)
  exhausted : cancelled final = false → ∀ count, count + 1 = provisioning.maxAttempts.1 →
    (∀ i < count, IsRefusal (outcomes i)) → ∀ error, outcomes count = .error error →
    error.kind.isService = true →
    Request.tries steps =
        refusals provisioning account name count ++ [.createTable account name] ∧
      result = .error (.provisioning name provisioning.maxAttempts.1 error)

/-- A run for a table that is not kept makes attempts as its budget allows, whatever they come to
and whenever the token is cancelled, and nothing is kept unless its handle is returned. -/
theorem resolve_isBudgeted (attempts : Attempts answers account name made outcomes)
    (cancels : CancelsAny answers token cancelled) (owns : OwnsCache answers cache)
    (provisioning : Provisioning) (valid : TableName.fault? name = none) {state : σ}
    (missing : (cache state).get? (.of account name) = none) (start : made state = 0) :
    let run := (provisioning.resolve account name token).run
    IsBudgeted answers cache cancelled outcomes provisioning account name state
      (run.steps answers state) (run.run answers state).1 (run.run answers state).2 := by
  obtain ⟨tried, result, final, tries, course, settles⟩ :=
    tries_resolve attempts cancels owns provisioning valid missing start
  intro run
  rw [tries.run]
  have within := course.withinBudget
  rw [← tries.tried] at within
  have unstopped (live : cancelled final = false) :
      result.map (fun _ => ()) ≠ .error (.cancelled operation) := by
    intro stopped
    exact Bool.noConfusion (live.symm.trans (settles.stopped (eq_error_of_map stopped)))
  refine ⟨settles, within, timely_resolve cancels provisioning state, ?_, ?_, ?_⟩
  · intro live count less refused outcome
    obtain ⟨tried, ended⟩ := within.created (unstopped live) less refused outcome
    cases result with
    | ok table => exact ⟨tried, table, rfl⟩
    | error failure => cases ended
  · intro live count less refused error outcome other
    obtain ⟨tried, ended⟩ := within.failed (unstopped live) less refused outcome other
    exact ⟨tried, eq_error_of_map ended⟩
  · intro live count last refused error outcome again
    obtain ⟨tried, ended⟩ := within.exhausted (unstopped live) last refused outcome again
    exact ⟨tried, eq_error_of_map ended⟩

end Resolving
end Provisioning

/-! ## A service that is rehearsed -/

structure Rehearsal where
  made : Nat := 0
  kept : TableCache := []
  cancelled : Bool := false

namespace Rehearsal

/-- Attempts come to given outcomes, and the pause after so many of them cancels the token. -/
def answers (token : Token) (outcomes : Nat → Except ForeignError Unit) (moment : Option Nat) :
    Program.Answers Rehearsal
  | .isCancelled other, now => (decide (other = token) && now.cancelled, now)
  | .cancel other, now => ((), { now with cancelled := now.cancelled || other = token })
  | .sleep _, now => ((), { now with cancelled := now.cancelled || moment = some now.made })
  | .cached key, now => (now.kept.get? key, now)
  | .keep key table, now =>
    ((now.kept.add key table).1, { now with kept := (now.kept.add key table).2 })
  | .createTable _ _, now => (outcomes now.made, { now with made := now.made + 1 })
  | .openTable account name, now => (⟨account.client, name⟩, now)
  | .log _, now => ((), now)
  | .setUpLogging _, now => (.ok (), now)
  | .getEntity _ _ _, now => (.ok none, now)
  | .startQuery _, now => (.ok .finished, now)
  | .awaitRow _ _, now => ((), now)
  | .upsert _ _ _, now => (.ok (), now)
  | .delete _ _ _, now => (.ok (), now)
  | .transact _ _, now => (.ok (), now)

variable (token : Token) (outcomes : Nat → Except ForeignError Unit) (moment : Option Nat)

theorem attempts (account : Account) (name : String) :
    Attempts (answers token outcomes moment) account name made outcomes where
  replies _ := rfl
  counts _ := rfl
  others request _ other := by
    cases request with
    | createTable account name => exact absurd rfl (other account name)
    | _ => rfl

theorem ownsCache : OwnsCache (answers token outcomes moment) kept where
  cached _ _ := rfl
  keep _ _ _ := rfl
  added _ _ _ := rfl
  others request _ other := by
    cases request with
    | keep key table => exact absurd rfl (other key table)
    | _ => rfl

theorem cancels : Cancels (answers token outcomes moment) token cancelled where
  tells now := by
    change (decide (token = token) && now.cancelled) = now.cancelled
    rw [decide_eq_true rfl, Bool.true_and]
  obeys now := by simp [answers]
  stays request now already := by
    cases request with
    | cancel other => simp [answers, already]
    | sleep seconds => simp [answers, already]
    | _ => exact already
  between request now calm silent live := by
    cases request with
    | cancel other =>
      have different : other ≠ token := fun same => silent (congrArg _ same)
      simp [answers, live, different]
    | sleep seconds => exact absurd trivial calm
    | _ => exact live

end Rehearsal

/-- Of the three attempts that the budget allows, the third is not refused. -/
theorem Provisioning.resolve_isBudgeted_third :
    let account : Account := ⟨"tables", none⟩
    let token : Token := ⟨0⟩
    let refused : ForeignError := ⟨.httpResponse, "TableBeingDeleted"⟩
    let outcomes (i : Nat) : Except ForeignError Unit := if i < 2 then .error refused else .ok ()
    let provisioning : Provisioning := { maxAttempts := ⟨3, by decide⟩ }
    let run := (provisioning.resolve account "abc" (some token)).run
    let answers := Rehearsal.answers token outcomes none
    let ended := run.run answers {}
    Request.tries (run.steps answers {}) = [
        .createTable account "abc", .sleep provisioning.retryDelay,
        .createTable account "abc", .sleep provisioning.retryDelay,
        .createTable account "abc"] ∧
      ended.1 = .ok ⟨"tables", "abc"⟩ ∧
      ended.2.kept = [(.of account "abc", ⟨"tables", "abc"⟩)] := by
  intro account token refused outcomes provisioning run answers ended
  have attempts := Rehearsal.attempts token outcomes none account "abc"
  have owns := Rehearsal.ownsCache token outcomes none
  have cancels : CancelsAny answers (some token) Rehearsal.cancelled := by
    refine ⟨?_, nofun⟩
    rintro _ ⟨⟩
    exact Rehearsal.cancels token outcomes none
  have missing : TableCache.get? (Rehearsal.kept {}) (.of account "abc") = none := rfl
  have budgeted := provisioning.resolve_isBudgeted attempts cancels owns (by decide) missing rfl
  have live : ended.2.cancelled = false := by decide +kernel
  have twice (i : Nat) (small : i < 2) : IsRefusal (outcomes i) := by
    rw [show outcomes i = .error refused from if_pos small]
    rfl
  obtain ⟨tried, table, created⟩ := budgeted.created live 2 (by decide) twice rfl
  obtain ⟨⟨_, _, rfl⟩, _, kept⟩ := budgeted.returned table created
  exact ⟨tried, created, kept⟩

end StagedTables
