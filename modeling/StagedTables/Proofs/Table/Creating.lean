import StagedTables.Proofs.Program.Contract
import StagedTables.Session.Table

/-! # Creating tables

The loop by which a table is created, with names for its parts, and what follows for all that is
said of it: what an attempt, a pause and a line in the log keep holds of the loop. -/
set_option autoImplicit false
namespace StagedTables.Provisioning

/-! ## The loop -/

section Loop

variable {account : Account} {name : String} {token : Option Token}

def afterRefusal (provisioning : Provisioning) (account : Account) (name : String)
    (token : Option Token) (attempt : Nat) (error : ForeignError) : Nat → Action Unit
  | 0 => do
    logger.error s!"Could not create table '{name}' after {attempt} attempt(s): {error.message}"
    throw (.provisioning name attempt error)
  | more + 1 => do
    let attempts := provisioning.maxAttempts.1
    let delay := provisioning.retryDelay
    let place := s!"Table '{name}' not available yet (attempt {attempt}/{attempts})"
    logger.warning s!"{place}, retrying in {delay.text}s: {error.message}"
    let _ ← Action.send (.sleep delay)
    provisioning.createTable account name token more attempt

def afterAttempt (provisioning : Provisioning) (account : Account) (name : String)
    (token : Option Token) (more before : Nat) : Except ForeignError Unit → Action Unit
  | .ok _ => pure ()
  | .error error =>
    if error.kind.isService then
      provisioning.afterRefusal account name token (before + 1) error more
    else throw (.foreign error)

theorem createTable_eq (provisioning : Provisioning) (account : Account) (name : String)
    (token : Option Token) (more before : Nat) :
    provisioning.createTable account name token more before = (do
      checkToken token
      let reply : Except ForeignError Unit ← Action.send (.createTable account name)
      provisioning.afterAttempt account name token more before reply) := by
  cases more
  all_goals
    rw [createTable]
    refine bind_congr fun _ => bind_congr fun reply => ?_
    cases reply with
    | ok _ => rfl
    | error error =>
      dsimp only [afterAttempt]
      cases error.kind.isService <;> rfl

/-- What holds of the ends of the loop and is kept by its parts holds of the loop. -/
theorem createTable_rule {P : Action Unit → Prop} {provisioning : Provisioning}
    (attempt : ∀ next : Except ForeignError Unit → Action Unit, (∀ reply, P (next reply)) →
      P (do
        checkToken token
        let reply : Except ForeignError Unit ← Action.send (.createTable account name)
        next reply))
    (ends : P (pure ())) (fails : ∀ failure, P (throw failure))
    (logs : ∀ level message next, P next → P (do logger.log level message; next))
    (pauses : ∀ next, P next → P (do
      let _ ← Action.send (.sleep provisioning.retryDelay)
      next))
    (more before : Nat) : P (provisioning.createTable account name token more before) := by
  have step (more before : Nat) (refused : ∀ error,
      P (provisioning.afterRefusal account name token (before + 1) error more)) :
      P (provisioning.createTable account name token more before) := by
    rw [createTable_eq]
    refine attempt _ fun reply => ?_
    cases reply with
    | ok _ => exact ends
    | error error =>
      dsimp only [afterAttempt]
      split
      · exact refused error
      · exact fails _
  induction more generalizing before with
  | zero => exact step 0 before fun _ => logs _ _ _ (fails _)
  | succ more ih => exact step (more + 1) before fun _ => logs _ _ _ (pauses _ (ih _))

end Loop

/-! ## Around the loop -/

def keepHandle (account : Account) (name : String) : Action TableClient := do
  let table : TableClient ← Action.send (.openTable account name)
  logger.debug s!"Resolved table '{name}' on {account.key.text}"
  Action.send (.keep (.of account name) table)

theorem resolve_of_fault {name : String} {fault : TableName.Fault}
    (faulty : TableName.fault? name = some fault) (provisioning : Provisioning)
    (account : Account) (token : Option Token) :
    provisioning.resolve account name token = throw (.tableName name fault) := by
  unfold resolve
  rw [faulty]
  rfl

theorem resolve_eq {name : String} (provisioning : Provisioning) (account : Account)
    (token : Option Token) (valid : TableName.fault? name = none) :
    provisioning.resolve account name token = (do
      let kept : Option TableClient ← Action.send (.cached (.of account name))
      match kept with
      | some table => return table
      | none =>
        provisioning.createTable account name token (provisioning.maxAttempts.1 - 1) 0
        keepHandle account name) := by
  unfold resolve
  rw [valid]
  rfl

/-! ## Contracts -/

section Contracts

variable {contract : Contract}

theorem keeps_createTable (aside : contract.PermitsAside) (provisioning : Provisioning)
    (account : Account) (name : String) (creates : contract.Permits (.createTable account name))
    (token : Option Token) (more before : Nat) :
    Action.Keeps contract (fun _ => True)
      (provisioning.createTable account name token more before) := by
  have checked : Action.Keeps contract (fun _ => True) (checkToken token) := by
    cases token with
    | none => exact Action.keeps_pure trivial
    | some token => exact Action.keeps_raiseIfCancelled aside token operation
  have created := Action.keeps_request _ creates
  have slept := Action.keeps_request _ (aside (.sleep provisioning.retryDelay) trivial)
  apply createTable_rule (P := Action.Keeps contract fun _ => True)
  · intro next rest
    exact checked.bind fun _ _ => created.bind fun reply _ => rest reply
  · exact Action.keeps_pure trivial
  · exact fun failure => Action.keeps_throw failure
  · intro level message next rest
    exact (Action.keeps_log aside ..).bind fun _ _ => rest
  · intro next rest
    exact slept.bind fun _ _ => rest

theorem keeps_resolve_of {good : TableClient → Prop} {account : Account} {name : String}
    (aside : contract.PermitsAside)
    (looked : Action.Keeps contract (fun kept => ∀ table, kept = some table → good table)
      (Action.send (.cached (.of account name))))
    (creates : contract.Permits (.createTable account name))
    (opened : Action.Keeps contract good (Action.send (.openTable account name)))
    (keeps : ∀ table, good table →
      Action.Keeps contract good (Action.send (.keep (.of account name) table)))
    (provisioning : Provisioning) (token : Option Token) :
    Action.Keeps contract good (provisioning.resolve account name token) := by
  cases valid : TableName.fault? name with
  | some fault =>
    rw [resolve_of_fault valid]
    exact Action.keeps_throw _
  | none =>
    rw [resolve_eq provisioning account token valid]
    refine looked.bind fun kept holds => ?_
    cases kept with
    | some table => exact Action.keeps_pure (holds table rfl)
    | none =>
      refine (keeps_createTable aside _ _ _ creates ..).bind fun _ _ => ?_
      refine opened.bind fun table holds => (Action.keeps_log aside ..).bind fun _ _ => ?_
      exact keeps table holds

end Contracts
end StagedTables.Provisioning
