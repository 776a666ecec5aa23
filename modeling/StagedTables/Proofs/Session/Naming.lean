import StagedTables.Memory
import StagedTables.Proofs.Table.Sharing

/-! # Names of tables that are asked for

Main statement: nothing is asked for under a name that the check refuses, and nothing but tables of
the name under one that it accepts.  The check accepts a word of 3 to 63 ASCII letters and digits
that begins with a letter, and lets one line feed among the 63 stand behind the word. -/
set_option autoImplicit false
namespace StagedTables

/-! ## The check -/

namespace TableName

open Text

def IsWord (cs : List Char) : Prop :=
  ∃ first rest, cs = first :: rest ∧ first.isAlpha = true ∧ ∀ c ∈ rest, c.isAlphanum = true

def HasLength (cs : List Char) : Prop := 3 ≤ cs.length ∧ cs.length ≤ 63

def IsValid (name : String) : Prop := HasLength name.toList ∧ IsWord name.toList

/-- A word with a line feed behind it, as long as a valid name in all. -/
def IsLine (name : String) : Prop :=
  HasLength name.toList ∧ ∃ word, IsWord word ∧ name.toList = word ++ ['\n']

theorem IsWord.forall_isAlphanum {cs : List Char} (word : IsWord cs) :
    ∀ c ∈ cs, c.isAlphanum = true := by
  obtain ⟨first, rest, rfl, letter, all⟩ := word
  refine List.forall_mem_cons.mpr ⟨?_, all⟩
  rw [Char.isAlphanum, letter, Bool.true_or]

theorem IsValid.not_isLine {name : String} (valid : IsValid name) : ¬ IsLine name := by
  rintro ⟨-, word, -, spelled⟩
  have lineFeed : '\n' ∈ name.toList := by
    rw [spelled]
    exact List.mem_append_right word List.mem_cons_self
  exact absurd (valid.2.forall_isAlphanum '\n' lineFeed) (by decide)

theorem isAsciiLetter_eq (c : Char) : isAsciiLetter c = c.isAlpha := by
  have upper : (decide ('A' ≤ c) && decide (c ≤ 'Z')) = c.isUpper :=
    (Bool.decide_and ..).symm.trans (decide_eq_decide.mpr Iff.rfl)
  have lower : (decide ('a' ≤ c) && decide (c ≤ 'z')) = c.isLower := rfl
  rw [isAsciiLetter, upper, lower]
  exact Bool.or_comm c.isLower c.isUpper

theorem dropWhile_eq_iff {p : Char → Bool} {cs tail : List Char}
    (stops : tail.dropWhile p = tail) :
    cs.dropWhile p = tail ↔ ∃ front, (∀ c ∈ front, p c = true) ∧ cs = front ++ tail := by
  constructor
  · rintro rfl
    exact ⟨cs.takeWhile p, List.all_eq_true.mp List.all_takeWhile,
      List.takeWhile_append_dropWhile.symm⟩
  · rintro ⟨front, all, rfl⟩
    rw [List.dropWhile_append_of_pos all, stops]

theorem hasNameForm_iff (cs : List Char) :
    hasNameForm cs = true ↔ IsWord cs ∨ ∃ word, IsWord word ∧ cs = word ++ ['\n'] := by
  -- A word, then a tail at which letters and digits end.
  have word_append_iff (tail : List Char) (stops : tail.dropWhile Char.isAlphanum = tail)
      (first : Char) (rest : List Char) :
      first.isAlpha = true ∧ rest.dropWhile Char.isAlphanum = tail ↔
        ∃ word, IsWord word ∧ first :: rest = word ++ tail := by
    rw [dropWhile_eq_iff stops]
    constructor
    · rintro ⟨letter, front, all, rfl⟩
      exact ⟨first :: front, ⟨first, front, rfl, letter, all⟩, rfl⟩
    · rintro ⟨_, ⟨_, front, rfl, letter, all⟩, same⟩
      obtain ⟨rfl, rfl⟩ := List.cons.inj same
      exact ⟨letter, front, all, rfl⟩
  cases cs with
  | nil =>
    refine iff_of_false nofun ?_
    rintro (⟨_, _, ⟨⟩, -⟩ | ⟨_, ⟨_, _, rfl, -⟩, ⟨⟩⟩)
  | cons first rest =>
    have alone := word_append_iff [] rfl first rest
    have lineFeed := word_append_iff ['\n'] rfl first rest
    have same : (fun c => isAsciiLetter c || isAsciiDigit c) = Char.isAlphanum :=
      funext fun c => congrArg (· || c.isDigit) (isAsciiLetter_eq c)
    simp only [List.append_nil, exists_eq_right'] at alone
    unfold hasNameForm
    simp only [same]
    rw [isAsciiLetter_eq, ← alone, ← lineFeed, ← and_or_left]
    simp only [Bool.and_eq_true, Bool.or_eq_true, beq_iff_eq]

theorem fault?_eq_none_iff (name : String) :
    fault? name = none ↔ IsValid name ∨ IsLine name := by
  unfold fault? IsValid IsLine
  rw [← and_or_left, ← hasNameForm_iff]
  dsimp only
  split
  · next empty =>
    refine iff_of_false nofun ?_
    rw [empty]
    exact fun accepted => absurd accepted.1.1 (by decide)
  · next nonempty =>
    split
    · next outside =>
      refine iff_of_false nofun fun accepted => ?_
      have length := accepted.1
      unfold lengthMin lengthMax at outside
      unfold HasLength at length
      omega
    · next inside =>
      have length : HasLength name.toList := by
        unfold lengthMin lengthMax at inside
        exact ⟨by omega, by omega⟩
      split
      · next form => exact iff_of_true rfl ⟨length, form⟩
      · next other => exact iff_of_false nofun fun accepted => other accepted.2

end TableName

/-! ## What is asked for -/

def Request.IsFor (name : String) : Request → Prop
  | createTable _ asked => asked = name
  | openTable _ asked => asked = name
  | cached key => ∃ account, key = .of account name
  | keep key _ => ∃ account, key = .of account name
  | request => request.IsAside

def Contract.naming (name : String) : Contract := .only (Request.IsFor name)

section Naming

variable {name : String} {fault : TableName.Fault}

theorem Contract.permitsAside_naming : (naming name).PermitsAside := by
  intro request isAside
  cases request with
  | isCancelled | cancel | log | setUpLogging | sleep => exact trivial
  | _ => exact isAside.elim

theorem Provisioning.naming_resolve (provisioning : Provisioning) (account : Account)
    (name : String) (token : Option Token) :
    Action.Keeps (.naming name) (fun _ => True) (provisioning.resolve account name token) := by
  apply keeps_resolve_of Contract.permitsAside_naming
  · exact Action.keeps_send (.cached (.of account name)) ⟨account, rfl⟩ fun _ _ _ _ => trivial
  · exact rfl
  · exact Action.keeps_request (.openTable account name) rfl
  · exact fun table _ => Action.keeps_request (.keep (.of account name) table) ⟨account, rfl⟩

theorem Session.naming_selectOn (session : Session) (target : AccountTable) (account : Account)
    (name : String) :
    Action.Keeps (.naming name) (fun _ => True) (session.selectOn target account name) :=
  (session.provisioning.naming_resolve ..).bind fun _ _ => Action.keeps_pure trivial

theorem Session.naming_select (session : Session) (name : String) :
    Action.Keeps (.naming name) (fun _ => True) (session.select name) := by
  unfold select
  refine (Action.keeps_liftM _).bind fun storage _ => ?_
  split
  · exact Action.keeps_throw _
  · refine (naming_selectOn ..).bind fun prod _ => ?_
    split
    · exact Action.keeps_pure trivial
    · split
      · exact Action.keeps_throw _
      · exact (naming_selectOn ..).bind fun dev _ => Action.keeps_pure trivial

def Session.prodAccount? (session : Session) : Option Account :=
  session.storage.bind (·.prod.account)

theorem Session.selectOn_of_fault (faulty : TableName.fault? name = some fault)
    (session : Session) (target : AccountTable) (account : Account) :
    session.selectOn target account name = throw (.tableName name fault) := by
  unfold selectOn
  rw [Provisioning.resolve_of_fault faulty]
  rfl

/-- A session that is not connected says so before it looks at the name. -/
theorem Session.select_of_fault (faulty : TableName.fault? name = some fault)
    (session : Session) :
    session.select name = throw (if session.prodAccount?.isSome then .tableName name fault
      else .misuse .notConnected) := by
  unfold select requireStorage prodAccount?
  cases session.storage with
  | none => rfl
  | some storage =>
    have found : (liftM (.ok storage : Except Failure Storage) : Action Storage) = pure storage :=
      rfl
    rw [found, pure_bind, Option.bind_some]
    cases storage.prod.account with
    | none => rfl
    | some account =>
      dsimp only
      rw [selectOn_of_fault faulty]
      rfl

/-- An action for tables of one name.  Under a name that the check refuses it fails and has asked
for nothing; under any other name it asks for nothing but tables of that name. -/
structure Action.IsGuarded {α : Type} (name : String) (failure : TableName.Fault → Failure)
    (action : Action α) : Prop where
  refused : ∀ fault, TableName.fault? name = some fault →
    ∀ {σ : Type} (answers : Program.Answers σ) (state : σ),
      action.run.requests answers state = [] ∧
        action.run.run answers state = (.error (failure fault), state)
  accepted : ∀ {σ : Type} (answers : Program.Answers σ) (state : σ),
    ∀ request ∈ action.run.requests answers state,
      TableName.fault? name = none ∧ request.IsFor name

theorem Action.isGuarded {α : Type} {failure : TableName.Fault → Failure} {action : Action α}
    (kept : Action.Keeps (.naming name) (fun _ => True) action)
    (fails : ∀ fault, TableName.fault? name = some fault → action = throw (failure fault)) :
    action.IsGuarded name failure := by
  constructor
  · intro fault faulty σ answers state
    rw [fails fault faulty]
    exact ⟨rfl, rfl⟩
  · intro σ answers state request member
    have always : (Contract.naming name).IsKeptBy answers fun _ => True :=
      fun _ _ _ _ => ⟨trivial, trivial⟩
    refine ⟨?_, (kept.run.run always trivial).2.2 request member⟩
    cases faulty : TableName.fault? name with
    | none => rfl
    | some fault =>
      rw [fails fault faulty] at member
      cases member

end Naming

/-- The check of names stands before the service: under a name that it refuses an action for a table
fails before it has asked for anything, under any other it asks for nothing but that table.  It
accepts exactly the valid names as long as no line feed is behind them. -/
theorem TableName.check_guards_service (name : String) :
    ((fault? name = none ↔ IsValid name) ↔ ¬ IsLine name) ∧
    (fault? name = none ↔ IsValid name ∨ IsLine name) ∧
    (∀ (provisioning : Provisioning) account token,
      (provisioning.resolve account name token).IsGuarded name (.tableName name)) ∧
    ∀ session : Session, (session.select name).IsGuarded name fun fault =>
      if session.prodAccount?.isSome then .tableName name fault else .misuse .notConnected := by
  have accepts := fault?_eq_none_iff name
  refine ⟨⟨?_, ?_⟩, accepts, ?_, ?_⟩
  · intro faithful line
    exact (faithful.mp (accepts.mpr (.inr line))).not_isLine line
  · intro broken
    rw [accepts, or_iff_left broken]
  · intro provisioning account token
    refine Action.isGuarded (provisioning.naming_resolve account name token) fun fault faulty => ?_
    exact Provisioning.resolve_of_fault faulty provisioning account token
  · intro session
    refine Action.isGuarded (session.naming_select name) fun fault faulty => ?_
    exact Session.select_of_fault faulty session

/-- A table is created under a word with a line feed behind it. -/
theorem TableName.check_passes_line_feed :
    let account : Account := ⟨"tables", none⟩
    let run := (({} : Provisioning).resolve account "abc\n" none).run
    fault? "abc\n" = none ∧ ¬ IsValid "abc\n" ∧
      .createTable account "abc\n" ∈
        run.requests Memory.answers (Memory.fresh (Double.ofDecimal false 0 0)) := by
  intro account run
  have passes : fault? "abc\n" = none := by decide
  refine ⟨passes, fun valid => ?_, ?_⟩
  · exact absurd (valid.2.forall_isAlphanum '\n' (by decide)) (by decide)
  · unfold run Provisioning.resolve
    rw [passes, Provisioning.createTable_eq]
    exact .tail _ (.head _)

end StagedTables
