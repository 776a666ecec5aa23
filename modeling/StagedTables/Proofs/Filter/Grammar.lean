import Mathlib.Data.List.Forall2
import StagedTables.Filter.Parser

/-! # The grammar of filters

`LiteralValue lexeme value`: the lexeme is a literal of that value.  `Derives n ts f`: the tokens
`ts` form a phrase of the nonterminal `n`, every literal in them has a value, and `f` is the tree of
the phrase.  A phrase of `and` or of `or` grows to the right, so that
equal operators associate to the left; `not` takes the shortest operand and `or` the longest.

The reader follows the grammar in both directions.  `runs_of_derives`: it reads a phrase and goes on
with its tree.  `Reading.step`: whatever it has read so far, the frames it still holds open and the
operand it has are the trees of consecutive parts of it. -/
set_option autoImplicit false
namespace StagedTables.Filter

/-- The value of a literal: integers in their ranges, and quoted bodies that can be read. -/
inductive LiteralValue : Lexeme → Value → Prop
  | string (body : String) : LiteralValue (.string body) (.text body)
  | integer {n : Int} (fits : FitsInt32 n) : LiteralValue (.integer n) (.integer n)
  | long {n : Int} (fits : FitsInt64 n) : LiteralValue (.long n) (.typed .int64 (.integer n))
  | float (x : Double) : LiteralValue (.float x) (.double x)
  | boolean (b : Bool) : LiteralValue (.boolean b) (.boolean b)
  | dateTime {body : String} {d : Calendar.DateTime}
      (decoded : DateTimeLiteral.decode body = .ok d) :
      LiteralValue (.quoted .dateTime body) (.dateTime d)
  | guid {body : String} {u : Uuid} (read : Uuid.read body = .ok u) :
      LiteralValue (.quoted .guid body) (.uuid u)
  | binary (body : String) :
      LiteralValue (.quoted .binary body) (.bytes .constant (Text.bytesOfHex body.toList))

inductive Nonterminal where
  | disjunction
  | conjunction
  | negation
  | primary
  deriving DecidableEq, Repr

inductive Derives : Nonterminal → List Token → Filter → Prop
  | comparison {name operator literal : Token} {column spelling : String}
      {comparison : Comparison} {value : Value}
      (named : name.lexeme = .identifier column)
      (compared : operator.lexeme = .comparison comparison spelling)
      (decoded : LiteralValue literal.lexeme value) :
      Derives .primary [name, operator, literal] (.column column comparison value)
  | group {left right : Token} {ts : List Token} {f : Filter}
      (opened : left.lexeme = .leftParenthesis) (closed : right.lexeme = .rightParenthesis)
      (inner : Derives .disjunction ts f) :
      Derives .primary (left :: (ts ++ [right])) f
  | not {mark : Token} {spelling : String} {ts : List Token} {f : Filter}
      (marked : mark.lexeme = .negation spelling) (operand : Derives .negation ts f) :
      Derives .negation (mark :: ts) (.not f)
  | primary {ts : List Token} {f : Filter} (operand : Derives .primary ts f) :
      Derives .negation ts f
  | and {mark : Token} {spelling : String} {ts us : List Token} {f g : Filter}
      (left : Derives .conjunction ts f) (marked : mark.lexeme = .connective .and spelling)
      (right : Derives .negation us g) :
      Derives .conjunction (ts ++ mark :: us) (.and f g)
  | negation {ts : List Token} {f : Filter} (operand : Derives .negation ts f) :
      Derives .conjunction ts f
  | or {mark : Token} {spelling : String} {ts us : List Token} {f g : Filter}
      (left : Derives .disjunction ts f) (marked : mark.lexeme = .connective .or spelling)
      (right : Derives .conjunction us g) :
      Derives .disjunction (ts ++ mark :: us) (.or f g)
  | conjunction {ts : List Token} {f : Filter} (operand : Derives .conjunction ts f) :
      Derives .disjunction ts f

/-- The tokens of a whole text denote a filter: none but the end of the text the empty one, and a
disjunction before the end its tree. -/
inductive Denotes : List Token → Filter → Prop
  | empty {stop : Token} (stopped : stop.lexeme = .endOfText) : Denotes [stop] .empty
  | phrase {ts : List Token} {stop : Token} {f : Filter} (stopped : stop.lexeme = .endOfText)
      (derived : Derives .disjunction ts f) : Denotes (ts ++ [stop]) f

/-- Wherever the second lexeme stands in a phrase, the first can, with the same meaning. -/
structure Lexeme.StandsFor (other lexeme : Lexeme) : Prop where
  identifier : ∀ name, lexeme = .identifier name → other = .identifier name
  comparison : ∀ operator spelling, lexeme = .comparison operator spelling →
    ∃ spelling', other = .comparison operator spelling'
  connective : ∀ operator spelling, lexeme = .connective operator spelling →
    ∃ spelling', other = .connective operator spelling'
  negation : ∀ spelling, lexeme = .negation spelling → ∃ spelling', other = .negation spelling'
  leftParenthesis : lexeme = .leftParenthesis → other = .leftParenthesis
  rightParenthesis : lexeme = .rightParenthesis → other = .rightParenthesis
  endOfText : lexeme = .endOfText → other = .endOfText
  literal : ∀ value, LiteralValue lexeme value → LiteralValue other value

theorem Lexeme.standsFor_refl (lexeme : Lexeme) : lexeme.StandsFor lexeme where
  identifier _ := id
  comparison _ spelling same := ⟨spelling, same⟩
  connective _ spelling same := ⟨spelling, same⟩
  negation spelling same := ⟨spelling, same⟩
  leftParenthesis := id
  rightParenthesis := id
  endOfText := id
  literal _ := id

def StandFor : List Token → List Token → Prop :=
  List.Forall₂ fun other token => other.lexeme.StandsFor token.lexeme

theorem StandFor.append {us ts vs : List Token} (stand : StandFor us (ts ++ vs)) :
    ∃ first last, us = first ++ last ∧ StandFor first ts ∧ StandFor last vs :=
  ⟨_, _, (List.take_append_drop ts.length us).symm, List.forall₂_take_append _ _ _ stand,
    List.forall₂_drop_append _ _ _ stand⟩

theorem StandFor.cons {us ts : List Token} {token : Token} (stand : StandFor us (token :: ts)) :
    ∃ other rest, us = other :: rest ∧ other.lexeme.StandsFor token.lexeme ∧ StandFor rest ts := by
  obtain ⟨other, rest, first, last, shape⟩ := List.forall₂_cons_right_iff.mp stand
  exact ⟨other, rest, shape, first, last⟩

theorem StandFor.nil {us : List Token} (stand : StandFor us []) : us = [] :=
  List.forall₂_nil_right_iff.mp stand

theorem standFor_of_lexemes {us ts : List Token}
    (same : us.map Token.lexeme = ts.map Token.lexeme) :
    StandFor us ts := by
  rw [← List.forall₂_eq_eq_eq, List.forall₂_map_left_iff, List.forall₂_map_right_iff] at same
  exact same.imp fun _ _ same => same ▸ Lexeme.standsFor_refl _

theorem Derives.of_standFor {n : Nonterminal} {ts us : List Token} {f : Filter}
    (derived : Derives n ts f) (stand : StandFor us ts) : Derives n us f := by
  induction derived generalizing us with
  | comparison named compared decoded =>
    obtain ⟨name, us, rfl, first, stand⟩ := stand.cons
    obtain ⟨operator, us, rfl, second, stand⟩ := stand.cons
    obtain ⟨literal, us, rfl, third, stand⟩ := stand.cons
    obtain ⟨spelling, compared⟩ := second.comparison _ _ compared
    cases stand.nil
    exact .comparison (first.identifier _ named) compared (third.literal _ decoded)
  | group opened closed _ ih =>
    obtain ⟨left, us, rfl, first, stand⟩ := stand.cons
    obtain ⟨inner, last, rfl, inside, stand⟩ := stand.append
    obtain ⟨right, last, rfl, final, stand⟩ := stand.cons
    cases stand.nil
    exact .group (first.leftParenthesis opened) (final.rightParenthesis closed) (ih inside)
  | not marked _ ih =>
    obtain ⟨mark, us, rfl, first, stand⟩ := stand.cons
    obtain ⟨spelling, marked⟩ := first.negation _ marked
    exact .not marked (ih stand)
  | primary _ ih => exact .primary (ih stand)
  | and _ marked _ leftIh rightIh =>
    obtain ⟨left, right, rfl, first, stand⟩ := stand.append
    obtain ⟨mark, right, rfl, middle, last⟩ := stand.cons
    obtain ⟨spelling, marked⟩ := middle.connective _ _ marked
    exact .and (leftIh first) marked (rightIh last)
  | negation _ ih => exact .negation (ih stand)
  | or _ marked _ leftIh rightIh =>
    obtain ⟨left, right, rfl, first, stand⟩ := stand.append
    obtain ⟨mark, right, rfl, middle, last⟩ := stand.cons
    obtain ⟨spelling, marked⟩ := middle.connective _ _ marked
    exact .or (leftIh first) marked (rightIh last)
  | conjunction _ ih => exact .conjunction (ih stand)

theorem Denotes.of_standFor {ts us : List Token} {f : Filter} (denoted : Denotes ts f)
    (stand : StandFor us ts) : Denotes us f := by
  cases denoted with
  | empty stopped =>
    obtain ⟨stop, us, rfl, last, stand⟩ := stand.cons
    cases stand.nil
    exact .empty (last.endOfText stopped)
  | phrase stopped derived =>
    obtain ⟨body, us, rfl, inside, stand⟩ := stand.append
    obtain ⟨stop, us, rfl, last, stand⟩ := stand.cons
    cases stand.nil
    exact .phrase (last.endOfText stopped) (derived.of_standFor inside)

/-! ## Literals -/

theorem decodeLiteral_of_literalValue {token : Token} {value : Value}
    (decoded : LiteralValue token.lexeme value) : decodeLiteral token = .ok value := by
  generalize lexeme : token.lexeme = found at decoded
  cases decoded with
  | string | float | boolean | binary => simp only [decodeLiteral, lexeme]
  | integer fits => simp only [decodeLiteral, lexeme, if_pos fits]
  | long fits => simp only [decodeLiteral, lexeme, if_pos fits]
  | dateTime decoded => simp only [decodeLiteral, lexeme, decoded]
  | guid read => simp only [decodeLiteral, lexeme, read]

theorem literalValue_of_decodeLiteral {token : Token} {value : Value}
    (decoded : decodeLiteral token = .ok value) : LiteralValue token.lexeme value := by
  simp only [decodeLiteral] at decoded
  split at decoded
  · next body lexeme => cases decoded; exact lexeme ▸ .string body
  · next n lexeme =>
    split at decoded
    · next fits => cases decoded; exact lexeme ▸ .integer fits
    · cases decoded
  · next n lexeme =>
    split at decoded
    · next fits => cases decoded; exact lexeme ▸ .long fits
    · cases decoded
  · next x lexeme => cases decoded; exact lexeme ▸ .float x
  · next b lexeme => cases decoded; exact lexeme ▸ .boolean b
  · next body lexeme =>
    split at decoded
    · next d read => cases decoded; exact lexeme ▸ .dateTime read
    · cases decoded
    · cases decoded
  · next body lexeme =>
    split at decoded
    · next u read => cases decoded; exact lexeme ▸ .guid read
    · cases decoded
  · next body lexeme => cases decoded; exact lexeme ▸ .binary body
  · cases decoded

/-! ## Runs of the reader -/

theorem parseFrom_cons (state : ParserState) (token : Token) (ts : List Token) :
    parseFrom state (token :: ts) = (state.step token).bind (parseFrom · ts) := rfl

theorem parseFrom_append (state : ParserState) (ts us : List Token) :
    parseFrom state (ts ++ us) = (parseFrom state ts).bind (parseFrom · us) :=
  List.foldlM_append

theorem parseFrom_append_of_ok {state middle : ParserState} {ts : List Token}
    (run : parseFrom state ts = .ok middle) (us : List Token) :
    parseFrom state (ts ++ us) = parseFrom middle us := by
  rw [parseFrom_append, run]
  rfl

theorem parseFrom_singleton (state : ParserState) (token : Token) :
    parseFrom state [token] = state.step token := by
  rw [parseFrom_cons]
  cases state.step token <;> rfl

/-! ## Stacks on which an operand is complete -/

def TakesConjunction : List Frame → Prop
  | .negation :: _ => False
  | .conjunction _ :: _ => False
  | _ => True

def TakesDisjunction : List Frame → Prop
  | [] => True
  | .group :: _ => True
  | _ => False

theorem TakesDisjunction.takesConjunction {stack : List Frame} (takes : TakesDisjunction stack) :
    TakesConjunction stack := by
  cases stack with
  | nil => trivial
  | cons frame stack => cases frame <;> trivial

theorem TakesDisjunction.eq_nil_or_group {stack : List Frame} (takes : TakesDisjunction stack) :
    stack = [] ∨ ∃ below, stack = .group :: below := by
  cases stack with
  | nil => exact .inl rfl
  | cons frame below =>
    cases frame with
    | group => exact .inr ⟨below, rfl⟩
    | _ => exact takes.elim

theorem joinTight_of_takesConjunction {stack : List Frame} (takes : TakesConjunction stack)
    (operand : Filter) : joinTight stack operand = (stack, operand) := by
  cases stack with
  | nil => rfl
  | cons frame stack => cases frame <;> first | rfl | exact takes.elim

theorem complete_of_takesConjunction {stack : List Frame} (takes : TakesConjunction stack)
    (operand : Filter) : ParserState.complete stack operand = ⟨stack, .continuation operand⟩ := by
  simp [ParserState.complete, joinTight_of_takesConjunction takes]

theorem joinLoose_of_takesDisjunction {stack : List Frame} (takes : TakesDisjunction stack)
    (operand : Filter) : joinLoose stack operand = (stack, operand) := by
  cases stack with
  | nil => rfl
  | cons frame stack => cases frame <;> first | rfl | exact takes.elim

theorem complete_negation (stack : List Frame) (operand : Filter) :
    ParserState.complete (.negation :: stack) operand = ParserState.complete stack (.not operand) :=
  rfl

theorem complete_conjunction {stack : List Frame} (takes : TakesConjunction stack)
    (left operand : Filter) :
    ParserState.complete (.conjunction left :: stack) operand =
      ⟨stack, .continuation (.and left operand)⟩ := by
  rw [← complete_of_takesConjunction takes]
  rfl

/-! ## The reader reads every phrase -/

/-- What reading a phrase of a nonterminal comes to, on a stack that takes it. -/
def Runs : Nonterminal → List Token → Filter → Prop
  | .disjunction, ts, f => ∀ stack, TakesDisjunction stack → ∃ stack' f',
      parseFrom ⟨stack, .operand⟩ ts = .ok ⟨stack', .continuation f'⟩ ∧
        joinLoose stack' f' = (stack, f)
  | .conjunction, ts, f => ∀ stack, TakesConjunction stack →
      parseFrom ⟨stack, .operand⟩ ts = .ok ⟨stack, .continuation f⟩
  | _, ts, f => ∀ stack, parseFrom ⟨stack, .operand⟩ ts = .ok (.complete stack f)

theorem step_negation {mark : Token} {spelling : String}
    (marked : mark.lexeme = .negation spelling) (stack : List Frame) :
    ParserState.step ⟨stack, .operand⟩ mark = .ok ⟨.negation :: stack, .operand⟩ := by
  simp [ParserState.step, ParserState.stepOperand, marked]

theorem step_leftParenthesis {left : Token} (opened : left.lexeme = .leftParenthesis)
    (stack : List Frame) :
    ParserState.step ⟨stack, .operand⟩ left = .ok ⟨.group :: stack, .operand⟩ := by
  simp [ParserState.step, ParserState.stepOperand, opened]

theorem step_and {mark : Token} {spelling : String}
    (marked : mark.lexeme = .connective .and spelling) (stack : List Frame) (f : Filter) :
    ParserState.step ⟨stack, .continuation f⟩ mark = .ok ⟨.conjunction f :: stack, .operand⟩ := by
  simp [ParserState.step, ParserState.stepContinuation, marked]

theorem step_or {mark : Token} {spelling : String}
    (marked : mark.lexeme = .connective .or spelling) {stack stack' : List Frame} {f f' : Filter}
    (joined : joinLoose stack f = (stack', f')) :
    ParserState.step ⟨stack, .continuation f⟩ mark =
      .ok ⟨.disjunction f' :: stack', .operand⟩ := by
  simp [ParserState.step, ParserState.stepContinuation, marked, joined]

theorem step_rightParenthesis {right : Token} (closed : right.lexeme = .rightParenthesis)
    {stack stack' : List Frame} {f f' : Filter}
    (joined : joinLoose stack f = (.group :: stack', f')) :
    ParserState.step ⟨stack, .continuation f⟩ right = .ok (.complete stack' f') := by
  simp [ParserState.step, ParserState.stepContinuation, closed, joined]

theorem step_endOfText {stop : Token} (stopped : stop.lexeme = .endOfText)
    {stack : List Frame} {f f' : Filter} (joined : joinLoose stack f = ([], f')) :
    ParserState.step ⟨stack, .continuation f⟩ stop = .ok ⟨[], .nothing f'⟩ := by
  simp [ParserState.step, ParserState.stepContinuation, stopped, joined]

theorem step_identifier {name : Token} {column : String}
    (named : name.lexeme = .identifier column) (stack : List Frame) :
    ParserState.step ⟨stack, .operand⟩ name = .ok ⟨stack, .comparison column⟩ := by
  simp [ParserState.step, ParserState.stepOperand, named]

theorem step_comparison {operator : Token} {spelling : String} {comparison : Comparison}
    (compared : operator.lexeme = .comparison comparison spelling) (stack : List Frame)
    (column : String) : ParserState.step ⟨stack, .comparison column⟩ operator =
      .ok ⟨stack, .literal column comparison⟩ := by
  simp [ParserState.step, compared]

theorem parseFrom_beforeLiteral {name operator : Token} {column spelling : String}
    {comparison : Comparison} (named : name.lexeme = .identifier column)
    (compared : operator.lexeme = .comparison comparison spelling) (stack : List Frame) :
    parseFrom ⟨stack, .operand⟩ [name, operator] = .ok ⟨stack, .literal column comparison⟩ := by
  rw [parseFrom_cons, step_identifier named]
  simp only [Except.bind]
  rw [parseFrom_singleton, step_comparison compared]

theorem step_literal {literal : Token} {value : Value}
    (decoded : LiteralValue literal.lexeme value) (stack : List Frame) (column : String)
    (comparison : Comparison) : ParserState.step ⟨stack, .literal column comparison⟩ literal =
      .ok (.complete stack (.column column comparison value)) := by
  simp only [ParserState.step, decodeLiteral_of_literalValue decoded]
  rfl

theorem parseFrom_comparison {name operator literal : Token} {column spelling : String}
    {comparison : Comparison} {value : Value} (named : name.lexeme = .identifier column)
    (compared : operator.lexeme = .comparison comparison spelling)
    (decoded : LiteralValue literal.lexeme value) (stack : List Frame) :
    parseFrom ⟨stack, .operand⟩ [name, operator, literal] =
      .ok (.complete stack (.column column comparison value)) := by
  have before := parseFrom_beforeLiteral named compared stack
  rw [show [name, operator, literal] = [name, operator] ++ [literal] from rfl,
    parseFrom_append_of_ok before, parseFrom_singleton, step_literal decoded]

theorem runs_of_derives {n : Nonterminal} {ts : List Token} {f : Filter}
    (derived : Derives n ts f) : Runs n ts f := by
  -- a disjunction leaves its last conjunction open, so its run ends before the two are joined
  induction derived with
  | comparison named compared decoded => exact parseFrom_comparison named compared decoded
  | @group left right ts f opened closed _ ih =>
    intro stack
    obtain ⟨stack', f', run, joined⟩ := ih (.group :: stack) trivial
    rw [parseFrom_cons, step_leftParenthesis opened]
    simp only [Except.bind]
    rw [parseFrom_append_of_ok run, parseFrom_singleton, step_rightParenthesis closed joined]
  | not marked _ ih =>
    intro stack
    rw [parseFrom_cons, step_negation marked]
    exact ih (.negation :: stack)
  | primary _ ih => exact ih
  | @and mark spelling ts us f g _ marked _ leftRun rightRun =>
    intro stack takes
    rw [parseFrom_append_of_ok (leftRun stack takes), parseFrom_cons, step_and marked]
    simp only [Except.bind]
    rw [rightRun (.conjunction f :: stack), complete_conjunction takes]
  | negation _ ih =>
    intro stack takes
    rw [ih stack, complete_of_takesConjunction takes]
  | @or mark spelling ts us f g _ marked _ leftRun rightRun =>
    intro stack takes
    obtain ⟨stack', f', run, joined⟩ := leftRun stack takes
    refine ⟨.disjunction f :: stack, g, ?_, rfl⟩
    rw [parseFrom_append_of_ok run, parseFrom_cons, step_or marked joined]
    exact rightRun (.disjunction f :: stack) trivial
  | @conjunction ts f _ ih =>
    intro stack takes
    exact ⟨stack, f, ih stack takes.takesConjunction, joinLoose_of_takesDisjunction takes f⟩

theorem parseTokens_of_parseFrom {ts : List Token} {stack : List Frame} {f : Filter}
    (run : parseFrom .start ts = .ok ⟨stack, .nothing f⟩) : parseTokens ts = .ok f := by
  unfold parseTokens
  rw [run]
  rfl

theorem parseTokens_of_denotes {ts : List Token} {f : Filter} (denoted : Denotes ts f) :
    parseTokens ts = .ok f := by
  cases denoted with
  | @empty stop stopped =>
    have stepped : ParserState.start.step stop = .ok ⟨[], .nothing .empty⟩ := by
      simp [ParserState.start, ParserState.step, ParserState.stepOperand, stopped]
    exact parseTokens_of_parseFrom (by rw [parseFrom_singleton, stepped])
  | @phrase ts stop _ stopped derived =>
    obtain ⟨stack', f', run, joined⟩ := runs_of_derives derived [] trivial
    have whole : parseFrom .start (ts ++ [stop]) = .ok ⟨[], .nothing f⟩ := by
      rw [ParserState.start, parseFrom_append_of_ok run, parseFrom_singleton,
        step_endOfText stopped joined]
    exact parseTokens_of_parseFrom whole

/-! ## What has been read so far -/

/-- The open frames, and the tokens that opened them. -/
inductive Pending : List Frame → List Token → Prop
  | none : Pending [] []
  | group {stack : List Frame} {ts : List Token} {left : Token} (below : Pending stack ts)
      (opened : left.lexeme = .leftParenthesis) : Pending (.group :: stack) (ts ++ [left])
  | negation {stack : List Frame} {ts : List Token} {mark : Token} {spelling : String}
      (below : Pending stack ts) (marked : mark.lexeme = .negation spelling) :
      Pending (.negation :: stack) (ts ++ [mark])
  | conjunction {stack : List Frame} {ts us : List Token} {mark : Token} {spelling : String}
      {f : Filter} (below : Pending stack ts) (takes : TakesConjunction stack)
      (left : Derives .conjunction us f) (marked : mark.lexeme = .connective .and spelling) :
      Pending (.conjunction f :: stack) (ts ++ (us ++ [mark]))
  | disjunction {stack : List Frame} {ts us : List Token} {mark : Token} {spelling : String}
      {f : Filter} (below : Pending stack ts) (takes : TakesDisjunction stack)
      (left : Derives .disjunction us f) (marked : mark.lexeme = .connective .or spelling) :
      Pending (.disjunction f :: stack) (ts ++ (us ++ [mark]))

/-- The states of a reader that has read some tokens and not the end of the text. -/
inductive Reading : ParserState → List Token → Prop
  | operand {stack : List Frame} {ts : List Token} (below : Pending stack ts) :
      Reading ⟨stack, .operand⟩ ts
  | comparison {stack : List Frame} {ts : List Token} {name : Token} {column : String}
      (below : Pending stack ts) (named : name.lexeme = .identifier column) :
      Reading ⟨stack, .comparison column⟩ (ts ++ [name])
  | literal {stack : List Frame} {ts : List Token} {name operator : Token}
      {column spelling : String} {comparison : Comparison} (below : Pending stack ts)
      (named : name.lexeme = .identifier column)
      (compared : operator.lexeme = .comparison comparison spelling) :
      Reading ⟨stack, .literal column comparison⟩ (ts ++ [name, operator])
  | continuation {stack : List Frame} {ts us : List Token} {f : Filter}
      (below : Pending stack ts) (takes : TakesConjunction stack)
      (derived : Derives .conjunction us f) : Reading ⟨stack, .continuation f⟩ (ts ++ us)

theorem Pending.eq_nil {ts : List Token} (pending : Pending [] ts) : ts = [] := by
  cases pending
  rfl

theorem Pending.complete {stack : List Frame} {ts : List Token} (pending : Pending stack ts)
    {us : List Token} {f : Filter} (operand : Derives .negation us f) :
    Reading (.complete stack f) (ts ++ us) := by
  induction pending generalizing us f with
  | none => exact .continuation .none trivial (.negation operand)
  | group below opened => exact .continuation (.group below opened) trivial (.negation operand)
  | @negation stack ts mark spelling below marked ih =>
    rw [complete_negation, List.append_assoc]
    exact ih (.not marked operand)
  | @conjunction stack ts vs mark spelling g below takes left marked =>
    have joined : Derives .conjunction (vs ++ mark :: us) (.and g f) := .and left marked operand
    rw [complete_conjunction takes]
    simpa using Reading.continuation below takes joined
  | disjunction below takes left marked =>
    exact .continuation (.disjunction below takes left marked) trivial (.negation operand)

theorem Pending.joinLoose {stack stack' : List Frame} {ts us : List Token} {f f' : Filter}
    (pending : Pending stack ts) (takes : TakesConjunction stack)
    (operand : Derives .conjunction us f) (joined : Filter.joinLoose stack f = (stack', f')) :
    ∃ ts' us', ts ++ us = ts' ++ us' ∧ Pending stack' ts' ∧ TakesDisjunction stack' ∧
      Derives .disjunction us' f' := by
  cases pending with
  | none =>
    cases joined
    exact ⟨[], us, rfl, .none, trivial, .conjunction operand⟩
  | @group stack ts left below opened =>
    cases joined
    exact ⟨ts ++ [left], us, rfl, .group below opened, trivial, .conjunction operand⟩
  | negation => exact takes.elim
  | conjunction => exact takes.elim
  | @disjunction stack ts vs mark spelling g below closed left marked =>
    cases joined
    exact ⟨ts, vs ++ mark :: us, by simp, below, closed, .or left marked operand⟩

theorem Reading.step_operand {stack : List Frame} {ts : List Token} {token : Token}
    {next : ParserState} (below : Pending stack ts) (inside : token.lexeme ≠ .endOfText)
    (stepped : ParserState.stepOperand stack token = .ok next) : Reading next (ts ++ [token]) := by
  unfold ParserState.stepOperand at stepped
  split at stepped
  · next spelling marked => cases stepped; exact .operand (.negation below marked)
  · next opened => cases stepped; exact .operand (.group below opened)
  · next column named => cases stepped; exact .comparison below named
  · next stopped => exact absurd stopped inside
  · cases stepped

theorem Reading.step_continuation {stack : List Frame} {ts us : List Token} {f : Filter}
    {token : Token} {next : ParserState} (below : Pending stack ts) (takes : TakesConjunction stack)
    (derived : Derives .conjunction us f) (inside : token.lexeme ≠ .endOfText)
    (stepped : ParserState.stepContinuation stack f token = .ok next) :
    Reading next (ts ++ us ++ [token]) := by
  cases joined : Filter.joinLoose stack f with
  | mk stack' f' =>
    obtain ⟨ts', us', split, below', takes', derived'⟩ := below.joinLoose takes derived joined
    simp only [ParserState.stepContinuation, joined] at stepped
    split at stepped
    · next spelling marked =>
      cases stepped
      simpa using Reading.operand (.conjunction below takes derived marked)
    · next spelling marked =>
      cases stepped
      rw [split, List.append_assoc]
      exact .operand (.disjunction below' takes' derived' marked)
    · split at stepped
      · next closed =>
        cases stepped
        cases below' with
        | @group stack ts left below opened =>
          have whole : Derives .primary (left :: (us' ++ [token])) f' :=
            .group opened closed derived'
          simpa [split] using below.complete (.primary whole)
      · next stopped => exact absurd stopped inside
      · cases stepped
      · cases stepped

theorem Reading.step {state next : ParserState} {ts : List Token} {token : Token}
    (reading : Reading state ts) (inside : token.lexeme ≠ .endOfText)
    (stepped : state.step token = .ok next) : Reading next (ts ++ [token]) := by
  cases reading with
  | operand below => exact Reading.step_operand below inside stepped
  | @comparison stack ts name column below named =>
    simp only [ParserState.step] at stepped
    split at stepped
    · next operator spelling compared =>
      cases stepped
      simpa using Reading.literal below named compared
    · cases stepped
  | @literal stack ts name operator column spelling comparison below named compared =>
    simp only [ParserState.step] at stepped
    cases decoded : decodeLiteral token with
    | error fault => rw [decoded] at stepped; cases stepped
    | ok value =>
      rw [decoded] at stepped
      cases stepped
      have whole : Derives .primary [name, operator, token] (.column column comparison value) :=
        .comparison named compared (literalValue_of_decodeLiteral decoded)
      simpa using below.complete (.primary whole)
  | continuation below takes derived =>
    exact Reading.step_continuation below takes derived inside stepped

theorem reading_of_parseFrom {state final : ParserState} {ts us : List Token}
    (reading : Reading state ts) (inside : ∀ token ∈ us, token.lexeme ≠ .endOfText)
    (run : parseFrom state us = .ok final) : Reading final (ts ++ us) := by
  induction us generalizing state ts with
  | nil =>
    cases run
    simpa using reading
  | cons token us ih =>
    rw [parseFrom_cons] at run
    cases stepped : state.step token with
    | error fault => rw [stepped] at run; cases run
    | ok middle =>
      rw [stepped] at run
      have after := reading.step (inside token (by simp)) stepped
      simpa using ih after (fun token member => inside token (by simp [member])) run

/-- At the end of the text the reader has a filter, which the tokens denote. -/
theorem Reading.stop {state next : ParserState} {ts : List Token} {stop : Token}
    (reading : Reading state ts) (stopped : stop.lexeme = .endOfText)
    (stepped : state.step stop = .ok next) :
    ∃ f, next = ⟨[], .nothing f⟩ ∧ Denotes (ts ++ [stop]) f := by
  cases reading with
  | @operand stack ts below =>
    simp only [ParserState.step, ParserState.stepOperand, stopped] at stepped
    cases stack with
    | nil =>
      cases stepped
      cases below.eq_nil
      exact ⟨.empty, rfl, .empty stopped⟩
    | cons frame stack => cases stepped
  | comparison below named => simp [ParserState.step, stopped] at stepped
  | literal below named compared =>
    simp only [ParserState.step, decodeLiteral, stopped] at stepped
    cases stepped
  | @continuation stack ts us f below takes derived =>
    cases joined : Filter.joinLoose stack f with
    | mk stack' f' =>
      obtain ⟨ts', us', split, below', takes', derived'⟩ := below.joinLoose takes derived joined
      simp only [ParserState.step, ParserState.stepContinuation, stopped, joined] at stepped
      cases stack' with
      | nil =>
        cases stepped
        cases below'.eq_nil
        exact ⟨f', rfl, by simpa [split] using Denotes.phrase stopped derived'⟩
      | cons frame stack' => cases frame <;> cases stepped

end StagedTables.Filter
