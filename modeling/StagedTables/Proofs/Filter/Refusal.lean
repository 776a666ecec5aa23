import StagedTables.Proofs.Filter.Acceptance
import StagedTables.Proofs.Filter.Clause
import StagedTables.Proofs.Filter.Lookahead

/-! # The first token that cannot be right

While the reader goes on, what it has read can still be completed: an operand that has begun can be
ended, and every open parenthesis can be closed.  Where it stops, nothing can follow that makes the
tokens a filter.  So a refusal names the first token that cannot be right, and since each token
stands after the one before it, a line and a column name one token. -/
set_option autoImplicit false
namespace StagedTables.Filter

/-! ## Lexemes alone -/

section Lexemes

variable {state next : ParserState} {token other : Token}

theorem step_of_lexeme (same : other.lexeme = token.lexeme)
    (stepped : state.step token = .ok next) : state.step other = .ok next := by
  obtain ⟨stack, expects⟩ := state
  cases expects with
  | operand =>
    simp only [ParserState.step, ParserState.stepOperand, same] at stepped ⊢
    split at stepped
    case h_4 => split at stepped <;> simp_all
    all_goals simp_all
  | comparison name =>
    simp only [ParserState.step, same] at stepped ⊢
    split at stepped <;> simp_all
  | literal name operator =>
    simp only [ParserState.step] at stepped ⊢
    cases decoded : decodeLiteral token with
    | error fault => rw [decoded] at stepped; cases stepped
    | ok value =>
      have again := literalValue_of_decodeLiteral decoded
      rw [← same] at again
      rw [decodeLiteral_of_literalValue again, ← stepped, decoded]
  | continuation operand =>
    simp only [ParserState.step, ParserState.stepContinuation, same] at stepped ⊢
    split at stepped
    · exact stepped
    · exact stepped
    · split at stepped <;> simp_all
  | nothing filter => exact stepped

theorem parseFrom_of_lexemes {ts us : List Token} (same : us.map Token.lexeme = ts.map Token.lexeme)
    (run : parseFrom state ts = .ok next) : parseFrom state us = .ok next := by
  induction ts generalizing us state with
  | nil =>
    cases List.map_eq_nil_iff.mp same
    exact run
  | cons token ts ih =>
    obtain ⟨other, us, rfl, first, rest⟩ := List.map_eq_cons_iff.mp same
    rw [parseFrom_cons] at run
    cases stepped : state.step token with
    | error fault => rw [stepped] at run; cases run
    | ok middle =>
      rw [stepped] at run
      rw [parseFrom_cons, step_of_lexeme first stepped]
      exact ih rest run

end Lexemes

/-! ## Closing what is open -/

def openGroups : List Frame → Nat
  | [] => 0
  | .group :: stack => openGroups stack + 1
  | _ :: stack => openGroups stack

theorem openGroups_joinTight (stack : List Frame) (operand : Filter) :
    openGroups (joinTight stack operand).1 = openGroups stack := by
  fun_induction joinTight stack operand with
  | case1 stack operand ih => exact ih
  | case2 stack left operand ih => exact ih
  | case3 stack operand => rfl

theorem openGroups_joinLoose (stack : List Frame) (operand : Filter) :
    openGroups (joinLoose stack operand).1 = openGroups stack := by
  fun_cases joinLoose stack operand <;> rfl

theorem complete_eq (stack : List Frame) (operand : Filter) :
    ParserState.complete stack operand =
      ⟨(joinTight stack operand).1, .continuation (joinTight stack operand).2⟩ := rfl

def closing (groups : Nat) : List Lexeme :=
  List.replicate groups .rightParenthesis ++ [.endOfText]

theorem Reading.joins {stack : List Frame} {f : Filter} {ts : List Token}
    (reading : Reading ⟨stack, .continuation f⟩ ts) :
    ∃ stack' f', joinLoose stack f = (stack', f') ∧ TakesDisjunction stack' ∧
      openGroups stack' = openGroups stack := by
  cases joined : joinLoose stack f with
  | mk stack' f' =>
    have groups := openGroups_joinLoose stack f
    rw [joined] at groups
    cases reading with
    | continuation below takes derived =>
      obtain ⟨-, -, -, -, takes', -⟩ := below.joinLoose takes derived joined
      exact ⟨stack', f', rfl, takes', groups⟩

theorem Reading.closes {groups : Nat} {stack : List Frame} {f : Filter} {ts more : List Token}
    (reading : Reading ⟨stack, .continuation f⟩ ts) (unclosed : openGroups stack = groups)
    (closes : more.map Token.lexeme = closing groups) :
    ∃ g, parseFrom ⟨stack, .continuation f⟩ more = .ok ⟨[], .nothing g⟩ := by
  -- each parenthesis closes the innermost group, and what it gives is an operand again
  induction groups generalizing stack f ts more with
  | zero =>
    obtain ⟨stop, rest, rfl, stopped, nothing⟩ := List.map_eq_cons_iff.mp closes
    cases List.map_eq_nil_iff.mp nothing
    obtain ⟨stack', f', joined, takes, same⟩ := reading.joins
    rcases takes.eq_nil_or_group with rfl | ⟨below, rfl⟩
    · exact ⟨f', by rw [parseFrom_singleton, step_endOfText stopped joined]⟩
    · rw [unclosed, openGroups] at same
      cases same
  | succ groups ih =>
    obtain ⟨right, rest, rfl, closed, closes⟩ := List.map_eq_cons_iff.mp closes
    obtain ⟨stack', f', joined, takes, same⟩ := reading.joins
    rcases takes.eq_nil_or_group with rfl | ⟨below, rfl⟩
    · rw [unclosed, openGroups] at same
      cases same
    · have stepped := step_rightParenthesis closed joined
      have after := reading.step (by simp [closed]) stepped
      rw [complete_eq] at after stepped
      have fewer : openGroups (joinTight below f').1 = groups := by
        rw [openGroups_joinTight]
        exact Nat.succ.inj (same.trans unclosed)
      obtain ⟨g, run⟩ := ih after fewer closes
      exact ⟨g, by rw [parseFrom_cons, stepped]; exact run⟩

/-! ## Ending an operand -/

/-- Lexemes that end the operand that has begun, if one has. -/
def Expectation.ending : Expectation → List Lexeme
  | .operand => [.identifier "A", .comparison .equal "eq", .integer 1]
  | .comparison _ => [.comparison .equal "eq", .integer 1]
  | .literal _ _ => [.integer 1]
  | _ => []

theorem endOfText_not_mem_ending (expects : Expectation) : Lexeme.endOfText ∉ expects.ending := by
  cases expects <;> simp [Expectation.ending]

/-- What the reader comes to once its operand has ended, with the same groups open. -/
def Ends (state : ParserState) (us : List Token) : Prop :=
  ∃ stack f, parseFrom state us = .ok ⟨stack, .continuation f⟩ ∧
    openGroups stack = openGroups state.stack

theorem ends_literal {us : List Token} (ending : us.map Token.lexeme = [.integer 1])
    (stack : List Frame) (column : String) (comparison : Comparison) :
    Ends ⟨stack, .literal column comparison⟩ us := by
  obtain ⟨literal, us, rfl, one, ending⟩ := List.map_eq_cons_iff.mp ending
  cases List.map_eq_nil_iff.mp ending
  have value : LiteralValue literal.lexeme (.integer 1) := one ▸ .integer (by decide)
  have run := step_literal value stack column comparison
  rw [← parseFrom_singleton] at run
  exact ⟨_, _, run, openGroups_joinTight stack _⟩

theorem ends_comparison {us : List Token}
    (ending : us.map Token.lexeme = [.comparison .equal "eq", .integer 1]) (stack : List Frame)
    (column : String) : Ends ⟨stack, .comparison column⟩ us := by
  obtain ⟨operator, us, rfl, compared, ending⟩ := List.map_eq_cons_iff.mp ending
  rw [Ends, parseFrom_cons, step_comparison compared]
  exact ends_literal ending stack column .equal

theorem ends_operand {us : List Token}
    (ending : us.map Token.lexeme = [.identifier "A", .comparison .equal "eq", .integer 1])
    (stack : List Frame) : Ends ⟨stack, .operand⟩ us := by
  obtain ⟨name, us, rfl, named, ending⟩ := List.map_eq_cons_iff.mp ending
  rw [Ends, parseFrom_cons, step_identifier named]
  exact ends_comparison ending stack "A"

theorem Reading.ends {state : ParserState} {ts us : List Token} (reading : Reading state ts)
    (ending : us.map Token.lexeme = state.expects.ending) : Ends state us := by
  cases reading with
  | @operand stack => exact ends_operand ending stack
  | @comparison stack _ _ column => exact ends_comparison ending stack column
  | @literal stack _ _ _ column _ comparison => exact ends_literal ending stack column comparison
  | @continuation stack _ _ f =>
    cases List.map_eq_nil_iff.mp ending
    exact ⟨stack, f, rfl, rfl⟩

/-- Lexemes with which a reader comes to an end. -/
def ParserState.completion (state : ParserState) : List Lexeme :=
  state.expects.ending ++ closing (openGroups state.stack)

theorem Reading.completes {state : ParserState} {ts more : List Token} (reading : Reading state ts)
    (completion : more.map Token.lexeme = state.completion) :
    ∃ f, parseFrom state more = .ok ⟨[], .nothing f⟩ := by
  obtain ⟨us, vs, rfl, ending, closes⟩ := List.map_eq_append_iff.mp completion
  obtain ⟨stack, f, run, same⟩ := reading.ends ending
  have inside : ∀ token ∈ us, token.lexeme ≠ .endOfText := by
    intro token member stopped
    have listed : token.lexeme ∈ us.map Token.lexeme := List.mem_map_of_mem member
    rw [ending, stopped] at listed
    exact endOfText_not_mem_ending state.expects listed
  have after := reading_of_parseFrom reading inside run
  rw [parseFrom_append_of_ok run]
  exact after.closes same closes

/-! ## Completions that are written -/

def Lexeme.IsWritten (lexeme : Lexeme) : Prop := ∃ cs, ScansAs cs lexeme

theorem scansAs_rightParenthesis : ScansAs [')'] .rightParenthesis where
  start := ⟨')', [], rfl, by decide⟩
  scan rest _ := scan_rightParenthesis rest

theorem Expectation.ending_isWritten (expects : Expectation) :
    ∀ lexeme ∈ expects.ending, lexeme.IsWritten := by
  have isName : IsColumnName ['A'] := ⟨⟨'A', [], rfl, by decide, by simp⟩, by decide, by decide⟩
  have name : (Lexeme.identifier "A").IsWritten := ⟨_, scansAs_name isName⟩
  have equal : (Lexeme.comparison .equal "eq").IsWritten := ⟨_, scansAs_comparison .equal⟩
  have few : Numeral.HasFewDigits (Int.natAbs 1) := by
    unfold Numeral.HasFewDigits
    decide
  have one : (Lexeme.integer 1).IsWritten := ⟨_, scansAs_integer few⟩
  cases expects <;> simp [Expectation.ending, name, equal, one]

theorem exists_lexes {lexemes : List Lexeme} (written : ∀ lexeme ∈ lexemes, lexeme.IsWritten) :
    ∃ cs, IsBoundary cs ∧ ∀ p, ∃ ts q, Lexes p cs ts q [] ∧ ts.map Token.lexeme = lexemes := by
  induction lexemes with
  | nil => exact ⟨[], isBoundary_nil, fun p => ⟨[], p, .done, rfl⟩⟩
  | cons lexeme lexemes ih =>
    obtain ⟨⟨word, scans⟩, written⟩ := List.forall_mem_cons.mp written
    obtain ⟨cs, boundary, lexes⟩ := ih written
    refine ⟨' ' :: (word ++ cs), isBoundary_space _, fun p => ?_⟩
    obtain ⟨ts, q, lexed, same⟩ := lexes ((p.next ' ').advance word)
    refine ⟨_, q, .blank (by decide) ((scans.lexes _ boundary).append lexed), ?_⟩
    simp [same]

/-- What a reader has read of a text is the beginning of another text that it accepts. -/
theorem Reading.exists_text {state : ParserState} {ts : List Token} (reading : Reading state ts)
    (run : parseFrom .start ts = .ok state) {cs rest : List Char} {q : Position}
    (lexed : Lexes .start cs ts q rest) :
    ∃ text more f, tokens text = .ok (ts ++ more) ∧ parseTokens (ts ++ more) = .ok f := by
  have written : ∀ lexeme ∈ state.expects.ending ++
      List.replicate (openGroups state.stack) .rightParenthesis, lexeme.IsWritten := by
    intro lexeme member
    rcases List.mem_append.mp member with ending | closing
    · exact state.expects.ending_isWritten lexeme ending
    · rw [List.eq_of_mem_replicate closing]
      exact ⟨_, scansAs_rightParenthesis⟩
  obtain ⟨completion, boundary, lexes⟩ := exists_lexes written
  obtain ⟨front, -, -, again⟩ := lexed.alike (boundary.followsAlike rest)
  obtain ⟨us, q', completed, same⟩ := lexes q
  let more := us ++ [⟨.endOfText, q', 0⟩]
  have completes : more.map Token.lexeme = state.completion := by
    simp [more, same, ParserState.completion, closing]
  obtain ⟨f, accepted⟩ := reading.completes completes
  refine ⟨String.ofList (front ++ completion), more, f, ?_, ?_⟩
  · rw [tokens_ofList, ← List.append_assoc]
    exact tokensFrom_eq_ok_iff.mpr ⟨_, q', again.append completed, rfl⟩
  · apply parseTokens_of_parseFrom
    rw [parseFrom_append_of_ok run, accepted]

/-! ## Where tokens stand -/

def Position.Before (p q : Position) : Prop :=
  p.line < q.line ∨ p.line = q.line ∧ p.column < q.column

theorem Position.Before.trans {p q r : Position} (first : p.Before q) (second : q.Before r) :
    p.Before r := by
  unfold Before at *
  omega

theorem Position.before_next (p : Position) (c : Char) : p.Before (p.next c) := by
  unfold Before next
  split
  · exact .inl (Nat.lt_succ_self _)
  · exact .inr ⟨rfl, Nat.lt_succ_self _⟩

theorem Position.before_advance (p : Position) (c : Char) (cs : List Char) :
    p.Before (p.advance (c :: cs)) := by
  induction cs generalizing p c with
  | nil => exact p.before_next c
  | cons d cs ih => exact (p.before_next c).trans (ih (p.next c) d)

theorem Lexes.inOrder {p q : Position} {cs rest : List Char} {ts : List Token}
    (lexed : Lexes p cs ts q rest) :
    (ts.map Token.position ++ [q]).Pairwise Position.Before ∧
      ∀ r ∈ ts.map Token.position ++ [q], p = r ∨ p.Before r := by
  induction lexed with
  | done => simp
  | @blank p q c cs rest ts space _ ih =>
    refine ⟨ih.1, fun r member => ?_⟩
    rcases ih.2 r member with rfl | later
    · exact .inr (p.before_next c)
    · exact .inr ((p.before_next c).trans later)
  | @token p q c cs rest ts scanned solid scan _ ih =>
    obtain ⟨front, after, rfl, taken, -⟩ := exists_front scan
    rw [taken] at ih
    have reached := p.before_advance c front
    have later : ∀ r ∈ ts.map Token.position ++ [q], p.Before r := by
      intro r member
      rcases ih.2 r member with rfl | beyond
      · exact reached
      · exact reached.trans beyond
    refine ⟨List.pairwise_cons.mpr ⟨later, ih.1⟩, fun r member => ?_⟩
    rcases List.mem_cons.mp member with rfl | member
    · exact .inl rfl
    · exact .inr (later r member)

theorem tokens_inOrder {text : String} {ts : List Token} (lexed : tokens text = .ok ts) :
    (ts.map Token.position).Pairwise Position.Before := by
  obtain ⟨body, q, run, rfl⟩ := lexes_of_tokensFrom lexed
  simpa using run.inOrder.1

theorem index_of_position {text : String} {ts : List Token} (lexed : tokens text = .ok ts)
    {i j : Nat} (hi : i < ts.length) (hj : j < ts.length)
    (line : ts[i].position.line = ts[j].position.line)
    (column : ts[i].position.column = ts[j].position.column) : i = j := by
  have ordered : ts.Pairwise fun t u => t.position.Before u.position :=
    List.pairwise_map.mp (tokens_inOrder lexed)
  have order := List.pairwise_iff_getElem.mp ordered
  rcases Nat.lt_trichotomy i j with less | same | greater
  · have before := order i j hi hj less
    unfold Position.Before at before
    omega
  · exact same
  · have before := order j i hj hi greater
    unfold Position.Before at before
    omega

/-! ## Refusals -/

/-- What stands before the token is the beginning of a filter, and with the token it is not. -/
structure IsMisfit (ts : List Token) (i : Nat) : Prop where
  viable : ∃ text more f, tokens text = .ok (ts.take i ++ more) ∧
    parseTokens (ts.take i ++ more) = .ok f
  stuck : ∀ us, us.map Token.lexeme = (ts.take (i + 1)).map Token.lexeme →
    ∀ more f, parseTokens (us ++ more) ≠ .ok f

theorem IsMisfit.le {ts : List Token} {i j : Nat} (first : IsMisfit ts i)
    (second : IsMisfit ts j) : j ≤ i := by
  by_contra later
  obtain ⟨-, more, f, -, accepted⟩ := second.viable
  have split := List.take_append_drop (i + 1) (ts.take j)
  rw [List.take_take, Nat.min_eq_left (by omega)] at split
  rw [← split, List.append_assoc] at accepted
  exact first.stuck _ rfl _ f accepted

theorem IsMisfit.unique {ts : List Token} {i j : Nat} (first : IsMisfit ts i)
    (second : IsMisfit ts j) : j = i :=
  Nat.le_antisymm (first.le second) (second.le first)

theorem stuck_of_step_error {middle : ParserState} {before : List Token} {token : Token}
    {fault : ParseFault} (run : parseFrom .start before = .ok middle)
    (failing : middle.step token = .error fault) {us : List Token}
    (same : us.map Token.lexeme = (before ++ [token]).map Token.lexeme) (more : List Token)
    (f : Filter) : parseTokens (us ++ more) ≠ .ok f := by
  rw [List.map_append] at same
  obtain ⟨us, last, rfl, first, same⟩ := List.map_eq_append_iff.mp same
  obtain ⟨other, last, rfl, second, same⟩ := List.map_eq_cons_iff.mp same
  cases List.map_eq_nil_iff.mp same
  have reached := parseFrom_of_lexemes first run
  cases stepped : middle.step other with
  | ok next =>
    rw [step_of_lexeme second.symm stepped] at failing
    cases failing
  | error found =>
    have failed := parseFrom_of_step_error reached stepped more
    rw [List.append_assoc, List.singleton_append, parseTokens_of_error failed]
    exact nofun

/-- A refusal names the one token that is the first that cannot be right. -/
theorem parseTokens_refuses_misfit {text : String} {ts : List Token} {error : SyntaxError}
    (lexed : tokens text = .ok ts) (refused : parseTokens ts = .error (.refused error)) :
    ∃ i, ∃ h : i < ts.length, ts[i].position = error.position ∧
      (∀ j, IsMisfit ts j ↔ j = i) ∧
      ∀ j, ∀ h : j < ts.length, ts[j].position.line = error.position.line →
        ts[j].position.column = error.position.column → j = i := by
  obtain ⟨body, q, read, closed⟩ := exists_isClosed lexed
  obtain ⟨before, token, rest, middle, split, run, failing⟩ :=
    parseFrom_error (closed.parseTokens_error refused)
  have position : token.position = error.position := by
    rcases step_error failing with ⟨reason, same⟩ | ⟨lost, -⟩
    · cases same
      rfl
    · cases lost
  have reading : Reading middle before := by
    simpa using reading_of_parseFrom (.operand .none) (closed.inside_before split) run
  have inside : before.length < ts.length := by simp [split]
  have here : ts[before.length] = token := by simp [split]
  have earlier : ts.take before.length = before := by simp [split]
  have upTo : ts.take (before.length + 1) = before ++ [token] := by
    rw [split, ← List.singleton_append, ← List.append_assoc]
    exact List.take_left' (by simp)
  have misfit : IsMisfit ts before.length := by
    constructor
    · rw [closed.body_eq split] at read
      obtain ⟨r, left, first, -⟩ := read.split
      rw [earlier]
      exact reading.exists_text run first
    · intro us same more f
      rw [upTo] at same
      exact stuck_of_step_error run failing same more f
  refine ⟨before.length, inside, by rw [here, position], fun j => ⟨misfit.unique, ?_⟩,
    fun j h line column => ?_⟩
  · rintro rfl
    exact misfit
  · apply index_of_position lexed h inside
    · rw [here, position, line]
    · rw [here, position, column]

theorem parseTokens_refuses_misfit_out_of_range :
    ∃ ts, tokens "A eq 1\nand B lt 2147483648 or" = .ok ts ∧
      parseTokens ts = .error (.refused ⟨.int32OutOfRange 2147483648, ⟨2, 10, 16⟩⟩) ∧
      ∀ j, IsMisfit ts j ↔ j = 6 := by
  let ts : List Token :=
    [⟨.identifier "A", ⟨1, 1, 0⟩, 1⟩, ⟨.comparison .equal "eq", ⟨1, 3, 2⟩, 2⟩,
      ⟨.integer 1, ⟨1, 6, 5⟩, 1⟩, ⟨.connective .and "and", ⟨2, 1, 7⟩, 3⟩,
      ⟨.identifier "B", ⟨2, 5, 11⟩, 1⟩, ⟨.comparison .less "lt", ⟨2, 7, 13⟩, 2⟩,
      ⟨.integer 2147483648, ⟨2, 10, 16⟩, 10⟩, ⟨.connective .or "or", ⟨2, 21, 27⟩, 2⟩,
      ⟨.endOfText, ⟨2, 23, 29⟩, 0⟩]
  have lexed : tokens "A eq 1\nand B lt 2147483648 or" = .ok ts :=
    (tokens_eq_within _).trans (by decide)
  have refused : parseTokens ts =
      .error (.refused ⟨.int32OutOfRange 2147483648, ⟨2, 10, 16⟩⟩) := rfl
  obtain ⟨i, -, -, misfit, named⟩ := parseTokens_refuses_misfit lexed refused
  cases named 6 (by decide) rfl rfl
  exact ⟨ts, lexed, refused, misfit⟩

end StagedTables.Filter
