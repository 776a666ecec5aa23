import StagedTables.Proofs.Filter.DateTimeLiteral
import StagedTables.Proofs.Filter.Grammar
import StagedTables.Proofs.Filter.Scanned

/-! # What the reader accepts, and how it fails

The tokens of a text are closed by its end, and on closed tokens the reader accepts what the
grammar derives and nothing else.  A text that it does not accept is refused with a syntax error;
the one other fault is that of a date-time literal whose instant lies outside the calendar, and it
shows when the reader comes to that literal. -/
set_option autoImplicit false
namespace StagedTables.Filter

/-- A date-time literal whose instant lies outside the calendar. -/
def Lexeme.LeavesCalendar : Lexeme → Prop
  | .quoted .dateTime body => DateTimeLiteral.LeavesCalendar body
  | _ => False

/-- The beginning of a phrase, up to a literal whose instant lies outside the calendar. -/
def ReachesLostInstant (ts : List Token) : Prop :=
  ∃ stack opened name operator literal rest column comparison spelling,
    ts = opened ++ name :: operator :: literal :: rest ∧ Pending stack opened ∧
      name.lexeme = .identifier column ∧ operator.lexeme = .comparison comparison spelling ∧
      literal.lexeme.LeavesCalendar

/-! ## Faults of one step -/

theorem decodeLiteral_eq_instantOutOfRange_iff (token : Token) :
    decodeLiteral token = .error .instantOutOfRange ↔ token.lexeme.LeavesCalendar := by
  cases lexeme : token.lexeme with
  | quoted kind body =>
    cases kind with
    | dateTime =>
      have iff := DateTimeLiteral.decode_eq_instantOutOfRange_iff body
      simp only [decodeLiteral, lexeme, Lexeme.LeavesCalendar]
      rw [← iff]
      split <;> simp_all
    | guid =>
      simp only [decodeLiteral, lexeme, Lexeme.LeavesCalendar]
      split <;> simp
    | binary => simp [decodeLiteral, lexeme, Lexeme.LeavesCalendar]
  | integer n | long n =>
    simp only [decodeLiteral, lexeme, Lexeme.LeavesCalendar]
    split <;> simp
  | _ => simp [decodeLiteral, lexeme, Lexeme.LeavesCalendar]

theorem decodeLiteral_error {token : Token} {fault : ParseFault}
    (failed : decodeLiteral token = .error fault) :
    (∃ reason, fault = .refused ⟨reason, token.position⟩) ∨ fault = .instantOutOfRange := by
  simp only [decodeLiteral] at failed
  repeat' split at failed
  all_goals cases failed
  all_goals first | exact .inl ⟨_, rfl⟩ | exact .inr rfl

theorem stepOperand_error {stack : List Frame} {token : Token} {fault : ParseFault}
    (failed : ParserState.stepOperand stack token = .error fault) :
    ∃ reason, fault = .refused ⟨reason, token.position⟩ := by
  simp only [ParserState.stepOperand] at failed
  repeat' split at failed
  all_goals cases failed
  all_goals exact ⟨_, rfl⟩

theorem stepContinuation_error {stack : List Frame} {operand : Filter} {token : Token}
    {fault : ParseFault}
    (failed : ParserState.stepContinuation stack operand token = .error fault) :
    ∃ reason, fault = .refused ⟨reason, token.position⟩ := by
  simp only [ParserState.stepContinuation] at failed
  repeat' split at failed
  all_goals cases failed
  all_goals exact ⟨_, rfl⟩

theorem step_error {state : ParserState} {token : Token} {fault : ParseFault}
    (failed : state.step token = .error fault) :
    (∃ reason, fault = .refused ⟨reason, token.position⟩) ∨
      fault = .instantOutOfRange ∧ token.lexeme.LeavesCalendar ∧
        ∃ name operator, state.expects = .literal name operator := by
  obtain ⟨stack, expects⟩ := state
  cases expects with
  | operand => exact .inl (stepOperand_error failed)
  | comparison name =>
    simp only [ParserState.step] at failed
    split at failed
    · cases failed
    · cases failed
      exact .inl ⟨_, rfl⟩
  | literal name operator =>
    simp only [ParserState.step] at failed
    cases decoded : decodeLiteral token with
    | ok value => rw [decoded] at failed; cases failed
    | error found =>
      rw [decoded] at failed
      cases failed
      rcases decodeLiteral_error decoded with refused | rfl
      · exact .inl refused
      · exact .inr ⟨rfl, (decodeLiteral_eq_instantOutOfRange_iff token).mp decoded, _, _, rfl⟩
  | continuation operand => exact .inl (stepContinuation_error failed)
  | nothing filter => cases failed

/-! ## Faults of a run -/

theorem parseFrom_error {state : ParserState} {ts : List Token} {fault : ParseFault}
    (failed : parseFrom state ts = .error fault) :
    ∃ before token rest middle, ts = before ++ token :: rest ∧
      parseFrom state before = .ok middle ∧ middle.step token = .error fault := by
  induction ts generalizing state with
  | nil => cases failed
  | cons token ts ih =>
    rw [parseFrom_cons] at failed
    cases stepped : state.step token with
    | error found =>
      rw [stepped] at failed
      cases failed
      exact ⟨[], token, ts, state, rfl, rfl, stepped⟩
    | ok next =>
      rw [stepped] at failed
      obtain ⟨before, last, rest, middle, split, run, failing⟩ := ih failed
      refine ⟨token :: before, last, rest, middle, by rw [split]; rfl, ?_, failing⟩
      rw [parseFrom_cons, stepped]
      exact run

theorem parseFrom_of_step_error {state middle : ParserState} {before : List Token}
    {token : Token} {fault : ParseFault} (run : parseFrom state before = .ok middle)
    (failed : middle.step token = .error fault) (rest : List Token) :
    parseFrom state (before ++ token :: rest) = .error fault := by
  rw [parseFrom_append_of_ok run, parseFrom_cons, failed]
  rfl

theorem parseFrom_of_pending {stack : List Frame} {ts : List Token} (pending : Pending stack ts) :
    parseFrom .start ts = .ok ⟨stack, .operand⟩ := by
  induction pending with
  | none => rfl
  | group _ opened ih =>
    rw [parseFrom_append_of_ok ih, parseFrom_singleton, step_leftParenthesis opened]
  | negation _ marked ih =>
    rw [parseFrom_append_of_ok ih, parseFrom_singleton, step_negation marked]
  | @conjunction stack ts us mark spelling f _ takes left marked ih =>
    have read : parseFrom ⟨stack, .operand⟩ us = .ok ⟨stack, .continuation f⟩ :=
      runs_of_derives left stack takes
    rw [parseFrom_append_of_ok ih, parseFrom_append_of_ok read, parseFrom_singleton,
      step_and marked]
  | @disjunction stack ts us mark spelling f _ takes left marked ih =>
    obtain ⟨stack', f', read, joined⟩ := runs_of_derives left stack takes
    rw [parseFrom_append_of_ok ih, parseFrom_append_of_ok read, parseFrom_singleton,
      step_or marked joined]

/-! ## Tokens closed by the end of the text -/

structure IsClosed (ts body : List Token) (stop : Token) : Prop where
  split : ts = body ++ [stop]
  stopped : stop.lexeme = .endOfText
  inside : ∀ token ∈ body, token.lexeme ≠ .endOfText

theorem exists_isClosed {text : String} {ts : List Token} (lexed : tokens text = .ok ts) :
    ∃ body q, Lexes .start text.toList body q [] ∧ IsClosed ts body ⟨.endOfText, q, 0⟩ := by
  obtain ⟨body, q, run, split⟩ := lexes_of_tokensFrom lexed
  exact ⟨body, q, run, split, rfl, fun token member => (run.isScannable token member).ne_endOfText⟩

theorem isClosed_of_tokens {text : String} {ts : List Token} (lexed : tokens text = .ok ts) :
    ∃ body stop, IsClosed ts body stop := by
  obtain ⟨body, q, -, closed⟩ := exists_isClosed lexed
  exact ⟨body, _, closed⟩

section Closed

variable {ts body : List Token} {stop : Token}

theorem IsClosed.denotes_of_run (closed : IsClosed ts body stop) {final : ParserState}
    (run : parseFrom .start ts = .ok final) : ∃ f, final = ⟨[], .nothing f⟩ ∧ Denotes ts f := by
  rw [closed.split, parseFrom_append] at run
  cases before : parseFrom .start body with
  | error fault => rw [before] at run; cases run
  | ok middle =>
    rw [before] at run
    have reading : Reading middle ([] ++ body) :=
      reading_of_parseFrom (.operand .none) closed.inside before
    have last : middle.step stop = .ok final := (parseFrom_singleton middle stop) ▸ run
    rw [closed.split]
    exact reading.stop closed.stopped last

theorem parseTokens_of_error {fault : ParseFault} (failed : parseFrom .start ts = .error fault) :
    parseTokens ts = .error fault := by
  unfold parseTokens
  rw [failed]
  rfl

theorem IsClosed.cases (closed : IsClosed ts body stop) :
    (∃ f, parseTokens ts = .ok f ∧ Denotes ts f) ∨
      ∃ fault, parseTokens ts = .error fault ∧ parseFrom .start ts = .error fault := by
  cases run : parseFrom .start ts with
  | ok final =>
    obtain ⟨f, rfl, denoted⟩ := closed.denotes_of_run run
    exact .inl ⟨f, parseTokens_of_denotes denoted, denoted⟩
  | error fault => exact .inr ⟨fault, parseTokens_of_error run, rfl⟩

theorem IsClosed.parseTokens_eq_ok_iff (closed : IsClosed ts body stop) (f : Filter) :
    parseTokens ts = .ok f ↔ Denotes ts f := by
  refine ⟨fun accepted => ?_, parseTokens_of_denotes⟩
  rcases closed.cases with ⟨g, read, denoted⟩ | ⟨fault, failed, -⟩
  · rw [read] at accepted
    cases accepted
    exact denoted
  · rw [failed] at accepted
    cases accepted

theorem IsClosed.parseTokens_error (closed : IsClosed ts body stop) {fault : ParseFault}
    (failed : parseTokens ts = .error fault) : parseFrom .start ts = .error fault := by
  rcases closed.cases with ⟨f, read, -⟩ | ⟨found, same, run⟩
  · rw [read] at failed
    cases failed
  · rw [same] at failed
    cases failed
    exact run

theorem IsClosed.body_eq (closed : IsClosed ts body stop) {before rest : List Token}
    {token : Token} (split : ts = before ++ token :: rest) :
    body = before ++ (token :: rest).dropLast := by
  rw [← List.dropLast_append_cons, ← split, closed.split, List.dropLast_concat]

theorem IsClosed.inside_before (closed : IsClosed ts body stop) {before rest : List Token}
    {token : Token} (split : ts = before ++ token :: rest) :
    ∀ earlier ∈ before, earlier.lexeme ≠ .endOfText := by
  intro earlier member
  exact closed.inside earlier (by simp [closed.body_eq split, member])

theorem IsClosed.parseTokens_refused (closed : IsClosed ts body stop) {fault : ParseFault}
    (failed : parseTokens ts = .error fault) (other : fault ≠ .instantOutOfRange) :
    ∃ error, fault = .refused error := by
  obtain ⟨before, token, rest, middle, -, -, failing⟩ :=
    parseFrom_error (closed.parseTokens_error failed)
  rcases step_error failing with ⟨reason, refused⟩ | ⟨lost, -⟩
  · exact ⟨_, refused⟩
  · exact absurd lost other

theorem IsClosed.parseTokens_eq_instantOutOfRange_iff (closed : IsClosed ts body stop) :
    parseTokens ts = .error .instantOutOfRange ↔ ReachesLostInstant ts := by
  constructor
  · intro failed
    obtain ⟨before, token, rest, middle, split, run, failing⟩ :=
      parseFrom_error (closed.parseTokens_error failed)
    rcases step_error failing with ⟨reason, refused⟩ | ⟨-, lost, name, operator, expects⟩
    · cases refused
    · have reading : Reading middle before := by
        simpa using reading_of_parseFrom (.operand .none) (closed.inside_before split) run
      cases reading with
      | @literal stack opened name operator column spelling comparison below named compared =>
        exact ⟨stack, opened, name, operator, token, rest, column, comparison, spelling,
          by simpa using split, below, named, compared, lost⟩
      | _ => cases expects
  · rintro ⟨stack, opened, name, operator, literal, rest, column, comparison, spelling, split,
      pending, named, compared, lost⟩
    have run : parseFrom .start (opened ++ [name, operator]) =
        .ok ⟨stack, .literal column comparison⟩ := by
      rw [parseFrom_append_of_ok (parseFrom_of_pending pending),
        parseFrom_beforeLiteral named compared]
    have failing : ParserState.step ⟨stack, .literal column comparison⟩ literal =
        .error .instantOutOfRange := by
      simp only [ParserState.step, (decodeLiteral_eq_instantOutOfRange_iff literal).mpr lost]
      rfl
    have whole := parseFrom_of_step_error run failing rest
    rw [List.append_assoc] at whole
    exact parseTokens_of_error (split ▸ whole)

end Closed

/-! ## Texts -/

/-- The tokens of a text whose date-times stay in the calendar are accepted exactly when the grammar
derives them, with the one tree that they denote, and are refused otherwise. -/
theorem parseTokens_accepts_grammar {text : String} {ts : List Token}
    (lexed : tokens text = .ok ts) (inCalendar : ∀ token ∈ ts, ¬ token.lexeme.LeavesCalendar) :
    (∀ f, parseTokens ts = .ok f ↔ Denotes ts f) ∧
      (∀ f g, Denotes ts f → Denotes ts g → f = g) ∧
      ((∀ f, ¬ Denotes ts f) → ∃ error, parseTokens ts = .error (.refused error)) := by
  obtain ⟨body, stop, closed⟩ := isClosed_of_tokens lexed
  refine ⟨closed.parseTokens_eq_ok_iff, fun f g first second => ?_, fun underivable => ?_⟩
  · have same : Except.ok f = Except.ok g :=
      (parseTokens_of_denotes first).symm.trans (parseTokens_of_denotes second)
    exact Except.ok.inj same
  · rcases closed.cases with ⟨f, -, denoted⟩ | ⟨fault, failed, -⟩
    · exact absurd denoted (underivable f)
    · have inside : fault ≠ .instantOutOfRange := by
        rintro rfl
        obtain ⟨-, opened, name, operator, literal, rest, -, -, -, split, -, -, -, lost⟩ :=
          closed.parseTokens_eq_instantOutOfRange_iff.mp failed
        exact inCalendar literal (by simp [split]) lost
      obtain ⟨error, rfl⟩ := closed.parseTokens_refused failed inside
      exact ⟨error, failed⟩

theorem parseTokens_accepts_negation_before_or :
    ∃ ts, tokens "not A eq 1 or B lt 2L" = .ok ts ∧
      Denotes ts (.or (.not (.column "A" .equal (.integer 1)))
        (.column "B" .less (.typed .int64 (.integer 2)))) := by
  let ts : List Token :=
    [⟨.negation "not", ⟨1, 1, 0⟩, 3⟩, ⟨.identifier "A", ⟨1, 5, 4⟩, 1⟩,
      ⟨.comparison .equal "eq", ⟨1, 7, 6⟩, 2⟩, ⟨.integer 1, ⟨1, 10, 9⟩, 1⟩,
      ⟨.connective .or "or", ⟨1, 12, 11⟩, 2⟩, ⟨.identifier "B", ⟨1, 15, 14⟩, 1⟩,
      ⟨.comparison .less "lt", ⟨1, 17, 16⟩, 2⟩, ⟨.long 2, ⟨1, 20, 19⟩, 2⟩,
      ⟨.endOfText, ⟨1, 22, 21⟩, 0⟩]
  have lexed : tokens "not A eq 1 or B lt 2L" = .ok ts :=
    (tokens_eq_within _).trans (by decide)
  have inCalendar : ∀ token ∈ ts, ¬ token.lexeme.LeavesCalendar := by
    simp [ts, Lexeme.LeavesCalendar]
  exact ⟨ts, lexed, ((parseTokens_accepts_grammar lexed inCalendar).1 _).mp rfl⟩

/-- Every text is a filter, or is refused, or has a date-time outside the calendar where the reader
comes to it; the conversions of the later stages are defined on all that is scanned. -/
theorem parse_outcome (text : String) :
    ((∃ f, parse text = .ok f) ∨ (∃ error, parse text = .error (.refused error)) ∨
      parse text = .error .instantOutOfRange) ∧
    (parse text = .error .instantOutOfRange ↔
      ∃ ts, tokens text = .ok ts ∧ ReachesLostInstant ts) ∧
    ∀ ts, tokens text = .ok ts → ∃ body stop, ts = body ++ [stop] ∧ stop.lexeme = .endOfText ∧
      ∀ token ∈ body, token.lexeme.IsScannable := by
  refine ⟨?_, ?_, fun ts => tokens_shape⟩
  · unfold parse
    cases lexed : tokens text with
    | error error => exact .inr (.inl ⟨error.error, rfl⟩)
    | ok ts =>
      obtain ⟨body, stop, closed⟩ := isClosed_of_tokens lexed
      simp only
      rcases closed.cases with ⟨f, read, -⟩ | ⟨fault, failed, -⟩
      · exact .inl ⟨f, read⟩
      · by_cases lost : fault = .instantOutOfRange
        · exact .inr (.inr (lost ▸ failed))
        · obtain ⟨error, rfl⟩ := closed.parseTokens_refused failed lost
          exact .inr (.inl ⟨error, failed⟩)
  · unfold parse
    cases lexed : tokens text with
    | error error => simp
    | ok ts =>
      obtain ⟨body, stop, closed⟩ := isClosed_of_tokens lexed
      simpa using closed.parseTokens_eq_instantOutOfRange_iff

/-- One hour east of UTC the first midnight of the calendar is an instant before it. -/
theorem parse_first_midnight_east :
    parse "A eq datetime'0001-01-01T00:00:00+01:00'" = .error .instantOutOfRange := by
  let literal : Token := ⟨.quoted .dateTime "0001-01-01T00:00:00+01:00", ⟨1, 6, 5⟩, 35⟩
  have lexed : tokens "A eq datetime'0001-01-01T00:00:00+01:00'" = .ok
      [⟨.identifier "A", ⟨1, 1, 0⟩, 1⟩, ⟨.comparison .equal "eq", ⟨1, 3, 2⟩, 2⟩, literal,
        ⟨.endOfText, ⟨1, 41, 40⟩, 0⟩] :=
    (tokens_eq_within _).trans (by decide)
  have decoded : DateTimeLiteral.decode "0001-01-01T00:00:00+01:00" =
      .error (.calendar .instantOutOfRange) := by
    decide
  have failing : ParserState.step ⟨[], .literal "A" .equal⟩ literal =
      .error .instantOutOfRange := by
    simp only [ParserState.step, decodeLiteral, literal, decoded]
    rfl
  have run : parseFrom .start
      [⟨.identifier "A", ⟨1, 1, 0⟩, 1⟩, ⟨.comparison .equal "eq", ⟨1, 3, 2⟩, 2⟩] =
        .ok ⟨[], .literal "A" .equal⟩ :=
    parseFrom_beforeLiteral rfl rfl []
  rw [parse, lexed]
  exact parseTokens_of_error (parseFrom_of_step_error run failing _)

end StagedTables.Filter
