import StagedTables.Filter.Query
import StagedTables.Proofs.Filter.LiteralText

/-! # The clause of a filter

The clause of a filter is read as a phrase of the grammar wherever a boundary follows, and the tree
of the phrase is the canonical form of what is left of the filter without its empty parts. -/
set_option autoImplicit false
namespace StagedTables.Filter

/-- A filter without its empty parts and the operators that join them; `none` when nothing is
left. -/
def reduced : Filter → Option Filter
  | empty => none
  | column name comparison value => some (column name comparison value)
  | binary left connective right =>
    match left.reduced, right.reduced with
    | none, rest => rest
    | rest, none => rest
    | some l, some r => some (binary l connective r)
  | not operand => operand.reduced.map not

/-- Every column has a name that is read as one, and a value that can be written. -/
def IsWritable (zone : Calendar.LocalZone) : Filter → Prop
  | empty => True
  | column name _ value => IsColumnName name.toList ∧ value.IsWritable zone
  | binary left _ right => left.IsWritable zone ∧ right.IsWritable zone
  | not operand => operand.IsWritable zone

/-- Two filters of one shape, the values of the second canonical for those of the first. -/
inductive HasCanonical (zone : Calendar.LocalZone) : Filter → Filter → Prop
  | empty : HasCanonical zone .empty .empty
  | column {v w : Value} (name : String) (comparison : Comparison) (value : v.HasCanonical zone w) :
      HasCanonical zone (.column name comparison v) (.column name comparison w)
  | binary {f f' g g' : Filter} (connective : Connective) (left : HasCanonical zone f f')
      (right : HasCanonical zone g g') :
      HasCanonical zone (.binary f connective g) (.binary f' connective g')
  | not {f f' : Filter} (operand : HasCanonical zone f f') : HasCanonical zone (.not f) (.not f')

variable {zone : Calendar.LocalZone}

theorem HasCanonical.unique {f g g' : Filter} (first : HasCanonical zone f g)
    (second : HasCanonical zone f g') : g = g' := by
  induction first generalizing g' with
  | empty => cases second; rfl
  | column name comparison value =>
    cases second with
    | column _ _ value' => rw [CanonicalValue.unique value value']
  | binary connective _ _ left right =>
    cases second with
    | binary _ left' right' => rw [left left', right right']
  | not _ operand =>
    cases second with
    | not operand' => rw [operand operand']

/-! ## Tokens of a clause -/

/-- Where a boundary follows, the characters are read as a phrase of the nonterminal. -/
def Reads (n : Nonterminal) (cs : List Char) (f : Filter) : Prop :=
  ∀ p rest, IsBoundary rest →
    ∃ ts q, Lexes p (cs ++ rest) ts q rest ∧ Derives n ts f

theorem Reads.map {n m : Nonterminal} {cs : List Char} {f : Filter}
    (rule : ∀ ts, Derives n ts f → Derives m ts f) (reads : Reads n cs f) : Reads m cs f := by
  intro p rest boundary
  obtain ⟨ts, q, lexed, derived⟩ := reads p rest boundary
  exact ⟨ts, q, lexed, rule ts derived⟩

theorem ScansAs.lexes_space {cs more rest : List Char} {lexeme : Lexeme} {p q : Position}
    {ts : List Token} (scans : ScansAs cs lexeme)
    (after : Lexes ((p.advance cs).next ' ') more ts q rest) :
    Lexes p (cs ++ ' ' :: more) (⟨lexeme, p, cs.length⟩ :: ts) q rest := by
  have first := scans.lexes p (isBoundary_space more)
  exact first.append (.blank (by decide) after)

theorem scan_leftParenthesis (cs : List Char) : scan ('(' :: cs) = .ok ⟨.leftParenthesis, 1⟩ := rfl

theorem scan_rightParenthesis (cs : List Char) :
    scan (')' :: cs) = .ok ⟨.rightParenthesis, 1⟩ := rfl

section Operands

variable {f g : Filter} {left right operand : List Char}

theorem reads_parenthesised (inner : Reads .disjunction operand f) :
    Reads .primary (parenthesised operand) f := by
  intro p rest boundary
  obtain ⟨ts, q, lexed, derived⟩ := inner (p.next '(') (')' :: rest) (isBoundary_closing rest)
  have closing : Lexes q (')' :: rest) [⟨.rightParenthesis, q, 1⟩] (q.next ')') rest :=
    .token (by decide) (scan_rightParenthesis rest) .done
  have whole := Lexes.token (by decide) (scan_leftParenthesis _) (lexed.append closing)
  have shape : parenthesised operand ++ rest = '(' :: (operand ++ ')' :: rest) := by
    simp [parenthesised]
  rw [shape]
  exact ⟨_, _, whole, .group rfl rfl derived⟩

theorem lexes_comparisonClause {name : String} (isName : IsColumnName name.toList)
    (comparison : Comparison) (p : Position) (literal : List Char) :
    Lexes p (comparisonClause name comparison literal)
      [⟨.identifier name, p, name.toList.length⟩,
        ⟨.comparison comparison comparison.word, p.advance (name.toList ++ [' ']),
          comparison.word.toList.length⟩]
      (p.advance (comparisonClause name comparison [])) literal := by
  have lexed : Lexes p (name.toList ++ ' ' :: (comparison.word.toList ++ ' ' :: literal)) _ _
      literal :=
    (scansAs_name isName).lexes_space ((scansAs_comparison comparison).lexes_space .done)
  simpa [comparisonClause, Position.advance_append] using lexed

theorem reads_comparisonClause {name : String} (comparison : Comparison) {value : Value}
    {literal : List Char} {lexeme : Lexeme} (isName : IsColumnName name.toList)
    (scans : ScansAs literal lexeme) (decoded : LiteralValue lexeme value) :
    Reads .primary (comparisonClause name comparison literal) (.column name comparison value) := by
  intro p rest boundary
  have front := lexes_comparisonClause isName comparison p (literal ++ rest)
  have last := scans.lexes (p.advance (comparisonClause name comparison [])) boundary
  have shape : comparisonClause name comparison literal ++ rest =
      comparisonClause name comparison (literal ++ rest) := by
    simp [comparisonClause]
  rw [shape]
  exact ⟨_, _, front.append last, .comparison rfl rfl decoded⟩

theorem reads_negatedClause (inner : Reads .disjunction operand f) :
    Reads .negation (negatedClause operand) (.not f) := by
  intro p rest boundary
  obtain ⟨ts, q, lexed, derived⟩ := reads_parenthesised inner
    ((p.advance negationWord.toList).next ' ') rest boundary
  have shape : negatedClause operand ++ rest =
      negationWord.toList ++ ' ' :: (parenthesised operand ++ rest) := by
    simp [negatedClause]
  rw [shape]
  exact ⟨_, _, scansAs_negation.lexes_space lexed, .not rfl (.primary derived)⟩

theorem reads_binaryClause (connective : Connective) (first : Reads .disjunction left f)
    (second : Reads .disjunction right g) :
    Reads .disjunction (binaryClause left connective right) (.binary f connective g) := by
  intro p rest boundary
  have shape : binaryClause left connective right ++ rest = parenthesised left ++ ' ' ::
      (connective.word.toList ++ ' ' :: (parenthesised right ++ rest)) := by
    simp [binaryClause]
  rw [shape]
  obtain ⟨ts, q, lexed, derived⟩ := reads_parenthesised first p _ (isBoundary_space _)
  obtain ⟨us, r, lexed', derived'⟩ := reads_parenthesised second
    (((q.next ' ').advance connective.word.toList).next ' ') rest boundary
  have joined := Lexes.blank (by decide) ((scansAs_connective connective).lexes_space lexed')
  refine ⟨_, _, lexed.append joined, ?_⟩
  cases connective with
  | and => exact .conjunction (.and (.negation (.primary derived)) rfl (.primary derived'))
  | or =>
    exact .or (.conjunction (.negation (.primary derived))) rfl (.negation (.primary derived'))

end Operands

/-! ## The clause of every filter that can be written -/

/-- What is left of a filter, and its clause: neither, or a clause that is read as the canonical
form of what is left. -/
inductive ClauseReads (zone : Calendar.LocalZone) : Option Filter → Option (List Char) → Prop
  | nothing : ClauseReads zone none none
  | clause {rest g : Filter} {cs : List Char} (canonical : HasCanonical zone rest g)
      (reads : Reads .disjunction cs g) : ClauseReads zone (some rest) (some cs)

theorem clause_of_isWritable {f : Filter} (writable : f.IsWritable zone) :
    ∃ clause, f.clause zone = .ok clause ∧ ClauseReads zone f.reduced clause := by
  induction f with
  | empty => exact ⟨none, rfl, .nothing⟩
  | column name comparison value =>
    obtain ⟨isName, writableValue⟩ := writable
    obtain ⟨literal, encoded⟩ := writableValue.encodes
    obtain ⟨lexeme, w, scans, decoded, canonical⟩ := writableValue.isLiteral encoded
    have reads := reads_comparisonClause comparison isName scans decoded
    refine ⟨some (comparisonClause name comparison literal), ?_, ?_⟩
    · rw [clause, encoded]
      rfl
    · exact .clause (.column name comparison canonical)
        (reads.map fun ts derived => .conjunction (.negation (.primary derived)))
  | binary left connective right leftReads rightReads =>
    obtain ⟨first, leftClause, leftAgrees⟩ := leftReads writable.1
    obtain ⟨second, rightClause, rightAgrees⟩ := rightReads writable.2
    rw [clause, leftClause, rightClause, reduced]
    generalize left.reduced = leftRest at leftAgrees ⊢
    generalize right.reduced = rightRest at rightAgrees ⊢
    -- an operand of which nothing is left gives way to the other one
    cases leftAgrees with
    | nothing => exact ⟨second, rfl, rightAgrees⟩
    | clause canonical reads =>
      cases rightAgrees with
      | nothing => exact ⟨_, rfl, .clause canonical reads⟩
      | clause canonical' reads' =>
        exact ⟨_, rfl, .clause (.binary connective canonical canonical')
          (reads_binaryClause connective reads reads')⟩
  | not operand operandReads =>
    obtain ⟨inner, innerClause, agrees⟩ := operandReads writable
    rw [clause, innerClause, reduced]
    generalize operand.reduced = operandRest at agrees ⊢
    cases agrees with
    | nothing => exact ⟨none, rfl, .nothing⟩
    | clause canonical reads =>
      exact ⟨_, rfl, .clause (.not canonical) ((reads_negatedClause reads).map fun ts derived =>
        .conjunction (.negation derived))⟩

theorem parse_of_reads {cs : List Char} {f : Filter} (reads : Reads .disjunction cs f) :
    parse (String.ofList cs) = .ok f := by
  obtain ⟨ts, q, lexed, derived⟩ := reads .start [] isBoundary_nil
  have read : tokens (String.ofList cs) = .ok (ts ++ [⟨.endOfText, q, 0⟩]) := by
    rw [tokens_ofList]
    exact tokensFrom_eq_ok_iff.mpr ⟨ts, q, by simpa using lexed, rfl⟩
  rw [parse, read]
  exact parseTokens_of_denotes (.phrase rfl derived)

theorem parse_empty : parse "" = .ok .empty := by
  have nothing : tokens "" = .ok [⟨.endOfText, .start, 0⟩] := tokensFrom_nil .start
  rw [parse, nothing]
  rfl

end StagedTables.Filter
