import StagedTables.Proofs.Filter.Lookahead
import StagedTables.Proofs.Filter.RoundTrip

/-! # Text in a filter

The text of a string stands in its literal as it is.  Between the quotes of the literal a quote of
the text either ends the string or takes two characters for one, so the string that is read is
shorter than the text, whatever comes after it.  A text is read back exactly when it holds no
quote. -/
set_option autoImplicit false
namespace StagedTables

open Text StagedTables.Filter

/-! ## Equality with a text -/

theorem Value.compareHeld_text (v : Value) (s : String) :
    v.compareHeld .apart (.text s) = .ok true ∧ v = .text s ∨
      v.compareHeld .apart (.text s) = .ok false ∧ v ≠ .text s := by
  cases v with
  | text t =>
    by_cases same : t = s
    · subst same
      exact .inl ⟨congrArg Except.ok (beq_self_eq_true t), rfl⟩
    · exact .inr ⟨congrArg Except.ok (beq_eq_false_iff_ne.mpr same), by simpa using same⟩
  | boolean | integer | double | decimal =>
    refine .inr ⟨?_, nofun⟩
    simp [compareHeld, Comparing.apart, compare, plainCompare, numbersEqual, exactNumber?, isNumber]
  | _ => exact .inr ⟨rfl, nofun⟩

namespace Filter

theorem compare_column_text (f : Filter) (name : String) (comparison : Comparison) (s : String) :
    f.compare .apart (.column name comparison (.text s)) = .ok true ∧
        f = .column name comparison (.text s) ∨
      f.compare .apart (.column name comparison (.text s)) = .ok false ∧
        f ≠ .column name comparison (.text s) := by
  cases f with
  | column name' comparison' v =>
    by_cases alike : name' = name ∧ comparison' = comparison
    · obtain ⟨rfl, rfl⟩ := alike
      simp only [compare, and_self, ↓reduceIte, ne_eq, column.injEq, true_and]
      exact v.compareHeld_text s
    · refine .inr ⟨if_neg alike, fun same => alike ?_⟩
      cases same
      exact ⟨rfl, rfl⟩
  | _ => exact .inr ⟨rfl, nofun⟩

/-! ## The string that is read -/

/-- A quote in a body takes two characters, and the closing quote one more. -/
theorem length_of_quotedBody? {cs body : List Char} {length : Nat}
    (read : quotedBody? cs = some (body, length)) : length = body.length + body.count '\'' + 1 := by
  induction cs using quotedBody?.induct generalizing body length with
  | case1 => cases read
  | case2 rest ih =>
    simp only [quotedBody?, Option.map_eq_some_iff] at read
    obtain ⟨⟨inner, count⟩, found, same⟩ := read
    cases same
    have inside := ih found
    simp only [List.length_cons, List.count_cons_self]
    omega
  | case3 rest single =>
    simp only [quotedBody?] at read
    cases read
    rfl
  | case4 c rest notDoubled unquoted ih =>
    have other : c ≠ '\'' := fun quote => unquoted quote
    rw [quotedBody?_cons other, Option.map_eq_some_iff] at read
    obtain ⟨⟨inner, count⟩, found, same⟩ := read
    cases same
    have inside := ih found
    simp only [List.length_cons, List.count_cons_of_ne other]
    omega

theorem unquoted_of_quotedBody? {body : List Char} {length : Nat}
    (read : quotedBody? (body ++ ['\'']) = some (body, length)) : '\'' ∉ body := by
  obtain ⟨front, rest, whole, taken, -⟩ := quotedBody?_front read
  have total := congrArg List.length whole
  have needed := length_of_quotedBody? read
  simp only [List.length_append, List.length_singleton] at total
  rw [← List.count_eq_zero]
  omega

/-! ## Reading the clause of a text -/

theorem toQuery_column_text (zone : Calendar.LocalZone) (name : String) (comparison : Comparison)
    (s : String) :
    toQuery zone (.column name comparison (.text s)) =
      .ok (some (String.ofList
        (comparisonClause name comparison (Literal.marked "" s.toList)))) := rfl

theorem Derives.literal_of_column {n : Nonterminal} {first operator literal : Token}
    {ts : List Token} {f : Filter} (derived : Derives n (first :: operator :: literal :: ts) f)
    {spelling name : String} (named : first.lexeme = .identifier spelling) {comparison : Comparison}
    {v : Value} (shape : f = .column name comparison v) : LiteralValue literal.lexeme v := by
  generalize whole : first :: operator :: literal :: ts = us at derived
  induction derived with
  | comparison _ _ decoded =>
    cases whole
    cases shape
    exact decoded
  | group opened _ _ _ =>
    obtain ⟨rfl, -⟩ := List.cons.inj whole
    rw [named] at opened
    cases opened
  | not => cases shape
  | primary _ ih => exact ih shape whole
  | and => cases shape
  | negation _ ih => exact ih shape whole
  | or => cases shape
  | conjunction _ ih => exact ih shape whole

/-- A whole reading goes on where a partial one has come to. -/
theorem Lexes.resume {p q r : Position} {cs middle : List Char} {ts us : List Token}
    (first : Lexes p cs us r middle) (whole : Lexes p cs ts q []) :
    ∃ vs, ts = us ++ vs ∧ Lexes r middle vs q [] := by
  induction first generalizing ts with
  | done => exact ⟨ts, rfl, whole⟩
  | blank space _ ih =>
    cases whole with
    | blank _ after => exact ih after
    | token solid => simp [space] at solid
  | token solid scan _ ih =>
    cases whole with
    | blank space => simp [space] at solid
    | token _ again after =>
      cases scan.symm.trans again
      obtain ⟨vs, rfl, rest⟩ := ih after
      exact ⟨vs, rfl, rest⟩

theorem exists_string_of_lexes {p q : Position} {cs : List Char} {ts : List Token}
    (lexed : Lexes p ('\'' :: cs) ts q []) : ∃ body length token more,
      quotedBody? cs = some (body, length) ∧ ts = token :: more ∧
        token.lexeme = .string (String.ofList body) := by
  cases lexed with
  | blank space => cases space
  | @token p q c cs rest ts scanned solid scan after =>
    rw [scan_quote] at scan
    simp only [scanString, List.tail_cons] at scan
    split at scan
    · next body length read =>
      cases scan
      exact ⟨body, length, _, _, read, rfl, rfl⟩
    · cases scan

theorem unquoted_of_parse {name : String} (isName : IsColumnName name.toList)
    {comparison : Comparison} {s : String}
    (read : parse (String.ofList (comparisonClause name comparison (Literal.marked "" s.toList))) =
      .ok (.column name comparison (.text s))) : '\'' ∉ s.toList := by
  rcases phrase_of_parse read with ⟨empty, -⟩ | ⟨body, q, run, derived⟩
  · cases empty
  have front := lexes_comparisonClause isName comparison .start (Literal.marked "" s.toList)
  rw [String.toList_ofList] at run
  obtain ⟨ts, rfl, last⟩ := front.resume run
  obtain ⟨inner, length, token, more, found, rfl, string⟩ := exists_string_of_lexes last
  have value := derived.literal_of_column rfl rfl
  rw [string] at value
  cases value with
  | string =>
    rw [String.toList_ofList] at found ⊢
    exact unquoted_of_quotedBody? found

theorem parse_of_unquoted {name : String} (isName : IsColumnName name.toList)
    (comparison : Comparison) {s : String} (unquoted : '\'' ∉ s.toList) :
    parse (String.ofList (comparisonClause name comparison (Literal.marked "" s.toList))) =
      .ok (.column name comparison (.text s)) := by
  have scans := scansAs_string unquoted
  rw [String.ofList_toList] at scans
  have reads := reads_comparisonClause comparison isName scans (.string s)
  exact parse_of_reads (reads.map fun ts derived => .conjunction (.negation (.primary derived)))

theorem isColumnName_of_tokens {name : String} {ts : List Token} (lexed : tokens name = .ok ts)
    (single : ts.map Token.lexeme = [.identifier name, .endOfText]) :
    IsColumnName name.toList := by
  obtain ⟨body, stop, rfl, -, scannable⟩ := tokens_shape lexed
  have split : body.map Token.lexeme ++ [stop.lexeme] = [.identifier name] ++ [.endOfText] := by
    simpa using single
  obtain ⟨first, -⟩ := List.append_inj' split rfl
  obtain ⟨token, rest, rfl, named, -⟩ := List.map_eq_cons_iff.mp first
  have carried := scannable token (by simp)
  rwa [named] at carried

/-- A text is read back as itself exactly when it holds no quote.  With a quote in it the reader
fails, or it gives another filter. -/
theorem parse_toQuery_text (zone : Calendar.LocalZone) {name : String} {ts : List Token}
    (lexed : tokens name = .ok ts)
    (single : ts.map Token.lexeme = [.identifier name, .endOfText]) (comparison : Comparison)
    (s : String) :
    ∃ query, toQuery zone (.column name comparison (.text s)) = .ok (some query) ∧
      ((∃ f, parse query = .ok f ∧
          f.compare .apart (.column name comparison (.text s)) = .ok true) ↔ '\'' ∉ s.toList) ∧
      ('\'' ∈ s.toList → (∃ fault, parse query = .error fault) ∨
        ∃ f, parse query = .ok f ∧
          f.compare .apart (.column name comparison (.text s)) = .ok false) := by
  have isName := isColumnName_of_tokens lexed single
  let query := String.ofList (comparisonClause name comparison (Literal.marked "" s.toList))
  have boundary : (∃ f, parse query = .ok f ∧
      f.compare .apart (.column name comparison (.text s)) = .ok true) ↔ '\'' ∉ s.toList := by
    constructor
    · rintro ⟨f, read, same⟩
      rcases compare_column_text f name comparison s with ⟨-, rfl⟩ | ⟨other, -⟩
      · exact unquoted_of_parse isName read
      · cases same.symm.trans other
    · intro unquoted
      refine ⟨_, parse_of_unquoted isName comparison unquoted, ?_⟩
      rcases compare_column_text (.column name comparison (.text s)) name comparison s with
        ⟨same, -⟩ | ⟨-, other⟩
      · exact same
      · exact absurd rfl other
  refine ⟨query, toQuery_column_text zone name comparison s, boundary, fun quote => ?_⟩
  cases read : parse query with
  | error fault => exact .inl ⟨fault, rfl⟩
  | ok f =>
    right
    rcases compare_column_text f name comparison s with ⟨same, -⟩ | ⟨other, -⟩
    · exact absurd quote (boundary.mp ⟨f, read, same⟩)
    · exact ⟨f, rfl, other⟩

theorem parse_toQuery_text_operators :
    ∃ query, toQuery .utc (.column "A" .equal (.text "x' or B ne 'y")) = .ok (some query) ∧
      ¬ ∃ f, parse query = .ok f ∧
        f.compare .apart (.column "A" .equal (.text "x' or B ne 'y")) = .ok true := by
  have lexed : tokens "A" = .ok
      [⟨.identifier "A", ⟨1, 1, 0⟩, 1⟩, ⟨.endOfText, ⟨1, 2, 1⟩, 0⟩] :=
    (tokens_eq_within _).trans (by decide)
  obtain ⟨query, written, boundary, -⟩ :=
    parse_toQuery_text .utc lexed rfl .equal "x' or B ne 'y"
  exact ⟨query, written, fun read => boundary.mp read (by decide)⟩

end Filter
end StagedTables
