import StagedTables.Proofs.Filter.Lookahead
import StagedTables.Proofs.Filter.RoundTrip

/-! # Texts as operands

A text that is read stands for its tree between parentheses too.  Its lexemes are the same wherever
it stands, its last one ends at the parenthesis, and the phrase that they form stops there, whatever
operators it is made of.  So putting texts together is joining their trees. -/
set_option autoImplicit false
namespace StagedTables.Filter

theorem reads_of_parse {text : String} {f : Filter} (read : parse text = .ok f)
    (restricts : f ≠ .empty) : Reads .disjunction text.toList f := by
  rcases phrase_of_parse read with ⟨empty, -⟩ | ⟨body, q, run, derived⟩
  · exact absurd empty restricts
  intro p rest boundary
  obtain ⟨front, whole, -, again⟩ := run.alike (boundary.followsAlike [])
  rw [List.append_nil] at whole
  obtain ⟨ts, q', lexed, same⟩ := again.anywhere p
  exact ⟨ts, q', whole ▸ lexed, derived.of_standFor (standFor_of_lexemes same)⟩

section Operands

variable {a b : String} {f g : Filter} (first : parse a = .ok f) (restricts : f ≠ .empty)
  (second : parse b = .ok g) (restricts' : g ≠ .empty)

include first restricts

theorem parse_parenthesised : parse ("(" ++ a ++ ")") = .ok f := by
  have reads := reads_parenthesised (reads_of_parse first restricts)
  have shape : "(" ++ a ++ ")" = String.ofList (parenthesised a.toList) := by
    simp [String.ext_iff, parenthesised]
  rw [shape]
  exact parse_of_reads (reads.map fun ts derived => .conjunction (.negation (.primary derived)))

theorem parse_negated : parse ("not (" ++ a ++ ")") = .ok (.not f) := by
  have reads := reads_negatedClause (reads_of_parse first restricts)
  have shape : "not (" ++ a ++ ")" = String.ofList (negatedClause a.toList) := by
    simp [String.ext_iff, negatedClause, parenthesised, negationWord]
  rw [shape]
  exact parse_of_reads (reads.map fun ts derived => .conjunction (.negation derived))

include second restricts'

theorem parse_joined (connective : Connective) :
    parse ("(" ++ a ++ ") " ++ connective.word ++ " (" ++ b ++ ")") =
      .ok (.binary f connective g) := by
  have reads := reads_binaryClause connective (reads_of_parse first restricts)
    (reads_of_parse second restricts')
  have shape : "(" ++ a ++ ") " ++ connective.word ++ " (" ++ b ++ ")" =
      String.ofList (binaryClause a.toList connective b.toList) := by
    simp [String.ext_iff, binaryClause, parenthesised]
  rw [shape]
  exact parse_of_reads reads

/-- Putting texts together is joining their trees. -/
theorem parse_composes :
    parse ("(" ++ a ++ ") and (" ++ b ++ ")") = .ok (.and f g) ∧
      parse ("(" ++ a ++ ") or (" ++ b ++ ")") = .ok (.or f g) ∧
      parse ("not (" ++ a ++ ")") = .ok (.not f) ∧ parse ("(" ++ a ++ ")") = .ok f := by
  have joined := parse_joined first restricts second restricts'
  refine ⟨?_, ?_, parse_negated first restricts, parse_parenthesised first restricts⟩
  · have words : "(" ++ a ++ ") and (" ++ b ++ ")" =
        "(" ++ a ++ ") " ++ Connective.and.word ++ " (" ++ b ++ ")" := by
      simp [String.ext_iff, Connective.word]
    rw [words]
    exact joined .and
  · have words : "(" ++ a ++ ") or (" ++ b ++ ")" =
        "(" ++ a ++ ") " ++ Connective.or.word ++ " (" ++ b ++ ")" := by
      simp [String.ext_iff, Connective.word]
    rw [words]
    exact joined .or

end Operands

theorem parse_composes_around_parentheses :
    parse "A eq ') or (' or B lt 2" =
        .ok (.or (.column "A" .equal (.text ") or (")) (.column "B" .less (.integer 2))) ∧
      parse "not C ge 3l" = .ok (.not (.column "C" .greaterOrEqual (.typed .int64 (.integer 3)))) ∧
      parse ("(" ++ "A eq ') or (' or B lt 2" ++ ") and (" ++ "not C ge 3l" ++ ")") =
        .ok (.and (.or (.column "A" .equal (.text ") or (")) (.column "B" .less (.integer 2)))
          (.not (.column "C" .greaterOrEqual (.typed .int64 (.integer 3))))) := by
  have first : parse "A eq ') or (' or B lt 2" =
      .ok (.or (.column "A" .equal (.text ") or (")) (.column "B" .less (.integer 2))) := by
    have lexed : tokens "A eq ') or (' or B lt 2" = .ok
        [⟨.identifier "A", ⟨1, 1, 0⟩, 1⟩, ⟨.comparison .equal "eq", ⟨1, 3, 2⟩, 2⟩,
          ⟨.string ") or (", ⟨1, 6, 5⟩, 8⟩, ⟨.connective .or "or", ⟨1, 15, 14⟩, 2⟩,
          ⟨.identifier "B", ⟨1, 18, 17⟩, 1⟩, ⟨.comparison .less "lt", ⟨1, 20, 19⟩, 2⟩,
          ⟨.integer 2, ⟨1, 23, 22⟩, 1⟩, ⟨.endOfText, ⟨1, 24, 23⟩, 0⟩] :=
      (tokens_eq_within _).trans (by decide)
    rw [parse, lexed]
    rfl
  have second : parse "not C ge 3l" =
      .ok (.not (.column "C" .greaterOrEqual (.typed .int64 (.integer 3)))) := by
    have lexed : tokens "not C ge 3l" = .ok
        [⟨.negation "not", ⟨1, 1, 0⟩, 3⟩, ⟨.identifier "C", ⟨1, 5, 4⟩, 1⟩,
          ⟨.comparison .greaterOrEqual "ge", ⟨1, 7, 6⟩, 2⟩, ⟨.long 3, ⟨1, 10, 9⟩, 2⟩,
          ⟨.endOfText, ⟨1, 12, 11⟩, 0⟩] :=
      (tokens_eq_within _).trans (by decide)
    rw [parse, lexed]
    rfl
  have joined := parse_composes first (by intro same; cases same) second (by intro same; cases same)
  exact ⟨first, second, joined.1⟩

end StagedTables.Filter
