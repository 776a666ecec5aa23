import Mathlib.Logic.Relation
import StagedTables.Proofs.Filter.Clause

/-! # Elision

`Elides f g`: somewhere in `f` an empty filter has vanished together with the operator that joined
it, and `g` is left.  No step changes the clause of a filter.  In whatever order the steps are made,
they end in what is left of the filter without its empty parts: nothing, if it has no column, and
otherwise a filter with no empty part, whose clause leaves nothing out. -/
set_option autoImplicit false
namespace StagedTables.Filter

def HasColumn : Filter → Prop
  | empty => False
  | column _ _ _ => True
  | binary left _ right => left.HasColumn ∨ right.HasColumn
  | not operand => operand.HasColumn

def IsEncodable (zone : Calendar.LocalZone) : Filter → Prop
  | empty => True
  | column _ _ value => ∃ literal, Literal.chars zone value = .ok literal
  | binary left _ right => left.IsEncodable zone ∧ right.IsEncodable zone
  | not operand => operand.IsEncodable zone

def IsFull : Filter → Prop
  | empty => False
  | column _ _ _ => True
  | binary left _ right => left.IsFull ∧ right.IsFull
  | not operand => operand.IsFull

inductive Elides : Filter → Filter → Prop
  | left (connective : Connective) (g : Filter) : Elides (.binary .empty connective g) g
  | right (connective : Connective) (g : Filter) : Elides (.binary g connective .empty) g
  | negation : Elides (.not .empty) .empty
  | inLeft {f f' : Filter} (connective : Connective) (g : Filter) (step : Elides f f') :
      Elides (.binary f connective g) (.binary f' connective g)
  | inRight {g g' : Filter} (f : Filter) (connective : Connective) (step : Elides g g') :
      Elides (.binary f connective g) (.binary f connective g')
  | inNegation {f f' : Filter} (step : Elides f f') : Elides (.not f) (.not f')

def ReducesTo (f g : Filter) : Prop := Relation.ReflTransGen Elides f g ∧ ∀ h, ¬ Elides g h

/-- The clause of a filter in which nothing is left out: the operands of every operator stand in
parentheses. -/
def plainClause (zone : Calendar.LocalZone) : Filter → Except ConversionFault (List Char)
  | empty => .ok []
  | column name comparison value => do
    let literal ← Literal.chars zone value
    return comparisonClause name comparison literal
  | binary left connective right => do
    let first ← left.plainClause zone
    let second ← right.plainClause zone
    return binaryClause first connective second
  | not operand => do
    let inner ← operand.plainClause zone
    return negatedClause inner

variable {zone : Calendar.LocalZone}

/-! ## One step -/

theorem Elides.clause_eq {f g : Filter} (step : Elides f g) : f.clause zone = g.clause zone := by
  induction step with
  | left connective g =>
    simp only [clause]
    cases g.clause zone <;> rfl
  | right connective g =>
    simp only [clause]
    cases written : g.clause zone with
    | error fault => rfl
    | ok rest => cases rest <;> rfl
  | negation => rfl
  | inLeft connective g _ ih => simp only [clause, ih]
  | inRight f connective _ ih => simp only [clause, ih]
  | inNegation _ ih => simp only [clause, ih]

theorem Elides.reduced_eq {f g : Filter} (step : Elides f g) : f.reduced = g.reduced := by
  induction step with
  | left connective g => simp [reduced]
  | right connective g =>
    simp only [reduced]
    cases g.reduced <;> rfl
  | negation => rfl
  | inLeft connective g _ ih => simp only [reduced, ih]
  | inRight f connective _ ih => simp only [reduced, ih]
  | inNegation _ ih => simp only [reduced, ih]

theorem IsFull.not_elides {f : Filter} (full : f.IsFull) (g : Filter) : ¬ Elides f g := by
  intro step
  induction step with
  | left => exact full.1
  | right => exact full.2
  | negation => exact full
  | inLeft _ _ _ ih => exact ih full.1
  | inRight _ _ _ ih => exact ih full.2
  | inNegation _ ih => exact ih full

/-! ## All steps -/

theorem clause_eq_of_elides {f g : Filter} (steps : Relation.ReflTransGen Elides f g) :
    f.clause zone = g.clause zone := by
  induction steps with
  | refl => rfl
  | tail _ step ih => exact ih.trans step.clause_eq

theorem reduced_eq_of_elides {f g : Filter} (steps : Relation.ReflTransGen Elides f g) :
    f.reduced = g.reduced := by
  induction steps with
  | refl => rfl
  | tail _ step ih => exact ih.trans step.reduced_eq

theorem reduced_binary {l r g : Filter} {connective : Connective}
    (left : (Filter.binary l connective r).reduced = some g) :
    l.reduced = some g ∨ r.reduced = some g ∨
      ∃ l' r', l.reduced = some l' ∧ r.reduced = some r' ∧ g = .binary l' connective r' := by
  simp only [reduced] at left
  cases first : l.reduced with
  | none => exact .inr (.inl (by simpa [first] using left))
  | some l' =>
    cases second : r.reduced with
    | none => exact .inl (by simpa [first, second] using left)
    | some r' =>
      rw [first, second] at left
      cases left
      exact .inr (.inr ⟨l', r', rfl, rfl, rfl⟩)

theorem reduced_not {f g : Filter} (left : (Filter.not f).reduced = some g) :
    ∃ inner, f.reduced = some inner ∧ g = .not inner := by
  obtain ⟨inner, rest, rfl⟩ := Option.map_eq_some_iff.mp left
  exact ⟨inner, rest, rfl⟩

theorem isFull_of_reduced {f g : Filter} (left : f.reduced = some g) : g.IsFull := by
  induction f generalizing g with
  | empty => cases left
  | column =>
    cases left
    trivial
  | binary l connective r leftFull rightFull =>
    rcases reduced_binary left with first | second | ⟨l', r', first, second, rfl⟩
    · exact leftFull first
    · exact rightFull second
    · exact ⟨leftFull first, rightFull second⟩
  | not operand ih =>
    obtain ⟨inner, rest, rfl⟩ := reduced_not left
    have full : inner.IsFull := ih rest
    exact full

theorem elides_reduced (f : Filter) :
    Relation.ReflTransGen Elides f (f.reduced.getD .empty) := by
  induction f with
  | empty => exact .refl
  | column => exact .refl
  | binary l connective r first second =>
    have left : Relation.ReflTransGen Elides (.binary l connective r)
        (.binary (l.reduced.getD .empty) connective r) :=
      first.lift (fun l => Filter.binary l connective r) fun _ _ step =>
        Elides.inLeft connective r step
    have right : Relation.ReflTransGen Elides (.binary (l.reduced.getD .empty) connective r)
        (.binary (l.reduced.getD .empty) connective (r.reduced.getD .empty)) :=
      second.lift (fun r => Filter.binary (l.reduced.getD .empty) connective r) fun _ _ step =>
        Elides.inRight _ connective step
    have both := left.trans right
    -- an operand of which nothing is left vanishes in one more step
    cases leftRest : l.reduced with
    | none =>
      rw [leftRest] at both
      rw [reduced, leftRest]
      exact both.tail (.left connective _)
    | some l' =>
      rw [leftRest] at both
      cases rightRest : r.reduced with
      | none =>
        rw [rightRest] at both
        rw [reduced, leftRest, rightRest]
        exact both.tail (.right connective _)
      | some r' =>
        rw [rightRest] at both
        rw [reduced, leftRest, rightRest]
        exact both
  | not operand ih =>
    have inside : Relation.ReflTransGen Elides (.not operand)
        (.not (operand.reduced.getD .empty)) :=
      ih.lift Filter.not fun _ _ step => Elides.inNegation step
    cases rest : operand.reduced with
    | none =>
      rw [rest] at inside
      rw [reduced, rest]
      exact inside.tail .negation
    | some inner =>
      rw [rest] at inside
      rw [reduced, rest]
      exact inside

theorem not_elides_reduced (f g : Filter) : ¬ Elides (f.reduced.getD .empty) g := by
  cases rest : f.reduced with
  | none => exact nofun
  | some inner => exact (isFull_of_reduced rest).not_elides g

/-- The steps end in one filter, in whatever order they are made. -/
theorem reducesTo_iff {f g : Filter} : f.ReducesTo g ↔ g = f.reduced.getD .empty := by
  constructor
  · rintro ⟨steps, ended⟩
    rw [reduced_eq_of_elides steps]
    rcases Relation.ReflTransGen.cases_head (elides_reduced g) with same | ⟨h, step, -⟩
    · exact same
    · exact absurd step (ended h)
  · rintro rfl
    exact ⟨elides_reduced f, not_elides_reduced f⟩

theorem hasColumn_iff (f : Filter) : f.HasColumn ↔ ∃ g, f.reduced = some g := by
  induction f with
  | empty => simp [HasColumn, reduced]
  | column => simp [HasColumn, reduced]
  | binary l connective r first second =>
    simp only [HasColumn, first, second, reduced]
    cases l.reduced <;> cases r.reduced <;> simp
  | not operand ih => simp [HasColumn, ih, reduced]

/-! ## The clause of what is left -/

theorem clause_eq_plainClause (zone : Calendar.LocalZone) (f : Filter) :
    f.clause zone = match f.reduced with
      | none => .ok none
      | some g => (g.plainClause zone).map some := by
  induction f with
  | empty => rfl
  | column name comparison value =>
    simp only [clause, reduced, plainClause]
    cases Literal.chars zone value <;> rfl
  | binary l connective r first second =>
    simp only [clause, reduced, first, second]
    cases l.reduced with
    | none =>
      cases r.reduced with
      | none => rfl
      | some r' => simp only; cases r'.plainClause zone <;> rfl
    | some l' =>
      cases r.reduced with
      | none => simp only; cases l'.plainClause zone <;> rfl
      | some r' =>
        simp only [plainClause]
        cases l'.plainClause zone with
        | error fault => rfl
        | ok first => cases r'.plainClause zone <;> rfl
  | not operand ih =>
    simp only [clause, reduced, ih]
    cases operand.reduced with
    | none => rfl
    | some inner =>
      simp only [Option.map_some, plainClause]
      cases inner.plainClause zone <;> rfl

theorem IsEncodable.reduced {f g : Filter} (encodable : f.IsEncodable zone)
    (left : f.reduced = some g) : g.IsEncodable zone := by
  induction f generalizing g with
  | empty => cases left
  | column =>
    cases left
    exact encodable
  | binary l connective r leftEncodable rightEncodable =>
    rcases reduced_binary left with first | second | ⟨l', r', first, second, rfl⟩
    · exact leftEncodable encodable.1 first
    · exact rightEncodable encodable.2 second
    · exact ⟨leftEncodable encodable.1 first, rightEncodable encodable.2 second⟩
  | not operand ih =>
    obtain ⟨inner, rest, rfl⟩ := reduced_not left
    have inside : inner.IsEncodable zone := ih encodable rest
    exact inside

theorem IsEncodable.exists_plainClause {f : Filter} (encodable : f.IsEncodable zone) :
    ∃ text, f.plainClause zone = .ok text := by
  induction f with
  | empty => exact ⟨[], rfl⟩
  | column name comparison value =>
    obtain ⟨literal, written⟩ := encodable
    exact ⟨comparisonClause name comparison literal, by rw [plainClause, written]; rfl⟩
  | binary l connective r first second =>
    obtain ⟨left, leftWritten⟩ := first encodable.1
    obtain ⟨right, rightWritten⟩ := second encodable.2
    exact ⟨binaryClause left connective right, by rw [plainClause, leftWritten, rightWritten]; rfl⟩
  | not operand ih =>
    obtain ⟨inner, written⟩ := ih encodable
    exact ⟨negatedClause inner, by rw [plainClause, written]; rfl⟩

theorem IsFull.plainClause_ne_nil {f : Filter} (full : f.IsFull) {text : List Char}
    (written : f.plainClause zone = .ok text) : text ≠ [] := by
  rintro rfl
  cases f with
  | empty => exact full
  | column name comparison value =>
    simp only [plainClause] at written
    cases literal : Literal.chars zone value with
    | error fault => rw [literal] at written; cases written
    | ok chars =>
      rw [literal] at written
      have nothing : comparisonClause name comparison chars = [] := Except.ok.inj written
      simp [comparisonClause] at nothing
  | binary l connective r =>
    simp only [plainClause] at written
    cases first : l.plainClause zone with
    | error fault => rw [first] at written; cases written
    | ok left =>
      cases second : r.plainClause zone with
      | error fault => rw [first, second] at written; cases written
      | ok right => rw [first, second] at written; cases written
  | not operand =>
    simp only [plainClause] at written
    cases inner : operand.plainClause zone with
    | error fault => rw [inner] at written; cases written
    | ok chars => rw [inner] at written; cases written

/-- An encodable filter has no query text when nothing is left of it, and otherwise the clause of
what is left. -/
theorem IsEncodable.toQuery_cases {f : Filter} (encodable : f.IsEncodable zone) :
    (f.reduced = none ∧ f.toQuery zone = .ok none) ∨
      ∃ g text, f.reduced = some g ∧ g.plainClause zone = .ok text ∧
        f.toQuery zone = .ok (some (String.ofList text)) := by
  have clause := clause_eq_plainClause zone f
  cases left : f.reduced with
  | none =>
    rw [left] at clause
    exact .inl ⟨rfl, by rw [toQuery, clause]; rfl⟩
  | some g =>
    obtain ⟨text, written⟩ := (encodable.reduced left).exists_plainClause
    rw [left] at clause
    simp only [written] at clause
    exact .inr ⟨g, text, rfl, written, by rw [toQuery, clause]; rfl⟩

end StagedTables.Filter
