import StagedTables.Proofs.Filter.Acceptance
import StagedTables.Proofs.Filter.Clause

/-! # Writing and reading filters

What is written for a filter is read as the canonical form of what is left of the filter.  What is
read from a text has nothing to remove and nothing to change: it is a settled filter, whose text is
read as the same filter and is written for it again. -/
set_option autoImplicit false
namespace StagedTables

open Numeral StagedTables.Filter

variable {zone : Calendar.LocalZone}

namespace Filter

theorem toQuery_of_clause {f : Filter} {clause : Option (List Char)}
    (written : f.clause zone = .ok clause) : f.toQuery zone = .ok (clause.map String.ofList) := by
  rw [toQuery, written]
  rfl

/-- The text of a filter that can be written is read as one filter, the canonical form of what is
left of it. -/
theorem parse_toQuery (zone : Calendar.LocalZone) {f : Filter} (writable : f.IsWritable zone) :
    ∃ query g, f.toQuery zone = .ok query ∧ parse (query.getD "") = .ok g ∧
      ∀ h, HasCanonical zone (f.reduced.getD .empty) h ↔ h = g := by
  obtain ⟨clause, written, agrees⟩ := clause_of_isWritable writable
  have query := toQuery_of_clause written
  cases left : f.reduced with
  | none =>
    rw [left] at agrees
    cases agrees with
    | nothing =>
      refine ⟨none, .empty, query, parse_empty, fun h => ⟨fun canonical => ?_, ?_⟩⟩
      · exact canonical.unique .empty
      · rintro rfl
        exact .empty
  | some rest =>
    rw [left] at agrees
    cases agrees with
    | @clause rest g cs canonical reads =>
      have read := parse_of_reads reads
      refine ⟨some (String.ofList cs), g, query, read, fun h => ⟨fun other => ?_, ?_⟩⟩
      · exact other.unique canonical
      · rintro rfl
        exact canonical

theorem parse_toQuery_identifier_beside_empty :
    ∃ query g, toQuery .utc (.or (.not .empty) (.not (.column "Id" .notEqual
          (.typed .guid (.text "00000000-0000-4000-8000-00000000ABCD"))))) = .ok query ∧
      parse (query.getD "") = .ok g ∧
      ∀ h, HasCanonical .utc (.not (.column "Id" .notEqual
        (.typed .guid (.text "00000000-0000-4000-8000-00000000ABCD")))) h ↔ h = g := by
  have digits : ("00000000".toList ++ "0000".toList ++ "4000".toList ++ "8000".toList ++
      "00000000ABCD".toList).all (fun c => (Base.digit? .sixteen c).isSome) = true := by
    decide
  have groups : Uuid.IsGuidText (Uuid.hyphenated "00000000".toList "0000".toList "4000".toList
      "8000".toList "00000000ABCD".toList) :=
    .groups (by decide) (List.all_eq_true.mp digits)
  have guid : Uuid.IsGuidText "00000000-0000-4000-8000-00000000ABCD".toList := groups
  have writable :
      (Value.typed .guid (.text "00000000-0000-4000-8000-00000000ABCD")).IsWritable .utc :=
    { accepted := by
        intro edm inner shape
        cases shape
        exact accepts_guid_of_isGuidText guid
      encodes := ⟨_, rfl⟩
      unquoted := by simp [Value.edm]
      guid := by
        intro _
        right
        intro s text
        cases text
        exact guid }
  exact parse_toQuery .utc (f := .or (.not .empty) (.not (.column "Id" .notEqual _)))
    ⟨trivial, isColumnName_id, writable⟩

end Filter

/-! ## Values that are read -/

theorem Value.isWritable_of_edm {v : Value} {literal : List Char} (edm : Edm)
    (hasEdm : v.edm = edm) (notString : edm ≠ .string) (notGuid : edm ≠ .guid)
    (accepts : edm.accepts v.untyped = true) (encoded : Literal.chars zone v = .ok literal) :
    v.IsWritable zone where
  accepted := by
    rintro own inner rfl
    rw [← hasEdm] at accepts
    exact accepts
  encodes := ⟨literal, encoded⟩
  unquoted isString := absurd (hasEdm.symm.trans isString) notString
  guid isGuid := absurd (hasEdm.symm.trans isGuid) notGuid

/-- A value that a literal has is canonical, and can be written unless it is text with a quote. -/
theorem Filter.LiteralValue.isWritable {lexeme : Lexeme} {w : Value}
    (decoded : LiteralValue lexeme w) (unquoted : ∀ s, w = .text s → '\'' ∉ s.toList) :
    w.IsWritable zone ∧ w.HasCanonical zone w := by
  cases decoded with
  | string body =>
    have writable : (Value.text body).IsWritable zone :=
      { accepted := by simp
        encodes := ⟨_, rfl⟩
        unquoted := by
          intro _ s text
          cases text
          exact unquoted body rfl
        guid := by simp [Value.edm] }
    exact ⟨writable, .string (by simp [Value.untyped]) rfl⟩
  | @integer n fits =>
    have edm : (Value.integer n).edm = .int32 := if_pos fits
    have encoded : Literal.chars zone (.integer n) = .ok (toString n).toList := by
      rw [Literal.chars, edm]
      exact encodeAs_int32 fits
    have writable := Value.isWritable_of_edm .int32 edm (by decide) (by decide)
      (decide_eq_true fits) encoded
    refine ⟨writable, ?_⟩
    rw [Value.HasCanonical, edm]
    exact .int32 n
  | @long n fits =>
    have writable : (Value.typed .int64 (.integer n)).IsWritable zone :=
      Value.isWritable_of_edm .int64 rfl (by decide) (by decide) (decide_eq_true fits)
        (encodeAs_int64 fits)
    exact ⟨writable, .int64 n⟩
  | float x =>
    exact ⟨Value.isWritable_of_edm .double rfl (by decide) (by decide) rfl rfl, .double x⟩
  | boolean b =>
    exact ⟨Value.isWritable_of_edm .boolean rfl (by decide) (by decide) rfl rfl, .boolean b⟩
  | @dateTime body d read =>
    have isUtc := DateTimeLiteral.decode_isUtc read
    have turned : d.toUtc zone = .ok d := Calendar.DateTime.toUtc_of_utc isUtc
    have writable : (Value.dateTime d).IsWritable zone :=
      Value.isWritable_of_edm .dateTime rfl (by decide) (by decide) rfl
        (encodeAs_dateTime turned)
    exact ⟨writable, .aware isUtc.offset_eq isUtc rfl⟩
  | @guid body u read =>
    have writable : (Value.uuid u).IsWritable zone :=
      { accepted := by simp
        encodes := ⟨_, rfl⟩
        unquoted := by simp [Value.edm]
        guid := fun _ => .inl ⟨u, rfl⟩ }
    exact ⟨writable, .guid rfl⟩
  | binary body =>
    exact ⟨Value.isWritable_of_edm .binary rfl (by decide) (by decide) rfl rfl, .binary _ _⟩

namespace Filter

/-! ## Filters that are read -/

def IsUnquoted : Filter → Prop
  | empty => True
  | column _ _ value => ∀ s, value = .text s → '\'' ∉ s.toList
  | binary left _ right => left.IsUnquoted ∧ right.IsUnquoted
  | not operand => operand.IsUnquoted

/-- A filter that can be written, with nothing to remove and nothing to change. -/
structure IsSettled (zone : Calendar.LocalZone) (f : Filter) : Prop where
  writable : f.IsWritable zone
  complete : f.reduced = some f
  canonical : HasCanonical zone f f

theorem IsSettled.binary {f g : Filter} (left : f.IsSettled zone) (connective : Connective)
    (right : g.IsSettled zone) : (Filter.binary f connective g).IsSettled zone where
  writable := ⟨left.writable, right.writable⟩
  complete := by rw [reduced, left.complete, right.complete]
  canonical := .binary connective left.canonical right.canonical

theorem IsSettled.not {f : Filter} (operand : f.IsSettled zone) :
    (Filter.not f).IsSettled zone where
  writable := operand.writable
  complete := by rw [reduced, operand.complete]; rfl
  canonical := .not operand.canonical

theorem Derives.isSettled {n : Nonterminal} {ts : List Token} {f : Filter}
    (derived : Derives n ts f) (scannable : ∀ token ∈ ts, token.lexeme.IsScannable)
    (unquoted : f.IsUnquoted) : f.IsSettled zone := by
  induction derived with
  | @comparison name operator literal column spelling comparison value named compared decoded =>
    have isName := scannable name (by simp)
    rw [named] at isName
    obtain ⟨writable, canonical⟩ := decoded.isWritable unquoted
    exact ⟨⟨isName, writable⟩, rfl, .column column comparison canonical⟩
  | group _ _ _ ih => exact ih (fun token member => scannable token (by simp [member])) unquoted
  | not _ _ ih => exact (ih (fun token member => scannable token (by simp [member])) unquoted).not
  | primary _ ih => exact ih scannable unquoted
  | and _ _ _ left right =>
    have first := left (fun token member => scannable token (by simp [member])) unquoted.1
    have second := right (fun token member => scannable token (by simp [member])) unquoted.2
    exact first.binary .and second
  | negation _ ih => exact ih scannable unquoted
  | or _ _ _ left right =>
    have first := left (fun token member => scannable token (by simp [member])) unquoted.1
    have second := right (fun token member => scannable token (by simp [member])) unquoted.2
    exact first.binary .or second
  | conjunction _ ih => exact ih scannable unquoted

theorem IsSettled.exists_query {f : Filter} (settled : f.IsSettled zone) :
    ∃ query, f.toQuery zone = .ok (some query) ∧ parse query = .ok f := by
  obtain ⟨clause, written, agrees⟩ := clause_of_isWritable settled.writable
  rw [settled.complete] at agrees
  cases agrees with
  | @clause rest g cs canonical reads =>
    cases canonical.unique settled.canonical
    exact ⟨String.ofList cs, toQuery_of_clause written, parse_of_reads reads⟩

/-! ## Texts of blanks -/

theorem lexes_blanks {cs : List Char} (blanks : ∀ c ∈ cs, isSpace c = true) (p : Position)
    (rest : List Char) : Lexes p (cs ++ rest) [] (p.advance cs) rest := by
  induction cs generalizing p with
  | nil => exact .done
  | cons c cs ih =>
    exact .blank (blanks c (by simp)) (ih (fun d member => blanks d (by simp [member])) (p.next c))

theorem Lexes.blanks {p q : Position} {cs rest : List Char} {ts : List Token}
    (lexed : Lexes p cs ts q rest) (nothing : ts = []) (whole : rest = []) :
    ∀ c ∈ cs, isSpace c = true := by
  induction lexed with
  | done => simp [whole]
  | blank space _ ih => exact List.forall_mem_cons.mpr ⟨space, ih nothing whole⟩
  | token => cases nothing

def IsBlankText (text : String) : Prop :=
  ∀ c ∈ text.toList, c = ' ' ∨ c = '\t' ∨ c = '\r' ∨ c = '\n'

theorem isBlankText_iff (text : String) :
    IsBlankText text ↔ ∀ c ∈ text.toList, isSpace c = true := by
  simp [IsBlankText, isSpace, or_assoc]

theorem parse_of_isBlankText {text : String} (blank : IsBlankText text) :
    parse text = .ok .empty := by
  have lexed := lexes_blanks ((isBlankText_iff text).mp blank) .start []
  rw [List.append_nil] at lexed
  have read := tokensFrom_eq_ok_iff.mpr ⟨[], _, lexed, rfl⟩
  rw [← tokens] at read
  rw [parse, read]
  exact parseTokens_of_denotes (.empty rfl)

theorem phrase_of_parse {text : String} {f : Filter} (read : parse text = .ok f) :
    (f = .empty ∧ IsBlankText text) ∨
      ∃ body q, Lexes .start text.toList body q [] ∧ Derives .disjunction body f := by
  unfold parse at read
  cases lexed : tokens text with
  | error error => rw [lexed] at read; cases read
  | ok ts =>
    rw [lexed] at read
    obtain ⟨body, q, run, closed⟩ := exists_isClosed lexed
    have denoted : Denotes ts f := (closed.parseTokens_eq_ok_iff f).mp read
    have shape := closed.split
    -- the end of the text closes both the tokens and the phrase, so the two agree before it
    cases denoted with
    | @empty stop stopped =>
      have split : [] ++ [stop] = body ++ [⟨.endOfText, q, 0⟩] := shape
      have nothing : body = [] := (List.append_inj' split rfl).1.symm
      exact .inl ⟨rfl, (isBlankText_iff text).mpr (run.blanks nothing rfl)⟩
    | @phrase us stop _ stopped derived =>
      have same : us = body := (List.append_inj' shape rfl).1
      exact .inr ⟨body, q, run, same ▸ derived⟩

/-- A filter that is read is empty, and the text blank, or it is settled. -/
theorem settled_of_parse {text : String} {f : Filter} (read : parse text = .ok f)
    (unquoted : f.IsUnquoted) : (f = .empty ∧ IsBlankText text) ∨ f.IsSettled zone := by
  rcases phrase_of_parse read with blank | ⟨body, q, run, derived⟩
  · exact .inl blank
  · exact .inr (derived.isSettled run.isScannable unquoted)

/-- What is written for a filter that was read: nothing when the text was blank, and otherwise a
text that is read as the same filter and is written for it again. -/
theorem toQuery_of_parse (zone : Calendar.LocalZone) {text : String} {f : Filter}
    (read : parse text = .ok f)
    (unquoted : f.IsUnquoted) :
    (f.toQuery zone = .ok none ∧ IsBlankText text) ∨
      (¬ IsBlankText text ∧ ∃ query g, f.toQuery zone = .ok (some query) ∧
        parse query = .ok g ∧ g = f ∧ g.toQuery zone = .ok (some query)) := by
  rcases settled_of_parse read unquoted with ⟨rfl, blank⟩ | settled
  · exact .inl ⟨rfl, blank⟩
  · obtain ⟨query, written, again⟩ := settled.exists_query
    have notBlank : ¬ IsBlankText text := by
      intro blank
      have empty : f = .empty := by
        rw [parse_of_isBlankText blank] at read
        exact (Except.ok.inj read).symm
      subst empty
      exact nomatch settled.complete
    exact .inr ⟨notBlank, query, f, written, again, rfl, written⟩

theorem toQuery_of_parse_lenient :
    parse "NOT((b\tLt +007) )" = .ok (.not (.column "b" .less (.integer 7))) ∧
      ∃ query g, toQuery .utc (.not (.column "b" .less (.integer 7))) = .ok (some query) ∧
        parse query = .ok g ∧ g.toQuery .utc = .ok (some query) := by
  have lexed : tokens "NOT((b\tLt +007) )" = .ok
      [⟨.negation "NOT", ⟨1, 1, 0⟩, 3⟩, ⟨.leftParenthesis, ⟨1, 4, 3⟩, 1⟩,
        ⟨.leftParenthesis, ⟨1, 5, 4⟩, 1⟩, ⟨.identifier "b", ⟨1, 6, 5⟩, 1⟩,
        ⟨.comparison .less "Lt", ⟨1, 8, 7⟩, 2⟩, ⟨.integer 7, ⟨1, 11, 10⟩, 4⟩,
        ⟨.rightParenthesis, ⟨1, 15, 14⟩, 1⟩, ⟨.rightParenthesis, ⟨1, 17, 16⟩, 1⟩,
        ⟨.endOfText, ⟨1, 18, 17⟩, 0⟩] :=
    (tokens_eq_within _).trans (by decide)
  have read : parse "NOT((b\tLt +007) )" = .ok (.not (.column "b" .less (.integer 7))) := by
    rw [parse, lexed]
    rfl
  have unquoted : IsUnquoted (.not (.column "b" .less (.integer 7))) := by simp [IsUnquoted]
  rcases toQuery_of_parse .utc read unquoted with
    ⟨-, blank⟩ | ⟨-, query, g, written, again, -, same⟩
  · exact absurd (blank 'N' (by decide)) (by decide)
  · exact ⟨read, query, g, written, again, same⟩

end Filter
end StagedTables
