import StagedTables.Proofs.Filter.Refusal
import StagedTables.Proofs.Filter.Splicing

/-! # Tokens and the text they are read from

The spans of the tokens follow one another and leave out blanks only, the line and the column of a
token are those of its offset, and the span of a token is read as that token when it stands alone.
A lexical error stands at the start of the lexeme at fault: the text before it is read, and the text
from there on fails in the same way. -/
set_option autoImplicit false
namespace StagedTables.Filter

/-! ## Lines and columns -/

structure Locates (cs : List Char) (offset line column : Nat) : Prop where
  line_eq : line = (cs.take offset).count '\n' + 1
  column_eq : column = ((cs.take offset).rtakeWhile (· != '\n')).length + 1

theorem locates_iff (cs : List Char) (offset line column : Nat) :
    Locates cs offset line column ↔
      line = (Position.start.advance (cs.take offset)).line ∧
        column = (Position.start.advance (cs.take offset)).column := by
  rw [Position.advance_start]
  simp only [Position.after, Position.start, if_true, Nat.add_comm 1]
  exact ⟨fun located => ⟨located.line_eq, located.column_eq⟩, fun both => ⟨both.1, both.2⟩⟩

namespace Position

theorem offset_next (p : Position) (c : Char) : (p.next c).offset = p.offset + 1 := by
  unfold next
  split <;> rfl

theorem offset_advance (p : Position) (cs : List Char) :
    (p.advance cs).offset = p.offset + cs.length := by
  induction cs generalizing p with
  | nil => rfl
  | cons c cs ih =>
    rw [advance_cons, ih, offset_next, List.length_cons]
    omega

theorem offset_advance_start (cs : List Char) : (start.advance cs).offset = cs.length := by
  rw [offset_advance, start, Nat.zero_add]

theorem locates_advance (before rest : List Char) :
    Locates (before ++ rest) (start.advance before).offset (start.advance before).line
      (start.advance before).column := by
  rw [locates_iff, offset_advance_start, List.take_left]
  exact ⟨rfl, rfl⟩

theorem before_of_lt {cs : List Char} {i j : Nat} (less : i < j) (inside : j ≤ cs.length) :
    (start.advance (cs.take i)).Before (start.advance (cs.take j)) := by
  have split : cs.take j = cs.take i ++ (cs.take j).drop i := by
    conv => lhs; rw [← List.take_append_drop i (cs.take j)]
    rw [List.take_take, Nat.min_eq_left (Nat.le_of_lt less)]
  have nonempty : (cs.take j).drop i ≠ [] := by
    apply List.ne_nil_of_length_pos
    simp only [List.length_drop, List.length_take]
    omega
  obtain ⟨c, between, shape⟩ := List.exists_cons_of_ne_nil nonempty
  rw [split, shape, advance_append]
  exact before_advance _ c between

end Position

theorem Locates.unique {cs : List Char} {i j line column : Nat} (first : Locates cs i line column)
    (second : Locates cs j line column) (inside : i ≤ cs.length) (inside' : j ≤ cs.length) :
    i = j := by
  obtain ⟨rfl, rfl⟩ := (locates_iff ..).mp first
  obtain ⟨line, column⟩ := (locates_iff ..).mp second
  rcases Nat.lt_trichotomy i j with less | same | greater
  · have before := Position.before_of_lt less inside'
    unfold Position.Before at before
    omega
  · exact same
  · have before := Position.before_of_lt greater inside
    unfold Position.Before at before
    omega

/-! ## Spans -/

def Token.stop (token : Token) : Nat := token.position.offset + token.length

def Token.Covers (token : Token) (offset : Nat) : Prop :=
  token.position.offset ≤ offset ∧ offset < token.stop

def Token.slice (token : Token) (cs : List Char) : List Char :=
  (cs.drop token.position.offset).take token.length

/-- The characters are one lexeme, and nothing is left of them. -/
structure IsSpelling (cs : List Char) (lexeme : Lexeme) : Prop where
  start : ∃ c rest, cs = c :: rest ∧ isSpace c = false
  scan : scan cs = .ok ⟨lexeme, cs.length⟩

theorem IsSpelling.tokens_eq {cs : List Char} {lexeme : Lexeme} (spelling : IsSpelling cs lexeme) :
    tokens (String.ofList cs) = .ok
      [⟨lexeme, .start, cs.length⟩, ⟨.endOfText, Position.start.advance cs, 0⟩] := by
  obtain ⟨c, rest, rfl, solid⟩ := spelling.start
  have lexed : Lexes .start (c :: (rest ++ [])) [⟨lexeme, .start, (c :: rest).length⟩]
      (Position.start.advance (c :: rest)) [] :=
    .of_scan solid (by rw [List.append_nil, spelling.scan]) rfl .done
  rw [List.append_nil] at lexed
  rw [tokens_ofList]
  exact tokensFrom_eq_ok_iff.mpr ⟨_, _, lexed, rfl⟩

section Reading

variable {p q : Position} {cs rest : List Char} {ts : List Token}

theorem Lexes.spelled (lexed : Lexes p cs ts q rest) {token : Token} (member : token ∈ ts) :
    ∃ before spelling after, cs = before ++ (spelling ++ after) ∧
      token.position = p.advance before ∧ token.length = spelling.length ∧
        IsSpelling spelling token.lexeme := by
  induction lexed with
  | done => cases member
  | @blank p q c cs rest ts space _ ih =>
    obtain ⟨before, spelling, after, rfl, position, length, spelled⟩ := ih member
    exact ⟨c :: before, spelling, after, rfl, position, length, spelled⟩
  | @token p q c cs rest ts scanned solid scan _ ih =>
    obtain ⟨front, after, rfl, taken, dropped, length, again⟩ := exists_front scan
    rcases List.mem_cons.mp member with rfl | member
    · have alone : Filter.scan (c :: front) = .ok ⟨scanned.lexeme, front.length + 1⟩ := by
        have read := again [] (.inr (by simp))
        rw [List.append_nil] at read
        rw [read, length]
      exact ⟨[], c :: front, after, rfl, rfl, length.symm, ⟨c, front, rfl, solid⟩, alone⟩
    · obtain ⟨before, spelling, others, split, position, length', spelled⟩ := ih member
      rw [dropped] at split
      rw [taken, ← Position.advance_append] at position
      exact ⟨c :: front ++ before, spelling, others, by simp [split], position, length', spelled⟩

theorem Lexes.offset_eq (lexed : Lexes p cs ts q rest) :
    q.offset + rest.length = p.offset + cs.length := by
  obtain ⟨front, rfl, rfl, -⟩ := lexed.alike (.inl rfl)
  rw [Position.offset_advance, List.length_append]
  omega

theorem Lexes.spansInOrder (lexed : Lexes p cs ts q rest) :
    ts.Pairwise (fun t u => t.stop ≤ u.position.offset) ∧
      p.offset ≤ q.offset ∧ ∀ t ∈ ts, p.offset ≤ t.position.offset ∧ t.stop ≤ q.offset := by
  induction lexed with
  | done => simp
  | @blank p q c cs rest ts space _ ih =>
    obtain ⟨ordered, between, inside⟩ := ih
    rw [Position.offset_next] at between inside
    refine ⟨ordered, by omega, fun t member => ?_⟩
    have := inside t member
    omega
  | @token p q c cs rest ts scanned solid scan _ ih =>
    obtain ⟨front, after, rfl, taken, -, length, -⟩ := exists_front scan
    obtain ⟨ordered, between, inside⟩ := ih
    rw [taken, Position.offset_advance, List.length_cons, length] at between inside
    refine ⟨List.pairwise_cons.mpr ⟨fun u member => (inside u member).1, ordered⟩, by omega, ?_⟩
    intro t member
    rcases List.mem_cons.mp member with rfl | member
    · exact ⟨Nat.le_refl _, between⟩
    · have := inside t member
      omega

/-- What no token covers is blank. -/
theorem Lexes.isSpace_of_uncovered (lexed : Lexes p cs ts q rest) {i : Nat} {c : Char}
    (here : cs[i]? = some c) (read : p.offset + i < q.offset)
    (uncovered : ∀ t ∈ ts, ¬ t.Covers (p.offset + i)) : isSpace c = true := by
  induction lexed generalizing i with
  | done => omega
  | @blank p q d cs rest ts space _ ih =>
    cases i with
    | zero =>
      cases here
      exact space
    | succ i =>
      have further : (p.next d).offset + i = p.offset + (i + 1) := by
        rw [Position.offset_next]
        omega
      exact ih (by simpa using here) (further ▸ read) (further ▸ uncovered)
  | @token p q d cs rest ts scanned solid scan _ ih =>
    obtain ⟨front, after, rfl, taken, dropped, length, -⟩ := exists_front scan
    obtain ⟨first, others⟩ := List.forall_mem_cons.mp uncovered
    have beyond : front.length + 1 ≤ i := by
      simp only [Token.Covers, Token.stop] at first
      omega
    obtain ⟨k, rfl⟩ := Nat.exists_eq_add_of_le beyond
    have further : (p.advance (d :: front)).offset + k = p.offset + (front.length + 1 + k) := by
      rw [Position.offset_advance, List.length_cons]
      omega
    rw [taken, dropped] at ih
    refine ih ?_ (further ▸ read) (further ▸ others)
    rw [← here, ← List.cons_append, List.getElem?_append_right (by simp)]
    congr 1
    simp

end Reading

/-! ## Tilings -/

/-- The tokens before the end of a text, and the end, as spans of the text. -/
structure Tiles (text : String) (body : List Token) (stop : Token) : Prop where
  stopped : stop.lexeme = .endOfText ∧ stop.position.offset = text.length ∧ stop.length = 0
  solid : ∀ token ∈ body, token.lexeme ≠ .endOfText ∧ 1 ≤ token.length
  inOrder : (body ++ [stop]).Pairwise fun t u => t.stop ≤ u.position.offset
  gaps : ∀ i c, text.toList[i]? = some c → (∀ token ∈ body, ¬ token.Covers i) →
    c = ' ' ∨ c = '\t' ∨ c = '\r' ∨ c = '\n'
  located : ∀ token ∈ body ++ [stop],
    Locates text.toList token.position.offset token.position.line token.position.column
  alone : ∀ token ∈ body, ∃ after, after.lexeme = .endOfText ∧
    tokens (String.ofList (token.slice text.toList)) =
      .ok [⟨token.lexeme, .start, token.length⟩, after]

theorem Lexes.slice_spelled {q : Position} {cs rest : List Char} {ts : List Token}
    (lexed : Lexes .start cs ts q rest) {token : Token} (member : token ∈ ts) :
    IsSpelling (token.slice cs) token.lexeme ∧ (token.slice cs).length = token.length ∧
      Locates cs token.position.offset token.position.line token.position.column := by
  obtain ⟨before, spelling, after, rfl, position, length, spelled⟩ := lexed.spelled member
  have slice : token.slice (before ++ (spelling ++ after)) = spelling := by
    rw [Token.slice, position, length, Position.offset_advance_start, List.drop_left,
      List.take_left]
  rw [slice, position]
  exact ⟨spelled, length.symm, Position.locates_advance before _⟩

/-- The tokens of a text tile it. -/
theorem tokens_tile {text : String} {ts : List Token} (lexed : tokens text = .ok ts) :
    ∃ body stop, ts = body ++ [stop] ∧ Tiles text body stop := by
  obtain ⟨body, q, run, closed⟩ := exists_isClosed lexed
  have reached : q.offset = text.toList.length := by simpa [Position.start] using run.offset_eq
  obtain ⟨ordered, -, inside⟩ := run.spansInOrder
  refine ⟨body, ⟨.endOfText, q, 0⟩, closed.split, ?_⟩
  constructor
  case stopped => exact ⟨rfl, by rw [← String.length_toList, ← reached], rfl⟩
  case solid =>
    intro token member
    obtain ⟨spelled, length, -⟩ := run.slice_spelled member
    obtain ⟨c, rest, shape, -⟩ := spelled.start
    exact ⟨closed.inside token member, by simp [← length, shape]⟩
  case inOrder =>
    refine List.pairwise_append.mpr
      ⟨ordered, List.pairwise_singleton _ _, fun t member u last => ?_⟩
    rw [List.mem_singleton.mp last]
    exact (inside t member).2
  case gaps =>
    intro i c here uncovered
    have bound : i < text.toList.length := (List.getElem?_eq_some_iff.mp here).1
    have blank := run.isSpace_of_uncovered here (by simpa [Position.start, reached] using bound)
      (by simpa [Position.start] using uncovered)
    simpa [isSpace, or_assoc] using blank
  case located =>
    intro token member
    rcases List.mem_append.mp member with early | last
    · exact (run.slice_spelled early).2.2
    · obtain ⟨front, whole, reached, -⟩ := run.alike (.inl rfl)
      rw [List.mem_singleton.mp last]
      simp only [reached, whole]
      exact Position.locates_advance front []
  case alone =>
    intro token member
    obtain ⟨spelled, length, -⟩ := run.slice_spelled member
    rw [← length]
    exact ⟨_, rfl, spelled.tokens_eq⟩

theorem tokens_tile_quote_across_lines :
    ∃ ts, tokens "A eq 'it''s\n' and-1" = .ok ts ∧
      ∃ body stop, ts = body ++ [stop] ∧ Tiles "A eq 'it''s\n' and-1" body stop := by
  have lexed : tokens "A eq 'it''s\n' and-1" = .ok
      [⟨.identifier "A", ⟨1, 1, 0⟩, 1⟩, ⟨.comparison .equal "eq", ⟨1, 3, 2⟩, 2⟩,
        ⟨.string "it's\n", ⟨1, 6, 5⟩, 8⟩, ⟨.connective .and "and", ⟨2, 3, 14⟩, 3⟩,
        ⟨.integer (-1), ⟨2, 6, 17⟩, 2⟩, ⟨.endOfText, ⟨2, 8, 19⟩, 0⟩] :=
    (tokens_eq_within _).trans (by decide)
  exact ⟨_, lexed, tokens_tile lexed⟩

/-! ## Lexical errors -/

theorem lexes_of_tokensFrom_error {p : Position} {cs : List Char} {error : LexicalError}
    (failed : tokensFrom p cs = .error error) :
    ∃ ts q c rest fault, Lexes p cs ts q (c :: rest) ∧ isSpace c = false ∧
      scan (c :: rest) = .error fault ∧ error.error = ⟨fault.fault, q⟩ := by
  induction p, cs using tokensFrom.induct with
  | case1 p => rw [tokensFrom_nil] at failed; cases failed
  | case2 p c cs space ih =>
    rw [tokensFrom_blank space] at failed
    obtain ⟨ts, q, d, rest, fault, read, others⟩ := ih failed
    exact ⟨ts, q, d, rest, fault, .blank space read, others⟩
  | case3 p c cs solid fault misread =>
    rw [tokensFrom, if_neg solid, misread] at failed
    cases failed
    exact ⟨[], p, c, cs, fault, .done, by simpa using solid, misread, rfl⟩
  | case4 p c cs solid scanned scan ih =>
    have solid : isSpace c = false := by simpa using solid
    rw [tokensFrom_token solid scan] at failed
    cases tail : tokensFrom (p.advance ((c :: cs).take scanned.length))
        (cs.drop (scanned.length - 1)) with
    | ok us => rw [tail] at failed; cases failed
    | error found =>
      rw [tail] at failed
      cases failed
      obtain ⟨ts, q, d, rest, fault, read, others⟩ := ih tail
      exact ⟨_, q, d, rest, fault, .token solid scan read, others⟩

/-- A lexical error names the line and the column of one offset of the text.  What stands before the
offset is read, and what stands from there on fails at its first character for the same reason. -/
theorem tokens_error_marks_start {text : String} {error : LexicalError}
    (failed : tokens text = .error error) :
    ∃ offset < text.length,
      (∀ other ≤ text.length, Locates text.toList other error.error.position.line
        error.error.position.column ↔ other = offset) ∧
      (∃ ts, tokens (String.ofList (text.toList.take offset)) = .ok ts) ∧
      ∃ again, tokens (String.ofList (text.toList.drop offset)) = .error again ∧
        again.error = ⟨error.error.fault, .start⟩ := by
  obtain ⟨ts, q, c, rest, fault, read, solid, misread, same⟩ := lexes_of_tokensFrom_error failed
  -- the end of the text ends every lexeme, so the first ones are read without the one at fault
  have ended : FollowsAlike (c :: rest) [] := .inr (by simp)
  obtain ⟨front, whole, reached, again⟩ := read.alike ended
  rw [List.append_nil] at again
  have size : text.length = front.length + (rest.length + 1) := by
    rw [← String.length_toList, whole, List.length_append, List.length_cons]
  have here : Locates text.toList front.length error.error.position.line
      error.error.position.column := by
    have located := Position.locates_advance front (c :: rest)
    rw [Position.offset_advance_start, ← whole, ← reached] at located
    rw [same]
    exact located
  refine ⟨front.length, by omega, fun other inside => ⟨fun located => ?_, ?_⟩, ?_, ?_⟩
  · rw [← String.length_toList] at inside
    exact located.unique here inside (by simp [whole])
  · rintro rfl
    exact here
  · rw [whole, List.take_left, tokens_ofList]
    exact ⟨_, tokensFrom_eq_ok_iff.mpr ⟨ts, q, again, rfl⟩⟩
  · rw [whole, List.drop_left, tokens_ofList, tokensFrom, if_neg (by simp [solid]),
      misread]
    exact ⟨_, rfl, by rw [same]⟩

theorem tokens_error_marks_start_fractional_long :
    tokens "A eq 'x\ny'\tand(B gt 1.5L)" =
        .error ⟨⟨.fractionalLong "1.5", ⟨2, 13, 20⟩⟩, ⟨2, 16, 23⟩⟩ ∧
      ∃ ts again, tokens "A eq 'x\ny'\tand(B gt " = .ok ts ∧ tokens "1.5L)" = .error again ∧
        again.error = ⟨.fractionalLong "1.5", .start⟩ := by
  have failed : tokens "A eq 'x\ny'\tand(B gt 1.5L)" =
      .error ⟨⟨.fractionalLong "1.5", ⟨2, 13, 20⟩⟩, ⟨2, 16, 23⟩⟩ :=
    (tokens_eq_within _).trans (by decide)
  obtain ⟨offset, -, located, ⟨ts, before⟩, again, after, same⟩ := tokens_error_marks_start failed
  have here : Locates "A eq 'x\ny'\tand(B gt 1.5L)".toList 20 2 13 := by
    constructor <;> decide
  cases (located 20 (by decide)).mp here
  exact ⟨failed, ts, again, before, after, same⟩

end StagedTables.Filter
