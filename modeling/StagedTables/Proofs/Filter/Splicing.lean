import Mathlib.Data.List.DropRight
import StagedTables.Proofs.Filter.Lookahead
import StagedTables.Proofs.Filter.RoundTrip

/-! # Texts on both sides of a gap

Blanks between two texts keep their lexemes apart.  No lexeme before the blanks goes on into them,
and what follows is lexed as at the beginning of a text, only further on: `p.after before` is where
the position `p` of a text comes to lie when `before` is put in front of it. -/
set_option autoImplicit false
namespace StagedTables.Filter

namespace Position

/-- A position of a text in front of which characters are put.  Columns move on the first line. -/
def after (p : Position) (before : List Char) : Position where
  line := p.line + before.count '\n'
  column := if p.line = 1 then p.column + (before.rtakeWhile (· != '\n')).length else p.column
  offset := p.offset + before.length

theorem line_next {p : Position} (line : 0 < p.line) (c : Char) : 0 < (p.next c).line := by
  unfold next
  split
  · exact Nat.succ_pos _
  · exact line

theorem after_next {p : Position} (line : 0 < p.line) (before : List Char) (c : Char) :
    (p.after before).next c = (p.next c).after before := by
  by_cases feed : c = '\n'
  · have later : p.line + 1 ≠ 1 := by omega
    simp only [next, after, if_pos feed, if_neg later, mk.injEq, true_and]
    omega
  · by_cases first : p.line = 1
    · simp only [next, after, if_neg feed, if_pos first, mk.injEq, true_and]
      omega
    · simp only [next, after, if_neg feed, if_neg first, mk.injEq, true_and]
      omega

theorem after_advance {p : Position} (line : 0 < p.line) (before cs : List Char) :
    (p.after before).advance cs = (p.advance cs).after before := by
  induction cs generalizing p with
  | nil => rfl
  | cons c cs ih => rw [advance_cons, advance_cons, after_next line, ih (line_next line c)]

theorem line_advance {p : Position} (line : 0 < p.line) (cs : List Char) :
    0 < (p.advance cs).line := by
  induction cs generalizing p with
  | nil => exact line
  | cons c cs ih => exact ih (line_next line c)

theorem advance_start (cs : List Char) : start.advance cs = start.after cs := by
  induction cs using List.reverseRecOn with
  | nil => rfl
  | append_singleton cs c ih =>
    rw [advance_append, ih]
    by_cases feed : c = '\n'
    · subst feed
      simp [after, next, start]
      omega
    · simp [after, next, start, feed]
      omega

end Position

def Token.after (token : Token) (before : List Char) : Token :=
  { token with position := token.position.after before }

def LexicalError.after (error : LexicalError) (before : List Char) : LexicalError :=
  ⟨{ error.error with position := error.error.position.after before }, error.stopped.after before⟩

/-- Tokens, or an error, of a text in front of which characters are put. -/
def lexedAfter (before : List Char) :
    Except LexicalError (List Token) → Except LexicalError (List Token)
  | .ok ts => .ok (ts.map (·.after before))
  | .error error => .error (error.after before)

/-- A text is lexed alike behind other characters, and everything is moved. -/
theorem tokensFrom_after {p : Position} (line : 0 < p.line) (before cs : List Char) :
    tokensFrom (p.after before) cs = lexedAfter before (tokensFrom p cs) := by
  induction p, cs using tokensFrom.induct with
  | case1 p =>
    rw [tokensFrom_nil, tokensFrom_nil]
    rfl
  | case2 p c cs space ih =>
    rw [tokensFrom_blank space, tokensFrom_blank space, Position.after_next line]
    exact ih (Position.line_next line c)
  | case3 p c cs solid fault failed =>
    simp only [tokensFrom, if_neg solid, failed, Position.after_advance line]
    rfl
  | case4 p c cs solid scanned scan ih =>
    have solid : isSpace c = false := by simpa using solid
    rw [tokensFrom_token solid scan, tokensFrom_token solid scan, Position.after_advance line,
      ih (Position.line_advance line _)]
    cases tokensFrom (p.advance ((c :: cs).take scanned.length))
      (cs.drop (scanned.length - 1)) <;> rfl

/-- What is lexed up to a gap is lexed before it, and what comes after the gap is lexed for
itself. -/
theorem tokens_append_blanks {a w : String} {ts : List Token} (lexed : tokens a = .ok ts)
    (blank : IsBlankText w) (nonempty : w ≠ "") (b : String) :
    ∃ body stop, IsClosed ts body stop ∧
      (∀ us, tokens b = .ok us →
        tokens (a ++ w ++ b) = .ok (body ++ us.map (·.after (a ++ w).toList))) ∧
      ∀ error, tokens b = .error error →
        tokens (a ++ w ++ b) = .error (error.after (a ++ w).toList) := by
  obtain ⟨body, q, run, closed⟩ := exists_isClosed lexed
  have spaces := (isBlankText_iff w).mp blank
  have alike : FollowsAlike [] (w.toList ++ b.toList) := by
    obtain ⟨c, cs, gap⟩ := List.exists_cons_of_ne_nil (mt String.toList_eq_nil_iff.mp nonempty)
    rw [gap]
    right
    intro d head
    cases head
    exact mem_endings_of_isSpace (spaces c (by simp [gap]))
  obtain ⟨front, whole, rfl, again⟩ := run.alike alike
  rw [List.append_nil] at whole
  subst whole
  have gap := again.append (lexes_blanks spaces _ b.toList)
  rw [List.append_nil, ← Position.advance_append, Position.advance_start] at gap
  have spliced : tokens (a ++ w ++ b) =
      (lexedAfter (a ++ w).toList (tokens b)).map (body ++ ·) := by
    rw [tokens, String.toList_append, String.toList_append, List.append_assoc,
      tokensFrom_of_lexes gap, tokensFrom_after (by decide), tokens]
  refine ⟨body, _, closed, fun us read => ?_, fun error failed => ?_⟩
  · rw [spliced, read]
    rfl
  · rw [spliced, failed]
    rfl

theorem tokens_append_blanks_on_second_line :
    tokens "A eq '1\n2'" = .ok
      [⟨.identifier "A", ⟨1, 1, 0⟩, 1⟩, ⟨.comparison .equal "eq", ⟨1, 3, 2⟩, 2⟩,
        ⟨.string "1\n2", ⟨1, 6, 5⟩, 5⟩, ⟨.endOfText, ⟨2, 3, 10⟩, 0⟩] ∧
      tokens ("A eq '1\n2'" ++ "\t " ++ "or 'z") =
        .error ⟨⟨.unclosedString, ⟨2, 8, 15⟩⟩, ⟨2, 10, 17⟩⟩ := by
  have lexed : tokens "A eq '1\n2'" = .ok
      [⟨.identifier "A", ⟨1, 1, 0⟩, 1⟩, ⟨.comparison .equal "eq", ⟨1, 3, 2⟩, 2⟩,
        ⟨.string "1\n2", ⟨1, 6, 5⟩, 5⟩, ⟨.endOfText, ⟨2, 3, 10⟩, 0⟩] :=
    (tokens_eq_within _).trans (by decide)
  have failed : tokens "or 'z" = .error ⟨⟨.unclosedString, ⟨1, 4, 3⟩⟩, ⟨1, 6, 5⟩⟩ :=
    (tokens_eq_within _).trans (by decide)
  have blank : IsBlankText "\t " := by simp [IsBlankText]
  obtain ⟨-, -, -, -, spliced⟩ := tokens_append_blanks lexed blank (by decide) "or 'z"
  exact ⟨lexed, spliced _ failed⟩

end StagedTables.Filter
