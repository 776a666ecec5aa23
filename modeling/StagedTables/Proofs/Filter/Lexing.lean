import StagedTables.Filter.Lexer

/-! # Partial lexing

`Lexes p cs ts q rest`: from position `p` on, the text `cs` gives the tokens `ts` and is left at
position `q` with `rest` still to be read.  What is left is present while a lexeme is scanned, so
that two readings compose although every lexeme takes as many characters as it can. -/
set_option autoImplicit false
namespace StagedTables.Filter

inductive Lexes : Position → List Char → List Token → Position → List Char → Prop
  | done {p : Position} {rest : List Char} : Lexes p rest [] p rest
  | blank {p q : Position} {c : Char} {cs rest : List Char} {ts : List Token}
      (space : isSpace c = true) (after : Lexes (p.next c) cs ts q rest) :
      Lexes p (c :: cs) ts q rest
  | token {p q : Position} {c : Char} {cs rest : List Char} {ts : List Token} {scanned : Scanned}
      (solid : isSpace c = false) (scan : scan (c :: cs) = .ok scanned)
      (after : Lexes (p.advance ((c :: cs).take scanned.length)) (cs.drop (scanned.length - 1))
        ts q rest) :
      Lexes p (c :: cs) (⟨scanned.lexeme, p, scanned.length⟩ :: ts) q rest

theorem Lexes.of_scan {p q : Position} {c : Char} {front cs rest : List Char} {ts : List Token}
    {scanned : Scanned} (solid : isSpace c = false)
    (scan : Filter.scan (c :: (front ++ cs)) = .ok scanned)
    (length : front.length + 1 = scanned.length)
    (after : Lexes (p.advance (c :: front)) cs ts q rest) :
    Lexes p (c :: (front ++ cs)) (⟨scanned.lexeme, p, scanned.length⟩ :: ts) q rest := by
  refine .token solid scan ?_
  have taken : (c :: (front ++ cs)).take scanned.length = c :: front := by
    simp [← length]
  have dropped : (front ++ cs).drop (scanned.length - 1) = cs := by
    simp [← length]
  rwa [taken, dropped]

theorem Lexes.append {p q r : Position} {cs middle rest : List Char} {ts us : List Token}
    (first : Lexes p cs ts q middle) (last : Lexes q middle us r rest) :
    Lexes p cs (ts ++ us) r rest := by
  induction first with
  | done => exact last
  | blank space _ ih => exact .blank space (ih last)
  | token solid scan _ ih => exact .token solid scan (ih last)

theorem Lexes.split {p q : Position} {cs rest : List Char} {ts us : List Token}
    (lexed : Lexes p cs (ts ++ us) q rest) :
    ∃ r middle, Lexes p cs ts r middle ∧ Lexes r middle us q rest := by
  generalize whole : ts ++ us = vs at lexed
  induction lexed generalizing ts with
  | done =>
    obtain ⟨rfl, rfl⟩ := List.append_eq_nil_iff.mp whole
    exact ⟨_, _, .done, .done⟩
  | blank space _ ih =>
    obtain ⟨r, middle, first, last⟩ := ih whole
    exact ⟨r, middle, .blank space first, last⟩
  | token solid scan after ih =>
    cases ts with
    | nil =>
      subst whole
      exact ⟨_, _, .done, .token solid scan after⟩
    | cons token ts =>
      obtain ⟨rfl, same⟩ := List.cons.inj whole
      obtain ⟨r, middle, first, last⟩ := ih same
      exact ⟨r, middle, .token solid scan first, last⟩

theorem tokens_ofList (cs : List Char) : tokens (String.ofList cs) = tokensFrom .start cs := by
  rw [tokens, String.toList_ofList]

theorem tokensFrom_nil (p : Position) : tokensFrom p [] = .ok [⟨.endOfText, p, 0⟩] := by
  simp [tokensFrom]

theorem tokensFrom_blank {c : Char} (space : isSpace c = true) (p : Position) (cs : List Char) :
    tokensFrom p (c :: cs) = tokensFrom (p.next c) cs := by
  rw [tokensFrom, if_pos space]

theorem tokensFrom_token {c : Char} {cs : List Char} {scanned : Scanned}
    (solid : isSpace c = false) (scan : scan (c :: cs) = .ok scanned) (p : Position) :
    tokensFrom p (c :: cs) =
      (tokensFrom (p.advance ((c :: cs).take scanned.length)) (cs.drop (scanned.length - 1))).map
        (⟨scanned.lexeme, p, scanned.length⟩ :: ·) := by
  rw [tokensFrom, if_neg (by simp [solid]), scan]

/-- The tokens that are found within so many steps, by recursion on the steps. -/
def tokensWithin : Nat → Position → List Char → Except LexicalError (List Token)
  | 0, p, _ => .ok [⟨.endOfText, p, 0⟩]
  | _ + 1, p, [] => .ok [⟨.endOfText, p, 0⟩]
  | steps + 1, p, c :: cs =>
    if isSpace c then tokensWithin steps (p.next c) cs
    else match scan (c :: cs) with
      | .error fault => .error ⟨⟨fault.fault, p⟩, p.advance ((c :: cs).take fault.length)⟩
      | .ok scanned =>
        (tokensWithin steps (p.advance ((c :: cs).take scanned.length))
          (cs.drop (scanned.length - 1))).map (⟨scanned.lexeme, p, scanned.length⟩ :: ·)

theorem tokensFrom_eq_within {steps : Nat} {cs : List Char} (enough : cs.length ≤ steps)
    (p : Position) : tokensFrom p cs = tokensWithin steps p cs := by
  induction steps generalizing p cs with
  | zero =>
    rw [List.length_eq_zero_iff.mp (Nat.le_zero.mp enough), tokensFrom_nil]
    rfl
  | succ steps ih =>
    cases cs with
    | nil =>
      rw [tokensFrom_nil]
      rfl
    | cons c cs =>
      have shorter : cs.length ≤ steps := Nat.le_of_succ_le_succ enough
      rw [tokensFrom, tokensWithin, ih shorter]
      cases scan (c :: cs) with
      | error fault => rfl
      | ok scanned =>
        have rest : (cs.drop (scanned.length - 1)).length ≤ steps := by
          rw [List.length_drop]
          omega
        simp only [ih rest]

theorem tokens_eq_within (cs : List Char) :
    tokens (String.ofList cs) = tokensWithin cs.length .start cs := by
  rw [tokens_ofList, tokensFrom_eq_within (Nat.le_refl _)]

theorem tokensFrom_of_lexes {p q : Position} {cs rest : List Char} {ts : List Token}
    (lexed : Lexes p cs ts q rest) : tokensFrom p cs = (tokensFrom q rest).map (ts ++ ·) := by
  induction lexed with
  | @done p rest => cases tokensFrom p rest <;> rfl
  | blank space _ ih => rw [tokensFrom_blank space, ih]
  | @token p q c cs rest ts scanned solid scan _ ih =>
    rw [tokensFrom_token solid scan, ih]
    cases tokensFrom q rest <;> rfl

theorem lexes_of_tokensFrom {p : Position} {cs : List Char} {ts : List Token}
    (lexed : tokensFrom p cs = .ok ts) :
    ∃ body q, Lexes p cs body q [] ∧ ts = body ++ [⟨.endOfText, q, 0⟩] := by
  induction p, cs using tokensFrom.induct generalizing ts with
  | case1 p =>
    rw [tokensFrom_nil] at lexed
    cases lexed
    exact ⟨[], p, .done, rfl⟩
  | case2 p c cs space ih =>
    rw [tokensFrom_blank space] at lexed
    obtain ⟨body, q, after, shape⟩ := ih lexed
    exact ⟨body, q, .blank space after, shape⟩
  | case3 p c cs solid fault failed =>
    rw [tokensFrom, if_neg solid, failed] at lexed
    cases lexed
  | case4 p c cs solid scanned scan ih =>
    have solid : isSpace c = false := by simpa using solid
    rw [tokensFrom_token solid scan] at lexed
    cases tail : tokensFrom (p.advance ((c :: cs).take scanned.length))
        (cs.drop (scanned.length - 1)) with
    | error error => rw [tail] at lexed; cases lexed
    | ok us =>
      rw [tail] at lexed
      cases lexed
      obtain ⟨body, q, after, shape⟩ := ih tail
      exact ⟨_ :: body, q, .token solid scan after, by simp [shape]⟩

theorem tokensFrom_eq_ok_iff {p : Position} {cs : List Char} {ts : List Token} :
    tokensFrom p cs = .ok ts ↔
      ∃ body q, Lexes p cs body q [] ∧ ts = body ++ [⟨.endOfText, q, 0⟩] := by
  constructor
  · exact lexes_of_tokensFrom
  · rintro ⟨body, q, lexed, rfl⟩
    rw [tokensFrom_of_lexes lexed, tokensFrom_nil]
    rfl

theorem Lexes.scanned {p q : Position} {cs rest : List Char} {ts : List Token}
    (lexed : Lexes p cs ts q rest) {token : Token} (member : token ∈ ts) :
    ∃ c front scanned, scan (c :: front) = .ok scanned ∧ scanned.lexeme = token.lexeme := by
  induction lexed with
  | done => cases member
  | blank _ _ ih => exact ih member
  | @token p q c cs rest ts scanned _ scan _ ih =>
    rcases List.mem_cons.mp member with rfl | member
    · exact ⟨c, cs, scanned, scan, rfl⟩
    · exact ih member

end StagedTables.Filter
