import StagedTables.Proofs.Filter.LiteralFault
import StagedTables.Proofs.Filter.Respelling
import StagedTables.Proofs.Filter.Tiling

/-! # Filters in other letter case

`Recases`: two texts differ in the case of letters alone, wherever a token leaves it free.  The
tokens of such texts stand at the same places and differ in spelling only, so that both texts
denote the same filter or none.  Names, strings and the words for the special doubles keep their
case. -/
set_option autoImplicit false
namespace StagedTables.Filter

open Text Numeral

/-- A text that begins at an offset, some letters in the other case where a token frees it. -/
structure Recases (start : Nat) (ts : List Token) (cs cs' : List Char) : Prop where
  same : SameLetters cs cs'
  changed : ∀ i c, cs[i]? = some c → cs'[i]? ≠ some c → ∃ token ∈ ts, token.Covers (start + i) ∧
    token.lexeme.FreesCase ((cs.take i).drop (token.position.offset - start)) c

instance (token : Token) (offset : Nat) : Decidable (token.Covers offset) :=
  inferInstanceAs (Decidable (_ ∧ _))

instance (start : Nat) (ts : List Token) (cs cs' : List Char) :
    Decidable (Recases start ts cs cs') :=
  decidable_of_iff (cs'.map asciiLower = cs.map asciiLower ∧
      ∀ i : Fin cs.length, cs'[i.val]? ≠ some cs[i] → ∃ token ∈ ts, token.Covers (start + i) ∧
        token.lexeme.FreesCase ((cs.take i).drop (token.position.offset - start)) cs[i])
    ⟨fun ⟨same, changed⟩ => ⟨same, fun i c here other => by
      obtain ⟨inside, rfl⟩ := List.getElem?_eq_some_iff.mp here
      exact changed ⟨i, inside⟩ other⟩,
    fun recases => ⟨recases.same, fun i other =>
      recases.changed i cs[i] (List.getElem?_eq_getElem i.isLt) other⟩⟩

/-! ## Texts -/

theorem Position.advance_of_sameLetters {cs cs' : List Char} (same : SameLetters cs cs')
    (p : Position) : p.advance cs' = p.advance cs := by
  induction cs generalizing cs' p with
  | nil => rw [same.nil]
  | cons c cs ih =>
    obtain ⟨d, ds, rfl, first, rest⟩ := same.cons
    have feed : d = '\n' ↔ c = '\n' := by
      rw [← asciiLower_eq_iff (by decide), first, asciiLower_eq_iff (by decide)]
    have next : p.next d = p.next c := by
      simp only [Position.next, feed]
    rw [Position.advance_cons, Position.advance_cons, next, ih rest]

section Recases

variable {start : Nat} {ts : List Token} {cs cs' : List Char}

theorem Recases.respells {token : Token} (recases : Recases start (token :: ts) cs cs')
    (first : token.position.offset = start)
    (later : ∀ t ∈ ts, token.stop ≤ t.position.offset) :
    token.lexeme.Respells (cs.take token.length) (cs'.take token.length) where
  same := recases.same.take token.length
  changed i c here changed := by
    obtain ⟨inside, here⟩ := Option.ite_none_right_eq_some.mp (List.getElem?_take ▸ here)
    rw [List.getElem?_take_of_lt inside] at changed
    obtain ⟨other, member, covers, free⟩ := recases.changed i c here changed
    rcases List.mem_cons.mp member with rfl | member
    · rw [first, Nat.sub_self, List.drop_zero] at free
      rwa [List.take_take, Nat.min_eq_left (Nat.le_of_lt inside)]
    · have beyond := later other member
      simp only [Token.Covers, Token.stop] at beyond covers
      omega

theorem Recases.drop (before : List Token) (n : Nat)
    (recases : Recases start (before ++ ts) cs cs') (passed : ∀ t ∈ before, t.stop ≤ start + n)
    (later : ∀ t ∈ ts, start + n ≤ t.position.offset) :
    Recases (start + n) ts (cs.drop n) (cs'.drop n) where
  same := recases.same.drop n
  changed i c here changed := by
    rw [List.getElem?_drop] at here changed
    obtain ⟨token, member, covers, free⟩ := recases.changed (n + i) c here changed
    rw [← Nat.add_assoc] at covers
    rcases List.mem_append.mp member with early | late
    · have := passed token early
      have := covers.2
      omega
    · have beyond := later token late
      refine ⟨token, late, covers, ?_⟩
      have cut : (cs.take (n + i)).drop (token.position.offset - start) =
          ((cs.drop n).take i).drop (token.position.offset - (start + n)) := by
        have split : token.position.offset - start = n + (token.position.offset - (start + n)) := by
          omega
        rw [split, ← List.drop_drop, List.drop_take, Nat.add_sub_cancel_left]
      rwa [← cut]

end Recases

structure Token.Recased (token other : Token) : Prop where
  position : other.position = token.position
  length : other.length = token.length
  lexeme : token.lexeme.Recased other.lexeme

/-- In other letter case the tokens stand where they stood, and differ in spelling only. -/
theorem Lexes.recased {p q : Position} {cs cs' rest : List Char} {ts : List Token}
    (lexed : Lexes p cs ts q rest) (recases : Recases p.offset ts cs cs') :
    ∃ us rest', Lexes p cs' us q rest' ∧ SameLetters rest rest' ∧
      List.Forall₂ Token.Recased ts us := by
  induction lexed generalizing cs' with
  | done => exact ⟨[], cs', .done, recases.same, .nil⟩
  | @blank p q c cs rest ts space after ih =>
    obtain ⟨-, -, inside⟩ := after.spansInOrder
    obtain ⟨d, ds, rfl, first, -⟩ := recases.same.cons
    have solid : isAsciiLetter c = false := by
      simp only [isSpace, Bool.or_eq_true, beq_iff_eq] at space
      rcases space with ((rfl | rfl) | rfl) | rfl <;> decide
    obtain rfl : d = c :=
      (asciiLower_eq_iff solid).mp (first.trans ((asciiLower_eq_iff solid).mpr rfl))
    rw [Position.offset_next] at inside ih
    have tail := recases.drop [] 1 (by simp) fun t member => (inside t member).1
    obtain ⟨us, rest', again, same, both⟩ := ih tail
    exact ⟨us, rest', .blank space again, same, both⟩
  | @token p q c cs rest ts scanned solid scan after ih =>
    obtain ⟨-, -, inside⟩ := after.spansInOrder
    obtain ⟨d, ds, rfl, first, -⟩ := recases.same.cons
    obtain ⟨front, behind, rfl, taken, dropped, length, -⟩ := exists_front scan
    rw [taken, Position.offset_advance, List.length_cons, length] at inside ih
    have later : ∀ t ∈ ts, p.offset + scanned.length ≤ t.position.offset :=
      fun t member => (inside t member).1
    obtain ⟨lexeme, again, recased⟩ := scan_recased recases.same (recases.respells rfl later) scan
    have solid' : isSpace d = false := by rwa [← isSpace_asciiLower, first, isSpace_asciiLower]
    have tail := recases.drop [⟨scanned.lexeme, p, scanned.length⟩] scanned.length
      (by simp [Token.stop]) later
    rw [← length, List.drop_succ_cons, List.drop_succ_cons, length] at tail
    rw [← length, Nat.add_sub_cancel, length] at ih
    obtain ⟨us, rest', others, same, both⟩ := ih tail
    have reached := Position.advance_of_sameLetters (recases.same.take scanned.length) p
    rw [taken] at reached
    refine ⟨_, rest', .token solid' again ?_, same, .cons ⟨rfl, rfl, recased⟩ both⟩
    rwa [reached, ← length, Nat.add_sub_cancel]

/-! ## What keeps its case -/

def Lexeme.name? : Lexeme → Option String
  | .identifier name => some name
  | _ => none

def Lexeme.isLiteral : Lexeme → Bool
  | .string _ | .integer _ | .long _ | .float _ | .boolean _ | .quoted _ _ => true
  | _ => false

def Lexeme.IsAsWritten (cs : List Char) : Lexeme → Prop
  | .identifier name => name.toList = cs
  | .string body => quotedBody? cs.tail = some (body.toList, cs.length - 1)
  | _ => True

def specialDoubles : List (String × Double) :=
  [("INF", .infinite false), ("-INF", .infinite true), ("NaN", .nan)]

/-- What a token has of its characters in the case in which they are written. -/
structure Token.KeepsCase (token : Token) (cs : List Char) : Prop where
  written : token.lexeme.IsAsWritten (token.slice cs)
  special : ∀ word x, (word, x) ∈ specialDoubles → token.slice cs = word.toList →
    token.lexeme = .float x

section Spelling

variable {cs : List Char} {scanned : Scanned} (whole : scanned.length = cs.length)

include whole

theorem isAsWritten_of_scanString (scan : scanString cs = .ok scanned) :
    scanned.lexeme.IsAsWritten cs := by
  simp only [scanString] at scan
  split at scan
  · next body length read =>
    cases scan
    simpa [Lexeme.IsAsWritten, ← whole] using read
  · cases scan

theorem isAsWritten_of_scanWord (start : ∃ c rest, cs = c :: rest ∧ isWordStart c = true)
    (scan : scanWord cs = .ok scanned) : scanned.lexeme.IsAsWritten cs := by
  obtain ⟨c, rest, shape, start⟩ := start
  have plain : (cs.takeWhile isWordPart).length = cs.length →
      (wordLexeme (cs.takeWhile isWordPart)).IsAsWritten cs := by
    intro size
    have all : cs.takeWhile isWordPart = cs := (List.takeWhile_sublist _).eq_of_length size
    have inside : ∀ d ∈ rest, isWordPart d = true := fun d member => by
      refine List.mem_takeWhile_imp (l := cs) ?_
      rw [all, shape]
      exact List.mem_cons_of_mem c member
    rw [all, shape]
    cases lexeme : wordLexeme (c :: rest) with
    | identifier name =>
      obtain ⟨rfl, -⟩ := isColumnName_of_wordLexeme start inside lexeme
      exact String.toList_ofList
    | string body =>
      exfalso
      simp only [wordLexeme] at lexeme
      repeat' split at lexeme
      all_goals cases lexeme
    | _ => trivial
  simp only [scanWord] at scan
  split at scan
  · split at scan
    · simp only [scanQuoted] at scan
      repeat' split at scan
      all_goals cases scan
      trivial
    · cases scan
      exact plain whole
  · cases scan
    exact plain whole

end Spelling

theorem isAsWritten_of_scanNumber {cs : List Char} {scanned : Scanned}
    (scan : scanNumber cs = .ok scanned) : scanned.lexeme.IsAsWritten cs := by
  simp only [scanNumber] at scan
  split at scan
  · split at scan
    · cases scan
      split <;> trivial
    · cases scan
  · split at scan
    · cases scan
    · split at scan
      · cases scan
        trivial
      · cases scan

theorem IsSpelling.isAsWritten {cs : List Char} {lexeme : Lexeme}
    (spelling : IsSpelling cs lexeme) : lexeme.IsAsWritten cs := by
  obtain ⟨c, rest, shape, -⟩ := spelling.start
  have scan := spelling.scan
  rw [Filter.scan.eq_def, shape] at scan
  simp only at scan
  rw [← shape] at scan
  split at scan
  · exact isAsWritten_of_scanString rfl scan
  split at scan
  · exact isAsWritten_of_scanNumber scan
  split at scan
  · obtain rfl : _ = lexeme := congrArg Scanned.lexeme (Except.ok.inj scan)
    trivial
  split at scan
  · next start => exact isAsWritten_of_scanWord rfl ⟨c, rest, shape, start⟩ scan
  split at scan
  · obtain rfl : _ = lexeme := congrArg Scanned.lexeme (Except.ok.inj scan)
    trivial
  split at scan
  · obtain rfl : _ = lexeme := congrArg Scanned.lexeme (Except.ok.inj scan)
    trivial
  · cases scan

theorem Lexes.keepsCase {q : Position} {cs rest : List Char} {ts : List Token}
    (lexed : Lexes .start cs ts q rest) {token : Token} (member : token ∈ ts) :
    token.KeepsCase cs := by
  obtain ⟨spelled, -, -⟩ := lexed.slice_spelled member
  refine ⟨spelled.isAsWritten, fun word x listed written => ?_⟩
  have read : ∀ pair ∈ specialDoubles,
      Filter.scan pair.1.toList = .ok ⟨.float pair.2, pair.1.toList.length⟩ := by
    decide
  have scan := spelled.scan
  rw [written, read _ listed] at scan
  exact (congrArg Scanned.lexeme (Except.ok.inj scan)).symm

def names : Filter → List String
  | empty => []
  | column name _ _ => [name]
  | binary left _ right => left.names ++ right.names
  | not operand => operand.names

theorem LiteralValue.isLiteral {lexeme : Lexeme} {value : Value}
    (decoded : LiteralValue lexeme value) :
    lexeme.isLiteral = true ∧ lexeme.name? = none := by
  cases decoded <;> exact ⟨rfl, rfl⟩

/-- The names and the values of a tree are those of tokens, in their order. -/
structure HasLeaves (ts : List Token) (f : Filter) : Prop where
  names : f.names = ts.filterMap (·.lexeme.name?)
  values : List.Forall₂ LiteralValue ((ts.map Token.lexeme).filter Lexeme.isLiteral) f.values

section Leaves

variable {ts us : List Token} {mark : Token} {f g : Filter} (unnamed : mark.lexeme.name? = none)
  (noLiteral : mark.lexeme.isLiteral = false)

include unnamed noLiteral

theorem HasLeaves.cons (leaves : HasLeaves ts f) : HasLeaves (mark :: ts) f where
  names := by rw [leaves.names, List.filterMap_cons, unnamed]
  values := by
    rw [List.map_cons, List.filter_cons_of_neg (by simp [noLiteral])]
    exact leaves.values

theorem HasLeaves.concat (leaves : HasLeaves ts f) : HasLeaves (ts ++ [mark]) f where
  names := by
    rw [leaves.names, List.filterMap_append, List.filterMap_cons, unnamed]
    exact (List.append_nil _).symm
  values := by
    rw [List.map_append, List.filter_append]
    simpa [noLiteral] using leaves.values

theorem HasLeaves.binary (left : HasLeaves ts f) (right : HasLeaves us g)
    (connective : Connective) :
    HasLeaves (ts ++ mark :: us) (.binary f connective g) where
  names := by
    rw [Filter.names, left.names, (right.cons unnamed noLiteral).names, List.filterMap_append]
  values := by
    rw [List.map_append, List.filter_append]
    exact List.rel_append left.values (right.cons unnamed noLiteral).values

end Leaves

theorem Derives.hasLeaves {n : Nonterminal} {ts : List Token} {f : Filter}
    (derived : Derives n ts f) : HasLeaves ts f := by
  induction derived with
  | comparison named compared decoded =>
    obtain ⟨isLiteral, unnamed⟩ := decoded.isLiteral
    constructor
    · simp only [List.filterMap_cons, named, compared, unnamed]
      rfl
    · simp only [List.map_cons, List.filter_cons, named, compared, isLiteral]
      exact .cons decoded .nil
  | group opened closed _ ih =>
    have inner := ih.concat (by rw [closed]; rfl) (by rw [closed]; rfl)
    exact inner.cons (by rw [opened]; rfl) (by rw [opened]; rfl)
  | not marked _ ih =>
    have operand := ih.cons (by rw [marked]; rfl) (by rw [marked]; rfl)
    exact ⟨operand.names, operand.values⟩
  | primary _ ih => exact ih
  | and _ marked _ leftIh rightIh =>
    exact leftIh.binary (by rw [marked]; rfl) (by rw [marked]; rfl) rightIh .and
  | negation _ ih => exact ih
  | or _ marked _ leftIh rightIh =>
    exact leftIh.binary (by rw [marked]; rfl) (by rw [marked]; rfl) rightIh .or
  | conjunction _ ih => exact ih

theorem Denotes.hasLeaves {ts : List Token} {f : Filter} (denoted : Denotes ts f) :
    HasLeaves ts f := by
  cases denoted with
  | empty stopped =>
    have none : HasLeaves [] .empty := ⟨rfl, .nil⟩
    exact none.cons (by rw [stopped]; rfl) (by rw [stopped]; rfl)
  | phrase stopped derived =>
    exact derived.hasLeaves.concat (by rw [stopped]; rfl) (by rw [stopped]; rfl)

/-! ## Filters -/

theorem Recases.dropEnd {ts : List Token} {stop : Token} {start : Nat} {cs cs' : List Char}
    (recases : Recases start (ts ++ [stop]) cs cs') (empty : stop.length = 0) :
    Recases start ts cs cs' where
  same := recases.same
  changed i c here changed := by
    obtain ⟨token, member, covers, free⟩ := recases.changed i c here changed
    rcases List.mem_append.mp member with early | last
    · exact ⟨token, early, covers, free⟩
    · rw [List.mem_singleton.mp last] at covers
      simp only [Token.Covers, Token.stop, empty] at covers
      omega

theorem standFor_of_recased {ts us : List Token} (both : List.Forall₂ Token.Recased ts us) :
    StandFor us ts ∧ StandFor ts us :=
  ⟨both.flip.imp fun _ _ recased => recased.lexeme.standsFor,
    both.imp fun _ _ recased => recased.lexeme.symm.standsFor⟩

theorem keepsCase_of_endOfText {stop : Token} (stopped : stop.lexeme = .endOfText)
    (empty : stop.length = 0) (cs : List Char) : stop.KeepsCase cs := by
  refine ⟨by rw [stopped]; trivial, fun word x listed written => ?_⟩
  have nonempty : ∀ pair ∈ specialDoubles, [] ≠ pair.1.toList := by decide
  rw [Token.slice, empty, List.take_zero] at written
  exact absurd written (nonempty _ listed)

/-- A text with letters in other case, where that is free, has the tokens of the first, each in its
place, and is the same filter or none.  The tree has the names and the values of these tokens, of
which names, strings and the words for the special doubles keep their case. -/
theorem parse_recased {text text' : String} {ts : List Token} (lexed : tokens text = .ok ts)
    (recases : Recases 0 ts text.toList text'.toList) :
    (∀ f, parse text' = .ok f ↔ parse text = .ok f) ∧
      ∃ us, tokens text' = .ok us ∧ List.Forall₂ Token.Recased ts us ∧
        (∀ token ∈ us, token.KeepsCase text'.toList) ∧
        ∀ f, parse text' = .ok f → HasLeaves us f := by
  obtain ⟨body, q, run, closed⟩ := exists_isClosed lexed
  have inside : Recases 0 body text.toList text'.toList :=
    Recases.dropEnd (closed.split ▸ recases) rfl
  obtain ⟨us, rest, again, none, both⟩ := run.recased inside
  cases none.nil
  have lexed' : tokens text' = .ok (us ++ [⟨.endOfText, q, 0⟩]) :=
    tokensFrom_eq_ok_iff.mpr ⟨us, q, again, rfl⟩
  have whole : List.Forall₂ Token.Recased ts (us ++ [⟨.endOfText, q, 0⟩]) := by
    rw [closed.split]
    exact List.rel_append both (.cons ⟨rfl, rfl, .same _⟩ .nil)
  obtain ⟨body', stop', closed'⟩ := isClosed_of_tokens lexed'
  obtain ⟨forth, back⟩ := standFor_of_recased whole
  have reads (f : Filter) : parse text = .ok f ↔ Denotes ts f := by
    rw [parse, lexed, closed.parseTokens_eq_ok_iff]
  have reads' (f : Filter) : parse text' = .ok f ↔ Denotes (us ++ [⟨.endOfText, q, 0⟩]) f := by
    rw [parse, lexed', closed'.parseTokens_eq_ok_iff]
  refine ⟨fun f => ?_, _, lexed', whole, fun token member => ?_, fun f read => ?_⟩
  · rw [reads, reads']
    exact ⟨fun denoted => denoted.of_standFor back, fun denoted => denoted.of_standFor forth⟩
  · rcases List.mem_append.mp member with early | last
    · exact again.keepsCase early
    · rw [List.mem_singleton.mp last]
      exact keepsCase_of_endOfText rfl rfl _
  · exact ((reads' f).mp read).hasLeaves

theorem parse_recased_words_and_digits :
    ∃ ts us, tokens "Inf eq x'aF' and not (b lt 1e5 or c ge -7l)" = .ok ts ∧
      Recases 0 ts "Inf eq x'aF' and not (b lt 1e5 or c ge -7l)".toList
        "Inf EQ X'Af' AND NoT (b LT 1E5 OR c gE -7L)".toList ∧
        tokens "Inf EQ X'Af' AND NoT (b LT 1E5 OR c gE -7L)" = .ok us ∧
          List.Forall₂ Token.Recased ts us ∧
            parse "Inf EQ X'Af' AND NoT (b LT 1E5 OR c gE -7L)" = .ok
              (.and (.column "Inf" .equal (.bytes .constant [0xaf])) (.not
                (.or (.column "b" .less (.double (Double.ofDecimal false 1 5)))
                  (.column "c" .greaterOrEqual (.typed .int64 (.integer (-7))))))) := by
  let ts : List Token :=
    [⟨.identifier "Inf", ⟨1, 1, 0⟩, 3⟩, ⟨.comparison .equal "eq", ⟨1, 5, 4⟩, 2⟩,
      ⟨.quoted .binary "aF", ⟨1, 8, 7⟩, 5⟩, ⟨.connective .and "and", ⟨1, 14, 13⟩, 3⟩,
      ⟨.negation "not", ⟨1, 18, 17⟩, 3⟩, ⟨.leftParenthesis, ⟨1, 22, 21⟩, 1⟩,
      ⟨.identifier "b", ⟨1, 23, 22⟩, 1⟩, ⟨.comparison .less "lt", ⟨1, 25, 24⟩, 2⟩,
      ⟨.float (Double.ofDecimal false 1 5), ⟨1, 28, 27⟩, 3⟩, ⟨.connective .or "or", ⟨1, 32, 31⟩, 2⟩,
      ⟨.identifier "c", ⟨1, 35, 34⟩, 1⟩, ⟨.comparison .greaterOrEqual "ge", ⟨1, 37, 36⟩, 2⟩,
      ⟨.long (-7), ⟨1, 40, 39⟩, 3⟩, ⟨.rightParenthesis, ⟨1, 43, 42⟩, 1⟩,
      ⟨.endOfText, ⟨1, 44, 43⟩, 0⟩]
  have lexed : tokens "Inf eq x'aF' and not (b lt 1e5 or c ge -7l)" = .ok ts :=
    (tokens_eq_within _).trans (by decide +kernel)
  have recases : Recases 0 ts "Inf eq x'aF' and not (b lt 1e5 or c ge -7l)".toList
      "Inf EQ X'Af' AND NoT (b LT 1E5 OR c gE -7L)".toList := by
    decide
  obtain ⟨alike, us, lexed', both, -, -⟩ := parse_recased lexed recases
  refine ⟨ts, us, lexed, recases, lexed', both, (alike _).mpr ?_⟩
  rw [parse, lexed]
  rfl

end StagedTables.Filter
