import StagedTables.Filter.Literal
import StagedTables.Proofs.CharacterClass
import StagedTables.Proofs.DecimalText
import StagedTables.Proofs.Filter.Lexing
import StagedTables.Proofs.Filter.Scanned
import StagedTables.Proofs.Identifier

/-! # Scanning written lexemes

`ScansAs cs lexeme`: where the end of the text, a space or a closing parenthesis follows, the
characters `cs` are scanned as `lexeme` and nothing beyond them is taken.  Words, strings, quoted
bodies and numbers that are written have this property, each under what its class needs. -/
set_option autoImplicit false
namespace StagedTables.Filter

open Text Numeral

/-- What follows a lexeme in a query. -/
def IsBoundary (rest : List Char) : Prop := ∀ c ∈ rest.head?, c = ' ' ∨ c = ')'

theorem IsBoundary.endsRun {p : Char → Bool} (space : p ' ' = false) (closing : p ')' = false)
    {rest : List Char} (boundary : IsBoundary rest) : EndsRun p rest := by
  intro c head
  rcases boundary c head with rfl | rfl
  · exact space
  · exact closing

theorem isBoundary_nil : IsBoundary [] := by
  simp [IsBoundary]

theorem isBoundary_space (rest : List Char) : IsBoundary (' ' :: rest) := by
  simp [IsBoundary]

theorem isBoundary_closing (rest : List Char) : IsBoundary (')' :: rest) := by
  simp [IsBoundary]

theorem IsBoundary.notQuote {rest : List Char} (boundary : IsBoundary rest) :
    ∀ c ∈ rest.head?, c ≠ '\'' := by
  intro c head
  rcases boundary c head with rfl | rfl <;> decide

structure ScansAs (cs : List Char) (lexeme : Lexeme) : Prop where
  start : ∃ c rest, cs = c :: rest ∧ isSpace c = false
  scan : ∀ rest, IsBoundary rest → scan (cs ++ rest) = .ok ⟨lexeme, cs.length⟩

theorem ScansAs.lexes {cs : List Char} {lexeme : Lexeme} (scans : ScansAs cs lexeme)
    (p : Position) {rest : List Char} (boundary : IsBoundary rest) :
    Lexes p (cs ++ rest) [⟨lexeme, p, cs.length⟩] (p.advance cs) rest := by
  obtain ⟨c, tail, rfl, solid⟩ := scans.start
  exact .of_scan solid (scans.scan rest boundary) rfl .done

/-! ## Words -/

theorem isWordStart_notSpecial {c : Char} (start : isWordStart c = true) :
    isSpace c = false ∧ c ≠ '\'' ∧ c ≠ '-' ∧ isSign c = false ∧ isDigit c = false := by
  have notDigit : isDigit c = false := by
    rw [isWordStart, Bool.or_eq_true] at start
    rcases start with letter | underscore
    · exact isDigit_eq_false_of_isAlphabetic letter
    · rw [eq_of_beq underscore]
      decide
  by_cases ascii : c.toNat < 128
  · have all : ∀ n : Fin 128, isWordStart (Char.ofNat n) = true →
        isSpace (Char.ofNat n) = false ∧ Char.ofNat n ≠ '\'' ∧ Char.ofNat n ≠ '-' ∧
          isSign (Char.ofNat n) = false := by
      decide
    have rest := forall_ascii
      (p := fun c => isWordStart c = true → isSpace c = false ∧ c ≠ '\'' ∧ c ≠ '-' ∧
        isSign c = false) all ascii start
    exact ⟨rest.1, rest.2.1, rest.2.2.1, rest.2.2.2, notDigit⟩
  · have other : ∀ d : Char, d.toNat < 128 → c ≠ d := by
      rintro d small rfl
      exact ascii small
    have space := other ' ' (by decide)
    have tab := other '\t' (by decide)
    have return_ := other '\r' (by decide)
    have feed := other '\n' (by decide)
    have plus := other '+' (by decide)
    have minus := other '-' (by decide)
    refine ⟨?_, other '\'' (by decide), minus, ?_, notDigit⟩
    · simp [isSpace, space, tab, return_, feed]
    · simp [isSign, plus, minus]

section WordParts

variable {word : List Char} (inside : ∀ d ∈ word, isWordPart d = true)

include inside

theorem scanWord_marked {kind : QuotedKind} (marks : quotedKind? (word.map asciiLower) = some kind)
    (rest : List Char) :
    scanWord (word ++ '\'' :: rest) = scanQuoted kind word.length (word ++ '\'' :: rest) := by
  have ends : EndsRun isWordPart ('\'' :: rest) := endsRun_cons (by decide) _
  simp only [scanWord, takeWhile_append_of_endsRun inside ends,
    dropWhile_append_of_endsRun inside ends, marks]

theorem scanWord_unmarked {rest : List Char} (ends : EndsRun isWordPart rest)
    (unmarked : rest.head? = some '\'' → quotedKind? (word.map asciiLower) = none) :
    scanWord (word ++ rest) = .ok ⟨wordLexeme word, word.length⟩ := by
  simp only [scanWord, takeWhile_append_of_endsRun inside ends,
    dropWhile_append_of_endsRun inside ends]
  split
  · rw [unmarked rfl]
  · rfl

end WordParts

section Word

variable {c : Char} {tail : List Char} (start : isWordStart c = true)

include start

theorem scanWord_plain (parts : ∀ d ∈ tail, isWordPart d = true) {rest : List Char}
    (boundary : IsBoundary rest) :
    scanWord (c :: tail ++ rest) = .ok ⟨wordLexeme (c :: tail), (c :: tail).length⟩ := by
  have inside : ∀ d ∈ c :: tail, isWordPart d = true :=
    List.forall_mem_cons.mpr ⟨isWordPart_of_isWordStart start, parts⟩
  refine scanWord_unmarked inside (boundary.endsRun (by decide) (by decide)) fun quote => ?_
  exact absurd rfl (boundary.notQuote '\'' quote)

theorem scan_eq_scanWord (rest : List Char) :
    Filter.scan (c :: tail ++ rest) = scanWord (c :: tail ++ rest) := by
  obtain ⟨-, notQuote, notMinus, notSign, notDigit⟩ := isWordStart_notSpecial start
  have noNumber : startsNumber (c :: (tail ++ rest)) = false := by
    simp [startsNumber, notSign, notDigit]
  have noInfinity : startsNegativeInfinity (c :: (tail ++ rest)) = false := by
    have first : negativeInfinity.isPrefixOf (c :: (tail ++ rest)) = false := by
      simp [negativeInfinity, List.isPrefixOf, Ne.symm notMinus]
    simp [startsNegativeInfinity, first]
  simp only [Filter.scan, List.cons_append, if_neg notQuote, noNumber, noInfinity, start]
  simp

theorem scansAs_word (parts : ∀ d ∈ tail, isWordPart d = true) :
    ScansAs (c :: tail) (wordLexeme (c :: tail)) where
  start := ⟨c, tail, rfl, (isWordStart_notSpecial start).1⟩
  scan rest boundary := by
    rw [scan_eq_scanWord start, scanWord_plain start parts boundary]

end Word

theorem scansAs_name {name : List Char} (isName : IsColumnName name) :
    ScansAs name (.identifier (String.ofList name)) := by
  rw [← wordLexeme_of_isColumnName isName]
  obtain ⟨c, tail, rfl, start, parts⟩ := isName.start
  exact scansAs_word start parts

theorem isWordStart_of_isAsciiLetter {c : Char} (letter : isAsciiLetter c = true) :
    isWordStart c = true := by
  rw [isWordStart, isAlphabetic, if_pos (ascii_of_isAsciiLetter letter), letter, Bool.true_or]

structure IsLetterWord (word : List Char) : Prop where
  nonempty : word ≠ []
  letters : word.all isAsciiLetter = true

instance (word : List Char) : Decidable (IsLetterWord word) :=
  decidable_of_iff (word ≠ [] ∧ word.all isAsciiLetter = true)
    ⟨fun ⟨a, b⟩ => ⟨a, b⟩, fun ⟨a, b⟩ => ⟨a, b⟩⟩

theorem IsLetterWord.exists_start {word : List Char} (isWord : IsLetterWord word) :
    ∃ c tail, word = c :: tail ∧ isWordStart c = true ∧ ∀ d ∈ tail, isWordPart d = true := by
  obtain ⟨c, tail, rfl⟩ := List.exists_cons_of_ne_nil isWord.nonempty
  have letters := isWord.letters
  rw [List.all_cons, Bool.and_eq_true, List.all_eq_true] at letters
  exact ⟨c, tail, rfl, isWordStart_of_isAsciiLetter letters.1, fun d member =>
    isWordPart_of_isWordStart (isWordStart_of_isAsciiLetter (letters.2 d member))⟩

theorem scansAs_keyword {word : List Char} {lexeme : Lexeme} (isWord : IsLetterWord word)
    (means : wordLexeme word = lexeme) : ScansAs word lexeme := by
  obtain ⟨c, tail, rfl, start, parts⟩ := isWord.exists_start
  rw [← means]
  exact scansAs_word start parts

theorem scansAs_comparison (comparison : Comparison) :
    ScansAs comparison.word.toList (.comparison comparison comparison.word) := by
  cases comparison <;> exact scansAs_keyword (by decide) (by decide)

theorem scansAs_connective (connective : Connective) :
    ScansAs connective.word.toList (.connective connective connective.word) := by
  cases connective <;> exact scansAs_keyword (by decide) (by decide)

theorem scansAs_negation : ScansAs negationWord.toList (.negation negationWord) :=
  scansAs_keyword (by decide) (by decide)

theorem scansAs_boolean (b : Bool) :
    ScansAs (if b then "true".toList else "false".toList) (.boolean b) := by
  cases b
  · exact scansAs_keyword (by decide) (by decide)
  · exact scansAs_keyword (by decide) (by decide)

theorem scansAs_notANumber : ScansAs "NaN".toList (.float .nan) :=
  scansAs_keyword (by decide) (by decide)

theorem scansAs_infinity : ScansAs "INF".toList (.float (.infinite false)) :=
  scansAs_keyword (by decide) (by decide)

theorem scan_negativeInfinity {rest : List Char} (ends : EndsRun isWordPart rest) :
    scan (negativeInfinity ++ rest) =
      .ok ⟨.float (.infinite true), negativeInfinity.length⟩ := by
  have noWord : rest.head?.any isWordPart = false := by
    cases head : rest.head? with
    | none => rfl
    | some c => simpa using ends c head
  have noNumber : startsNumber (negativeInfinity ++ rest) = false := by
    simp [negativeInfinity, startsNumber]
    decide
  have whole : startsNegativeInfinity (negativeInfinity ++ rest) = true := by
    simp [startsNegativeInfinity, noWord]
  unfold Filter.scan
  split
  · next shape => cases shape
  · next c tail shape =>
    obtain ⟨rfl, -⟩ := List.cons.inj shape
    rw [if_neg (by decide), noNumber, whole]
    rfl

theorem scansAs_negativeInfinity : ScansAs negativeInfinity (.float (.infinite true)) where
  start := ⟨'-', _, rfl, by decide⟩
  scan _ boundary := scan_negativeInfinity (boundary.endsRun (by decide) (by decide))

/-! ## Quoted bodies -/

theorem quotedBody?_of_closed {body rest : List Char} (unquoted : '\'' ∉ body)
    (ends : ∀ c ∈ rest.head?, c ≠ '\'') :
    quotedBody? (body ++ '\'' :: rest) = some (body, body.length + 1) := by
  induction body with
  | nil => exact quotedBody?_quote ends
  | cons c body ih =>
    have first : c ≠ '\'' := fun quote => unquoted (by simp [quote])
    have inner := ih fun member => unquoted (by simp [member])
    rw [List.cons_append, quotedBody?_cons first, inner]
    rfl

theorem bodyFault?_guid_eq_none_iff (body : List Char) :
    bodyFault? .guid body = none ↔ Uuid.HasGuidShape body := by
  simp only [bodyFault?, ite_eq_right_iff, reduceCtorEq, imp_false, not_or, not_not]
  exact ⟨fun both => ⟨both.1, both.2⟩, fun shape => ⟨shape.length, shape.hyphens⟩⟩

theorem scansAs_string {body : List Char} (unquoted : '\'' ∉ body) :
    ScansAs (Literal.marked "" body) (.string (String.ofList body)) where
  start := ⟨'\'', body ++ ['\''], rfl, by decide⟩
  scan rest boundary := by
    have shape : Literal.marked "" body ++ rest = '\'' :: (body ++ '\'' :: rest) := by
      simp [Literal.marked]
    have length : (Literal.marked "" body).length = body.length + 2 := by
      simp [Literal.marked]
    have read := quotedBody?_of_closed unquoted boundary.notQuote
    rw [shape, length]
    simp only [Filter.scan, scanString, List.tail_cons, read]
    rfl

theorem drop_afterQuote (word ds : List Char) :
    (word ++ '\'' :: ds).drop (word.length + 1) = ds := by
  simp

theorem scanQuoted_of_closed (kind : QuotedKind) {mark body rest : List Char}
    (unquoted : '\'' ∉ body) (boundary : IsBoundary rest) :
    scanQuoted kind mark.length (mark ++ '\'' :: (body ++ '\'' :: rest)) =
      match bodyFault? kind body with
      | some fault => .error ⟨fault, mark.length + 1 + (body.length + 1)⟩
      | none => .ok ⟨.quoted kind (String.ofList body), mark.length + 1 + (body.length + 1)⟩ := by
  have read := quotedBody?_of_closed unquoted boundary.notQuote
  cases faulty : bodyFault? kind body with
  | none => simp only [scanQuoted, drop_afterQuote, read, faulty]
  | some fault => simp only [scanQuoted, drop_afterQuote, read, faulty]

section Marked

variable {mark : String} {kind : QuotedKind} {body : List Char}

theorem length_marked (mark : String) (body : List Char) :
    (Literal.marked mark body).length = mark.toList.length + 1 + (body.length + 1) := by
  simp only [Literal.marked, List.length_append, List.length_cons, List.length_nil]
  omega

theorem scan_marked (isWord : IsLetterWord mark.toList)
    (marks : quotedKind? (mark.toList.map asciiLower) = some kind) (unquoted : '\'' ∉ body)
    {rest : List Char} (boundary : IsBoundary rest) :
    Filter.scan (Literal.marked mark body ++ rest) =
      match bodyFault? kind body with
      | some fault => .error ⟨fault, (Literal.marked mark body).length⟩
      | none => .ok ⟨.quoted kind (String.ofList body), (Literal.marked mark body).length⟩ := by
  have shape : Literal.marked mark body ++ rest =
      mark.toList ++ '\'' :: (body ++ '\'' :: rest) := by
    simp [Literal.marked]
  rw [shape, length_marked]
  generalize mark.toList = word at isWord marks
  obtain ⟨c, tail, rfl, start, parts⟩ := isWord.exists_start
  have inside : ∀ d ∈ c :: tail, isWordPart d = true :=
    List.forall_mem_cons.mpr ⟨isWordPart_of_isWordStart start, parts⟩
  rw [scan_eq_scanWord start, scanWord_marked inside marks]
  exact scanQuoted_of_closed kind unquoted boundary

theorem IsLetterWord.marked_start (isWord : IsLetterWord mark.toList) (body : List Char) :
    ∃ c rest, Literal.marked mark body = c :: rest ∧ isSpace c = false := by
  obtain ⟨c, tail, word, start, -⟩ := isWord.exists_start
  exact ⟨c, tail ++ '\'' :: body ++ ['\''], by simp [Literal.marked, word],
    (isWordStart_notSpecial start).1⟩

theorem scansAs_quoted (isWord : IsLetterWord mark.toList)
    (marks : quotedKind? (mark.toList.map asciiLower) = some kind)
    (unquoted : '\'' ∉ body) (faultless : bodyFault? kind body = none) :
    ScansAs (Literal.marked mark body) (.quoted kind (String.ofList body)) where
  start := isWord.marked_start body
  scan rest boundary := by rw [scan_marked isWord marks unquoted boundary, faultless]

end Marked

/-! ## Numbers -/

/-- No digit, point, exponent or mark of a long integer goes on. -/
def EndsNumber (rest : List Char) : Prop :=
  ∀ c ∈ rest.head?, isDigit c = false ∧ c ≠ '.' ∧ c ≠ 'e' ∧ c ≠ 'E'

theorem IsBoundary.endsNumber {rest : List Char} (boundary : IsBoundary rest) :
    EndsNumber rest := by
  intro c head
  rcases boundary c head with rfl | rfl <;> decide

theorem IsBoundary.notLong {rest : List Char} (boundary : IsBoundary rest) :
    startsLongMark rest = false := by
  cases rest with
  | nil => rfl
  | cons c rest => rcases boundary c rfl with rfl | rfl <;> rfl

theorem isDigit_of_mem_spell {digits : List Nat} (bound : ∀ d ∈ digits, d < 10) :
    ∀ c ∈ spell digits, isDigit c = true :=
  forall_spell bound (by decide)

section Number

variable (w : Written) {rest : List Char} (ends : EndsNumber rest)

include ends

theorem exponentSpan_append : exponentSpan (w.exponentChars ++ rest) = w.exponentChars := by
  unfold Written.exponentChars
  split
  · next negative digits mark =>
    have inside := isDigit_of_mem_spell (w.exponent_lt _ mark)
    have run := takeWhile_append_of_endsRun inside fun c head => (ends c head).1
    cases negative <;> simp [exponentSpan, signSpan, isSign, run]
  · cases rest with
    | nil => rfl
    | cons c rest =>
      have other := ends c rfl
      simp [exponentSpan, other.2.2.1, other.2.2.2]

theorem endsRun_afterFraction : EndsRun isDigit (w.exponentChars ++ rest) := by
  unfold Written.exponentChars
  split
  · exact endsRun_cons (by decide) _
  · exact fun c head => (ends c head).1

theorem fractionSpan_append :
    fractionSpan (w.fractionChars ++ (w.exponentChars ++ rest)) = w.fractionChars := by
  have after := endsRun_afterFraction w ends
  unfold Written.fractionChars
  split
  · next digits shape =>
    have inside := isDigit_of_mem_spell (w.fraction_lt digits shape)
    simp only [List.cons_append, fractionSpan, takeWhile_append_of_endsRun inside after]
  · have pointless : ∀ more, w.exponentChars ++ rest ≠ '.' :: more := by
      intro more point
      unfold Written.exponentChars at point
      split at point
      · cases point
      · rw [List.nil_append] at point
        exact (ends '.' (by simp [point])).2.1 rfl
    rw [List.nil_append]
    unfold fractionSpan
    split
    · next more point => exact absurd point (pointless more)
    · rfl

theorem endsRun_afterWhole :
    EndsRun isDigit (w.fractionChars ++ (w.exponentChars ++ rest)) := by
  unfold Written.fractionChars
  split
  · exact endsRun_cons (by decide) _
  · exact endsRun_afterFraction w ends

theorem numberSpan_append (negative : Bool) :
    numberSpan (signChars negative ++ (w.chars ++ rest)) =
      ⟨signChars negative, spell w.whole, w.fractionChars, w.exponentChars⟩ := by
  have inside := isDigit_of_mem_spell w.whole_lt
  have after := endsRun_afterWhole w ends
  have sign : signSpan (signChars negative ++ (w.chars ++ rest)) = signChars negative := by
    cases negative with
    | true => rfl
    | false =>
      obtain ⟨d, tail, small, shape⟩ := w.exists_first
      have unsigned : ∀ d : Fin 10, isSign (Nat.digitChar d) = false := by decide
      simp [signChars, shape, signSpan, unsigned ⟨d, small⟩]
  have split :
      w.chars ++ rest = spell w.whole ++ (w.fractionChars ++ (w.exponentChars ++ rest)) := by
    simp [Written.chars]
  rw [split] at sign ⊢
  simp only [numberSpan, sign, List.drop_left, takeWhile_append_of_endsRun inside after,
    dropWhile_append_of_endsRun inside after, fractionSpan_append w ends,
    exponentSpan_append w ends]

end Number

theorem startsNumber_append (negative : Bool) (w : Written) (rest : List Char) :
    startsNumber (signChars negative ++ (w.chars ++ rest)) = true := by
  obtain ⟨d, tail, small, shape⟩ := w.exists_first
  have digit : ∀ d : Fin 10, isDigit (Nat.digitChar d) = true := by decide
  have first := digit ⟨d, small⟩
  cases negative <;> simp [signChars, shape, startsNumber, isSign, first]

theorem exists_numberStart (negative : Bool) (w : Written) :
    ∃ c tail, signChars negative ++ w.chars = c :: tail ∧ isSpace c = false := by
  obtain ⟨d, tail, small, shape⟩ := w.exists_first
  have digit : ∀ d : Fin 10, isSpace (Nat.digitChar d) = false := by decide
  cases negative with
  | true => exact ⟨'-', w.chars, rfl, by decide⟩
  | false => exact ⟨Nat.digitChar d, tail, shape, digit ⟨d, small⟩⟩

theorem scan_of_startsNumber {cs : List Char} (starts : startsNumber cs = true) :
    Filter.scan cs = scanNumber cs := by
  cases cs with
  | nil => cases starts
  | cons c rest =>
    have notQuote : c ≠ '\'' := by
      rintro rfl
      have noNumber : isDigit '\'' = false ∧ isSign '\'' = false := by decide
      simp [startsNumber, noNumber] at starts
    simp only [Filter.scan, if_neg notQuote, starts, if_true]

theorem scan_eq_scanNumber (negative : Bool) (w : Written) (rest : List Char) :
    Filter.scan (signChars negative ++ (w.chars ++ rest)) =
      scanNumber (signChars negative ++ (w.chars ++ rest)) :=
  scan_of_startsNumber (startsNumber_append negative w rest)

/-! ## Doubles and integers -/

theorem chars_numberSpan (negative : Bool) (w : Written) :
    NumberSpan.chars ⟨signChars negative, spell w.whole, w.fractionChars, w.exponentChars⟩ =
      signChars negative ++ w.chars := by
  simp [NumberSpan.chars, Written.chars]

theorem isWhole_eq_false_of_hasMark (negative : Bool) {w : Written} (marked : w.HasMark) :
    NumberSpan.isWhole ⟨signChars negative, spell w.whole, w.fractionChars, w.exponentChars⟩ =
      false := by
  rw [NumberSpan.isWhole, Bool.and_eq_false_iff]
  rcases marked with fraction | exponent
  · obtain ⟨digits, shape⟩ := Option.ne_none_iff_exists'.mp fraction
    exact .inl (by simp [Written.fractionChars, shape])
  · obtain ⟨⟨sign, digits⟩, shape⟩ := Option.ne_none_iff_exists'.mp exponent
    exact .inr (by simp [Written.exponentChars, shape])

theorem scansAs_marked (negative : Bool) {w : Written} (marked : w.HasMark) :
    ScansAs (signChars negative ++ w.chars) (.float (w.double negative)) := by
  obtain ⟨c, tail, shape, solid⟩ := exists_numberStart negative w
  refine ⟨⟨c, tail, shape, solid⟩, fun rest boundary => ?_⟩
  have notLong := boundary.notLong
  have dropped : (signChars negative ++ (w.chars ++ rest)).drop
      (signChars negative ++ w.chars).length = rest := by
    rw [← List.append_assoc, List.drop_left]
  rw [List.append_assoc, scan_eq_scanNumber]
  simp only [scanNumber, numberSpan_append w boundary.endsNumber, chars_numberSpan, dropped,
    notLong, isWhole_eq_false_of_hasMark negative marked, double?_chars]
  rfl

theorem scansAs_double (x : Double) :
    ScansAs (x.renderChars Literal.doubleLayout) (.float x) := by
  cases x with
  | nan => exact scansAs_notANumber
  | infinite negative =>
    cases negative with
    | false => exact scansAs_infinity
    | true => exact scansAs_negativeInfinity
  | finite negative significand exponent canonical =>
    obtain ⟨w, marked, written, value⟩ :=
      exists_renderChars Literal.doubleLayout negative canonical
    rw [written, ← value]
    exact scansAs_marked negative marked

theorem toString_toList (n : Int) :
    (toString n).toList = signChars (decide (n < 0)) ++ Nat.toDigits 10 n.natAbs := by
  rw [Int.toString_eq_repr, Int.repr_eq_if]
  by_cases negative : n < 0
  · have size : (-n).toNat = n.natAbs := by omega
    rw [if_neg (by omega), size, String.toList_append, Nat.toList_repr]
    simp [signChars, negative]
  · have size : n.toNat = n.natAbs := by omega
    rw [if_pos (by omega), size, Nat.toList_repr]
    simp [signChars, negative]

theorem exists_integerText {n : Int} (few : HasFewDigits n.natAbs) :
    ∃ w : Written, w.fraction = none ∧ w.exponent = none ∧
      (toString n).toList = signChars (decide (n < 0)) ++ w.chars ∧
        integer? .ten (toString n).toList = .ok n := by
  obtain ⟨digits, areDigits, written⟩ :=
    exists_toDigits_eq_spell (show 1 < 10 by decide) n.natAbs
  have length : (Nat.toDigits 10 n.natAbs).length = digits.length := by rw [written, length_spell]
  have positive : 0 < (Nat.toDigits 10 n.natAbs).length := Nat.length_toDigits_pos
  have nonempty : digits ≠ [] := List.ne_nil_of_length_pos (length ▸ positive)
  have spelled : spell digits ≠ [] := by simpa [spell] using nonempty
  have short : Base.ten = .ten → digits.length ≤ integerDigitLimit := fun _ => length ▸ few
  have spells : Spells .ten (spell digits) digits := spells_spell (.inl rfl) areDigits.bound
  have value : ofDigits Base.ten.toNat digits = n.natAbs := areDigits.value
  refine ⟨.bare digits areDigits.bound nonempty, rfl, rfl, ?_, ?_⟩
  · rw [toString_toList, written]
    simp [Written.chars, Written.fractionChars, Written.exponentChars, Written.bare]
  · rw [toString_toList, written]
    by_cases negative : n < 0
    · have read := integer?_minus_of_spells spells spelled short
      have back : -(n.natAbs : Int) = n := by omega
      rw [value, back] at read
      simpa [signChars, negative] using read
    · have read := integer?_of_spells spells spelled short
      have back : (n.natAbs : Int) = n := by omega
      rw [value, back] at read
      simpa [signChars, negative] using read

theorem scanNumber_unmarked {w : Written} (noFraction : w.fraction = none)
    (noExponent : w.exponent = none) {negative : Bool} {n : Int} {rest : List Char}
    (read : integer? .ten (signChars negative ++ w.chars) = .ok n) (ends : EndsNumber rest) :
    scanNumber (signChars negative ++ (w.chars ++ rest)) =
      .ok ⟨if startsLongMark rest then .long n else .integer n,
        (signChars negative ++ w.chars).length + if startsLongMark rest then 1 else 0⟩ := by
  have dropped : (signChars negative ++ (w.chars ++ rest)).drop
      (signChars negative ++ w.chars).length = rest := by
    rw [← List.append_assoc, List.drop_left]
  have whole : NumberSpan.isWhole
      ⟨signChars negative, spell w.whole, w.fractionChars, w.exponentChars⟩ = true := by
    simp [NumberSpan.isWhole, Written.fractionChars, Written.exponentChars, noFraction, noExponent]
  simp only [scanNumber, numberSpan_append w ends, chars_numberSpan, dropped, whole, read]
  cases startsLongMark rest <;> rfl

theorem scansAs_integer {n : Int} (few : HasFewDigits n.natAbs) :
    ScansAs (toString n).toList (.integer n) := by
  obtain ⟨w, noFraction, noExponent, written, read⟩ := exists_integerText few
  obtain ⟨c, tail, shape, solid⟩ := exists_numberStart (decide (n < 0)) w
  rw [written] at read ⊢
  refine ⟨⟨c, tail, shape, solid⟩, fun rest boundary => ?_⟩
  rw [List.append_assoc, scan_eq_scanNumber,
    scanNumber_unmarked noFraction noExponent read boundary.endsNumber, boundary.notLong]
  rfl

theorem scansAs_long {n : Int} (few : HasFewDigits n.natAbs) :
    ScansAs ((toString n).toList ++ ['L']) (.long n) := by
  obtain ⟨w, noFraction, noExponent, written, read⟩ := exists_integerText few
  obtain ⟨c, tail, shape, solid⟩ := exists_numberStart (decide (n < 0)) w
  rw [written] at read ⊢
  refine ⟨⟨c, tail ++ ['L'], by rw [shape]; rfl, solid⟩, fun rest boundary => ?_⟩
  have ends : EndsNumber ('L' :: rest) := by
    intro c head
    cases head
    decide
  rw [List.append_assoc, List.append_assoc, List.singleton_append, scan_eq_scanNumber,
    scanNumber_unmarked noFraction noExponent read ends]
  simp [startsLongMark, Nat.add_assoc]

end StagedTables.Filter
