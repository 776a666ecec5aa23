import StagedTables.Proofs.Filter.Scanning

/-! # One character of lookahead

What a reader takes from the front of a text depends, beyond what it takes, on one character at
most.  So a lexeme is scanned again wherever the same character follows it, and wherever a blank, a
closing parenthesis or the end of the text does: none of these goes on with any lexeme.  A part of
a text is lexed alike in every place where it is followed alike. -/
set_option autoImplicit false
namespace StagedTables.Filter

open Text Numeral

/-- The characters with which no lexeme goes on. -/
def endings : List Char := [' ', '\t', '\r', '\n', ')']

/-- `other` begins like `rest`, or in such a way that it ends every lexeme. -/
def FollowsAlike (rest other : List Char) : Prop :=
  other.head? = rest.head? ∨ ∀ c ∈ other.head?, c ∈ endings

theorem forall_endings {P : Char → Prop}
    (each : P ' ' ∧ P '\t' ∧ P '\r' ∧ P '\n' ∧ P ')') : ∀ c ∈ endings, P c := by
  simpa [endings] using each

theorem mem_endings_of_isSpace {c : Char} (space : isSpace c = true) : c ∈ endings := by
  simp only [isSpace, Bool.or_eq_true, beq_iff_eq] at space
  rcases space with ((rfl | rfl) | rfl) | rfl <;> decide

theorem IsBoundary.followsAlike {other : List Char} (boundary : IsBoundary other)
    (rest : List Char) : FollowsAlike rest other := by
  right
  intro c head
  rcases boundary c head with rfl | rfl <;> decide

section Alike

variable {rest other : List Char} (alike : FollowsAlike rest other)

include alike

theorem FollowsAlike.append (cs : List Char) : FollowsAlike (cs ++ rest) (cs ++ other) := by
  cases cs with
  | nil => exact alike
  | cons c cs => exact .inl rfl

theorem FollowsAlike.head {P : Char → Prop} (harmless : ∀ c ∈ endings, P c)
    (holds : ∀ c ∈ rest.head?, P c) : ∀ c ∈ other.head?, P c := by
  intro c head
  rcases alike with same | ends
  · exact holds c (same ▸ head)
  · exact harmless c (ends c head)

theorem FollowsAlike.endsRun {p : Char → Bool} (harmless : ∀ c ∈ endings, p c = false)
    (ends : EndsRun p rest) : EndsRun p other :=
  alike.head harmless ends

end Alike

/-! ## Spans -/

/-- A span at the front of a text, the same wherever it is followed alike. -/
def LooksAhead (span : List Char → List Char) : Prop :=
  ∀ cs, ∃ rest, cs = span cs ++ rest ∧
    ∀ other, FollowsAlike rest other → span (span cs ++ other) = span cs

theorem looksAhead_takeWhile {p : Char → Bool} (harmless : ∀ c ∈ endings, p c = false) :
    LooksAhead (List.takeWhile p) := by
  intro cs
  refine ⟨cs.dropWhile p, List.takeWhile_append_dropWhile.symm, fun other alike => ?_⟩
  exact takeWhile_append_of_endsRun (fun c member => List.mem_takeWhile_imp member)
    (alike.endsRun harmless (endsRun_dropWhile p cs))

theorem drop_of_split {cs front rest : List Char} (split : cs = front ++ rest) :
    cs.drop front.length = rest := by
  rw [split, List.drop_left]

theorem LooksAhead.andThen {first second : List Char → List Char} (one : LooksAhead first)
    (two : LooksAhead second) :
    LooksAhead fun cs => first cs ++ second (cs.drop (first cs).length) := by
  intro cs
  obtain ⟨middle, split, again⟩ := one cs
  obtain ⟨rest, splitMiddle, againMiddle⟩ := two middle
  have dropped : cs.drop (first cs).length = middle := drop_of_split split
  simp only [dropped]
  refine ⟨rest, by rw [List.append_assoc, ← splitMiddle, ← split], fun other alike => ?_⟩
  have followed : FollowsAlike middle (second middle ++ other) := by
    have appended := alike.append (second middle)
    rwa [← splitMiddle] at appended
  rw [List.append_assoc, again _ followed, List.drop_left, againMiddle other alike]

def markSpan (mark : Char → Bool) (span : List Char → List Char) : List Char → List Char
  | c :: rest => if mark c then c :: span rest else []
  | [] => []

theorem markSpan_eq_nil {mark : Char → Bool} (span : List Char → List Char) {cs : List Char}
    (ends : EndsRun mark cs) : markSpan mark span cs = [] := by
  cases cs with
  | nil => rfl
  | cons c rest => simp [markSpan, ends c rfl]

theorem looksAhead_markSpan {mark : Char → Bool} {span : List Char → List Char}
    (harmless : ∀ c ∈ endings, mark c = false) (after : LooksAhead span) :
    LooksAhead (markSpan mark span) := by
  intro cs
  by_cases ends : EndsRun mark cs
  · rw [markSpan_eq_nil span ends]
    exact ⟨cs, rfl, fun other alike => markSpan_eq_nil span (alike.endsRun harmless ends)⟩
  · cases cs with
    | nil => exact absurd (endsRun_nil mark) ends
    | cons c tail =>
      have marked : mark c = true := by
        by_contra unmarked
        exact ends (endsRun_cons (by simpa using unmarked) tail)
      obtain ⟨rest, split, again⟩ := after tail
      have spanned (more : List Char) : markSpan mark span (c :: more) = c :: span more :=
        if_pos marked
      rw [spanned]
      refine ⟨rest, by rw [List.cons_append, ← split], fun other alike => ?_⟩
      rw [List.cons_append, spanned, again other alike]

theorem looksAhead_nothing : LooksAhead fun _ => [] :=
  fun cs => ⟨cs, rfl, fun _ _ => rfl⟩

theorem isDigit_harmless : ∀ c ∈ endings, isDigit c = false :=
  forall_endings (by decide)

theorem isWordPart_harmless : ∀ c ∈ endings, isWordPart c = false :=
  forall_endings (by decide)

theorem looksAhead_digits : LooksAhead (List.takeWhile isDigit) :=
  looksAhead_takeWhile isDigit_harmless

theorem signSpan_eq_markSpan : signSpan = markSpan isSign fun _ => [] := by
  funext cs
  cases cs <;> rfl

theorem fractionSpan_eq_markSpan :
    fractionSpan = markSpan (· == '.') (List.takeWhile isDigit) := by
  funext cs
  unfold fractionSpan markSpan
  split
  · rfl
  · next other =>
    cases cs with
    | nil => rfl
    | cons c rest =>
      have pointless : c ≠ '.' := fun point => other rest (point ▸ rfl)
      simp [pointless]

theorem exponentSpan_eq_markSpan : exponentSpan = markSpan (fun c => c == 'e' || c == 'E')
    fun cs => signSpan cs ++ (cs.drop (signSpan cs).length).takeWhile isDigit := by
  funext cs
  cases cs <;> rfl

theorem looksAhead_signSpan : LooksAhead signSpan := by
  rw [signSpan_eq_markSpan]
  exact looksAhead_markSpan (forall_endings (by decide)) looksAhead_nothing

theorem looksAhead_fractionSpan : LooksAhead fractionSpan := by
  rw [fractionSpan_eq_markSpan]
  exact looksAhead_markSpan (forall_endings (by decide)) looksAhead_digits

theorem looksAhead_exponentSpan : LooksAhead exponentSpan := by
  rw [exponentSpan_eq_markSpan]
  exact looksAhead_markSpan (forall_endings (by decide))
    (looksAhead_signSpan.andThen looksAhead_digits)

/-! ## Numbers -/

structure NumberSpan.Spans (span : NumberSpan) (rest : List Char) : Prop where
  sign : signSpan (span.sign ++ (span.whole ++ (span.fraction ++ (span.exponent ++ rest)))) =
    span.sign
  whole : (span.whole ++ (span.fraction ++ (span.exponent ++ rest))).takeWhile isDigit = span.whole
  fraction : fractionSpan (span.fraction ++ (span.exponent ++ rest)) = span.fraction
  exponent : exponentSpan (span.exponent ++ rest) = span.exponent

theorem NumberSpan.Spans.numberSpan_eq {span : NumberSpan} {rest : List Char}
    (spans : span.Spans rest) : numberSpan (span.chars ++ rest) = span := by
  have afterWhole : (span.whole ++ (span.fraction ++ (span.exponent ++ rest))).dropWhile isDigit =
      span.fraction ++ (span.exponent ++ rest) := by
    have split := List.takeWhile_append_dropWhile (p := isDigit)
      (l := span.whole ++ (span.fraction ++ (span.exponent ++ rest)))
    rw [spans.whole] at split
    exact List.append_cancel_left split
  simp only [numberSpan, NumberSpan.chars, List.append_assoc, spans.sign, List.drop_left,
    spans.whole, afterWhole, spans.fraction, spans.exponent]

theorem exists_numberSpan (cs : List Char) : ∃ rest, cs = (numberSpan cs).chars ++ rest ∧
    ∀ other, FollowsAlike rest other → (numberSpan cs).Spans other := by
  obtain ⟨afterSign, splitSign, signAgain⟩ := looksAhead_signSpan cs
  obtain ⟨afterWhole, splitWhole, wholeAgain⟩ := looksAhead_digits afterSign
  obtain ⟨afterFraction, splitFraction, fractionAgain⟩ := looksAhead_fractionSpan afterWhole
  obtain ⟨rest, splitExponent, exponentAgain⟩ := looksAhead_exponentSpan afterFraction
  have dropSign : cs.drop (signSpan cs).length = afterSign := drop_of_split splitSign
  have dropWhole : afterSign.dropWhile isDigit = afterWhole :=
    List.append_cancel_left (List.takeWhile_append_dropWhile.trans splitWhole)
  have dropFraction : afterWhole.drop (fractionSpan afterWhole).length = afterFraction :=
    drop_of_split splitFraction
  have parts : numberSpan cs = ⟨signSpan cs, afterSign.takeWhile isDigit, fractionSpan afterWhole,
      exponentSpan afterFraction⟩ := by
    simp only [numberSpan, dropSign, dropWhole, dropFraction]
  rw [parts]
  refine ⟨rest, ?_, fun other alike => ?_⟩
  · simp only [NumberSpan.chars, List.append_assoc]
    rw [← splitExponent, ← splitFraction, ← splitWhole, ← splitSign]
  · have one := alike.append (exponentSpan afterFraction)
    have two := one.append (fractionSpan afterWhole)
    have three := two.append (afterSign.takeWhile isDigit)
    rw [← splitExponent] at one two three
    rw [← splitFraction] at two three
    rw [← splitWhole] at three
    exact ⟨signAgain _ three, wholeAgain _ two, fractionAgain _ one, exponentAgain other alike⟩

def NumberSpan.scanned (span : NumberSpan) (isLong : Bool) : Except ScanFault Scanned :=
  let length := if isLong then span.chars.length + 1 else span.chars.length
  let malformed : ScanFault := ⟨.malformedNumber (String.ofList span.chars), length⟩
  if span.isWhole then
    match integer? .ten span.chars with
    | .ok n => .ok ⟨if isLong then .long n else .integer n, length⟩
    | .error _ => .error malformed
  else if isLong then .error ⟨.fractionalLong (String.ofList span.chars), span.chars.length⟩
  else match double? span.chars with
    | some x => .ok ⟨.float x, length⟩
    | none => .error malformed

theorem NumberSpan.Spans.scanNumber_eq {span : NumberSpan} {rest : List Char}
    (spans : span.Spans rest) :
    scanNumber (span.chars ++ rest) = span.scanned (startsLongMark rest) := by
  simp only [scanNumber, spans.numberSpan_eq, List.drop_left]
  rfl

theorem NumberSpan.length_of_scanned {span : NumberSpan} {isLong : Bool} {scanned : Scanned}
    (scan : span.scanned isLong = .ok scanned) :
    scanned.length = if isLong then span.chars.length + 1 else span.chars.length := by
  simp only [NumberSpan.scanned] at scan
  split at scan
  · split at scan
    · cases scan
      rfl
    · cases scan
  · cases isLong with
    | true => cases scan
    | false =>
      simp only [Bool.false_eq_true, if_false] at scan
      split at scan
      · cases scan
        rfl
      · cases scan

theorem startsNumber_iff (cs : List Char) :
    startsNumber cs = true ↔ (numberSpan cs).whole ≠ [] := by
  cases cs with
  | nil => simp [startsNumber, numberSpan, signSpan]
  | cons c rest =>
    by_cases sign : isSign c = true
    · have notDigit : isDigit c = false := by
        rw [isSign, Bool.or_eq_true, beq_iff_eq, beq_iff_eq] at sign
        rcases sign with rfl | rfl <;> decide
      cases rest with
      | nil => simp [startsNumber, numberSpan, signSpan, sign, notDigit]
      | cons d rest => simp [startsNumber, numberSpan, signSpan, sign, notDigit]
    · simp [startsNumber, numberSpan, signSpan, sign]

theorem NumberSpan.Spans.scan_eq {span : NumberSpan} {rest : List Char} (spans : span.Spans rest)
    (starts : span.whole ≠ []) :
    scan (span.chars ++ rest) = span.scanned (startsLongMark rest) := by
  rw [scan_of_startsNumber ((startsNumber_iff _).mpr (spans.numberSpan_eq.symm ▸ starts)),
    spans.scanNumber_eq]

/-! ## Lexemes -/

/-- What was scanned is a front of the text that is not empty, scanned again wherever it is
followed alike. -/
def TakesFront (cs : List Char) (scanned : Scanned) : Prop :=
  ∃ c front rest, cs = c :: (front ++ rest) ∧ front.length + 1 = scanned.length ∧
    ∀ other, FollowsAlike rest other → scan (c :: (front ++ other)) = .ok scanned

theorem scanNumber_takesFront {cs : List Char} {scanned : Scanned}
    (starts : startsNumber cs = true) (number : scanNumber cs = .ok scanned) :
    TakesFront cs scanned := by
  obtain ⟨rest, split, again⟩ := exists_numberSpan cs
  have nonempty := (startsNumber_iff cs).mp starts
  generalize numberSpan cs = span at split again nonempty
  subst split
  rw [(again rest (.inl rfl)).scanNumber_eq] at number
  have length := NumberSpan.length_of_scanned number
  have scans other (alike : FollowsAlike rest other) := (again other alike).scan_eq nonempty
  obtain ⟨c, front, shape⟩ : ∃ c front, span.chars = c :: front :=
    List.exists_cons_of_ne_nil (by simp [NumberSpan.chars, nonempty])
  rw [shape, List.length_cons] at length
  rw [shape]
  simp only [shape, List.cons_append] at scans
  by_cases isLong : startsLongMark rest = true
  · -- the mark is taken too, so that anything at all may follow it
    cases rest with
    | nil => cases isLong
    | cons mark rest =>
      refine ⟨c, front ++ [mark], rest, by simp, by simp [length, isLong], fun other _ => ?_⟩
      rw [List.append_assoc, List.singleton_append, scans (mark :: other) (.inl rfl)]
      exact number
  · refine ⟨c, front, rest, rfl, by simp [length, isLong], fun other alike => ?_⟩
    have notLong : EndsRun (fun c => c == 'L' || c == 'l') rest := by
      intro c head
      cases rest with
      | nil => cases head
      | cons mark rest =>
        cases head
        simpa [startsLongMark] using isLong
    have same : startsLongMark other = startsLongMark rest := by
      have others := alike.endsRun (forall_endings (by decide)) notLong
      rw [Bool.eq_false_of_not_eq_true isLong]
      cases other with
      | nil => rfl
      | cons mark other => exact others mark rfl
    rw [scans other alike, same, number]

theorem quotedBody?_front {cs body : List Char} {length : Nat}
    (read : quotedBody? cs = some (body, length)) :
    ∃ front rest, cs = front ++ rest ∧ front.length = length ∧
      ∀ other, FollowsAlike rest other → quotedBody? (front ++ other) = some (body, length) := by
  induction cs using quotedBody?.induct generalizing body length with
  | case1 => cases read
  | case2 tail ih =>
    simp only [quotedBody?, Option.map_eq_some_iff] at read
    obtain ⟨⟨inner, count⟩, found, same⟩ := read
    cases same
    obtain ⟨front, rest, rfl, rfl, again⟩ := ih found
    refine ⟨'\'' :: '\'' :: front, rest, rfl, rfl, fun other alike => ?_⟩
    simp only [List.cons_append, quotedBody?, again other alike, Option.map_some]
  | case3 tail single =>
    have notDoubled : ∀ c ∈ tail.head?, c ≠ '\'' := by
      intro c head
      cases tail with
      | nil => cases head
      | cons d tail =>
        cases head
        exact fun quote => single tail (quote ▸ rfl)
    rw [quotedBody?_quote notDoubled] at read
    cases read
    refine ⟨['\''], tail, rfl, rfl, fun other alike => ?_⟩
    exact quotedBody?_quote (alike.head (forall_endings (by decide)) notDoubled)
  | case4 c tail notDoubled unquoted ih =>
    have other : c ≠ '\'' := fun quote => unquoted quote
    rw [quotedBody?_cons other, Option.map_eq_some_iff] at read
    obtain ⟨⟨inner, count⟩, found, same⟩ := read
    cases same
    obtain ⟨front, rest, rfl, rfl, again⟩ := ih found
    refine ⟨c :: front, rest, rfl, rfl, fun more alike => ?_⟩
    rw [List.cons_append, quotedBody?_cons other, again more alike]
    rfl

theorem scan_quote (cs : List Char) : scan ('\'' :: cs) = scanString ('\'' :: cs) := rfl

theorem scanString_takesFront {cs : List Char} {scanned : Scanned}
    (read : scanString ('\'' :: cs) = .ok scanned) : TakesFront ('\'' :: cs) scanned := by
  simp only [scanString, List.tail_cons] at read
  split at read
  · next body length found =>
    cases read
    obtain ⟨front, rest, rfl, rfl, again⟩ := quotedBody?_front found
    refine ⟨'\'', front, rest, rfl, rfl, fun other alike => ?_⟩
    rw [scan_quote]
    simp only [scanString, List.tail_cons, again other alike]
  · cases read

theorem scanQuoted_front {kind : QuotedKind} {word more : List Char} {scanned : Scanned}
    (scan : scanQuoted kind word.length (word ++ '\'' :: more) = .ok scanned) :
    ∃ front rest, more = front ++ rest ∧ (word ++ '\'' :: front).length = scanned.length ∧
      ∀ other, FollowsAlike rest other →
        scanQuoted kind word.length (word ++ '\'' :: (front ++ other)) = .ok scanned := by
  simp only [scanQuoted, drop_afterQuote] at scan
  split at scan
  · cases scan
  · next body length read =>
    split at scan
    · cases scan
    · next faultless =>
      cases scan
      obtain ⟨front, rest, rfl, rfl, again⟩ := quotedBody?_front read
      refine ⟨front, rest, rfl, by simp; omega, fun other alike => ?_⟩
      simp only [scanQuoted, drop_afterQuote, again other alike, faultless]

theorem scanWord_takesFront {c : Char} {cs : List Char} {scanned : Scanned}
    (start : isWordStart c = true) (read : scanWord (c :: cs) = .ok scanned) :
    TakesFront (c :: cs) scanned := by
  obtain ⟨tail, rest, rfl, parts, ends⟩ : ∃ tail rest, cs = tail ++ rest ∧
      (∀ d ∈ tail, isWordPart d = true) ∧ EndsRun isWordPart rest :=
    ⟨_, _, List.takeWhile_append_dropWhile.symm, fun d => List.mem_takeWhile_imp,
      endsRun_dropWhile isWordPart cs⟩
  have inside : ∀ d ∈ c :: tail, isWordPart d = true :=
    List.forall_mem_cons.mpr ⟨isWordPart_of_isWordStart start, parts⟩
  have scans (other : List Char) : scan (c :: (tail ++ other)) = scanWord (c :: tail ++ other) :=
    scan_eq_scanWord start other
  rw [← List.cons_append] at read
  by_cases unmarked : rest.head? = some '\'' → quotedKind? ((c :: tail).map asciiLower) = none
  · rw [scanWord_unmarked inside ends unmarked] at read
    cases read
    refine ⟨c, tail, rest, rfl, rfl, fun other alike => ?_⟩
    rw [scans]
    refine scanWord_unmarked inside (alike.endsRun isWordPart_harmless ends) fun quote => ?_
    rcases alike with same | endings
    · exact unmarked (same ▸ quote)
    · exact absurd (endings '\'' quote) (by decide)
  · obtain ⟨quote, marked⟩ := Classical.not_imp.mp unmarked
    obtain ⟨kind, marks⟩ := Option.ne_none_iff_exists'.mp marked
    obtain ⟨more, rfl⟩ := List.head?_eq_some_iff.mp quote
    rw [scanWord_marked inside marks] at read
    obtain ⟨front, rest, rfl, length, again⟩ := scanQuoted_front read
    refine ⟨c, tail ++ '\'' :: front, rest, by simp, length, fun other alike => ?_⟩
    rw [List.append_assoc, List.cons_append, scans, scanWord_marked inside marks,
      again other alike]

theorem exists_of_startsNegativeInfinity {cs : List Char}
    (starts : startsNegativeInfinity cs = true) :
    ∃ rest, cs = negativeInfinity ++ rest ∧ EndsRun isWordPart rest := by
  rw [startsNegativeInfinity, Bool.and_eq_true, List.isPrefixOf_iff_prefix] at starts
  obtain ⟨⟨rest, rfl⟩, ends⟩ := starts
  rw [List.drop_left] at ends
  refine ⟨rest, rfl, fun c head => ?_⟩
  rw [Option.mem_def.mp head] at ends
  simpa using ends

theorem negativeInfinity_takesFront {cs : List Char}
    (starts : startsNegativeInfinity cs = true) :
    TakesFront cs ⟨.float (.infinite true), negativeInfinity.length⟩ := by
  obtain ⟨rest, rfl, stops⟩ := exists_of_startsNegativeInfinity starts
  refine ⟨'-', ['I', 'N', 'F'], rest, rfl, rfl, fun other alike => ?_⟩
  exact scan_negativeInfinity (alike.endsRun isWordPart_harmless stops)

theorem scan_takesFront {c : Char} {cs : List Char} {scanned : Scanned}
    (read : scan (c :: cs) = .ok scanned) : TakesFront (c :: cs) scanned := by
  simp only [scan] at read
  split at read
  · next quote =>
    subst quote
    exact scanString_takesFront read
  split at read
  · next starts => exact scanNumber_takesFront starts read
  split at read
  · next starts =>
    cases read
    exact negativeInfinity_takesFront starts
  split at read
  · next start => exact scanWord_takesFront start read
  split at read
  · next opening =>
    subst opening
    cases read
    exact ⟨'(', [], cs, rfl, rfl, fun other _ => rfl⟩
  split at read
  · next closing =>
    subst closing
    cases read
    exact ⟨')', [], cs, rfl, rfl, fun other _ => rfl⟩
  · cases read

theorem exists_front {c : Char} {cs : List Char} {scanned : Scanned}
    (read : scan (c :: cs) = .ok scanned) :
    ∃ front rest, cs = front ++ rest ∧ (c :: cs).take scanned.length = c :: front ∧
      cs.drop (scanned.length - 1) = rest ∧ front.length + 1 = scanned.length ∧
      ∀ other, FollowsAlike rest other → scan (c :: (front ++ other)) = .ok scanned := by
  obtain ⟨d, front, rest, shape, length, again⟩ := scan_takesFront read
  obtain ⟨rfl, rfl⟩ := List.cons.inj shape
  exact ⟨front, rest, rfl, by simp [← length], by simp [← length], length, again⟩

/-! ## Texts -/

/-- What is lexed is lexed alike before anything that follows alike. -/
theorem Lexes.alike {p q : Position} {cs rest : List Char} {ts : List Token}
    (lexed : Lexes p cs ts q rest) {other : List Char} (alike : FollowsAlike rest other) :
    ∃ front, cs = front ++ rest ∧ q = p.advance front ∧ Lexes p (front ++ other) ts q other := by
  induction lexed with
  | done => exact ⟨[], rfl, rfl, .done⟩
  | @blank p q c cs rest ts space _ ih =>
    obtain ⟨front, split, reached, again⟩ := ih alike
    exact ⟨c :: front, congrArg (c :: ·) split, reached, .blank space again⟩
  | @token p q c cs rest ts scanned solid scan _ ih =>
    obtain ⟨front, split, reached, again⟩ := ih alike
    obtain ⟨lexeme, after, rfl, taken, dropped, length, scans⟩ := exists_front scan
    rw [dropped] at split
    rw [taken] at reached again
    subst split
    refine ⟨c :: (lexeme ++ front), by simp, ?_, ?_⟩
    · rw [reached, ← Position.advance_append, List.cons_append]
    · rw [List.cons_append, List.append_assoc]
      exact .of_scan solid (scans _ (alike.append front)) length again

theorem Lexes.anywhere {p q : Position} {cs rest : List Char} {ts : List Token}
    (lexed : Lexes p cs ts q rest) (p' : Position) :
    ∃ us q', Lexes p' cs us q' rest ∧ us.map Token.lexeme = ts.map Token.lexeme := by
  induction lexed generalizing p' with
  | done => exact ⟨[], p', .done, rfl⟩
  | @blank p q c cs rest ts space _ ih =>
    obtain ⟨us, q', again, same⟩ := ih (p'.next c)
    exact ⟨us, q', .blank space again, same⟩
  | token solid scan _ ih =>
    obtain ⟨us, q', again, same⟩ := ih _
    exact ⟨_, q', .token solid scan again, by simp [same]⟩

end StagedTables.Filter
