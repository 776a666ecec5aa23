import StagedTables.Proofs.Filter.Lexing
import StagedTables.Proofs.Numeral
import StagedTables.Value.Text

/-! # What a scanned lexeme carries

The scanner hands on only lexemes that the later stages can take: an identifier is a column name,
an integer has few enough digits to be written again, and the body of a binary literal is an even
number of hexadecimal digits.  The end of the text is never scanned; it closes the list of
tokens. -/
set_option autoImplicit false
namespace StagedTables.Filter

open Text

def keywords : List String :=
  ["eq", "ne", "gt", "ge", "lt", "le", "and", "or", "not", "true", "false"]

/-- A letter or underscore, then letters, numerals and underscores: not a keyword in any letter
case, and not a special double. -/
structure IsColumnName (name : List Char) : Prop where
  start : ∃ c cs, name = c :: cs ∧ isWordStart c = true ∧ ∀ d ∈ cs, isWordPart d = true
  notKeyword : ∀ word ∈ keywords, name.map asciiLower ≠ word.toList
  notSpecial : name ≠ "INF".toList ∧ name ≠ "NaN".toList

theorem isColumnName_id : IsColumnName "Id".toList where
  start := ⟨'I', ['d'], rfl, by decide, by simp; decide⟩
  notKeyword := by decide
  notSpecial := by decide

theorem isWordPart_of_isWordStart {c : Char} (start : isWordStart c = true) :
    isWordPart c = true := by
  rw [isWordStart, Bool.or_eq_true] at start
  rcases start with letter | underscore
  · simp [isWordPart, isAlphanumeric_of_isAlphabetic letter]
  · simp [isWordPart, underscore]

theorem comparison?_eq_none_iff (key : List Char) :
    comparison? key = none ↔ ∀ comparison ∈ Comparison.all, comparison.word.toList ≠ key := by
  simp [comparison?]

theorem wordLexeme_of_isColumnName {name : List Char} (isName : IsColumnName name) :
    wordLexeme name = .identifier (String.ofList name) := by
  have noKeyword := isName.notKeyword
  simp only [keywords, List.forall_mem_cons] at noKeyword
  obtain ⟨eq, ne, gt, ge, lt, le, and, or, not, yes, no, -⟩ := noKeyword
  have noComparison : comparison? (name.map asciiLower) = none := by
    rw [comparison?_eq_none_iff]
    simp only [Comparison.all, List.forall_mem_cons, Comparison.word]
    exact ⟨lt.symm, le.symm, gt.symm, ge.symm, eq.symm, ne.symm, by simp⟩
  simp only [wordLexeme, isName.notSpecial.1, isName.notSpecial.2, noComparison, and, or, not, yes,
    no, if_false]

theorem isColumnName_of_wordLexeme {c : Char} {cs : List Char} {name : String}
    (start : isWordStart c = true) (rest : ∀ d ∈ cs, isWordPart d = true)
    (lexeme : wordLexeme (c :: cs) = .identifier name) :
    name = String.ofList (c :: cs) ∧ IsColumnName (c :: cs) := by
  simp only [wordLexeme] at lexeme
  split at lexeme
  · cases lexeme
  · next notInf =>
    split at lexeme
    · cases lexeme
    · next notNan =>
      split at lexeme
      · cases lexeme
      · next noComparison =>
        rw [comparison?_eq_none_iff] at noComparison
        simp only [Comparison.all, List.forall_mem_cons, Comparison.word] at noComparison
        obtain ⟨lt, le, gt, ge, eq, ne, -⟩ := noComparison
        split at lexeme
        · cases lexeme
        split at lexeme
        · cases lexeme
        split at lexeme
        · cases lexeme
        split at lexeme
        · cases lexeme
        split at lexeme
        · cases lexeme
        · next and or not yes no =>
          cases lexeme
          refine ⟨rfl, ⟨c, cs, rfl, start, rest⟩, ?_, notInf, notNan⟩
          simp only [keywords, List.forall_mem_cons]
          exact ⟨eq.symm, ne.symm, gt.symm, ge.symm, lt.symm, le.symm, and, or, not, yes, no,
            by simp⟩

def IsHexText (body : List Char) : Prop := body.length % 2 = 0 ∧ body.all isHexDigit = true

/-- What the later stages rely on. -/
def Lexeme.IsScannable : Lexeme → Prop
  | .integer n => Numeral.HasFewDigits n.natAbs
  | .long n => Numeral.HasFewDigits n.natAbs
  | .quoted .binary body => IsHexText body.toList
  | .identifier name => IsColumnName name.toList
  | .endOfText => False
  | _ => True

theorem wordLexeme_isScannable {c : Char} {cs : List Char} (start : isWordStart c = true)
    (rest : ∀ d ∈ cs, isWordPart d = true) : (wordLexeme (c :: cs)).IsScannable := by
  cases lexeme : wordLexeme (c :: cs) with
  | identifier name =>
    obtain ⟨rfl, isName⟩ := isColumnName_of_wordLexeme start rest lexeme
    simpa [Lexeme.IsScannable] using isName
  | integer | long | quoted | endOfText =>
    exfalso
    simp only [wordLexeme] at lexeme
    repeat' split at lexeme
    all_goals cases lexeme
  | _ => trivial

theorem scanNumber_isScannable {cs : List Char} {scanned : Scanned}
    (scan : scanNumber cs = .ok scanned) : scanned.lexeme.IsScannable := by
  simp only [scanNumber] at scan
  split at scan
  · split at scan
    · next n read =>
      cases scan
      have small := Numeral.integer?_ten_hasFewDigits read
      split <;> exact small
    · cases scan
  · split at scan
    · cases scan
    · split at scan
      · cases scan; trivial
      · cases scan

theorem scanQuoted_isScannable {kind : QuotedKind} {mark : Nat} {cs : List Char}
    {scanned : Scanned} (scan : scanQuoted kind mark cs = .ok scanned) :
    scanned.lexeme.IsScannable := by
  simp only [scanQuoted] at scan
  split at scan
  · cases scan
  · next body length read =>
    split at scan
    · cases scan
    · next faultless =>
      cases scan
      cases kind with
      | dateTime => trivial
      | guid => trivial
      | binary => simpa [Lexeme.IsScannable, IsHexText, bodyFault?] using faultless

theorem scanWord_isScannable {c : Char} {cs : List Char} {scanned : Scanned}
    (start : isWordStart c = true) (scan : scanWord (c :: cs) = .ok scanned) :
    scanned.lexeme.IsScannable := by
  have taken : (c :: cs).takeWhile isWordPart = c :: cs.takeWhile isWordPart :=
    List.takeWhile_cons_of_pos (isWordPart_of_isWordStart start)
  have plain : (wordLexeme ((c :: cs).takeWhile isWordPart)).IsScannable := by
    rw [taken]
    exact wordLexeme_isScannable start fun d member => List.mem_takeWhile_imp member
  simp only [scanWord] at scan
  split at scan
  · split at scan
    · exact scanQuoted_isScannable scan
    · cases scan; exact plain
  · cases scan; exact plain

theorem scan_isScannable {c : Char} {cs : List Char} {scanned : Scanned}
    (scan : scan (c :: cs) = .ok scanned) : scanned.lexeme.IsScannable := by
  simp only [Filter.scan] at scan
  split at scan
  · simp only [scanString] at scan
    split at scan
    · cases scan; trivial
    · cases scan
  split at scan
  · exact scanNumber_isScannable scan
  split at scan
  · cases scan; trivial
  split at scan
  · next start => exact scanWord_isScannable start scan
  split at scan
  · cases scan; trivial
  split at scan
  · cases scan; trivial
  · cases scan

theorem Lexes.isScannable {p q : Position} {cs rest : List Char} {ts : List Token}
    (lexed : Lexes p cs ts q rest) : ∀ token ∈ ts, token.lexeme.IsScannable := by
  intro token member
  obtain ⟨c, front, scanned, scan, same⟩ := lexed.scanned member
  exact same ▸ scan_isScannable scan

theorem tokens_shape {text : String} {ts : List Token} (lexed : tokens text = .ok ts) :
    ∃ body stop, ts = body ++ [stop] ∧ stop.lexeme = .endOfText ∧
      ∀ token ∈ body, token.lexeme.IsScannable := by
  obtain ⟨body, q, read, shape⟩ := lexes_of_tokensFrom lexed
  exact ⟨body, _, shape, rfl, read.isScannable⟩

theorem Lexeme.IsScannable.ne_endOfText {lexeme : Lexeme} (scannable : lexeme.IsScannable) :
    lexeme ≠ .endOfText := by
  rintro rfl
  exact scannable

end StagedTables.Filter
