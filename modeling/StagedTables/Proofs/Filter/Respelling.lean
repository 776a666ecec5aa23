import StagedTables.Proofs.Filter.CaseBlindness
import StagedTables.Proofs.Filter.Grammar

/-! # Lexemes in other letter case

The letters of words with a meaning, of the marks of quoted bodies, of hexadecimal digits, of
exponents and of long integers may be written in either case.  A lexeme with such letters in the
other case is scanned as a lexeme of the same length, which differs in spelling at most and stands
for the same in a phrase. -/
set_option autoImplicit false
namespace StagedTables.Filter

open Text Numeral

/-! ## Where letter case is free -/

/-- A letter of the lexeme, after the characters `before` it, may be written in either case. -/
def Lexeme.FreesCase (lexeme : Lexeme) (before : List Char) (c : Char) : Prop :=
  match lexeme with
  | .comparison _ _ | .connective _ _ | .negation _ | .boolean _ => True
  | .quoted .dateTime _ => '\'' ∉ before
  | .quoted _ _ => '\'' ∉ before ∨ isHexDigit c = true
  | .float _ => c = 'e' ∨ c = 'E'
  | .long _ => c = 'l' ∨ c = 'L'
  | _ => False

/-- The characters of one lexeme, some letters in the other case where that is free. -/
structure Lexeme.Respells (lexeme : Lexeme) (cs cs' : List Char) : Prop where
  same : SameLetters cs cs'
  changed : ∀ i c, cs[i]? = some c → cs'[i]? ≠ some c → lexeme.FreesCase (cs.take i) c

instance (lexeme : Lexeme) (before : List Char) (c : Char) :
    Decidable (lexeme.FreesCase before c) :=
  match lexeme with
  | .comparison _ _ | .connective _ _ | .negation _ | .boolean _ => .isTrue trivial
  | .quoted .dateTime _ => inferInstanceAs (Decidable (_ ∉ _))
  | .quoted .guid _ | .quoted .binary _ | .float _ | .long _ => inferInstanceAs (Decidable (_ ∨ _))
  | .string _ | .integer _ | .identifier _ => .isFalse id
  | .leftParenthesis | .rightParenthesis | .endOfText => .isFalse id

/-- What letter case changes of a lexeme: the spelling of a word, and the digits of an identifier
or of bytes. -/
inductive Lexeme.Recased : Lexeme → Lexeme → Prop
  | same (lexeme : Lexeme) : Recased lexeme lexeme
  | comparison (operator : Comparison) (spelling spelling' : String) :
      Recased (.comparison operator spelling) (.comparison operator spelling')
  | connective (operator : Connective) (spelling spelling' : String) :
      Recased (.connective operator spelling) (.connective operator spelling')
  | negation (spelling spelling' : String) : Recased (.negation spelling) (.negation spelling')
  | guid {body body' : String} (shape : Uuid.HasGuidShape body.toList)
      (same : SameLetters body.toList body'.toList) :
      Recased (.quoted .guid body) (.quoted .guid body')
  | binary {body body' : String} (same : SameLetters body.toList body'.toList) :
      Recased (.quoted .binary body) (.quoted .binary body')

namespace Lexeme

theorem Recased.symm {lexeme lexeme' : Lexeme} (recased : lexeme.Recased lexeme') :
    lexeme'.Recased lexeme := by
  cases recased with
  | same => exact .same _
  | comparison operator spelling spelling' => exact .comparison operator spelling' spelling
  | connective operator spelling spelling' => exact .connective operator spelling' spelling
  | negation spelling spelling' => exact .negation spelling' spelling
  | guid shape same =>
    rw [← Uuid.hasGuidShape_map_asciiLower, ← same, Uuid.hasGuidShape_map_asciiLower] at shape
    exact .guid shape same.symm
  | binary same => exact .binary same.symm

theorem Recased.literalValue {lexeme lexeme' : Lexeme} (recased : lexeme.Recased lexeme')
    {value : Value} (decoded : LiteralValue lexeme value) : LiteralValue lexeme' value := by
  cases recased with
  | same => exact decoded
  | comparison | connective | negation => cases decoded
  | guid shape same =>
    cases decoded with
    | guid read => exact .guid (Uuid.read_of_hasGuidShape read shape same)
  | @binary body body' same =>
    cases decoded with
    | binary =>
      rw [← same.congr bytesOfHex_map_asciiLower]
      exact .binary body'

/-- The grammar does not see letter case. -/
theorem Recased.standsFor {lexeme lexeme' : Lexeme} (recased : lexeme.Recased lexeme') :
    lexeme'.StandsFor lexeme := by
  have literal (value : Value) : LiteralValue lexeme value → LiteralValue lexeme' value :=
    recased.literalValue
  cases recased with
  | same => exact standsFor_refl _
  | comparison operator spelling spelling' =>
    refine ⟨nofun, fun other spelling same => ?_, nofun, nofun, nofun, nofun, nofun, literal⟩
    cases same
    exact ⟨spelling', rfl⟩
  | connective operator spelling spelling' =>
    refine ⟨nofun, nofun, fun other spelling same => ?_, nofun, nofun, nofun, nofun, literal⟩
    cases same
    exact ⟨spelling', rfl⟩
  | negation spelling spelling' =>
    exact ⟨nofun, nofun, nofun, fun _ _ => ⟨spelling', rfl⟩, nofun, nofun, nofun, literal⟩
  | guid | binary => exact ⟨nofun, nofun, nofun, nofun, nofun, nofun, nofun, literal⟩

section Respells

variable {lexeme : Lexeme} {cs cs' : List Char} (respells : lexeme.Respells cs cs')

include respells

theorem Respells.drop_eq {n : Nat}
    (fixed : ∀ i c, n ≤ i → cs[i]? = some c → ¬ lexeme.FreesCase (cs.take i) c) :
    cs'.drop n = cs.drop n := by
  have length := respells.same.length
  refine List.ext_getElem? fun i => ?_
  rw [List.getElem?_drop, List.getElem?_drop]
  cases here : cs[n + i]? with
  | none =>
    rw [List.getElem?_eq_none_iff] at here ⊢
    omega
  | some c =>
    by_contra other
    exact fixed (n + i) c (by omega) here (respells.changed (n + i) c here other)

theorem Respells.eq_of_fixed (fixed : ∀ c ∈ cs, ∀ before, ¬ lexeme.FreesCase before c) :
    cs' = cs := by
  have whole := respells.drop_eq (n := 0) fun i c _ here => fixed c (List.mem_of_getElem? here) _
  rwa [List.drop_zero, List.drop_zero] at whole

end Respells

end Lexeme

/-! ## Quoted bodies -/

section QuotedBody

variable {cs cs' body : List Char} {length : Nat} (same : SameLetters cs cs')
  (read : quotedBody? cs = some (body, length))

include same read

theorem exists_quotedBody? :
    ∃ body', quotedBody? cs' = some (body', length) ∧ SameLetters body body' := by
  have lowered := quotedBody?_map_asciiLower cs'
  rw [same, quotedBody?_map_asciiLower, read, Option.map_some, eq_comm,
    Option.map_eq_some_iff] at lowered
  obtain ⟨⟨body', length'⟩, read', both⟩ := lowered
  simp only [Prod.map_apply, id_eq, Prod.mk.injEq] at both
  obtain ⟨letters, rfl⟩ := both
  exact ⟨body', read', letters⟩

theorem quotedBody?_of_take (front : cs'.take length = cs.take length) :
    quotedBody? cs' = some (body, length) := by
  have alone {ds inner : List Char} (found : quotedBody? ds = some (inner, length)) :
      quotedBody? (ds.take length) = some (inner, length) := by
    obtain ⟨taken, rest, rfl, rfl, again⟩ := quotedBody?_front found
    simpa using again [] (.inr (by simp))
  obtain ⟨body', read', -⟩ := exists_quotedBody? same read
  have both := alone read'
  rw [front, alone read] at both
  cases both
  exact read'

end QuotedBody

theorem bodyFault?_binary_eq_none_iff (body : List Char) :
    bodyFault? .binary body = none ↔ IsHexText body := by
  simp [bodyFault?, IsHexText]

theorem bodyFault?_of_sameLetters {kind : QuotedKind} {body body' : List Char}
    (same : SameLetters body body') (faultless : bodyFault? kind body = none) :
    bodyFault? kind body' = none := by
  cases kind with
  | dateTime => simpa [bodyFault?, same.length] using faultless
  | guid =>
    rw [bodyFault?_guid_eq_none_iff] at faultless ⊢
    rwa [← Uuid.hasGuidShape_map_asciiLower, same, Uuid.hasGuidShape_map_asciiLower]
  | binary =>
    have digits : body'.all isHexDigit = body.all isHexDigit := by
      refine same.congr (f := fun ds => ds.all isHexDigit) fun ds => ?_
      rw [List.all_map, show isHexDigit ∘ asciiLower = isHexDigit from funext isHexDigit_asciiLower]
    rw [bodyFault?_binary_eq_none_iff, IsHexText] at faultless ⊢
    rwa [same.length, digits]

/-! ## One lexeme -/

section Words

variable {word word' : List Char}

/-- A word with a meaning has it in any letter case; the others are not written otherwise. -/
theorem wordLexeme_recased (respells : (wordLexeme word).Respells word word') :
    (wordLexeme word).Recased (wordLexeme word') := by
  by_cases fixed : ∀ c ∈ word, ∀ before, ¬ (wordLexeme word).FreesCase before c
  · rw [respells.eq_of_fixed fixed]
    exact .same _
  have notInf : word ≠ "INF".toList := by
    rintro rfl
    exact fixed (by simp [wordLexeme, Lexeme.FreesCase])
  have notNan : word ≠ "NaN".toList := by
    rintro rfl
    exact fixed (by simp [wordLexeme, Lexeme.FreesCase])
  have meant : wordLexeme word ≠ .identifier (String.ofList word) := fun named =>
    fixed (by simp [named, Lexeme.FreesCase])
  have key : word'.map asciiLower = word.map asciiLower := respells.same
  -- in lower case the words for the special doubles have no meaning
  have other {special : List Char} (unmeant : special.map asciiLower = word.map asciiLower →
      wordLexeme word = .identifier (String.ofList word)) : word' ≠ special := by
    rintro rfl
    exact meant (unmeant key)
  have notInf' : word' ≠ "INF".toList := other fun lower => by
    simp only [wordLexeme, if_neg notInf, if_neg notNan, ← lower]
    rfl
  have notNan' : word' ≠ "NaN".toList := other fun lower => by
    simp only [wordLexeme, if_neg notInf, if_neg notNan, ← lower]
    rfl
  simp only [wordLexeme, if_neg notInf, if_neg notNan, if_neg notInf', if_neg notNan',
    key] at meant ⊢
  split
  · exact .comparison _ _ _
  repeat' split
  · exact .connective _ _ _
  · exact .connective _ _ _
  · exact .negation _ _
  · exact .same _
  · exact .same _
  · next noComparison noAnd noOr noNot noTrue noFalse =>
    simp only [noComparison, if_neg noAnd, if_neg noOr, if_neg noNot, if_neg noTrue,
      if_neg noFalse] at meant
    exact absurd rfl meant

end Words

section Scan

variable {cs cs' : List Char} {scanned : Scanned} (same : SameLetters cs cs')
  (respells : scanned.lexeme.Respells (cs.take scanned.length) (cs'.take scanned.length))

include same respells

theorem scanString_recased (scan : scanString cs = .ok scanned) :
    scanString cs' = .ok scanned := by
  simp only [scanString] at scan
  split at scan
  · next body length read =>
    cases scan
    have front := respells.eq_of_fixed fun _ _ _ => id
    have afterQuote := congrArg (List.drop 1) front
    have tails := same.drop 1
    rw [List.drop_take, List.drop_take, Nat.add_sub_cancel] at afterQuote
    rw [List.drop_one, List.drop_one] at afterQuote tails
    simp only [scanString, quotedBody?_of_take tails read afterQuote]
  · cases scan

theorem negativeInfinity_recased (starts : startsNegativeInfinity cs = true)
    (infinite : scanned = ⟨.float (.infinite true), negativeInfinity.length⟩) :
    scan cs' = .ok scanned := by
  subst infinite
  obtain ⟨rest, rfl, stops⟩ := exists_of_startsNegativeInfinity starts
  rw [List.take_left] at respells
  have front := respells.eq_of_fixed (by simp [negativeInfinity, Lexeme.FreesCase])
  have tails := same.drop negativeInfinity.length
  rw [List.drop_left] at tails
  rw [← List.take_append_drop negativeInfinity.length cs', front]
  exact scan_negativeInfinity (tails.endsRun isWordPart_asciiLower stops)

end Scan

theorem take_afterQuote (word ds : List Char) (n : Nat) :
    (word ++ '\'' :: ds).take (word.length + 1 + n) = word ++ '\'' :: ds.take n := by
  simp [List.take_append, List.take_of_length_le, Nat.add_assoc, Nat.add_comm 1 n]

theorem Lexeme.Respells.eq_afterQuote {word word' body body' : List Char} {shown : String}
    (respells : (Lexeme.quoted .dateTime shown).Respells (word ++ '\'' :: body)
      (word' ++ '\'' :: body')) (length : word'.length = word.length) : body' = body := by
  have after := respells.drop_eq (n := word.length + 1) fun i c beyond _ free => by
    obtain ⟨k, rfl⟩ := Nat.exists_eq_add_of_le beyond
    rw [take_afterQuote] at free
    exact free (by simp)
  rwa [drop_afterQuote, ← length, drop_afterQuote] at after

theorem scanQuoted_recased {kind : QuotedKind} {word word' more more' : List Char}
    {scanned : Scanned} (words : SameLetters word word') (mores : SameLetters more more')
    (respells : scanned.lexeme.Respells ((word ++ '\'' :: more).take scanned.length)
      ((word' ++ '\'' :: more').take scanned.length))
    (scan : scanQuoted kind word.length (word ++ '\'' :: more) = .ok scanned) :
    ∃ lexeme, scanQuoted kind word'.length (word' ++ '\'' :: more') = .ok ⟨lexeme, scanned.length⟩ ∧
      scanned.lexeme.Recased lexeme := by
  simp only [scanQuoted, drop_afterQuote] at scan ⊢
  split at scan
  · cases scan
  · next body length read =>
    split at scan
    · cases scan
    · next faultless =>
      cases scan
      obtain ⟨body', read', letters⟩ := exists_quotedBody? mores read
      have faultless' := bodyFault?_of_sameLetters letters faultless
      simp only [read', faultless', words.length]
      refine ⟨_, rfl, ?_⟩
      cases kind with
      | dateTime =>
        simp only at respells
        rw [take_afterQuote, ← words.length, take_afterQuote] at respells
        have front := respells.eq_afterQuote words.length
        rw [quotedBody?_of_take mores read front] at read'
        cases read'
        exact .same _
      | guid =>
        rw [bodyFault?_guid_eq_none_iff] at faultless
        exact .guid (by simpa using faultless) (by simpa using letters)
      | binary => exact .binary (by simpa using letters)

theorem exists_words {cs cs' : List Char} (same : SameLetters cs cs') :
    ∃ word rest word' rest', cs = word ++ rest ∧ cs' = word' ++ rest' ∧ SameLetters word word' ∧
      SameLetters rest rest' ∧ (∀ c ∈ word, isWordPart c = true) ∧
      (∀ c ∈ word', isWordPart c = true) ∧ EndsRun isWordPart rest := by
  refine ⟨_, _, _, _, List.takeWhile_append_dropWhile.symm, List.takeWhile_append_dropWhile.symm,
    same.takeWhile isWordPart_asciiLower, same.dropWhile isWordPart_asciiLower,
    fun c => List.mem_takeWhile_imp, fun c => List.mem_takeWhile_imp, endsRun_dropWhile _ cs⟩

theorem scanWord_recased {cs cs' : List Char} {scanned : Scanned} (same : SameLetters cs cs')
    (respells : scanned.lexeme.Respells (cs.take scanned.length) (cs'.take scanned.length))
    (scan : scanWord cs = .ok scanned) :
    ∃ lexeme, scanWord cs' = .ok ⟨lexeme, scanned.length⟩ ∧ scanned.lexeme.Recased lexeme := by
  obtain ⟨word, rest, word', rest', rfl, rfl, words, rests, inside, inside', ends⟩ :=
    exists_words same
  have ends' := rests.endsRun isWordPart_asciiLower ends
  have quote : rest'.head? = some '\'' ↔ rest.head? = some '\'' := rests.head?_eq_iff (by decide)
  by_cases unmarked : rest.head? = some '\'' → quotedKind? (word.map asciiLower) = none
  · have unmarked' : rest'.head? = some '\'' → quotedKind? (word'.map asciiLower) = none := by
      rwa [quote, words]
    rw [scanWord_unmarked inside ends unmarked] at scan
    cases scan
    simp only at respells
    rw [List.take_left, ← words.length, List.take_left] at respells
    rw [scanWord_unmarked inside' ends' unmarked', words.length]
    exact ⟨_, rfl, wordLexeme_recased respells⟩
  · obtain ⟨quoted, marked⟩ := Classical.not_imp.mp unmarked
    obtain ⟨kind, marks⟩ := Option.ne_none_iff_exists'.mp marked
    obtain ⟨more, rfl⟩ := List.head?_eq_some_iff.mp quoted
    obtain ⟨more', rfl⟩ := List.head?_eq_some_iff.mp (quote.mpr quoted)
    have mores : SameLetters more more' := rests.drop 1
    rw [scanWord_marked inside marks] at scan
    rw [scanWord_marked inside' (words ▸ marks)]
    exact scanQuoted_recased words mores respells scan

/-- A lexeme in other letter case is scanned as the same, or as one that differs in spelling. -/
theorem scan_recased {c c' : Char} {cs cs' : List Char} {scanned : Scanned}
    (same : SameLetters (c :: cs) (c' :: cs'))
    (respells : scanned.lexeme.Respells ((c :: cs).take scanned.length)
      ((c' :: cs').take scanned.length))
    (scan : scan (c :: cs) = .ok scanned) :
    ∃ lexeme, Filter.scan (c' :: cs') = .ok ⟨lexeme, scanned.length⟩ ∧
      scanned.lexeme.Recased lexeme := by
  have fixed {d : Char} (notLetter : isAsciiLetter d = false) (here : c = d) : c' = d := by
    have heads := same.head?_eq_iff notLetter
    simpa [here] using heads
  have unchanged {cs : List Char} (again : Filter.scan cs = .ok scanned) :
      ∃ lexeme, Filter.scan cs = .ok ⟨lexeme, scanned.length⟩ ∧ scanned.lexeme.Recased lexeme :=
    ⟨_, again, .same _⟩
  simp only [Filter.scan] at scan
  split at scan
  · next quote =>
    cases quote
    cases fixed (by decide) rfl
    exact unchanged (scanString_recased same respells scan)
  split at scan
  · next starts =>
    have starts' : startsNumber (c' :: cs') = true :=
      (same.congr startsNumber_map_asciiLower).trans starts
    refine unchanged ?_
    rw [scan_of_startsNumber starts']
    exact scanNumber_of_sameLetters same scan
  split at scan
  · next starts =>
    exact unchanged (negativeInfinity_recased same respells starts (Except.ok.inj scan).symm)
  split at scan
  · next start =>
    have start' : isWordStart c' = true := by
      obtain ⟨_, _, shape, first, -⟩ := same.cons
      cases shape
      rwa [← isWordStart_asciiLower, first, isWordStart_asciiLower]
    obtain ⟨lexeme, again, recased⟩ := scanWord_recased same respells scan
    have read : Filter.scan (c' :: [] ++ cs') = scanWord (c' :: [] ++ cs') :=
      scan_eq_scanWord start' cs'
    exact ⟨lexeme, read.trans again, recased⟩
  split at scan
  · next opening =>
    cases fixed (by decide) opening
    exact unchanged scan
  split at scan
  · next closing =>
    cases fixed (by decide) closing
    exact unchanged scan
  · cases scan

end StagedTables.Filter
