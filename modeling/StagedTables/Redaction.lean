import StagedTables.Text.Blank
import StagedTables.Text.LetterCase

/-! # Redaction

Secrets in a text are replaced by a mask: the values of account keys and signatures up to the
separator that ends them, and the credentials of authorization headers.  Marks are found in any
letter case, where a few letters beyond ASCII count as their ASCII look-alikes. -/
set_option autoImplicit false
namespace StagedTables.Redaction

open Text

def mask : List Char := "***REDACTED***".toList

/-- A character without its letter case.  The Kelvin sign counts as `k`, the long `s` as `s`, and
the dotless and dotted `i` as `i`. -/
def fold (c : Char) : Char :=
  if c = '\u212A' then 'k'
  else if c = '\u017F' then 's'
  else if c = '\u0130' ∨ c = '\u0131' then 'i'
  else asciiLower c

def startsWith (mark : List Char) (cs : List Char) : Bool :=
  (cs.take mark.length).map fold == mark.map fold

/-- A match at the front of a text: the length that is kept and the length that is masked. -/
structure Match where
  kept : Nat
  masked : Nat
  deriving DecidableEq, Repr

/-- A value after a mark runs up to a separator. -/
structure ValueRule where
  mark : List Char
  isSeparator : Char → Bool

def ValueRule.match? (rule : ValueRule) (cs : List Char) : Option Match :=
  if startsWith rule.mark cs then
    let value := (cs.drop rule.mark.length).takeWhile (!rule.isSeparator ·)
    if value.isEmpty then none else some ⟨rule.mark.length, value.length⟩
  else none

def accountKeyRule : ValueRule := ⟨"AccountKey=".toList, fun c => c == ';'⟩

def sharedSignatureRule : ValueRule :=
  ⟨"SharedAccessSignature=".toList, fun c => c == ';' || c == '&'⟩

def signatureRule : ValueRule := ⟨"sig=".toList, fun c => c == ';' || c == '&'⟩

def headerMark : List Char := "Authorization:".toList

def bearerWord : List Char := "Bearer".toList

def wordSpan (cs : List Char) : List Char := cs.takeWhile (!isBlank ·)

/-- The length of the bearer word with the blanks after it, when credentials follow them. -/
def bearerLength (cs : List Char) : Nat :=
  if startsWith bearerWord cs then
    let blanks := (cs.drop bearerWord.length).takeWhile isBlank
    let length := bearerWord.length + blanks.length
    if blanks.isEmpty || (wordSpan (cs.drop length)).isEmpty then 0 else length
  else 0

/-- Credentials after a header: the word that follows its blanks, or the word after a bearer
word. -/
def headerMatch? (cs : List Char) : Option Match :=
  if startsWith headerMark cs then
    let blanks := (cs.drop headerMark.length).takeWhile isBlank
    let kept := headerMark.length + blanks.length
    let rest := cs.drop kept
    let bearer := bearerLength rest
    let word := wordSpan (rest.drop bearer)
    if blanks.isEmpty || word.isEmpty then none else some ⟨kept, bearer + word.length⟩
  else none

def substitute (match? : List Char → Option Match) (cs : List Char) : List Char :=
  match cs with
  | [] => []
  | c :: rest =>
    match match? (c :: rest) with
    | some found =>
      (c :: rest).take found.kept ++ mask ++
        substitute match? (rest.drop (found.kept + found.masked - 1))
    | none => c :: substitute match? rest
termination_by cs.length
decreasing_by all_goals simp +arith [List.length_drop]

def redactChars (cs : List Char) : List Char :=
  substitute headerMatch?
    (substitute signatureRule.match?
      (substitute sharedSignatureRule.match? (substitute accountKeyRule.match? cs)))

def redact (text : String) : String := String.ofList (redactChars text.toList)

end StagedTables.Redaction
