import Mathlib.Data.Bool.AllAny
import StagedTables.Proofs.Redaction.Substitution

/-! # What redaction hides

Redaction hides a value after a mark, whatever stands before and after.  A match that starts before
the mark ends before it or covers the value too, and no rule breaks a value that another rule is to
mask, since no mark starts in the mark or in the value.  Main statement: texts that differ only in a
value after a mark are the same when they are redacted. -/
set_option autoImplicit false
namespace StagedTables.Redaction

open Text
open Numeral (EndsRun endsRun_nil endsRun_cons endsRun_dropWhile)

def Closes (after : List Char) : Prop :=
  ∀ c ∈ after.head?, ∀ rule ∈ valueRules, fold c ∉ folded rule.mark

structure IsSecret (value : List Char) : Prop where
  nonempty : value ≠ []
  unseparated : ∀ c ∈ value, c ≠ ';' ∧ c ≠ '&'
  unmarked : ∀ rule ∈ valueRules, ¬ folded rule.mark <:+: folded value

theorem closes_of_head {after : List Char}
    (ends : ∀ c ∈ after.head?, c = ';' ∨ c = '&' ∨ isBlank c = true) : Closes after := by
  intro c first rule listed member
  have apart : ∀ rule ∈ valueRules, ∀ d ∈ folded rule.mark,
      d ≠ ';' ∧ d ≠ '&' ∧ isBlank d = false :=
    forall_valueRules (List.all_iff_forall_prop.mp (by decide +kernel))
      (List.all_iff_forall_prop.mp (by decide +kernel))
      (List.all_iff_forall_prop.mp (by decide +kernel))
  rw [fold_of_separates (ends c first)] at member
  obtain ⟨noSemicolon, noAmpersand, noBlank⟩ := apart rule listed c member
  rcases ends c first with rfl | rfl | blank
  · exact noSemicolon rfl
  · exact noAmpersand rfl
  · exact Bool.false_ne_true (noBlank.symm.trans blank)

section Hiding

variable {rule other : ValueRule} {word value after : List Char}

theorem IsSecret.inside (secret : IsSecret value) (listed : rule ∈ valueRules) :
    ∀ c ∈ value, rule.isSeparator c = false := by
  intro c member
  by_contra separates
  obtain ⟨noSemicolon, noAmpersand⟩ := secret.unseparated c member
  rcases isSeparator_cases rule listed c (by simpa using separates) with same | same
  · exact noSemicolon same
  · exact noAmpersand same

/-! ## Before the mark -/

/-- A match of which the value reaches the next separator covers all up to there. -/
theorem substitute_covering (listed : rule ∈ valueRules) {front : List Char}
    (isMark : folded front = folded rule.mark) (value after : List Char) (more : value ≠ [])
    (inside : ∀ c ∈ value, rule.isSeparator c = false) :
    substitute rule.match? (front ++ (value ++ after)) =
      front ++ (mask ++ substitute rule.match? (after.dropWhile (!rule.isSeparator ·))) := by
  have covered : ∀ c ∈ value ++ after.takeWhile (!rule.isSeparator ·),
      rule.isSeparator c = false := by
    intro c member
    rcases List.mem_append.mp member with here | later
    · exact inside c here
    · simpa using List.mem_takeWhile_imp later
  have whole := substitute_value listed isMark (by simp [more]) covered
    (endsRun_dropWhile (!rule.isSeparator ·) after)
  rwa [List.append_assoc, List.takeWhile_append_dropWhile] at whole

/-- What stands before a word either has a match that covers all up to the next separator, or is
done with where the word starts. -/
def ValueRule.Passes (rule : ValueRule) (word after before : List Char) : Prop :=
  (∃ hidden, ∀ value, (∀ c ∈ value, rule.isSeparator c = false) →
    substitute rule.match? (before ++ (word ++ (value ++ after))) = hidden) ∨
  ∃ kept, ∀ rest, substitute rule.match? (before ++ (word ++ rest)) =
    kept ++ substitute rule.match? (word ++ rest)

theorem ValueRule.Passes.prepend (front shown : List Char) {back : List Char}
    (step : ∀ rest, substitute rule.match? (front ++ (back ++ (word ++ rest))) =
      shown ++ substitute rule.match? (back ++ (word ++ rest)))
    (passes : rule.Passes word after back) : rule.Passes word after (front ++ back) := by
  rcases passes with ⟨hidden, same⟩ | ⟨kept, same⟩
  · refine .inl ⟨shown ++ hidden, ?_⟩
    intro value inside
    rw [List.append_assoc, step, same value inside]
  · refine .inr ⟨shown ++ kept, ?_⟩
    intro rest
    rw [List.append_assoc, step, same rest, List.append_assoc]

theorem ValueRule.Passes.cons {c : Char} {before : List Char}
    (missed : ∀ rest, rule.match? (c :: (before ++ (word ++ rest))) = none)
    (passes : rule.Passes word after before) : rule.Passes word after (c :: before) :=
  passes.prepend [c] [c] fun rest => substitute_of_none (missed rest)

theorem passes_covering (listed : rule ∈ valueRules) (known : other ∈ valueRules)
    (isMark : folded word = folded other.mark) {front : List Char}
    (isFront : folded front = folded rule.mark)
    (inside : ∀ c ∈ value, rule.isSeparator c = false) :
    rule.Passes word after (front ++ value) := by
  let rest := after.dropWhile (!rule.isSeparator ·)
  refine .inl ⟨front ++ (mask ++ substitute rule.match? rest), ?_⟩
  intro secret unseparated
  have covered : ∀ c ∈ value ++ (word ++ secret), rule.isSeparator c = false := by
    intro c member
    rcases List.mem_append.mp member with inValue | member
    · exact inside c inValue
    · rcases List.mem_append.mp member with inWord | inSecret
      · exact isSeparator_of_mem_mark listed known isMark c inWord
      · exact unseparated c inSecret
  have more : value ++ (word ++ secret) ≠ [] := by
    intro none
    have noWord : word = [] := (List.append_eq_nil_iff.mp (List.append_eq_nil_iff.mp none).2).1
    exact (IsMark.of_folded known isMark).ne_nil (by rw [noWord]; rfl)
  have whole := substitute_covering listed isFront (value ++ (word ++ secret)) after more covered
  rwa [List.append_assoc, List.append_assoc, ← List.append_assoc front] at whole

theorem passes_value (listed : rule ∈ valueRules) {front tail : List Char} {d : Char}
    (isFront : folded front = folded rule.mark) (more : value ≠ [])
    (inside : ∀ c ∈ value, rule.isSeparator c = false) (separates : rule.isSeparator d = true)
    (passes : rule.Passes word after (d :: tail)) :
    rule.Passes word after (front ++ (value ++ d :: tail)) := by
  rw [← List.append_assoc]
  refine passes.prepend (front ++ value) (front ++ mask) ?_
  intro rest
  have ends : EndsRun (!rule.isSeparator ·) (d :: tail ++ (word ++ rest)) :=
    endsRun_cons (by simp [separates]) _
  rw [List.append_assoc, substitute_value listed isFront more inside ends, List.append_assoc]

theorem match?_before (listed : rule ∈ valueRules) (known : other ∈ valueRules)
    (isMark : folded word = folded other.mark) {c : Char} {before : List Char}
    (starts : ¬ folded rule.mark <+: folded (c :: before)) (tail : List Char) :
    rule.match? (c :: (before ++ (word ++ tail))) = none := by
  apply match?_eq_none
  intro found
  rw [← List.cons_append, folded_append, folded_append] at found
  have keyword : IsMark (folded word) := IsMark.of_folded known isMark
  rcases (isMark_mark rule listed).prefix_or_eq keyword found with within | same
  · exact starts within
  · -- Then one mark would be the end of another.
    have ends : folded other.mark <:+ folded rule.mark := by
      rw [same, ← isMark]
      exact List.suffix_append ..
    have short := congrArg List.length (mark_apart other known rule listed ends)
    rw [same, ← isMark, List.length_append] at short
    simp [folded] at short

theorem passes_before (listed : rule ∈ valueRules) (known : other ∈ valueRules)
    (isMark : folded word = folded other.mark) (after before : List Char) :
    rule.Passes word after before := by
  -- On the length: behind a match, or behind one character, the rest of the text is shorter.
  induction long : before.length using Nat.strong_induction_on generalizing before with
  | _ n ih =>
    cases before with
    | nil => exact .inr ⟨[], fun rest => rfl⟩
    | cons c rest =>
      have later : rule.Passes word after rest := ih rest.length (by simp [← long]) rest rfl
      by_cases starts : folded rule.mark <+: folded (c :: rest)
      · obtain ⟨front, back, split, isFront⟩ := exists_split_of_folded starts
        have inside : ∀ c ∈ back.takeWhile (!rule.isSeparator ·), rule.isSeparator c = false := by
          intro c member
          simpa using List.mem_takeWhile_imp member
        have parts := List.takeWhile_append_dropWhile (p := (!rule.isSeparator ·)) (l := back)
        have ends := endsRun_dropWhile (!rule.isSeparator ·) back
        cases run : back.dropWhile (!rule.isSeparator ·) with
        | nil =>
          rw [run, List.append_nil] at parts
          rw [parts] at inside
          rw [split]
          exact passes_covering listed known isMark isFront inside
        | cons d tail =>
          rw [run] at parts ends
          have separates : rule.isSeparator d = true := by simpa using ends d rfl
          by_cases empty : back.takeWhile (!rule.isSeparator ·) = []
          · -- Nothing stands between the mark and the separator, so there is no match.
            apply later.cons
            intro rest'
            have none : ∀ c ∈ ([] : List Char), rule.isSeparator c = false := nofun
            have missed := match?_mark isFront none
              (endsRun_cons (ends d rfl) (tail ++ (word ++ rest')))
            rw [empty, List.nil_append] at parts
            rw [← List.cons_append, split, ← parts, List.append_assoc]
            exact missed
          · rw [split, ← parts]
            refine passes_value listed isFront empty inside separates (ih _ ?_ (d :: tail) rfl)
            have := List.length_pos_of_ne_nil empty
            rw [← long, split, ← parts, List.length_append, List.length_append]
            omega
      · exact later.cons (match?_before listed known isMark starts)

/-! ## At the mark -/

theorem match?_in_word (listed : rule ∈ valueRules) (known : other ∈ valueRules)
    (isMark : folded word = folded other.mark) (different : folded word ≠ folded rule.mark)
    {front back : List Char} (split : word = front ++ back) (more : back ≠ [])
    (tail : List Char) : rule.match? (back ++ tail) = none := by
  apply match?_eq_none
  intro found
  rw [folded_append] at found
  have keyword : IsMark (folded front ++ folded back) := by
    rw [← folded_append, ← split]
    exact IsMark.of_folded known isMark
  have same := (isMark_mark rule listed).eq_of_begins_append
    (keyword.of_append (by simpa [folded] using more)) found
  apply different
  rw [isMark]
  refine (mark_apart rule listed other known ?_).symm
  rw [← isMark, split, folded_append, same]
  exact List.suffix_append ..

theorem Closes.match?_before (closes : Closes after) (listed : rule ∈ valueRules)
    {text : List Char} (within : ¬ folded rule.mark <+: folded text) :
    rule.match? (text ++ after) = none := by
  apply match?_eq_none
  intro found
  rw [folded_append] at found
  rcases List.prefix_or_prefix_of_prefix found (List.prefix_append _ _) with short | beyond
  · exact within short
  · obtain ⟨rest, whole⟩ := beyond
    cases rest with
    | nil => exact within (by rw [← whole, List.append_nil])
    | cons d rest =>
      -- A mark that reaches beyond the text would go on with what closes it.
      rw [← whole] at found
      have next := (List.prefix_append_right_inj _).mp found
      cases after with
      | nil => simp [folded] at next
      | cons c after =>
        have same : d = fold c := (List.cons_prefix_cons.mp next).1
        apply closes c rfl rule listed
        rw [← whole, ← same]
        simp

/-- A rule copies a word that is no mark of its own with the value after it. -/
theorem substitute_other (listed : rule ∈ valueRules) (known : other ∈ valueRules)
    (isMark : folded word = folded other.mark) (different : folded word ≠ folded rule.mark)
    (unmarked : ¬ folded rule.mark <:+: folded value) (closes : Closes after) :
    substitute rule.match? (word ++ (value ++ after)) =
      word ++ (value ++ substitute rule.match? after) := by
  have inWord (front back : List Char) (split : word = front ++ back) (more : back ≠ []) :
      rule.match? (back ++ (value ++ after)) = none :=
    match?_in_word listed known isMark different split more _
  have inValue (front back : List Char) (split : value = front ++ back) (_ : back ≠ []) :
      rule.match? (back ++ after) = none := by
    apply closes.match?_before listed
    intro starts
    apply unmarked
    rw [split, folded_append]
    exact starts.isInfix.trans (List.suffix_append ..).isInfix
  rw [substitute_append_of_none inWord, substitute_append_of_none inValue]

theorem Closes.substitute (closes : Closes after) (listed : rule ∈ valueRules) :
    Closes (substitute rule.match? after) := by
  cases after with
  | nil =>
    rw [substitute_nil]
    exact nofun
  | cons c rest =>
    have apart : ¬ folded rule.mark <+: folded [] := by
      intro starts
      exact (isMark_mark rule listed).ne_nil (List.prefix_nil.mp starts)
    have missed : rule.match? (c :: rest) = none := closes.match?_before listed apart
    rw [substitute_of_none missed]
    exact closes

/-! ## All rules -/

theorem exists_hidden (listed : rule ∈ valueRules) (isMark : folded word = folded rule.mark)
    (before after : List Char) :
    ∃ hidden, ∀ value, IsSecret value →
      substitute rule.match? (before ++ (word ++ (value ++ after))) = hidden := by
  rcases passes_before listed listed isMark after before with ⟨hidden, same⟩ | ⟨kept, same⟩
  · exact ⟨hidden, fun value secret => same value (secret.inside listed)⟩
  · refine ⟨kept ++ (word ++ (mask ++
      substitute rule.match? (after.dropWhile (!rule.isSeparator ·)))), ?_⟩
    intro value secret
    rw [same, substitute_covering listed isMark value after secret.nonempty (secret.inside listed)]

theorem exists_hidden_or_kept (listed : rule ∈ valueRules) (known : other ∈ valueRules)
    (isMark : folded word = folded other.mark) (different : folded word ≠ folded rule.mark)
    (before : List Char) (closes : Closes after) :
    (∃ hidden, ∀ value, IsSecret value →
      substitute rule.match? (before ++ (word ++ (value ++ after))) = hidden) ∨
    ∃ kept later, Closes later ∧ ∀ value, IsSecret value →
      substitute rule.match? (before ++ (word ++ (value ++ after))) =
        kept ++ (word ++ (value ++ later)) := by
  rcases passes_before listed known isMark after before with ⟨hidden, same⟩ | ⟨kept, same⟩
  · exact .inl ⟨hidden, fun value secret => same value (secret.inside listed)⟩
  · refine .inr ⟨kept, substitute rule.match? after, closes.substitute listed, ?_⟩
    intro value secret
    rw [same, substitute_other listed known isMark different (secret.unmarked rule listed) closes]

/-- Rules that are applied one after another, of which one has the mark, hide what is after it. -/
theorem exists_hidden_foldl {rules : List ValueRule} (among : ∀ rule ∈ rules, rule ∈ valueRules)
    (known : other ∈ rules) (isMark : folded word = folded other.mark) (before : List Char)
    (closes : Closes after) :
    ∃ hidden, ∀ value, IsSecret value →
      rules.foldl (fun cs rule => substitute rule.match? cs)
        (before ++ (word ++ (value ++ after))) = hidden := by
  induction rules generalizing before after with
  | nil => cases known
  | cons rule rest ih =>
    have listed : rule ∈ valueRules := among rule List.mem_cons_self
    have later (hidden : List Char) (same : ∀ value, IsSecret value →
        substitute rule.match? (before ++ (word ++ (value ++ after))) = hidden) :
        ∃ hidden, ∀ value, IsSecret value →
          (rule :: rest).foldl (fun cs rule => substitute rule.match? cs)
            (before ++ (word ++ (value ++ after))) = hidden := by
      refine ⟨rest.foldl (fun cs rule => substitute rule.match? cs) hidden, ?_⟩
      intro value secret
      rw [List.foldl_cons, same value secret]
    by_cases own : folded word = folded rule.mark
    · obtain ⟨hidden, same⟩ := exists_hidden listed own before after
      exact later hidden same
    · have further : other ∈ rest := by
        rcases List.mem_cons.mp known with rfl | further
        · exact absurd isMark own
        · exact further
      rcases exists_hidden_or_kept listed (among other known) isMark own before closes with
        ⟨hidden, same⟩ | ⟨kept, tail, tailCloses, same⟩
      · exact later hidden same
      · obtain ⟨hidden, whole⟩ := ih (fun rule member => among rule (List.mem_cons_of_mem _ member))
          further kept tailCloses
        refine ⟨hidden, ?_⟩
        intro value secret
        rw [List.foldl_cons, same value secret, whole value secret]

theorem redactChars_secret (listed : rule ∈ valueRules) (isMark : folded word = folded rule.mark)
    {secret alternative : List Char} (isSecret : IsSecret secret)
    (isAlternative : IsSecret alternative) (before : List Char) (closes : Closes after) :
    redactChars (before ++ (word ++ (secret ++ after))) =
      redactChars (before ++ (word ++ (alternative ++ after))) := by
  obtain ⟨hidden, same⟩ := exists_hidden_foldl (fun _ => id) listed isMark before closes
  rw [redactChars_eq, redactChars_eq, same secret isSecret, same alternative isAlternative]

end Hiding

/-- Redaction hides secrets completely: whatever stands before a mark, in any letter case, and
whatever follows the separator after its value, texts that differ only in that value are redacted to
the same text. -/
theorem redact_hides_value {rule : ValueRule} (listed : rule ∈ valueRules)
    {mark secret alternative : String} (isMark : folded mark.toList = folded rule.mark)
    (isSecret : IsSecret secret.toList) (isAlternative : IsSecret alternative.toList)
    (before : String) {after : String} (ends : ∀ c ∈ after.toList.head?, c = ';' ∨ c = '&') :
    redact (before ++ mark ++ secret ++ after) =
      redact (before ++ mark ++ alternative ++ after) := by
  have closes : Closes after.toList := by
    apply closes_of_head
    intro c first
    rcases ends c first with semicolon | ampersand
    · exact .inl semicolon
    · exact .inr (.inl ampersand)
  have same := redactChars_secret listed isMark isSecret isAlternative before.toList closes
  simp only [redact, String.toList_append, List.append_assoc]
  rw [same]

/-- A signature between marks without a value, with a header in it and a further mark after it. -/
theorem redact_hides_value_between_marks :
    redact ("AccountKey=;Authorization: sig=" ++ "\u017FIG=" ++ "a Authorization: b" ++
        "&AccountKey=") =
      redact ("AccountKey=;Authorization: sig=" ++ "\u017FIG=" ++ "c" ++ "&AccountKey=") := by
  have listed : signatureRule ∈ valueRules := by simp [valueRules]
  have isMark : folded "\u017FIG=".toList = folded signatureRule.mark := by decide
  have isSecret : IsSecret "a Authorization: b".toList :=
    ⟨by decide, by simp, forall_valueRules (by decide) (by decide) (by decide)⟩
  have isAlternative : IsSecret "c".toList :=
    ⟨by decide, by simp, forall_valueRules (by decide) (by decide) (by decide)⟩
  exact redact_hides_value listed isMark isSecret isAlternative _ (by simp)

end StagedTables.Redaction
