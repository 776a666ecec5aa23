import Mathlib.Data.Bool.AllAny
import Mathlib.Data.List.Nodup
import StagedTables.Proofs.Redaction.Substitution

/-! # Patterns of redaction

The rules for values and the one for headers as patterns of one kind.  A mark starts neither in
another mark nor in blanks nor in the mask, and where a pattern finds something, it would find the
mask in its place just so. -/
set_option autoImplicit false
namespace StagedTables.Redaction

open Text
open Numeral (EndsRun endsRun_cons endsRun_dropWhile takeWhile_append_of_endsRun)

structure Pattern where
  mark : List Char
  match? : List Char → Option Match

def ValueRule.pattern (rule : ValueRule) : Pattern := ⟨rule.mark, rule.match?⟩

def headerPattern : Pattern := ⟨headerMark, headerMatch?⟩

def patterns : List Pattern := valueRules.map ValueRule.pattern ++ [headerPattern]

theorem redactChars_eq_foldl (cs : List Char) :
    redactChars cs = patterns.foldl (fun cs pattern => substitute pattern.match? cs) cs :=
  rfl

theorem forall_patterns {p : Pattern → Prop} (values : ∀ rule ∈ valueRules, p rule.pattern)
    (header : p headerPattern) : ∀ pattern ∈ patterns, p pattern := by
  intro pattern listed
  rcases List.mem_append.mp listed with value | isHeader
  · obtain ⟨rule, known, rfl⟩ := List.mem_map.mp value
    exact values rule known
  · rw [List.mem_singleton.mp isHeader]
    exact header

def marks : List (List Char) := patterns.map fun pattern => folded pattern.mark

theorem mem_marks {pattern : Pattern} (listed : pattern ∈ patterns) :
    folded pattern.mark ∈ marks :=
  List.mem_map_of_mem (f := fun pattern => folded pattern.mark) listed

/-! ## Where marks start -/

section Marks

variable {pattern other : Pattern} {word : List Char}

theorem pattern_eq_of_mark (listed : pattern ∈ patterns) (known : other ∈ patterns)
    (same : folded pattern.mark = folded other.mark) : pattern = other := by
  have distinct : marks.Nodup := by decide +kernel
  exact List.inj_on_of_nodup_map distinct listed known same

/-- A mark starts in a mark only if the two are the same, and there at the front. -/
theorem marks_apart : ∀ mark ∈ marks, ∀ other ∈ marks, ∀ back ∈ other.tails, back ≠ [] →
    mark <+: back ∨ back <+: mark → mark = other ∧ back = other := by
  decide +kernel

theorem marks_apart_mask : ∀ mark ∈ marks, ∀ back ∈ (folded mask).tails, back ≠ [] →
    ¬ (mark <+: back ∨ back <+: mark) := by
  decide +kernel

theorem isWritable_mark : ∀ mark ∈ marks, mark ≠ [] ∧ ∀ c ∈ mark, c ≠ '*' ∧ isBlank c = false := by
  have checked : ∀ mark ∈ marks, mark ≠ [] ∧
      mark.all (fun c => c != '*' && !isBlank c) = true := by decide +kernel
  intro mark listed
  obtain ⟨filled, plain⟩ := checked mark listed
  refine ⟨filled, fun c member => ?_⟩
  simpa using List.all_eq_true.mp plain c member

theorem fold_star : fold '*' = '*' := by decide

def Pattern.Starts (pattern : Pattern) (cs : List Char) : Prop :=
  folded pattern.mark <+: folded cs

theorem starts_of_match? {cs : List Char} {found : Match} (listed : pattern ∈ patterns)
    (matched : pattern.match? cs = some found) : pattern.Starts cs := by
  revert matched
  refine forall_patterns (p := fun pattern => pattern.match? cs = some found →
    pattern.Starts cs) ?_ ?_ pattern listed
  · intro rule _ matched
    by_contra unmarked
    have missed : rule.pattern.match? cs = none := match?_eq_none unmarked
    rw [missed] at matched
    cases matched
  · intro matched
    change headerMatch? cs = some found at matched
    rw [headerMatch?] at matched
    split at matched
    · next starts => exact startsWith_iff.mp starts
    · cases matched

theorem not_starts_nil (listed : pattern ∈ patterns) : ¬ pattern.Starts [] := by
  intro starts
  exact (isWritable_mark _ (mem_marks listed)).1 (List.prefix_nil.mp starts)

theorem not_starts_blank (listed : pattern ∈ patterns) {c : Char} (blank : isBlank c = true)
    (rest : List Char) : ¬ pattern.Starts (c :: rest) := by
  intro starts
  obtain ⟨more, plain⟩ := isWritable_mark _ (mem_marks listed)
  obtain ⟨first, later, mark⟩ := List.exists_cons_of_ne_nil more
  rw [Pattern.Starts, mark] at starts
  have same : first = fold c := (List.cons_prefix_cons.mp starts).1
  have bare := (plain first (by rw [mark]; exact List.mem_cons_self)).2
  rw [same, fold_of_separates (.inr (.inr blank)), blank] at bare
  cases bare

theorem not_starts_mask (listed : pattern ∈ patterns) {front back : List Char}
    (split : mask = front ++ back) (more : back ≠ []) (rest : List Char) :
    ¬ pattern.Starts (back ++ rest) := by
  intro starts
  have tail : folded back ∈ (folded mask).tails := by
    rw [List.mem_tails, split, folded_append]
    exact List.suffix_append ..
  rw [Pattern.Starts, folded_append] at starts
  exact marks_apart_mask _ (mem_marks listed) _ tail (by simpa [folded] using more)
    (List.prefix_or_prefix_of_prefix starts (List.prefix_append ..))

theorem starts_in_mark (listed : pattern ∈ patterns) (known : other ∈ patterns)
    (isMark : folded word = folded other.mark) {front back rest : List Char}
    (split : word = front ++ back) (more : back ≠ []) (starts : pattern.Starts (back ++ rest)) :
    pattern = other ∧ front = [] := by
  have tail : folded back ∈ (folded other.mark).tails := by
    rw [List.mem_tails, ← isMark, split, folded_append]
    exact List.suffix_append ..
  rw [Pattern.Starts, folded_append] at starts
  obtain ⟨same, whole⟩ := marks_apart _ (mem_marks listed) _ (mem_marks known) _ tail
    (by simpa [folded] using more)
    (List.prefix_or_prefix_of_prefix starts (List.prefix_append ..))
  refine ⟨pattern_eq_of_mark listed known same, ?_⟩
  have long := congrArg List.length whole
  rw [← isMark, split] at long
  simp [folded] at long
  exact long

theorem star_not_mem (listed : pattern ∈ patterns) (isMark : folded word = folded pattern.mark) :
    '*' ∉ word := by
  intro member
  have inside : fold '*' ∈ folded pattern.mark := by
    rw [← isMark]
    exact List.mem_map_of_mem member
  rw [fold_star] at inside
  exact ((isWritable_mark _ (mem_marks listed)).2 _ inside).1 rfl

end Marks

/-! ## Matches -/

def Pattern.Opens (pattern : Pattern) (kept : List Char) : Prop :=
  ∃ word blanks, kept = word ++ blanks ∧ folded word = folded pattern.mark ∧
    ∀ c ∈ blanks, isBlank c = true

/-- A match is found behind what opens it.  With the mask in its place it would be found again,
whatever comes later. -/
structure Pattern.Finds (pattern : Pattern) (kept hidden rest : List Char) : Prop where
  opens : pattern.Opens kept
  found : pattern.match? (kept ++ (hidden ++ rest)) = some ⟨kept.length, hidden.length⟩
  again : ∀ later, later.head? = rest.head? →
    pattern.match? (kept ++ (mask ++ later)) = some ⟨kept.length, mask.length⟩

/-- Two texts that have the same blanks in front and go on with the same character. -/
def Alike (rest later : List Char) : Prop :=
  ∃ blanks body other, rest = blanks ++ body ∧ later = blanks ++ other ∧
    (∀ c ∈ blanks, isBlank c = true) ∧ EndsRun isBlank body ∧ other.head? = body.head?

theorem Alike.head? {rest later : List Char} (alike : Alike rest later) :
    later.head? = rest.head? := by
  obtain ⟨blanks, body, other, rfl, rfl, -, -, same⟩ := alike
  rw [List.head?_append, List.head?_append, same]

/-- Matches begin with what opens them, and where there is none behind a mark, there is none in a
text that is alike. -/
structure Pattern.IsSteady (pattern : Pattern) : Prop where
  finds : ∀ cs found, pattern.match? cs = some found →
    ∃ kept hidden rest, cs = kept ++ (hidden ++ rest) ∧ pattern.Finds kept hidden rest
  misses : ∀ word rest later, folded word = folded pattern.mark → Alike rest later →
    pattern.match? (word ++ rest) = none → pattern.match? (word ++ later) = none

theorem endsRun_of_head? {p : Char → Bool} {rest later : List Char} (ends : EndsRun p rest)
    (same : later.head? = rest.head?) : EndsRun p later := by
  intro c first
  rw [same] at first
  exact ends c first

theorem exists_run (p : Char → Bool) (cs : List Char) :
    ∃ run rest, cs = run ++ rest ∧ (∀ c ∈ run, p c = true) ∧ EndsRun p rest :=
  ⟨cs.takeWhile p, cs.dropWhile p, List.takeWhile_append_dropWhile.symm,
    fun _ member => List.mem_takeWhile_imp member, endsRun_dropWhile p cs⟩

section Values

variable {rule : ValueRule}

theorem isSeparator_of_mem_mask (listed : rule ∈ valueRules) :
    ∀ c ∈ mask, rule.isSeparator c = false := by
  intro c member
  have absent : ';' ∉ mask ∧ '&' ∉ mask := by decide
  by_contra separates
  rcases isSeparator_cases rule listed c (by simpa using separates) with rfl | rfl
  · exact absent.1 member
  · exact absent.2 member

theorem isSteady_value (listed : rule ∈ valueRules) : rule.pattern.IsSteady := by
  constructor
  · intro cs found isFound
    change rule.match? cs = some found at isFound
    have known : rule.pattern ∈ patterns := List.mem_append_left _ (List.mem_map_of_mem listed)
    obtain ⟨word, tail, rfl, isMark⟩ := exists_split_of_folded (starts_of_match? known isFound)
    obtain ⟨value, rest, rfl, inside, ends⟩ := exists_run (!rule.isSeparator ·) tail
    have matched := match?_mark isMark (fun c member => by simpa using inside c member) ends
    have more : ¬ value.isEmpty = true := by
      intro none
      rw [matched, if_pos none] at isFound
      cases isFound
    rw [if_neg more] at matched
    refine ⟨word, value, rest, rfl, ⟨word, [], by simp, isMark, nofun⟩, matched, ?_⟩
    intro later same
    have masked := match?_mark isMark (isSeparator_of_mem_mask listed) (endsRun_of_head? ends same)
    rwa [if_neg (by decide)] at masked
  · intro word rest later isMark alike missed
    change rule.match? (word ++ rest) = none at missed
    change rule.match? (word ++ later) = none
    have same := alike.head?
    obtain ⟨value, after, rfl, inside, ends⟩ := exists_run (!rule.isSeparator ·) rest
    -- Nothing is found only if there is no value.
    have none : value = [] := by
      rw [match?_mark isMark (fun c member => by simpa using inside c member) ends] at missed
      by_contra more
      rw [if_neg (by simpa using more)] at missed
      cases missed
    rw [none, List.nil_append] at same
    have nothing : ∀ c ∈ ([] : List Char), rule.isSeparator c = false := nofun
    exact match?_mark isMark nothing (endsRun_of_head? ends same)

end Values

section Headers

variable {word blanks body : List Char}

def credentials (body : List Char) : Nat :=
  bearerLength body + (wordSpan (body.drop (bearerLength body))).length

theorem bearerLength_cases (body : List Char) :
    bearerLength body = 0 ∨ wordSpan (body.drop (bearerLength body)) ≠ [] := by
  unfold bearerLength
  split
  · dsimp only
    split
    · exact .inl rfl
    · next shown =>
      right
      rw [Bool.or_eq_true, not_or] at shown
      simpa using shown.2
  · exact .inl rfl

theorem wordSpan_eq_nil_iff (ends : EndsRun isBlank body) :
    wordSpan (body.drop (bearerLength body)) = [] ↔ body = [] := by
  constructor
  · intro none
    rcases bearerLength_cases body with bare | more
    · rw [bare, List.drop_zero] at none
      cases body with
      | nil => rfl
      | cons c rest =>
        have visible : isBlank c = false := ends c rfl
        simp [wordSpan, visible] at none
    · exact absurd none more
  · rintro rfl
    simp [wordSpan]

theorem headerMatch?_mark (isMark : folded word = folded headerMark)
    (blank : ∀ c ∈ blanks, isBlank c = true) (ends : EndsRun isBlank body) :
    headerMatch? (word ++ (blanks ++ body)) =
      if blanks = [] ∨ body = [] then none
      else some ⟨(word ++ blanks).length, credentials body⟩ := by
  have starts : startsWith headerMark (word ++ (blanks ++ body)) = true := by
    rw [startsWith_iff, folded_append, isMark]
    exact List.prefix_append ..
  have long : headerMark.length = word.length := by
    simpa [folded] using (congrArg List.length isMark).symm
  have run : (blanks ++ body).takeWhile isBlank = blanks := takeWhile_append_of_endsRun blank ends
  have kept : (word ++ (blanks ++ body)).drop (word.length + blanks.length) = body := by
    rw [← List.append_assoc, ← List.length_append, List.drop_left]
  rw [headerMatch?, if_pos starts, long, List.drop_left, run]
  dsimp only
  rw [kept]
  simp only [Bool.or_eq_true, List.isEmpty_iff, wordSpan_eq_nil_iff ends, List.length_append,
    credentials]

theorem bearerLength_mask (later : List Char) : bearerLength (mask ++ later) = 0 := by
  have other : startsWith bearerWord (mask ++ later) = false := rfl
  rw [bearerLength, other]
  rfl

theorem credentials_mask {later : List Char} (ends : EndsRun (!isBlank ·) later) :
    credentials (mask ++ later) = mask.length := by
  have visible : ∀ c ∈ mask, (!isBlank c) = true := List.all_eq_true.mp (by decide +kernel)
  have run : wordSpan (mask ++ later) = mask := takeWhile_append_of_endsRun visible ends
  rw [credentials, bearerLength_mask, List.drop_zero, run, Nat.zero_add]

theorem exists_credentials (body : List Char) :
    ∃ hidden rest, body = hidden ++ rest ∧ hidden.length = credentials body ∧
      EndsRun (!isBlank ·) rest := by
  let after := body.drop (bearerLength body)
  have short : bearerLength body ≤ body.length := by
    rcases bearerLength_cases body with none | more
    · omega
    · by_contra long
      rw [List.drop_eq_nil_of_le (by omega)] at more
      exact more rfl
  refine ⟨body.take (bearerLength body) ++ wordSpan after, after.dropWhile (!isBlank ·), ?_, ?_, ?_⟩
  · rw [List.append_assoc, wordSpan, List.takeWhile_append_dropWhile, List.take_append_drop]
  · rw [List.length_append, List.length_take, Nat.min_eq_left short]
    rfl
  · exact endsRun_dropWhile _ after

theorem isSteady_header : headerPattern.IsSteady := by
  constructor
  · intro cs found isFound
    change headerMatch? cs = some found at isFound
    have known : headerPattern ∈ patterns := List.mem_append_right _ (List.mem_singleton.mpr rfl)
    obtain ⟨word, tail, rfl, isMark⟩ := exists_split_of_folded (starts_of_match? known isFound)
    obtain ⟨blanks, body, rfl, blank, visible⟩ := exists_run isBlank tail
    have matched := headerMatch?_mark isMark blank visible
    have more : ¬ (blanks = [] ∨ body = []) := by
      intro none
      rw [matched, if_pos none] at isFound
      cases isFound
    rw [if_neg more] at matched
    obtain ⟨hidden, rest, rfl, long, ends⟩ := exists_credentials body
    rw [← long, ← List.append_assoc] at matched
    refine ⟨word ++ blanks, hidden, rest, (List.append_assoc ..).symm,
      ⟨word, blanks, rfl, isMark, blank⟩, matched, ?_⟩
    intro later same
    have shown : EndsRun isBlank (mask ++ later) := endsRun_cons (by decide +kernel) _
    have masked := headerMatch?_mark isMark blank shown
    rw [credentials_mask (endsRun_of_head? ends same), if_neg ?_, ← List.append_assoc] at masked
    · exact masked
    · rintro (none | none)
      · exact more (.inl none)
      · cases none
  · intro word rest later isMark alike missed
    change headerMatch? (word ++ rest) = none at missed
    change headerMatch? (word ++ later) = none
    obtain ⟨blanks, body, other, rfl, rfl, blank, ends, same⟩ := alike
    rw [headerMatch?_mark isMark blank ends] at missed
    rw [headerMatch?_mark isMark blank (endsRun_of_head? ends same), if_pos]
    split at missed
    · next none =>
      refine none.imp_right fun none => ?_
      rw [none] at same
      exact List.head?_eq_none_iff.mp same
    · cases missed

end Headers

theorem isSteady : ∀ pattern ∈ patterns, pattern.IsSteady :=
  forall_patterns (fun _ listed => isSteady_value listed) isSteady_header

end StagedTables.Redaction
