import StagedTables.Proofs.Redaction.Repetition

/-! # Redaction by segments

A connection string is redacted segment by segment.  No mark has a semicolon in it and no value goes
beyond one, so the rules for values find before a semicolon what they find before the end of a text.
Only the credentials of a header run on to a blank.  Main statement: where no header stands before a
semicolon, the segments of the redacted text are the redacted segments, in their order. -/
set_option autoImplicit false
namespace StagedTables.Redaction

open Text
open Numeral (EndsRun endsRun_cons)

def Occurs (mark cs : List Char) : Prop := folded mark <:+: folded cs

instance (mark cs : List Char) : Decidable (Occurs mark cs) :=
  inferInstanceAs (Decidable (folded mark <:+: folded cs))

def segments (text : String) : List String := (text.toList.splitOn ';').map String.ofList

theorem isSeparator_semicolon : ∀ rule ∈ valueRules, rule.isSeparator ';' = true :=
  forall_valueRules rfl rfl rfl

section Patterns

variable {pattern other : Pattern} {cs out : List Char}

theorem occurs_iff : Occurs pattern.mark cs ↔ ∃ front back, cs = front ++ back ∧
    pattern.Starts back := by
  constructor
  · rintro ⟨before, after, split⟩
    obtain ⟨front, back, rfl, -, starts⟩ := List.map_eq_append_iff.mp
      ((List.append_assoc ..).symm.trans split).symm
    exact ⟨front, back, rfl, _, starts.symm⟩
  · rintro ⟨front, back, rfl, starts⟩
    rw [Occurs, folded_append]
    exact starts.isInfix.trans (List.suffix_append ..).isInfix

theorem Occurs.append_left (occurs : Occurs pattern.mark cs) (front : List Char) :
    Occurs pattern.mark (front ++ cs) := by
  rw [Occurs, folded_append]
  exact occurs.trans (List.suffix_append ..).isInfix

theorem Pattern.Starts.of_append (listed : pattern ∈ patterns) {rest : List Char}
    (starts : pattern.Starts (cs ++ ';' :: rest)) : pattern.Starts cs := by
  have bare : ∀ mark ∈ marks, ';' ∉ mark := by decide +kernel
  rw [Pattern.Starts, folded_append] at starts
  rcases List.prefix_or_prefix_of_prefix starts (List.prefix_append ..) with inside | beyond
  · exact inside
  · obtain ⟨back, whole⟩ := beyond
    rw [← whole, List.prefix_append_right_inj] at starts
    cases back with
    | nil =>
      rw [List.append_nil] at whole
      rw [Pattern.Starts, ← whole]
    | cons c back =>
      have semicolon : c = ';' := (List.cons_prefix_cons.mp starts).1
      exact absurd (by simp [← whole, semicolon]) (bare _ (mem_marks listed))

theorem Pattern.IsSettled.of_absent (absent : ¬ Occurs pattern.mark cs) :
    pattern.IsSettled cs := by
  intro front kept hidden rest split finds
  exact absurd (occurs_iff.mpr ⟨front, _, split, finds.opens.starts _⟩) absent

theorem Pattern.Masks.mem (masks : pattern.Masks cs out) {c : Char} (member : c ∈ out) :
    c ∈ cs ∨ c ∈ mask := by
  induction masks with
  | nil => exact .inl member
  | copy missed rest ih =>
    rcases List.mem_cons.mp member with rfl | member
    · exact .inl List.mem_cons_self
    · exact (ih member).imp_left (List.mem_cons_of_mem _)
  | hide finds later ih =>
    simp only [List.mem_append] at member ⊢
    rcases member with kept | masked | shown
    · exact .inl (.inl kept)
    · exact .inr masked
    · exact (ih shown).imp_left fun inRest => .inr (.inr inRest)

theorem Pattern.Masks.occurs_of_occurs (listed : pattern ∈ patterns)
    (masks : other.Masks cs out) (shown : Occurs pattern.mark out) : Occurs pattern.mark cs := by
  obtain ⟨front, back, split, starts⟩ := occurs_iff.mp shown
  clear shown
  induction masks generalizing front with
  | nil => exact occurs_iff.mpr ⟨front, back, split, starts⟩
  | @copy c cs out missed rest ih =>
    cases front with
    | nil =>
      obtain ⟨word, tail, rfl, isMark⟩ := exists_split_of_folded starts
      have shown : c :: out = word ++ tail := split
      obtain ⟨later, before⟩ := (Pattern.Masks.copy missed rest).exists_front shown
        (star_not_mem listed isMark)
      exact occurs_iff.mpr ⟨[], word ++ later, before, starts_append isMark later⟩
    | cons d front => exact (ih front (List.cons.inj split).2).append_left [c]
  | @hide kept hidden rest out finds later ih =>
    have behind (between : List Char) (same : out = between ++ back) :
        Occurs pattern.mark (kept ++ (hidden ++ rest)) := by
      rw [← List.append_assoc]
      exact (ih between same).append_left (kept ++ hidden)
    rcases List.append_eq_append_iff.mp split with ⟨more, rfl, masked⟩ | ⟨more, rfl, rfl⟩
    · rcases List.append_eq_append_iff.mp masked with ⟨more, rfl, same⟩ | ⟨inMask, within, rfl⟩
      · exact behind more same
      · cases inMask with
        | nil => exact behind [] rfl
        | cons d inMask =>
          exact absurd starts (not_starts_mask listed within (List.cons_ne_nil d inMask) out)
    · -- The mark would reach into the mask if it did not stand in what is kept.
      obtain ⟨word, tail, whole, isMark⟩ := exists_split_of_folded starts
      obtain ⟨last, rfl⟩ := exists_of_append_mask whole (star_not_mem listed isMark)
      refine occurs_iff.mpr ⟨front, word ++ (last ++ (hidden ++ rest)), ?_, starts_append isMark _⟩
      simp only [List.append_assoc]

end Patterns

section Segments

variable {rule : ValueRule} {cs rest : List Char}

/-- A rule for values looks at a text up to the first semicolon behind its mark. -/
theorem match?_append_semicolon (listed : rule ∈ valueRules) (cs rest : List Char) :
    rule.match? (cs ++ ';' :: rest) = rule.match? cs := by
  have known : rule.pattern ∈ patterns := List.mem_append_left _ (List.mem_map_of_mem listed)
  by_cases starts : rule.pattern.Starts cs
  · obtain ⟨word, tail, rfl, isMark⟩ := exists_split_of_folded starts
    obtain ⟨value, after, rfl, inside, ends⟩ := exists_run (!rule.isSeparator ·) tail
    have inside : ∀ c ∈ value, rule.isSeparator c = false := by simpa using inside
    have endsBefore : EndsRun (!rule.isSeparator ·) (after ++ ';' :: rest) := by
      cases after with
      | nil => exact endsRun_cons (by simp [isSeparator_semicolon rule listed]) _
      | cons c after => exact endsRun_cons (ends c rfl) _
    rw [List.append_assoc, List.append_assoc, match?_mark isMark inside endsBefore,
      match?_mark isMark inside ends]
  · have apart : ¬ rule.pattern.Starts (cs ++ ';' :: rest) :=
      fun more => starts (more.of_append known)
    rw [match?_eq_none starts, match?_eq_none apart]

theorem substitute_value_append_semicolon (listed : rule ∈ valueRules) (cs rest : List Char) :
    substitute rule.match? (cs ++ ';' :: rest) =
      substitute rule.match? cs ++ ';' :: substitute rule.match? rest := by
  have known : rule.pattern ∈ patterns := List.mem_append_left _ (List.mem_map_of_mem listed)
  have masks : rule.pattern.Masks cs (substitute rule.match? cs) := masks_substitute known cs
  generalize substitute rule.match? cs = out at masks
  induction masks with
  | nil =>
    have missed : rule.match? (';' :: rest) = none :=
      (match?_append_semicolon listed [] rest).trans (match?_eq_none (not_starts_nil known))
    exact substitute_of_none missed
  | @copy c cs out missed later ih =>
    have missed : rule.match? (c :: (cs ++ ';' :: rest)) = none :=
      (match?_append_semicolon listed (c :: cs) rest).trans missed
    rw [List.cons_append, substitute_of_none missed, ih, List.cons_append]
  | @hide kept hidden later out finds _ ih =>
    have found : rule.match? (kept ++ (hidden ++ (later ++ ';' :: rest))) =
        some ⟨kept.length, hidden.length⟩ := by
      rw [← finds.found, ← List.append_assoc hidden, ← List.append_assoc kept]
      exact match?_append_semicolon listed _ rest
    simp only [List.append_assoc]
    rw [substitute_of_some (finds.opens.ne_nil known) found, ih]

theorem substitute_header_append_semicolon (absent : ¬ Occurs headerMark cs) (rest : List Char) :
    substitute headerMatch? (cs ++ ';' :: rest) =
      substitute headerMatch? cs ++ ';' :: substitute headerMatch? rest := by
  have known : headerPattern ∈ patterns := List.mem_append_right _ (List.mem_singleton.mpr rfl)
  have settled : headerPattern.IsSettled cs := .of_absent absent
  have unchanged : substitute headerMatch? cs = cs := settled.substitute_eq known
  have missed (front back : List Char) (split : cs ++ [';'] = front ++ back) (more : back ≠ []) :
      headerMatch? (back ++ rest) = none := by
    cases matched : headerMatch? (back ++ rest) with
    | none => rfl
    | some found =>
      rw [← List.dropLast_append_getLast more, ← List.append_assoc] at split
      obtain ⟨rfl, last⟩ := List.append_inj' split rfl
      have starts : headerPattern.Starts (back ++ rest) := starts_of_match? known matched
      rw [← List.dropLast_append_getLast more, ← last, List.append_assoc] at starts
      exact absurd (occurs_iff.mpr ⟨front, _, rfl, starts.of_append known⟩) absent
  rw [unchanged, List.append_cons, substitute_append_of_none missed, List.append_assoc]
  rfl

theorem substitute_append_semicolon (absent : ¬ Occurs headerMark cs) (rest : List Char) :
    ∀ pattern ∈ patterns, substitute pattern.match? (cs ++ ';' :: rest) =
      substitute pattern.match? cs ++ ';' :: substitute pattern.match? rest :=
  forall_patterns (fun _ listed => substitute_value_append_semicolon listed cs rest)
    (substitute_header_append_semicolon absent rest)

theorem foldl_append_semicolon {later : List Pattern}
    (known : ∀ pattern ∈ later, pattern ∈ patterns) (absent : ¬ Occurs headerMark cs)
    (rest : List Char) :
    later.foldl (fun cs pattern => substitute pattern.match? cs) (cs ++ ';' :: rest) =
      later.foldl (fun cs pattern => substitute pattern.match? cs) cs ++
        ';' :: later.foldl (fun cs pattern => substitute pattern.match? cs) rest := by
  induction later generalizing cs rest with
  | nil => rfl
  | cons pattern later ih =>
    obtain ⟨first, known⟩ := List.forall_mem_cons.mp known
    have header : headerPattern ∈ patterns := List.mem_append_right _ (List.mem_singleton.mpr rfl)
    have still : ¬ Occurs headerMark (substitute pattern.match? cs) := fun shown =>
      absent ((masks_substitute first cs).occurs_of_occurs header shown)
    simp only [List.foldl_cons]
    rw [substitute_append_semicolon absent rest pattern first, ih known still]

/-- Where no header stands before a semicolon, what is before it and what is after it are redacted
each for itself. -/
theorem redactChars_append_semicolon (absent : ¬ Occurs headerMark cs) (rest : List Char) :
    redactChars (cs ++ ';' :: rest) = redactChars cs ++ ';' :: redactChars rest := by
  simp only [redactChars_eq_foldl]
  exact foldl_append_semicolon (fun _ => id) absent rest

theorem mem_or_mem_mask_of_mem_foldl {later : List Pattern}
    (known : ∀ pattern ∈ later, pattern ∈ patterns) {c : Char}
    (member : c ∈ later.foldl (fun cs pattern => substitute pattern.match? cs) cs) :
    c ∈ cs ∨ c ∈ mask := by
  induction later generalizing cs with
  | nil => exact .inl member
  | cons pattern later ih =>
    obtain ⟨first, known⟩ := List.forall_mem_cons.mp known
    rcases ih known member with shown | masked
    · exact (masks_substitute first cs).mem shown
    · exact .inr masked

theorem semicolon_not_mem_redactChars (single : ';' ∉ cs) : ';' ∉ redactChars cs := by
  rw [redactChars_eq_foldl]
  intro member
  rcases mem_or_mem_mask_of_mem_foldl (fun _ => id) member with inside | masked
  · exact single inside
  · exact absurd masked (by decide)

theorem splitOn_redactChars
    (absent : ∀ segment ∈ (cs.splitOn ';').dropLast, ¬ Occurs headerMark segment) :
    (redactChars cs).splitOn ';' = (cs.splitOn ';').map redactChars := by
  -- On the length: behind the first semicolon the text is shorter.
  induction long : cs.length using Nat.strong_induction_on generalizing cs with
  | _ n ih =>
    by_cases single : ';' ∈ cs
    · obtain ⟨front, rest, rfl, first⟩ := List.eq_append_cons_of_mem single
      rw [List.splitOn_append_cons_self_of_not_mem first] at absent ⊢
      rw [List.dropLast_cons_of_ne_nil (List.splitOn_ne_nil ';' rest)] at absent
      obtain ⟨here, later⟩ := List.forall_mem_cons.mp absent
      have shorter : rest.length < n := by
        rw [← long, List.length_append, List.length_cons]
        omega
      rw [redactChars_append_semicolon here,
        List.splitOn_append_cons_self_of_not_mem (semicolon_not_mem_redactChars first),
        ih rest.length shorter later rfl, List.map_cons]
    · rw [List.splitOn_eq_singleton single,
        List.splitOn_eq_singleton (semicolon_not_mem_redactChars single)]
      rfl

end Segments

/-- A text is redacted segment by segment.  What stands on both sides of a semicolon is redacted
each for itself if no header stands before it, whatever stands after it; so if no segment but the
last has a header, the segments of the redacted text are the redacted segments, as many and in the
same order.  A segment without a mark is left as it is. -/
theorem redact_by_segments :
    (∀ before after : String, ¬ Occurs headerMark before.toList →
      redact (before ++ ";" ++ after) = redact before ++ ";" ++ redact after) ∧
    (∀ text, (∀ segment ∈ (segments text).dropLast, ¬ Occurs headerMark segment.toList) →
      segments (redact text) = (segments text).map redact) ∧
    ∀ text : String, (∀ pattern ∈ patterns, ¬ Occurs pattern.mark text.toList) →
      redact text = text := by
  refine ⟨?_, ?_, ?_⟩
  · intro before after absent
    have whole := redactChars_append_semicolon absent after.toList
    apply String.toList_injective
    simpa [redact] using whole
  · intro text absent
    have absent : ∀ segment ∈ (text.toList.splitOn ';').dropLast, ¬ Occurs headerMark segment := by
      intro segment member
      have listed : String.ofList segment ∈ (segments text).dropLast := by
        rw [segments, ← List.map_dropLast]
        exact List.mem_map_of_mem member
      simpa using absent _ listed
    simp only [segments, redact, String.toList_ofList, splitOn_redactChars absent, List.map_map,
      Function.comp_def]
  · intro text absent
    have same := foldl_of_settled (fun _ => id)
      fun pattern listed => Pattern.IsSettled.of_absent (absent pattern listed)
    rw [redact, redactChars_eq_foldl, same, String.ofList_toList]

/-- A mark without a value, a value in another letter case, a mark behind an ampersand, a segment
without a mark, and a header in the last segment. -/
theorem redact_by_segments_header_last :
    segments (redact "AccountKey=;accountkey=a;sv=1&SIG=b;Table=c;Authorization: d") =
      ["AccountKey=", "accountkey=***REDACTED***", "sv=1&SIG=***REDACTED***", "Table=c",
        "Authorization: ***REDACTED***"] ∧
      redact ("Table=c" ++ ";" ++ "Authorization: d;e") =
        redact "Table=c" ++ ";" ++ redact "Authorization: d;e" ∧
      redact "Table=c" = "Table=c" := by
  obtain ⟨apart, segmented, unmarked⟩ := redact_by_segments
  refine ⟨?_, apart _ _ (by decide +kernel), unmarked _ (by decide +kernel)⟩
  rw [segmented _ (by decide +kernel)]
  decide +kernel

end StagedTables.Redaction
