import StagedTables.Logging.Record
import StagedTables.Proofs.Redaction.Pattern

/-! # Redacting again

A text that has been redacted is redacted to itself.  A text is settled for a pattern if each match
in it masks the mask.  Main statement: a substitution settles the text for its own pattern and keeps
it settled for any other, so that after all of them nothing is left to do. -/
set_option autoImplicit false
namespace StagedTables.Redaction

open Text
open Numeral (EndsRun)

/-! ## Substitution -/

/-- How a text is masked from left to right: a character is copied where nothing is found, and what
is found is kept up to what is hidden. -/
inductive Pattern.Masks (pattern : Pattern) : List Char → List Char → Prop
  | nil : Masks pattern [] []
  | copy {c : Char} {cs out : List Char} (missed : pattern.match? (c :: cs) = none)
    (rest : Masks pattern cs out) : Masks pattern (c :: cs) (c :: out)
  | hide {kept hidden rest out : List Char} (finds : pattern.Finds kept hidden rest)
    (later : Masks pattern rest out) :
    Masks pattern (kept ++ (hidden ++ rest)) (kept ++ (mask ++ out))

section Masks

variable {pattern other : Pattern} {cs out front rest : List Char}

theorem Pattern.Opens.ne_nil (listed : pattern ∈ patterns) {kept : List Char}
    (opens : pattern.Opens kept) : kept ≠ [] := by
  obtain ⟨word, blanks, rfl, isMark, -⟩ := opens
  intro none
  obtain ⟨rfl, -⟩ := List.append_eq_nil_iff.mp none
  exact (isWritable_mark _ (mem_marks listed)).1 isMark.symm

theorem masks_substitute (listed : pattern ∈ patterns) (cs : List Char) :
    pattern.Masks cs (substitute pattern.match? cs) := by
  -- On the length: behind a match the rest of the text is shorter.
  induction long : cs.length using Nat.strong_induction_on generalizing cs with
  | _ n ih =>
    cases cs with
    | nil =>
      rw [substitute_nil]
      exact .nil
    | cons c cs =>
      cases matched : pattern.match? (c :: cs) with
      | none =>
        rw [substitute_of_none matched]
        exact .copy matched (ih cs.length (by simp [← long]) cs rfl)
      | some found =>
        obtain ⟨kept, hidden, rest, text, finds⟩ :=
          (isSteady pattern listed).finds _ found matched
        have more := finds.opens.ne_nil listed
        rw [text, substitute_of_some more finds.found]
        refine .hide finds (ih rest.length ?_ rest rfl)
        have := List.length_pos_of_ne_nil more
        rw [← long, text, List.length_append, List.length_append]
        omega

theorem Pattern.Masks.eq (listed : pattern ∈ patterns) (masks : pattern.Masks cs out) :
    out = substitute pattern.match? cs := by
  induction masks with
  | nil => exact substitute_nil.symm
  | copy missed rest ih => rw [substitute_of_none missed, ih]
  | hide finds later ih =>
    rw [substitute_of_some (finds.opens.ne_nil listed) finds.found, ih]

theorem Pattern.Masks.split (listed : pattern ∈ patterns)
    (bare : ∀ before back, front = before ++ back → back ≠ [] → ¬ pattern.Starts (back ++ rest))
    (masks : pattern.Masks (front ++ rest) out) :
    ∃ later, out = front ++ later ∧ pattern.Masks rest later := by
  have copied : substitute pattern.match? (front ++ rest) =
      front ++ substitute pattern.match? rest := by
    apply substitute_append_of_none
    intro before back split more
    cases matched : pattern.match? (back ++ rest) with
    | none => rfl
    | some found => exact absurd (starts_of_match? listed matched) (bare before back split more)
  exact ⟨_, (masks.eq listed).trans copied, masks_substitute listed rest⟩

theorem Pattern.Masks.blanks (listed : pattern ∈ patterns)
    (blank : ∀ c ∈ front, isBlank c = true) (masks : pattern.Masks (front ++ rest) out) :
    ∃ later, out = front ++ later ∧ pattern.Masks rest later := by
  refine masks.split listed ?_
  intro before back split more
  obtain ⟨c, tail, rfl⟩ := List.exists_cons_of_ne_nil more
  exact not_starts_blank listed (blank c (by simp [split])) _

theorem Pattern.Masks.masked (listed : pattern ∈ patterns)
    (masks : pattern.Masks (mask ++ rest) out) :
    ∃ later, out = mask ++ later ∧ pattern.Masks rest later :=
  masks.split listed fun _ _ split more => not_starts_mask listed split more rest

theorem Pattern.Masks.head? (listed : pattern ∈ patterns) (masks : pattern.Masks cs out) :
    out.head? = cs.head? := by
  cases masks with
  | nil => rfl
  | copy missed rest => rfl
  | hide finds later =>
    obtain ⟨c, tail, rfl⟩ := List.exists_cons_of_ne_nil (finds.opens.ne_nil listed)
    rfl

theorem Pattern.Masks.alike (listed : pattern ∈ patterns) (masks : pattern.Masks cs out) :
    Alike cs out := by
  obtain ⟨blanks, body, rfl, blank, ends⟩ := exists_run isBlank cs
  obtain ⟨later, rfl, rest⟩ := masks.blanks listed blank
  exact ⟨blanks, body, later, rfl, rfl, blank, ends, rest.head? listed⟩

theorem exists_of_append_mask {word tail : List Char}
    (split : front ++ (mask ++ rest) = word ++ tail)
    (bare : '*' ∉ word) : ∃ more, front = word ++ more := by
  rcases List.append_eq_append_iff.mp split with ⟨inMask, rfl, masked⟩ | ⟨more, rfl, -⟩
  · cases inMask with
    | nil => exact ⟨[], by simp⟩
    | cons c inMask =>
      have star : c = '*' := (List.cons.inj masked).1.symm
      exact absurd (by simp [star]) bare
  · exact ⟨more, rfl⟩

/-- What is shown in front of the first mask was there before. -/
theorem Pattern.Masks.exists_front {word tail : List Char} (masks : pattern.Masks cs out)
    (split : out = word ++ tail) (bare : '*' ∉ word) : ∃ rest, cs = word ++ rest := by
  induction masks generalizing word with
  | nil =>
    obtain ⟨rfl, -⟩ := List.append_eq_nil_iff.mp split.symm
    exact ⟨[], rfl⟩
  | @copy c cs out missed rest ih =>
    cases word with
    | nil => exact ⟨c :: cs, rfl⟩
    | cons d word =>
      obtain ⟨same, shown⟩ := List.cons.inj split
      have bare : '*' ∉ word := fun member => bare (List.mem_cons_of_mem _ member)
      obtain ⟨hidden, before⟩ := ih shown bare
      exact ⟨hidden, by rw [before, same, List.cons_append]⟩
  | @hide kept hidden rest out finds later ih =>
    obtain ⟨more, rfl⟩ := exists_of_append_mask split bare
    exact ⟨more ++ (hidden ++ rest), by simp⟩

end Masks

/-! ## Settled texts -/

/-- Whatever is found in the text, the mask is what it hides. -/
def Pattern.IsSettled (pattern : Pattern) (cs : List Char) : Prop :=
  ∀ front kept hidden rest, cs = front ++ (kept ++ (hidden ++ rest)) →
    pattern.Finds kept hidden rest → hidden = mask

section Settled

variable {pattern other : Pattern} {cs out front rest : List Char}

theorem Pattern.IsSettled.tail (front : List Char)
    (settled : pattern.IsSettled (front ++ rest)) : pattern.IsSettled rest := by
  intro before kept hidden later split finds
  exact settled (front ++ before) kept hidden later (by rw [split, List.append_assoc]) finds

theorem Pattern.IsSettled.masks_self (masks : pattern.Masks cs out)
    (settled : pattern.IsSettled cs) : out = cs := by
  induction masks with
  | nil => rfl
  | @copy c cs out missed rest ih => rw [ih (settled.tail [c])]
  | @hide kept hidden rest out finds later ih =>
    have same : hidden = mask := settled [] kept hidden rest rfl finds
    rw [← List.append_assoc] at settled
    rw [ih (settled.tail _), same]

theorem Pattern.IsSettled.substitute_eq (listed : pattern ∈ patterns)
    (settled : pattern.IsSettled cs) : substitute pattern.match? cs = cs :=
  settled.masks_self (masks_substitute listed cs)

theorem starts_append {word : List Char} (isMark : folded word = folded pattern.mark)
    (rest : List Char) : pattern.Starts (word ++ rest) := by
  rw [Pattern.Starts, folded_append, isMark]
  exact List.prefix_append ..

theorem Pattern.Opens.starts {kept : List Char} (opens : pattern.Opens kept) (rest : List Char) :
    pattern.Starts (kept ++ rest) := by
  obtain ⟨word, blanks, rfl, isMark, -⟩ := opens
  rw [List.append_assoc]
  exact starts_append isMark _

theorem Pattern.Opens.eq_of_starts (listed : pattern ∈ patterns) (known : other ∈ patterns)
    {kept back : List Char} (opens : other.Opens kept) (split : kept = front ++ back)
    (more : back ≠ []) (starts : pattern.Starts (back ++ rest)) : pattern = other ∧ front = [] := by
  obtain ⟨word, blanks, rfl, isMark, blank⟩ := opens
  rcases List.append_eq_append_iff.mp split with ⟨before, rfl, rfl⟩ | ⟨inside, rfl, rfl⟩
  · obtain ⟨c, tail, rfl⟩ := List.exists_cons_of_ne_nil more
    exact absurd starts (not_starts_blank listed (blank c (by simp)) _)
  · cases inside with
    | nil =>
      obtain ⟨c, tail, rfl⟩ := List.exists_cons_of_ne_nil more
      exact absurd starts (not_starts_blank listed (blank c (by simp)) _)
    | cons c inside =>
      rw [List.append_assoc] at starts
      exact starts_in_mark listed known isMark rfl (List.cons_ne_nil c inside) starts

/-- A match hides the same, however the text is divided. -/
theorem hidden_unique {match? : List Char → Option Match}
    {kept hidden later kept' hidden' : List Char}
    (text : kept ++ (hidden ++ rest) = kept' ++ (hidden' ++ later))
    (found : match? (kept ++ (hidden ++ rest)) = some ⟨kept.length, hidden.length⟩)
    (found' : match? (kept' ++ (hidden' ++ later)) = some ⟨kept'.length, hidden'.length⟩) :
    hidden = hidden' := by
  rw [text, found'] at found
  obtain ⟨keptLong, hiddenLong⟩ := Match.mk.inj (Option.some.inj found)
  have behind := (List.append_inj text keptLong.symm).2
  exact (List.append_inj behind hiddenLong.symm).1

/-- A match at a character that is copied was there before, and so it hides the mask. -/
theorem Pattern.Finds.copied (listed : pattern ∈ patterns) (known : other ∈ patterns) {c : Char}
    (missed : other.match? (c :: cs) = none) (masks : other.Masks cs out)
    (earlier : pattern = other ∨ pattern.IsSettled (c :: cs)) {kept hidden : List Char}
    (text : c :: out = kept ++ (hidden ++ rest)) (finds : pattern.Finds kept hidden rest) :
    hidden = mask := by
  obtain ⟨word, blanks, rfl, isMark, -⟩ := finds.opens
  have bare := star_not_mem listed isMark
  cases word with
  | nil => exact absurd isMark.symm (isWritable_mark _ (mem_marks listed)).1
  | cons d word =>
    have whole := text
    rw [List.append_assoc, List.cons_append] at whole
    obtain ⟨rfl, shown⟩ := List.cons.inj whole
    obtain ⟨before, rfl⟩ :=
      masks.exists_front shown fun member => bare (List.mem_cons_of_mem _ member)
    -- Nothing is found inside the word, so that it is copied whole.
    obtain ⟨later, rfl, behind⟩ := masks.split known (by
      intro front back split more starts
      have within : c :: word = (c :: front) ++ back := by rw [split, List.cons_append]
      have apart := starts_in_mark known listed isMark within more starts
      exact List.cons_ne_nil _ _ apart.2)
    have steady := isSteady pattern listed
    cases matched : pattern.match? (c :: word ++ before) with
    | none =>
      have none := steady.misses _ _ _ isMark (behind.alike known) matched
      rw [List.cons_append, text, finds.found] at none
      cases none
    | some found =>
      rcases earlier with rfl | settled
      · rw [List.cons_append, missed] at matched
        cases matched
      · obtain ⟨kept, hidden', last, split, again⟩ := steady.finds _ _ matched
        obtain rfl : hidden' = mask := settled [] kept hidden' last split again
        obtain ⟨word', blanks', rfl, isMark', blank'⟩ := again.opens
        have long : (c :: word).length = word'.length := by
          simpa [folded] using congrArg List.length (isMark.trans isMark'.symm)
        rw [List.append_assoc] at split
        obtain ⟨rfl, rfl⟩ := List.append_inj split long
        obtain ⟨_, rfl, fromMask⟩ := behind.blanks known blank'
        obtain ⟨final, rfl, atEnd⟩ := fromMask.masked known
        have found' := again.again final (atEnd.head? known)
        refine hidden_unique (text.symm.trans ?_) finds.found found'
        rw [List.append_assoc, List.cons_append]

/-- A substitution settles the text for its own pattern, and unsettles it for no other. -/
theorem Pattern.Masks.settles (listed : pattern ∈ patterns) (known : other ∈ patterns)
    (masks : other.Masks cs out) (earlier : pattern = other ∨ pattern.IsSettled cs) :
    pattern.IsSettled out := by
  intro front kept hidden tail text finds
  have starts := finds.opens.starts (hidden ++ tail)
  induction masks generalizing front with
  | nil =>
    obtain ⟨-, none⟩ := List.append_eq_nil_iff.mp text.symm
    rw [none] at starts
    exact absurd starts (not_starts_nil listed)
  | @copy c cs out missed rest ih =>
    cases front with
    | nil => exact finds.copied listed known missed rest earlier text
    | cons d front =>
      exact ih (earlier.imp_right fun settled => settled.tail [c]) front
        (List.cons.inj text).2
  | @hide opened covered rest out found later ih =>
    have settledRest : pattern = other ∨ pattern.IsSettled rest := by
      refine earlier.imp_right fun settled => ?_
      rw [← List.append_assoc] at settled
      exact settled.tail _
    have inMask (before back : List Char) (split : mask = before ++ back)
        (same : back ++ out = kept ++ (hidden ++ tail)) : hidden = mask := by
      cases back with
      | nil => exact ih settledRest [] same
      | cons c back =>
        rw [← same] at starts
        exact absurd starts (not_starts_mask listed split (List.cons_ne_nil c back) out)
    rcases List.append_eq_append_iff.mp text with ⟨more, rfl, behind⟩ | ⟨more, rfl, within⟩
    · rcases List.append_eq_append_iff.mp behind with ⟨more, rfl, after⟩ | ⟨back, split, same⟩
      · exact ih settledRest more after
      · exact inMask more back split same.symm
    · by_cases none : more = []
      · exact inMask [] mask rfl (by rw [within, none]; rfl)
      · -- What is found here opens where the other pattern's match opened, so it is that match.
        rw [within] at starts
        obtain ⟨rfl, rfl⟩ := found.opens.eq_of_starts listed known rfl none starts
        exact hidden_unique within finds.found (found.again out (later.head? known))

end Settled

/-! ## All patterns -/

theorem settled_foldl {pattern : Pattern} (listed : pattern ∈ patterns) (later : List Pattern)
    (known : ∀ other ∈ later, other ∈ patterns) (cs : List Char)
    (earlier : pattern ∈ later ∨ pattern.IsSettled cs) :
    pattern.IsSettled (later.foldl (fun cs pattern => substitute pattern.match? cs) cs) := by
  induction later generalizing cs with
  | nil => exact earlier.resolve_left List.not_mem_nil
  | cons other later ih =>
    obtain ⟨first, known⟩ := List.forall_mem_cons.mp known
    have masks := masks_substitute first cs
    apply ih known
    rcases earlier with member | settled
    · rcases List.mem_cons.mp member with same | member
      · exact .inr (masks.settles listed first (.inl same))
      · exact .inl member
    · exact .inr (masks.settles listed first (.inr settled))

theorem foldl_of_settled {later : List Pattern} (known : ∀ pattern ∈ later, pattern ∈ patterns)
    {cs : List Char} (settled : ∀ pattern ∈ later, pattern.IsSettled cs) :
    later.foldl (fun cs pattern => substitute pattern.match? cs) cs = cs := by
  induction later with
  | nil => rfl
  | cons pattern later ih =>
    obtain ⟨first, known⟩ := List.forall_mem_cons.mp known
    obtain ⟨own, settled⟩ := List.forall_mem_cons.mp settled
    rw [List.foldl_cons, own.substitute_eq first]
    exact ih known settled

theorem settled_redactChars (cs : List Char) :
    ∀ pattern ∈ patterns, pattern.IsSettled (redactChars cs) := by
  intro pattern listed
  rw [redactChars_eq_foldl]
  exact settled_foldl listed patterns (fun _ => id) cs (.inl listed)

theorem redact_redact (text : String) : redact (redact text) = redact text := by
  have same := foldl_of_settled (fun _ => id) (settled_redactChars text.toList)
  rw [← redactChars_eq_foldl] at same
  simp only [redact, String.toList_ofList, same]

/-- Redaction is idempotent: what has been redacted, whatever marks and separators it holds, comes
out the same when it is redacted again.  So a record is the same after one handler and after more,
and a message that was redacted at its source is left as it is by all of them. -/
theorem redaction_is_idempotent :
    (∀ text, redact (redact text) = redact text) ∧
    ∀ record : Logging.LogRecord, record.redactMessage.redactMessage = record.redactMessage ∧
      ∀ text, { record with message := .text (redact text) }.redactMessage =
        { record with message := .text (redact text) } := by
  refine ⟨redact_redact, fun record => ⟨?_, fun text => ?_⟩⟩
  · obtain ⟨logger, level, message, arguments, created, exception, context⟩ := record
    cases message with
    | text text => simp only [Logging.LogRecord.redactMessage, redact_redact]
    | _ => rfl
  · simp only [Logging.LogRecord.redactMessage, redact_redact]

end StagedTables.Redaction
