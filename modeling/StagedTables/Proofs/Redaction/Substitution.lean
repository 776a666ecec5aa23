import Mathlib.Data.Bool.AllAny
import Mathlib.Data.List.Infix
import StagedTables.Proofs.Numeral
import StagedTables.Redaction

/-! # Substitution

How the substitutions of redaction go through a text.  A mark is a word that ends at its only equals
sign, so that no mark overlaps another.  Substitution copies what has no match and masks a value
after a mark. -/
set_option autoImplicit false
namespace StagedTables.Redaction

open Text
open Numeral (EndsRun takeWhile_append_of_endsRun)

/-! ## Letter case -/

def folded (cs : List Char) : List Char := cs.map fold

theorem folded_append (cs ds : List Char) : folded (cs ++ ds) = folded cs ++ folded ds :=
  List.map_append

theorem startsWith_iff {mark cs : List Char} :
    startsWith mark cs = true ↔ folded mark <+: folded cs := by
  rw [startsWith, beq_iff_eq, List.prefix_iff_eq_take, folded, folded, List.length_map,
    List.map_take]
  exact eq_comm

theorem fold_cases (c : Char) :
    fold c = c ∨ ('A' ≤ c ∧ c ≤ 'Z') ∨ c ∈ ['\u212A', '\u017F', '\u0130', '\u0131'] := by
  by_cases special : c ∈ ['\u212A', '\u017F', '\u0130', '\u0131']
  · exact .inr (.inr special)
  · by_cases capital : 'A' ≤ c ∧ c ≤ 'Z'
    · exact .inr (.inl capital)
    · left
      simp only [List.mem_cons, List.not_mem_nil, or_false, not_or] at special
      obtain ⟨notKelvin, notLong, notDotted, notDotless⟩ := special
      have small : ¬ ('A' ≤ c && c ≤ 'Z') = true := by simpa using capital
      rw [fold, if_neg notKelvin, if_neg notLong, if_neg (not_or.mpr ⟨notDotted, notDotless⟩),
        asciiLower, if_neg small]

theorem fold_of_separates {c : Char} (separates : c = ';' ∨ c = '&' ∨ isBlank c = true) :
    fold c = c := by
  rcases fold_cases c with same | capital | special
  · exact same
  · have ascii : c.toNat < 128 := (Numeral.toNat_le capital.2).trans_lt (by decide)
    have letter := Numeral.forall_ascii (p := fun c => 'A' ≤ c ∧ c ≤ 'Z' →
      ¬ (c = ';' ∨ c = '&' ∨ isBlank c = true)) (by decide +kernel) ascii capital
    exact absurd separates letter
  · have letter : ∀ d ∈ ['\u212A', '\u017F', '\u0130', '\u0131'],
        ¬ (d = ';' ∨ d = '&' ∨ isBlank d = true) :=
      List.all_iff_forall_prop.mp (by decide +kernel)
    exact absurd separates (letter c special)

theorem exists_split_of_folded {mark cs : List Char} (starts : folded mark <+: folded cs) :
    ∃ front back, cs = front ++ back ∧ folded front = folded mark := by
  obtain ⟨rest, same⟩ := starts
  obtain ⟨front, back, rfl, isMark, -⟩ := List.map_eq_append_iff.mp same.symm
  exact ⟨front, back, rfl, isMark⟩

/-! ## Marks -/

/-- A word that ends at its only equals sign. -/
def IsMark (word : List Char) : Prop := ∃ name, word = name ++ ['='] ∧ '=' ∉ name

namespace IsMark

variable {first second before after : List Char}

theorem ne_nil (mark : IsMark first) : first ≠ [] := by
  obtain ⟨name, rfl, -⟩ := mark
  simp

theorem of_append (mark : IsMark (before ++ after)) (more : after ≠ []) : IsMark after := by
  obtain ⟨name, same, bare⟩ := mark
  obtain ⟨rest, c, rfl⟩ : ∃ rest c, after = rest ++ [c] :=
    ⟨_, _, (List.dropLast_append_getLast more).symm⟩
  rw [← List.append_assoc] at same
  obtain ⟨rfl, last⟩ := List.append_inj' same rfl
  refine ⟨rest, by rw [last], ?_⟩
  intro member
  exact bare (List.mem_append_right before member)

theorem eq_of_begins (mark : IsMark first) (other : IsMark second) (starts : first <+: second) :
    first = second := by
  obtain ⟨name, rfl, -⟩ := mark
  obtain ⟨whole, rfl, bare⟩ := other
  rcases List.prefix_concat_iff.mp starts with same | shorter
  · exact same
  · apply absurd _ bare
    apply shorter.subset
    simp

theorem eq_of_begins_append (mark : IsMark first) (other : IsMark second)
    (starts : first <+: second ++ after) : first = second := by
  rcases List.prefix_or_prefix_of_prefix starts (List.prefix_append second after) with le | le
  · exact mark.eq_of_begins other le
  · exact (other.eq_of_begins mark le).symm

theorem prefix_or_eq (mark : IsMark first) (other : IsMark second)
    (starts : first <+: before ++ (second ++ after)) :
    first <+: before ∨ first = before ++ second := by
  rcases List.prefix_or_prefix_of_prefix starts (List.prefix_append before _) with le | le
  · exact .inl le
  · obtain ⟨rest, rfl⟩ := le
    by_cases more : rest = []
    · subst more
      exact .inl (by simp)
    · have starts : rest <+: second ++ after := (List.prefix_append_right_inj before).mp starts
      right
      rw [(mark.of_append more).eq_of_begins_append other starts]

end IsMark

/-! ## Rules -/

def valueRules : List ValueRule := [accountKeyRule, sharedSignatureRule, signatureRule]

theorem redactChars_eq (cs : List Char) :
    redactChars cs = substitute headerMatch?
      (valueRules.foldl (fun cs rule => substitute rule.match? cs) cs) := rfl

section Rule

variable {rule other : ValueRule} {word : List Char}

theorem forall_valueRules {p : ValueRule → Prop} (accountKey : p accountKeyRule)
    (sharedSignature : p sharedSignatureRule) (signature : p signatureRule) :
    ∀ rule ∈ valueRules, p rule := by
  intro rule listed
  simp only [valueRules, List.mem_cons, List.not_mem_nil, or_false] at listed
  rcases listed with rfl | rfl | rfl
  · exact accountKey
  · exact sharedSignature
  · exact signature

theorem isMark_mark : ∀ rule ∈ valueRules, IsMark (folded rule.mark) :=
  forall_valueRules ⟨"accountkey".toList, by decide, by decide⟩
    ⟨"sharedaccesssignature".toList, by decide, by decide⟩ ⟨"sig".toList, by decide, by decide⟩

theorem IsMark.of_folded (known : other ∈ valueRules) (isMark : folded word = folded other.mark) :
    IsMark (folded word) := by
  rw [isMark]
  exact isMark_mark other known

theorem mark_apart : ∀ rule ∈ valueRules, ∀ other ∈ valueRules,
    folded rule.mark <:+ folded other.mark → folded rule.mark = folded other.mark := by
  refine forall_valueRules (p := fun rule => ∀ other ∈ valueRules,
    folded rule.mark <:+ folded other.mark → folded rule.mark = folded other.mark) ?_ ?_ ?_
  · exact forall_valueRules (by decide) (by decide) (by decide)
  · exact forall_valueRules (by decide) (by decide) (by decide)
  · exact forall_valueRules (by decide) (by decide) (by decide)

theorem isSeparator_cases : ∀ rule ∈ valueRules, ∀ c, rule.isSeparator c = true →
    c = ';' ∨ c = '&' := by
  refine forall_valueRules (p := fun rule => ∀ c, rule.isSeparator c = true → c = ';' ∨ c = '&')
    ?_ ?_ ?_
  · intro c separates
    have same : (c == ';') = true := separates
    exact .inl (beq_iff_eq.mp same)
  · intro c separates
    have same : (c == ';' || c == '&') = true := separates
    rwa [Bool.or_eq_true, beq_iff_eq, beq_iff_eq] at same
  · intro c separates
    have same : (c == ';' || c == '&') = true := separates
    rwa [Bool.or_eq_true, beq_iff_eq, beq_iff_eq] at same

theorem isSeparator_of_mem_mark (listed : rule ∈ valueRules) (known : other ∈ valueRules)
    (isMark : folded word = folded other.mark) : ∀ c ∈ word, rule.isSeparator c = false := by
  intro c member
  by_contra separates
  have inside : fold c ∈ folded other.mark := by
    rw [← isMark]
    exact List.mem_map_of_mem member
  have absent : ∀ other ∈ valueRules, fold ';' ∉ folded other.mark ∧ fold '&' ∉ folded other.mark :=
    forall_valueRules (by decide) (by decide) (by decide)
  rcases isSeparator_cases rule listed c (by simpa using separates) with rfl | rfl
  · exact (absent other known).1 inside
  · exact (absent other known).2 inside

theorem match?_eq_none {cs : List Char} (unmarked : ¬ folded rule.mark <+: folded cs) :
    rule.match? cs = none := by
  rw [ValueRule.match?, if_neg]
  rwa [startsWith_iff]

theorem match?_mark (isMark : folded word = folded rule.mark) {value rest : List Char}
    (inside : ∀ c ∈ value, rule.isSeparator c = false)
    (ends : EndsRun (!rule.isSeparator ·) rest) :
    rule.match? (word ++ (value ++ rest)) =
      if value.isEmpty then none else some ⟨word.length, value.length⟩ := by
  have starts : startsWith rule.mark (word ++ (value ++ rest)) = true := by
    rw [startsWith_iff, folded_append, isMark]
    exact List.prefix_append ..
  have long : rule.mark.length = word.length := by
    simpa [folded] using (congrArg List.length isMark).symm
  have run : (value ++ rest).takeWhile (!rule.isSeparator ·) = value :=
    takeWhile_append_of_endsRun (by simpa using inside) ends
  rw [ValueRule.match?, if_pos starts, long, List.drop_left, run]

end Rule

/-! ## Substitution -/

section Substitute

variable {match? : List Char → Option Match} {c : Char} {cs rest : List Char}

theorem substitute_nil : substitute match? [] = [] := by rw [substitute]

theorem substitute_of_none (missed : match? (c :: cs) = none) :
    substitute match? (c :: cs) = c :: substitute match? cs := by
  rw [substitute, missed]

theorem substitute_of_some {kept hidden : List Char} (more : kept ≠ [])
    (found : match? (kept ++ (hidden ++ rest)) = some ⟨kept.length, hidden.length⟩) :
    substitute match? (kept ++ (hidden ++ rest)) = kept ++ (mask ++ substitute match? rest) := by
  obtain ⟨c, kept, rfl⟩ := List.exists_cons_of_ne_nil more
  have skipped : (c :: kept).length + hidden.length - 1 = (kept ++ hidden).length := by
    simp
  rw [List.cons_append] at found ⊢
  rw [substitute, found]
  simp only
  rw [skipped, ← List.append_assoc kept, List.drop_left, List.append_assoc kept,
    ← List.cons_append, List.take_left, List.append_assoc]

theorem substitute_append_of_none
    (missed : ∀ front back, cs = front ++ back → back ≠ [] → match? (back ++ rest) = none) :
    substitute match? (cs ++ rest) = cs ++ substitute match? rest := by
  induction cs with
  | nil => rfl
  | cons c cs ih =>
    have later := ih fun front back same =>
      missed (c :: front) back (by rw [same, List.cons_append])
    have missed : match? (c :: (cs ++ rest)) = none :=
      missed [] (c :: cs) rfl (List.cons_ne_nil c cs)
    rw [List.cons_append, substitute_of_none missed, later, List.cons_append]

end Substitute

theorem substitute_value {rule : ValueRule} (listed : rule ∈ valueRules) {word : List Char}
    (isMark : folded word = folded rule.mark) {value rest : List Char} (more : value ≠ [])
    (inside : ∀ c ∈ value, rule.isSeparator c = false)
    (ends : EndsRun (!rule.isSeparator ·) rest) :
    substitute rule.match? (word ++ (value ++ rest)) =
      word ++ (mask ++ substitute rule.match? rest) := by
  apply substitute_of_some
  · rintro rfl
    exact (IsMark.of_folded listed isMark).ne_nil rfl
  · rw [match?_mark isMark inside ends, if_neg (by simpa using more)]

end StagedTables.Redaction
