import StagedTables.Proofs.Filter.Lookahead
import StagedTables.Proofs.Identifier

/-! # Readers and letter case

Two texts have the same letters when they differ in the case of letters of ASCII alone.  What cuts
a text into parts does not see the difference: it cuts such texts at the same places.  Nor does
what reads doubles, hexadecimal bytes and, by their shape, identifiers. -/
set_option autoImplicit false
namespace StagedTables

open Text

/-! ## Texts with the same letters -/

/-- The texts differ in the case of letters of ASCII alone. -/
def SameLetters (cs cs' : List Char) : Prop := cs'.map asciiLower = cs.map asciiLower

namespace SameLetters

variable {cs cs' : List Char}

theorem symm (same : SameLetters cs cs') : SameLetters cs' cs := Eq.symm same

theorem length (same : SameLetters cs cs') : cs'.length = cs.length := by
  simpa using congrArg List.length same

theorem take (same : SameLetters cs cs') (n : Nat) : SameLetters (cs.take n) (cs'.take n) := by
  unfold SameLetters at *
  rw [List.map_take, List.map_take, same]

theorem drop (same : SameLetters cs cs') (n : Nat) : SameLetters (cs.drop n) (cs'.drop n) := by
  unfold SameLetters at *
  rw [List.map_drop, List.map_drop, same]

theorem nil (same : SameLetters [] cs') : cs' = [] := List.map_eq_nil_iff.mp same

theorem cons {c : Char} (same : SameLetters (c :: cs) cs') :
    ∃ d ds, cs' = d :: ds ∧ asciiLower d = asciiLower c ∧ SameLetters cs ds := by
  obtain ⟨d, ds, rfl, first, rest⟩ := List.map_eq_cons_iff.mp same
  exact ⟨d, ds, rfl, first, rest⟩

theorem congr {α : Type} {f : List Char → α} (blind : ∀ cs, f (cs.map asciiLower) = f cs)
    (same : SameLetters cs cs') : f cs' = f cs := by
  rw [← blind cs', same, blind cs]

theorem takeWhile {p : Char → Bool} (blind : ∀ c, p (asciiLower c) = p c)
    (same : SameLetters cs cs') : SameLetters (cs.takeWhile p) (cs'.takeWhile p) := by
  have unchanged : p ∘ asciiLower = p := funext blind
  have cut := congrArg (List.takeWhile p) same
  rwa [List.takeWhile_map, List.takeWhile_map, unchanged] at cut

theorem dropWhile {p : Char → Bool} (blind : ∀ c, p (asciiLower c) = p c)
    (same : SameLetters cs cs') : SameLetters (cs.dropWhile p) (cs'.dropWhile p) := by
  have unchanged : p ∘ asciiLower = p := funext blind
  have cut := congrArg (List.dropWhile p) same
  rwa [List.dropWhile_map, List.dropWhile_map, unchanged] at cut

theorem endsRun {p : Char → Bool} (blind : ∀ c, p (asciiLower c) = p c)
    (same : SameLetters cs cs') (ends : Numeral.EndsRun p cs) : Numeral.EndsRun p cs' := by
  intro d head
  cases cs with
  | nil => simp [same.nil] at head
  | cons c cs =>
    obtain ⟨_, _, rfl, first, -⟩ := same.cons
    cases head
    rw [← blind, first, blind]
    exact ends c rfl

theorem head?_eq_iff {d : Char} (notLetter : isAsciiLetter d = false)
    (same : SameLetters cs cs') : cs'.head? = some d ↔ cs.head? = some d := by
  cases cs with
  | nil => rw [same.nil]
  | cons c cs =>
    obtain ⟨_, _, rfl, first, -⟩ := same.cons
    rw [List.head?_cons, List.head?_cons, Option.some_inj, Option.some_inj,
      ← asciiLower_eq_iff notLetter, first, asciiLower_eq_iff notLetter]

end SameLetters

/-! ## Characters -/

namespace Filter

theorem isSpace_asciiLower (c : Char) : isSpace (asciiLower c) = isSpace c :=
  forall_asciiLower (p := fun c d => isSpace d = isSpace c) (by decide) (fun _ => rfl) c

theorem isWordPart_asciiLower (c : Char) : isWordPart (asciiLower c) = isWordPart c :=
  forall_asciiLower (p := fun c d => isWordPart d = isWordPart c) (by decide) (fun _ => rfl) c

theorem isWordStart_asciiLower (c : Char) : isWordStart (asciiLower c) = isWordStart c :=
  forall_asciiLower (p := fun c d => isWordStart d = isWordStart c) (by decide) (fun _ => rfl) c

theorem isDigit_asciiLower (c : Char) : isDigit (asciiLower c) = isDigit c :=
  forall_asciiLower (p := fun c d => isDigit d = isDigit c) (by decide) (fun _ => rfl) c

theorem isSign_asciiLower (c : Char) : isSign (asciiLower c) = isSign c :=
  forall_asciiLower (p := fun c d => isSign d = isSign c) (by decide) (fun _ => rfl) c

theorem isHexDigit_asciiLower (c : Char) : isHexDigit (asciiLower c) = isHexDigit c :=
  forall_asciiLower (p := fun c d => isHexDigit d = isHexDigit c) (by decide) (fun _ => rfl) c

end Filter

/-! ## Doubles -/

namespace Numeral

theorem isAsciiDigit_asciiLower (c : Char) : isAsciiDigit (asciiLower c) = isAsciiDigit c :=
  forall_asciiLower (p := fun c d => isAsciiDigit d = isAsciiDigit c) (by decide) (fun _ => rfl) c

theorem map_asciiLower_of_digits {cs : List Char} (digits : ∀ c ∈ cs, isAsciiDigit c = true) :
    cs.map asciiLower = cs := by
  refine (List.map_congr_left fun c member => ?_).trans (List.map_id cs)
  have plain : ∀ n : Fin 128, isAsciiDigit (Char.ofNat n) = true →
      asciiLower (Char.ofNat n) = Char.ofNat n := by decide
  by_cases ascii : c.toNat < 128
  · exact forall_ascii (p := fun c => isAsciiDigit c = true → asciiLower c = c) plain ascii
      (digits c member)
  · exact asciiLower_of_beyond ascii

theorem dropUnderscores?_cons {c : Char} (other : c ≠ '_') (previous : Option Char)
    (rest : List Char) :
    dropUnderscores? previous (c :: rest) = (dropUnderscores? (some c) rest).map (c :: ·) := by
  rw [dropUnderscores?]
  · simp [other]
  · exact fun _ _ underscore => absurd underscore other

theorem dropUnderscores?_map_asciiLower (previous : Option Char) (cs : List Char) :
    dropUnderscores? (previous.map asciiLower) (cs.map asciiLower) =
      (dropUnderscores? previous cs).map (List.map asciiLower) := by
  have underscore : asciiLower '_' = '_' := by decide
  have notUnderscore {c : Char} : asciiLower c = '_' ↔ c = '_' := asciiLower_eq_iff (by decide)
  fun_induction dropUnderscores? previous cs with
  | case1 => rfl
  | case2 previous next rest between ih =>
    simp only [List.map_cons, underscore, dropUnderscores?, Option.any_map, isAsciiDigit_asciiLower,
      between, if_true]
    rw [Option.map_some] at ih
    rw [ih, Option.map_map, Option.map_map]
    rfl
  | case3 previous next rest apart =>
    simp only [List.map_cons, underscore, dropUnderscores?, Option.any_map, isAsciiDigit_asciiLower]
    rw [if_neg apart, Option.map_none]
  | case4 previous c rest single isUnderscore =>
    obtain rfl := beq_iff_eq.mp isUnderscore
    cases rest with
    | nil => rfl
    | cons next rest => exact absurd rfl (single next rest rfl)
  | case5 previous c rest _ other ih =>
    have other : c ≠ '_' := by simpa using other
    rw [Option.map_some] at ih
    rw [List.map_cons, dropUnderscores?_cons (mt notUnderscore.mp other), ih, Option.map_map,
      Option.map_map]
    rfl

theorem exponent?_map_asciiLower (cs : List Char) :
    exponent? (cs.map asciiLower) = exponent? cs := by
  cases cs with
  | nil => rfl
  | cons mark rest =>
    have marked :
        (asciiLower mark == 'e' || asciiLower mark == 'E') = (mark == 'e' || mark == 'E') :=
      forall_asciiLower (p := fun c d => (d == 'e' || d == 'E') = (c == 'e' || c == 'E'))
        (by decide) (fun _ => rfl) mark
    have digits : isAsciiDigit ∘ asciiLower = isAsciiDigit := funext isAsciiDigit_asciiLower
    simp only [List.map_cons, exponent?, marked, splitSign_map_asciiLower, List.isEmpty_map,
      List.all_map, digits]
    split
    · split
      · rfl
      · next number =>
        simp only [Bool.or_eq_true, Bool.not_eq_true', not_or, Bool.not_eq_false] at number
        rw [map_asciiLower_of_digits (List.all_eq_true.mp number.2)]
    · rfl

theorem digits_map_asciiLower (cs : List Char) :
    (cs.map asciiLower).takeWhile isAsciiDigit = cs.takeWhile isAsciiDigit ∧
      (cs.map asciiLower).dropWhile isAsciiDigit = (cs.dropWhile isAsciiDigit).map asciiLower := by
  have unchanged : isAsciiDigit ∘ asciiLower = isAsciiDigit := funext isAsciiDigit_asciiLower
  constructor
  · rw [List.takeWhile_map, unchanged]
    exact map_asciiLower_of_digits fun c => List.mem_takeWhile_imp
  · rw [List.dropWhile_map, unchanged]

theorem decimal?_of_unpointed {cs rest : List Char} {mark : Char}
    (after : cs.dropWhile isAsciiDigit = mark :: rest) (unpointed : mark ≠ '.') (negative : Bool) :
    decimal? negative cs =
      if (cs.takeWhile isAsciiDigit).isEmpty then none
      else (exponent? (mark :: rest)).map
        (Double.ofDecimal negative (Nat.ofDigitChars 10 (cs.takeWhile isAsciiDigit) 0)) := by
  simp only [decimal?, after]
  split
  · next shape => exact absurd (List.cons.inj shape).1 unpointed
  · simp

theorem decimal?_map_asciiLower (negative : Bool) (cs : List Char) :
    decimal? negative (cs.map asciiLower) = decimal? negative cs := by
  obtain ⟨whole, after⟩ := digits_map_asciiLower cs
  cases shape : cs.dropWhile isAsciiDigit with
  | nil =>
    rw [shape] at after
    simp only [decimal?, whole, after, shape, List.map_nil]
  | cons mark rest =>
    rw [shape, List.map_cons] at after
    by_cases pointed : mark = '.'
    · have point : asciiLower '.' = '.' := by decide
      obtain ⟨fraction, afterFraction⟩ := digits_map_asciiLower rest
      rw [pointed] at shape after
      simp only [decimal?, whole, after, shape, point, fraction, afterFraction,
        exponent?_map_asciiLower]
    · have lowered : asciiLower mark ≠ '.' := mt (asciiLower_eq_iff (by decide)).mp pointed
      have same := exponent?_map_asciiLower (mark :: rest)
      rw [decimal?_of_unpointed after lowered, decimal?_of_unpointed shape pointed, whole,
        ← List.map_cons, same]

theorem bareDouble?_map_asciiLower (cs : List Char) :
    bareDouble? (cs.map asciiLower) = bareDouble? cs := by
  simp only [bareDouble?, splitSign_map_asciiLower, map_asciiLower_twice, decimal?_map_asciiLower]

theorem double?_map_asciiLower (cs : List Char) : double? (cs.map asciiLower) = double? cs := by
  have bare : bareDouble? ∘ List.map asciiLower = bareDouble? := funext bareDouble?_map_asciiLower
  have dropped := dropUnderscores?_map_asciiLower none (normalize cs)
  rw [Option.map_none] at dropped
  rw [double?, normalize_map_asciiLower, dropped, Option.bind_map, bare, double?]

end Numeral

/-! ## Quoted bodies -/

namespace Text

theorem quotedBody?_map_asciiLower (cs : List Char) :
    quotedBody? (cs.map asciiLower) =
      (quotedBody? cs).map (Prod.map (List.map asciiLower) id) := by
  have quote : asciiLower '\'' = '\'' := by decide
  have unquoted {c : Char} : asciiLower c = '\'' ↔ c = '\'' := asciiLower_eq_iff (by decide)
  induction cs using quotedBody?.induct with
  | case1 => rfl
  | case2 tail ih =>
    simp only [List.map_cons, quote, quotedBody?, ih, Option.map_map]
    rfl
  | case3 tail single =>
    have ends : ∀ c ∈ tail.head?, c ≠ '\'' := by
      intro c head
      cases tail with
      | nil => cases head
      | cons d tail =>
        cases head
        exact fun same => single tail (same ▸ rfl)
    have lowered : ∀ c ∈ (tail.map asciiLower).head?, c ≠ '\'' := by
      intro c head
      rw [List.head?_map, Option.mem_map] at head
      obtain ⟨d, first, rfl⟩ := head
      exact mt unquoted.mp (ends d first)
    rw [List.map_cons, quote, quotedBody?_quote lowered, quotedBody?_quote ends]
    rfl
  | case4 c tail _ other ih =>
    have other : c ≠ '\'' := fun same => other same
    rw [List.map_cons, quotedBody?_cons (mt unquoted.mp other), quotedBody?_cons other, ih,
      Option.map_map, Option.map_map]
    rfl

theorem bytesOfHex_map_asciiLower (cs : List Char) :
    bytesOfHex (cs.map asciiLower) = bytesOfHex cs := by
  have digit (c : Char) : Numeral.digitValue? (asciiLower c) = Numeral.digitValue? c :=
    forall_asciiLower (p := fun c d => Numeral.digitValue? d = Numeral.digitValue? c) (by decide)
      (fun _ => rfl) c
  fun_induction bytesOfHex cs with
  | case1 high low rest value ih => simp only [List.map_cons, bytesOfHex, digit, ih, value]
  | case2 cs short =>
    cases cs with
    | nil => rfl
    | cons high rest =>
      cases rest with
      | nil => rfl
      | cons low rest => exact absurd rfl (short high low rest)

end Text

/-! ## Numbers -/

namespace Filter

/-- A span at the front of a text, as long where letters are in another case. -/
def IgnoresCase (span : List Char → List Char) : Prop :=
  ∀ cs, span (cs.map asciiLower) = (span cs).map asciiLower

theorem ignoresCase_takeWhile {p : Char → Bool} (blind : ∀ c, p (asciiLower c) = p c) :
    IgnoresCase (List.takeWhile p) := by
  intro cs
  rw [List.takeWhile_map, show p ∘ asciiLower = p from funext blind]

theorem IgnoresCase.andThen {first second : List Char → List Char} (one : IgnoresCase first)
    (two : IgnoresCase second) :
    IgnoresCase fun cs => first cs ++ second (cs.drop (first cs).length) := by
  intro cs
  simp only [one cs, List.length_map, ← List.map_drop, two (cs.drop (first cs).length),
    List.map_append]

theorem ignoresCase_markSpan {mark : Char → Bool} {span : List Char → List Char}
    (blind : ∀ c, mark (asciiLower c) = mark c) (after : IgnoresCase span) :
    IgnoresCase (markSpan mark span) := by
  intro cs
  cases cs with
  | nil => rfl
  | cons c rest =>
    simp only [List.map_cons, markSpan, blind, after rest]
    split <;> rfl

theorem ignoresCase_digits : IgnoresCase (List.takeWhile isDigit) :=
  ignoresCase_takeWhile isDigit_asciiLower

theorem ignoresCase_signSpan : IgnoresCase signSpan := by
  rw [signSpan_eq_markSpan]
  exact ignoresCase_markSpan isSign_asciiLower fun _ => rfl

theorem ignoresCase_fractionSpan : IgnoresCase fractionSpan := by
  rw [fractionSpan_eq_markSpan]
  refine ignoresCase_markSpan (fun c => ?_) ignoresCase_digits
  exact forall_asciiLower (p := fun c d => (d == '.') = (c == '.')) (by decide) (fun _ => rfl) c

theorem ignoresCase_exponentSpan : IgnoresCase exponentSpan := by
  rw [exponentSpan_eq_markSpan]
  refine ignoresCase_markSpan (fun c => ?_) (ignoresCase_signSpan.andThen ignoresCase_digits)
  exact forall_asciiLower (p := fun c d => (d == 'e' || d == 'E') = (c == 'e' || c == 'E'))
    (by decide) (fun _ => rfl) c

theorem numberSpan_map_asciiLower (cs : List Char) :
    numberSpan (cs.map asciiLower) =
      ⟨(numberSpan cs).sign.map asciiLower, (numberSpan cs).whole.map asciiLower,
        (numberSpan cs).fraction.map asciiLower, (numberSpan cs).exponent.map asciiLower⟩ := by
  have rest (ds : List Char) :
      (ds.map asciiLower).dropWhile isDigit = (ds.dropWhile isDigit).map asciiLower := by
    rw [List.dropWhile_map, show isDigit ∘ asciiLower = isDigit from funext isDigit_asciiLower]
  simp only [numberSpan, ignoresCase_signSpan cs, List.length_map, ← List.map_drop,
    ignoresCase_digits (cs.drop _), rest, ignoresCase_fractionSpan ((cs.drop _).dropWhile _),
    ignoresCase_exponentSpan (((cs.drop _).dropWhile _).drop _)]

theorem chars_numberSpan_map_asciiLower (cs : List Char) :
    (numberSpan (cs.map asciiLower)).chars = (numberSpan cs).chars.map asciiLower := by
  simp only [numberSpan_map_asciiLower, NumberSpan.chars, List.map_append]

theorem isWhole_numberSpan_map_asciiLower (cs : List Char) :
    (numberSpan (cs.map asciiLower)).isWhole = (numberSpan cs).isWhole := by
  simp only [numberSpan_map_asciiLower, NumberSpan.isWhole, List.isEmpty_map]

theorem startsLongMark_map_asciiLower (cs : List Char) :
    startsLongMark (cs.map asciiLower) = startsLongMark cs := by
  cases cs with
  | nil => rfl
  | cons c rest =>
    exact forall_asciiLower (p := fun c d => (d == 'L' || d == 'l') = (c == 'L' || c == 'l'))
      (by decide) (fun _ => rfl) c

theorem startsNumber_map_asciiLower (cs : List Char) :
    startsNumber (cs.map asciiLower) = startsNumber cs := by
  rw [Bool.eq_iff_iff, startsNumber_iff, startsNumber_iff, numberSpan_map_asciiLower, ne_eq,
    List.map_eq_nil_iff]

theorem scanNumber_of_sameLetters {cs cs' : List Char} {scanned : Scanned}
    (same : SameLetters cs cs') (scan : scanNumber cs = .ok scanned) :
    scanNumber cs' = .ok scanned := by
  have chars : SameLetters (numberSpan cs).chars (numberSpan cs').chars := by
    have lowered := congrArg (fun ds => (numberSpan ds).chars) same
    rwa [chars_numberSpan_map_asciiLower, chars_numberSpan_map_asciiLower] at lowered
  have whole : (numberSpan cs').isWhole = (numberSpan cs).isWhole :=
    same.congr (f := fun ds => (numberSpan ds).isWhole) isWhole_numberSpan_map_asciiLower
  have mark := (same.drop (numberSpan cs).chars.length).congr startsLongMark_map_asciiLower
  have integer := chars.congr (Numeral.integer?_map_asciiLower .ten)
  have double := chars.congr Numeral.double?_map_asciiLower
  simp only [scanNumber, chars.length, whole, mark, integer, double] at scan ⊢
  split at scan
  · next isWhole =>
    rw [if_pos isWhole]
    split at scan
    · exact scan
    · cases scan
  · next hasFraction =>
    rw [if_neg hasFraction]
    split at scan
    · cases scan
    · next unmarked =>
      rw [if_neg unmarked]
      split at scan
      · rw [if_neg unmarked]
        exact scan
      · cases scan

end Filter

end StagedTables
