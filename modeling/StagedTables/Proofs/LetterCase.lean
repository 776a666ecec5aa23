import StagedTables.Proofs.CharacterClass

/-! # Numerals in lower case

Letter case does not matter to a hexadecimal numeral, and what a numeral is made of keeps its
lower case simple: letters of ASCII change one by one, and blanks and digits of other scripts stay
as they are. -/
set_option autoImplicit false
namespace StagedTables

open Text

namespace Text

theorem asciiLower_of_beyond {c : Char} (beyond : ¬ c.toNat < 128) : asciiLower c = c := by
  have capital : ¬ ('A' ≤ c ∧ c ≤ 'Z') := by
    rintro ⟨-, last⟩
    have : c.toNat ≤ 90 := Numeral.toNat_le last
    omega
  simp [asciiLower, capital]

/-- What holds of the characters of ASCII and their lower case, and of every character as it is,
holds of all characters and their lower case. -/
theorem forall_asciiLower {p : Char → Char → Prop}
    (all : ∀ n : Fin 128, p (Char.ofNat n) (asciiLower (Char.ofNat n))) (same : ∀ c, p c c)
    (c : Char) : p c (asciiLower c) := by
  by_cases ascii : c.toNat < 128
  · exact Numeral.forall_ascii (p := fun c => p c (asciiLower c)) all ascii
  · rw [asciiLower_of_beyond ascii]
    exact same c

@[simp] theorem asciiLower_asciiLower (c : Char) : asciiLower (asciiLower c) = asciiLower c := by
  by_cases ascii : c.toNat < 128
  · exact Numeral.forall_ascii (p := fun c => asciiLower (asciiLower c) = asciiLower c)
      (by decide) ascii
  · rw [asciiLower_of_beyond ascii, asciiLower_of_beyond ascii]

theorem map_asciiLower_twice (cs : List Char) :
    (cs.map asciiLower).map asciiLower = cs.map asciiLower := by
  rw [List.map_map]
  exact List.map_congr_left fun c _ => asciiLower_asciiLower c

theorem isAsciiLetter_asciiLower (c : Char) : isAsciiLetter (asciiLower c) = isAsciiLetter c :=
  forall_asciiLower (p := fun c d => isAsciiLetter d = isAsciiLetter c) (by decide)
    (fun _ => rfl) c

theorem asciiLower_eq_iff {c d : Char} (notLetter : isAsciiLetter d = false) :
    asciiLower c = d ↔ c = d := by
  have fixed {x : Char} (other : isAsciiLetter x = false) : asciiLower x = x := by
    by_cases ascii : x.toNat < 128
    · exact Numeral.forall_ascii (p := fun x => isAsciiLetter x = false → asciiLower x = x)
        (by decide) ascii other
    · exact asciiLower_of_beyond ascii
  constructor
  · rintro rfl
    rw [isAsciiLetter_asciiLower] at notLetter
    exact (fixed notLetter).symm
  · rintro rfl
    exact fixed notLetter

end Text

namespace Numeral

/-! ## Letter case does not matter -/

theorem digit?_asciiLower (base : Base) (c : Char) : base.digit? (asciiLower c) = base.digit? c :=
  forall_asciiLower (p := fun c d => base.digit? d = base.digit? c)
    (by cases base <;> decide) (fun _ => rfl) c

theorem isPlainBlank_asciiLower (c : Char) : isPlainBlank (asciiLower c) = isPlainBlank c :=
  forall_asciiLower (p := fun c d => isPlainBlank d = isPlainBlank c) (by decide)
    (fun _ => rfl) c

/-- Beyond ASCII a blank becomes a space, a digit the one of ASCII, and the rest a mark. -/
theorem plainChar_of_beyond {c : Char} (beyond : ¬ c.toNat < 128) :
    (isBlank c = true ∧ plainChar c = ' ') ∨
      (isDecimal c = true ∧ ∃ d : Fin 10, plainChar c = Nat.digitChar d) ∨ plainChar c = '?' := by
  rw [plainChar, if_neg beyond]
  split
  · next blank => exact .inl ⟨blank, rfl⟩
  · split
    · next value decimal =>
      have small : value < 10 := by
        simp only [decimalValue?, if_neg beyond] at decimal
        split at decimal
        · split at decimal
          · cases decimal
            omega
          · cases decimal
        · cases decimal
      have written : ∀ d : Fin 10, Char.ofNat ('0'.toNat + d) = Nat.digitChar d := by decide
      exact .inr (.inl ⟨by simp [isDecimal, decimal], ⟨value, small⟩, written ⟨value, small⟩⟩)
    · exact .inr (.inr rfl)

theorem plainChar_asciiLower (c : Char) : plainChar (asciiLower c) = asciiLower (plainChar c) := by
  by_cases ascii : c.toNat < 128
  · exact forall_ascii (p := fun c => plainChar (asciiLower c) = asciiLower (plainChar c))
      (by decide) ascii
  · have digits : ∀ d : Fin 10, asciiLower (Nat.digitChar d) = Nat.digitChar d := by decide
    rw [asciiLower_of_beyond ascii]
    rcases plainChar_of_beyond ascii with ⟨-, blank⟩ | ⟨-, d, digit⟩ | mark
    · rw [blank]
      rfl
    · rw [digit, digits]
    · rw [mark]
      rfl

theorem trimBy_map {drop : Char → Bool} {f : Char → Char} (same : ∀ c, drop (f c) = drop c)
    (cs : List Char) : trimBy drop (cs.map f) = (trimBy drop cs).map f := by
  have unchanged : drop ∘ f = drop := funext same
  simp only [trimBy, List.dropWhile_map, unchanged, ← List.map_reverse]

theorem normalize_map_asciiLower (cs : List Char) :
    normalize (cs.map asciiLower) = (normalize cs).map asciiLower := by
  have plain : (cs.map asciiLower).map plainChar = (cs.map plainChar).map asciiLower := by
    simp only [List.map_map]
    exact List.map_congr_left fun c _ => plainChar_asciiLower c
  rw [normalize, plain, trimBy_map isPlainBlank_asciiLower, ← normalize]

theorem splitSign_map_asciiLower (cs : List Char) :
    splitSign (cs.map asciiLower) = ((splitSign cs).1, (splitSign cs).2.map asciiLower) := by
  cases cs with
  | nil => rfl
  | cons c cs =>
    have minus := asciiLower_eq_iff (c := c) (d := '-') (by decide)
    have plus := asciiLower_eq_iff (c := c) (d := '+') (by decide)
    by_cases isMinus : c = '-'
    · subst isMinus
      rfl
    by_cases isPlus : c = '+'
    · subst isPlus
      rfl
    · have unsigned {d : Char} (more : List Char) (first : d ≠ '-') (second : d ≠ '+') :
          splitSign (d :: more) = (false, d :: more) := by
        unfold splitSign
        split
        · next shape => exact absurd (List.cons.inj shape).1 first
        · next shape => exact absurd (List.cons.inj shape).1 second
        · rfl
      rw [List.map_cons, unsigned _ (mt minus.mp isMinus) (mt plus.mp isPlus),
        unsigned _ isMinus isPlus, List.map_cons]

/-- A zero and the mark of the base come first. -/
def IsMarked (base : Base) (cs : List Char) : Prop :=
  ∃ mark rest, cs = '0' :: mark :: rest ∧ base.mark? = some (asciiLower mark)

theorem dropBaseMark_of_unmarked {base : Base} {cs : List Char} (unmarked : ¬ IsMarked base cs) :
    dropBaseMark base cs = cs := by
  unfold dropBaseMark
  split
  · next mark rest => rw [if_neg fun marked => unmarked ⟨mark, rest, rfl, marked⟩]
  · rfl

theorem dropBaseMark_of_mark {base : Base} {mark : Char}
    (marked : base.mark? = some (asciiLower mark)) (rest : List Char) :
    dropBaseMark base ('0' :: mark :: rest) =
      if rest.head? = some '_' then rest.tail else rest := by
  simp only [dropBaseMark, if_pos marked]
  split
  · rfl
  · next other =>
    cases rest with
    | nil => rfl
    | cons c rest =>
      have first : c ≠ '_' := fun underscore => other rest (underscore ▸ rfl)
      simp [first]

theorem isMarked_map_asciiLower (base : Base) (cs : List Char) :
    IsMarked base (cs.map asciiLower) ↔ IsMarked base cs := by
  constructor
  · rintro ⟨mark, rest, shape, marked⟩
    obtain ⟨zero, cs, rfl, first, shape⟩ := List.map_eq_cons_iff.mp shape
    obtain ⟨m, cs, rfl, second, -⟩ := List.map_eq_cons_iff.mp shape
    rw [asciiLower_eq_iff (by decide)] at first
    rw [← second, asciiLower_asciiLower] at marked
    exact ⟨m, cs, by rw [first], marked⟩
  · rintro ⟨mark, rest, rfl, marked⟩
    exact ⟨asciiLower mark, rest.map asciiLower, rfl, by rwa [asciiLower_asciiLower]⟩

theorem map_asciiLower_eq_underscore (c : Option Char) :
    c.map asciiLower = some '_' ↔ c = some '_' := by
  cases c with
  | none => simp
  | some c => simpa using asciiLower_eq_iff (by decide)

theorem dropBaseMark_map_asciiLower (base : Base) (cs : List Char) :
    dropBaseMark base (cs.map asciiLower) = (dropBaseMark base cs).map asciiLower := by
  by_cases marked : IsMarked base cs
  · obtain ⟨mark, rest, rfl, marked⟩ := marked
    have lowered : base.mark? = some (asciiLower (asciiLower mark)) := by
      rwa [asciiLower_asciiLower]
    have zero : asciiLower '0' = '0' := by decide
    rw [List.map_cons, List.map_cons, zero, dropBaseMark_of_mark lowered,
      dropBaseMark_of_mark marked, List.head?_map]
    simp only [map_asciiLower_eq_underscore]
    split
    · exact List.map_tail.symm
    · rfl
  · rw [dropBaseMark_of_unmarked marked,
      dropBaseMark_of_unmarked (mt (isMarked_map_asciiLower base cs).mp marked)]

theorem singleUnderscores_map_asciiLower (run : List Char) :
    SingleUnderscores (run.map asciiLower) ↔ SingleUnderscores run := by
  have pairs : (run.map asciiLower).zip (run.map asciiLower).tail =
      (run.zip run.tail).map (Prod.map asciiLower asciiLower) := by
    rw [← List.map_tail, List.zip_map]
  have underscore {c : Char} : asciiLower c = '_' ↔ c = '_' := asciiLower_eq_iff (by decide)
  unfold SingleUnderscores
  rw [List.head?_map, List.getLast?_map, pairs]
  simp only [ne_eq, map_asciiLower_eq_underscore, List.forall_mem_map, Prod.map_apply',
    Prod.ext_iff, underscore]

theorem natural?_map_asciiLower (base : Base) (cs : List Char) :
    natural? base (cs.map asciiLower) = natural? base cs := by
  have inRun : (fun c => c == '_' || (base.digit? c).isSome) ∘ asciiLower =
      fun c => c == '_' || (base.digit? c).isSome := by
    funext c
    have underscore : (asciiLower c == '_') = (c == '_') := by
      rw [Bool.eq_iff_iff, beq_iff_eq, beq_iff_eq, asciiLower_eq_iff (by decide)]
    simp only [Function.comp_apply, digit?_asciiLower, underscore]
  have digits : base.digit? ∘ asciiLower = base.digit? := funext (digit?_asciiLower base)
  simp only [natural?, List.takeWhile_map, List.dropWhile_map, inRun, List.filterMap_map, digits,
    singleUnderscores_map_asciiLower, List.map_eq_nil_iff, ne_eq]

theorem integer?_map_asciiLower (base : Base) (cs : List Char) :
    integer? base (cs.map asciiLower) = integer? base cs := by
  simp only [integer?, normalize_map_asciiLower, splitSign_map_asciiLower,
    dropBaseMark_map_asciiLower, natural?_map_asciiLower]

/-! ## What a numeral is made of -/

def isNumeralChar (base : Base) (c : Char) : Bool :=
  isPlainBlank c || c == '-' || c == '+' || c == '_' || c == '0' || (base.digit? c).isSome ||
    base.mark? == some (asciiLower c)

theorem mem_dropWhile_or {p : Char → Bool} {cs : List Char} {c : Char} (member : c ∈ cs) :
    c ∈ cs.dropWhile p ∨ p c = true := by
  rw [← List.takeWhile_append_dropWhile (p := p) (l := cs), List.mem_append] at member
  rcases member with taken | dropped
  · exact .inr (List.mem_takeWhile_imp taken)
  · exact .inl dropped

theorem mem_trimBy_or {p : Char → Bool} {cs : List Char} {c : Char} (member : c ∈ cs) :
    c ∈ trimBy p cs ∨ p c = true := by
  rcases mem_dropWhile_or (p := p) member with kept | dropped
  · rcases mem_dropWhile_or (p := p) (List.mem_reverse.mpr kept) with kept | dropped
    · exact .inl (List.mem_reverse.mpr kept)
    · exact .inr dropped
  · exact .inr dropped

theorem mem_splitSign_or {cs : List Char} {c : Char} (member : c ∈ cs) :
    c ∈ (splitSign cs).2 ∨ c = '-' ∨ c = '+' := by
  unfold splitSign
  split
  · exact (List.mem_cons.mp member).elim (fun sign => .inr (.inl sign)) .inl
  · exact (List.mem_cons.mp member).elim (fun sign => .inr (.inr sign)) .inl
  · exact .inl member

theorem mem_dropBaseMark_or {base : Base} {cs : List Char} {c : Char} (member : c ∈ cs) :
    c ∈ dropBaseMark base cs ∨ c = '0' ∨ c = '_' ∨ base.mark? = some (asciiLower c) := by
  by_cases isMarked : IsMarked base cs
  · obtain ⟨mark, rest, rfl, marked⟩ := isMarked
    rw [dropBaseMark_of_mark marked]
    rcases List.mem_cons.mp member with rfl | member
    · exact .inr (.inl rfl)
    rcases List.mem_cons.mp member with rfl | member
    · exact .inr (.inr (.inr marked))
    split
    · next underscore =>
      obtain ⟨digits, rfl⟩ := List.head?_eq_some_iff.mp underscore
      exact (List.mem_cons.mp member).elim (fun first => .inr (.inr (.inl first))) .inl
    · exact .inl member
  · rw [dropBaseMark_of_unmarked isMarked]
    exact .inl member

theorem isNumeralChar_of_natural? {base : Base} {cs : List Char} {n : Nat}
    (read : natural? base cs = .ok n) {c : Char} (member : c ∈ cs) :
    c = '_' ∨ (base.digit? c).isSome = true := by
  simp only [natural?] at read
  split at read
  · cases read
  split at read
  · cases read
  split at read
  · cases read
  · next _ _ whole =>
    have inRun := List.dropWhile_eq_nil_iff.mp (not_not.mp whole) c member
    simpa using inRun

theorem isNumeralChar_of_integer? {base : Base} {cs : List Char} {n : Int}
    (read : integer? base cs = .ok n) {c : Char} (member : c ∈ cs) :
    isNumeralChar base (plainChar c) = true := by
  simp only [integer?] at read
  cases natural : natural? base (dropBaseMark base (splitSign (normalize cs)).2) with
  | error fault => rw [natural] at read; cases read
  | ok m =>
    have plain : plainChar c ∈ cs.map plainChar := List.mem_map_of_mem member
    rcases mem_trimBy_or (p := isPlainBlank) plain with inside | blank
    · rcases mem_splitSign_or inside with inside | minus | plus
      · rcases mem_dropBaseMark_or inside with inside | zero | underscore | mark
        · rcases isNumeralChar_of_natural? natural inside with underscore | digit
          · simp [isNumeralChar, underscore]
          · simp [isNumeralChar, digit]
        · simp [isNumeralChar, zero]
        · simp [isNumeralChar, underscore]
        · simp [isNumeralChar, mark]
      · simp [isNumeralChar, minus]
      · simp [isNumeralChar, plus]
    · simp [isNumeralChar, blank]

end Numeral

namespace Text

/-! ## Lower case -/

/-- The code points that may have another lower case. -/
def lowerRanges : List (Nat × Nat) := lowerRuns.toList.map fun run => (run.first, run.last + 1)

theorem exists_lowerRange {code image : Nat} (found : CaseRun.image? lowerRuns code = some image) :
    ∃ range ∈ lowerRanges, range.1 ≤ code ∧ code < range.2 := by
  obtain ⟨run, covers, -⟩ := Option.map_eq_some_iff.mp found
  have member := Array.mem_of_find?_eq_some covers
  have inside := Array.find?_some covers
  simp only [Bool.and_eq_true, decide_eq_true_eq] at inside
  exact ⟨_, List.mem_map_of_mem (Array.mem_toList_iff.mpr member), inside.1.1, by omega⟩

theorem blanks_caseless : keepClear 0 lowerRanges (rangesOf blankBounds.toList) = true := by
  decide

theorem decimals_caseless : keepClear 0 lowerRanges decimalRanges = true := by
  decide

structure LowersPlainly (c : Char) : Prop where
  notSigma : c.toNat ≠ 0x3A3
  lower : lowerChar c = [asciiLower c]

theorem lowersPlainly_of_ascii {c : Char} (ascii : c.toNat < 128) : LowersPlainly c where
  notSigma := by omega
  lower := by rw [lowerChar, if_pos ascii]

theorem lowersPlainly_of_caseless {c : Char} (beyond : ¬ c.toNat < 128)
    (notSpecial : c.toNat ≠ 0x3A3 ∧ c.toNat ≠ 0x130)
    (caseless : CaseRun.image? lowerRuns c.toNat = none) : LowersPlainly c where
  notSigma := notSpecial.1
  lower := by
    rw [lowerChar, if_neg beyond, if_neg notSpecial.2, caseless, asciiLower_of_beyond beyond]
    rfl

theorem lowersPlainly_of_isBlank {c : Char} (blank : isBlank c = true) : LowersPlainly c := by
  by_cases ascii : c.toNat < 128
  · exact lowersPlainly_of_ascii ascii
  have other {code : Nat} (solid : inBounds blankBounds code = false) : c.toNat ≠ code := by
    rintro rfl
    rw [isBlank, solid] at blank
    cases blank
  refine lowersPlainly_of_caseless ascii ⟨other (by decide +kernel), other (by decide +kernel)⟩ ?_
  by_contra cased
  obtain ⟨image, found⟩ := Option.ne_none_iff_exists'.mp cased
  obtain ⟨range, member, first, last⟩ := exists_lowerRange found
  obtain ⟨other, inside, start, stop⟩ := exists_range (by decide) blank
  have sorted : (rangesOf blankBounds.toList).Pairwise (·.1 ≤ ·.1) := by decide
  have := (apart_of_keepClear blanks_caseless sorted range member).2 other inside
  omega

theorem lowersPlainly_of_isDecimal {c : Char} (decimal : isDecimal c = true) :
    LowersPlainly c := by
  by_cases ascii : c.toNat < 128
  · exact lowersPlainly_of_ascii ascii
  obtain ⟨other, inside, start, stop⟩ := exists_decimalRange (Nat.le_of_not_lt ascii) decimal
  have special : ∀ range ∈ decimalRanges, (0x3A3 < range.1 ∨ range.2 ≤ 0x3A3) ∧
      (0x130 < range.1 ∨ range.2 ≤ 0x130) := by
    decide
  have clear := special other inside
  refine lowersPlainly_of_caseless ascii ⟨by omega, by omega⟩ ?_
  by_contra cased
  obtain ⟨image, found⟩ := Option.ne_none_iff_exists'.mp cased
  obtain ⟨range, member, first, last⟩ := exists_lowerRange found
  have sorted : decimalRanges.Pairwise (·.1 ≤ ·.1) := by decide
  have := (apart_of_keepClear decimals_caseless sorted range member).2 other inside
  omega

theorem lowerFrom_of_lowersPlainly {cs : List Char} (plainly : ∀ c ∈ cs, LowersPlainly c)
    (before : List Char) : lowerFrom before cs = cs.map asciiLower := by
  induction cs generalizing before with
  | nil => rfl
  | cons c cs ih =>
    obtain ⟨first, others⟩ := List.forall_mem_cons.mp plainly
    rw [lowerFrom, if_neg first.notSigma, first.lower, ih others (c :: before)]
    rfl

theorem lowersPlainly_of_isNumeralChar {base : Numeral.Base} {c : Char}
    (numeral : Numeral.isNumeralChar base (Numeral.plainChar c) = true) : LowersPlainly c := by
  by_cases ascii : c.toNat < 128
  · exact lowersPlainly_of_ascii ascii
  rcases Numeral.plainChar_of_beyond ascii with ⟨blank, -⟩ | ⟨decimal, -⟩ | mark
  · exact lowersPlainly_of_isBlank blank
  · exact lowersPlainly_of_isDecimal decimal
  · rw [mark] at numeral
    cases base <;> exact absurd numeral (by decide)

end Text
end StagedTables
