import StagedTables.Proofs.Hexadecimal

/-! # Texts read as identifiers

The reader of identifiers drops marks, braces and hyphens, and takes what is left as a numeral.
The lower case of a text that it reads is found character by character.  It is the canonical text
of the identifier exactly when the text has its digits in groups.  A text of 36 characters with
four hyphens has lost only these, so its lower case denotes the same identifier, wherever the
hyphens stand. -/
set_option autoImplicit false
namespace StagedTables.Uuid

open Numeral Text

/-! ## What the reader drops -/

theorem removeAll_sublist (pattern cs : List Char) : (removeAll pattern cs).Sublist cs := by
  fun_induction removeAll pattern cs with
  | case1 => exact .slnil
  | case2 c rest found ih =>
    exact (ih.trans (List.drop_sublist _ _)).trans (List.sublist_cons_self c rest)
  | case3 c rest other ih => exact ih.cons_cons c

theorem mem_removeAll_or (pattern : List Char) (nonempty : pattern ≠ []) {cs : List Char}
    {x : Char} (member : x ∈ cs) : x ∈ removeAll pattern cs ∨ x ∈ pattern := by
  fun_induction removeAll pattern cs with
  | case1 => cases member
  | case2 c rest found ih =>
    obtain ⟨more, whole⟩ := List.isPrefixOf_iff_prefix.mp found
    obtain ⟨first, others, rfl⟩ := List.exists_cons_of_ne_nil nonempty
    obtain ⟨rfl, rfl⟩ := List.cons.inj whole
    rcases List.mem_append.mp (whole ▸ member) with inside | after
    · exact .inr inside
    · exact ih (by simpa using after)
  | case3 c rest other ih =>
    rcases List.mem_cons.mp member with rfl | member
    · exact .inl List.mem_cons_self
    · exact (ih member).imp_left (List.mem_cons_of_mem c)

theorem trimBy_sublist (drop : Char → Bool) (cs : List Char) : (trimBy drop cs).Sublist cs := by
  have front := List.dropWhile_sublist drop (l := cs)
  have back := List.dropWhile_sublist drop (l := (cs.dropWhile drop).reverse)
  exact (List.reverse_reverse _ ▸ back.reverse).trans front

theorem bareDigits_sublist (cs : List Char) : (bareDigits cs).Sublist (cs.filter (· != '-')) := by
  refine List.Sublist.filter _ ?_
  exact (trimBy_sublist _ _).trans ((removeAll_sublist _ _).trans (removeAll_sublist _ cs))

def droppable : List Char := ['u', 'r', 'n', 'i', 'd', ':', '\x7b', '\x7d', '-']

theorem mem_bareDigits_or {cs : List Char} {x : Char} (member : x ∈ cs) :
    x ∈ bareDigits cs ∨ x ∈ droppable := by
  by_cases hyphen : x = '-'
  · exact .inr (by simp [droppable, hyphen])
  rcases mem_removeAll_or "urn:".toList (by decide) member with kept | mark
  · rcases mem_removeAll_or "uuid:".toList (by decide) kept with kept | mark
    · rcases mem_trimBy_or (p := fun c => c == '\x7b' || c == '\x7d') kept with kept | brace
      · exact .inl (List.mem_filter.mpr ⟨kept, by simp [hyphen]⟩)
      · simp only [Bool.or_eq_true, beq_iff_eq] at brace
        rcases brace with rfl | rfl <;> exact .inr (by decide)
    · have inside : "uuid:".toList ⊆ droppable := by simp [droppable]
      exact .inr (inside mark)
  · have inside : "urn:".toList ⊆ droppable := by simp [droppable]
    exact .inr (inside mark)

/-! ## Texts that are read -/

section Read

variable {s : String} {u : Uuid} (denotes : read s = .ok u)

include denotes

theorem integer?_of_read : (bareDigits s.toList).length = 32 ∧
    ∃ n, integer? .sixteen (bareDigits s.toList) = .ok n ∧ u = ⟨BitVec.ofInt 128 n⟩ := by
  simp only [read] at denotes
  split at denotes
  · cases denotes
  · next length =>
    split at denotes
    · next n value =>
      cases denotes
      exact ⟨not_not.mp length, n, value, rfl⟩
    · cases denotes

theorem forall_of_read {p : Char → Prop}
    (kept : ∀ c, isNumeralChar .sixteen (plainChar c) = true → p c)
    (dropped : ∀ c ∈ droppable, p c) : ∀ c ∈ s.toList, p c := by
  obtain ⟨-, n, value, -⟩ := integer?_of_read denotes
  intro c member
  rcases mem_bareDigits_or member with digit | drop
  · exact kept c (isNumeralChar_of_integer? value digit)
  · exact dropped c drop

theorem lower_of_read : lower s = String.ofList (s.toList.map asciiLower) := by
  have plainly : ∀ c ∈ s.toList, LowersPlainly c := by
    refine forall_of_read denotes (fun c => lowersPlainly_of_isNumeralChar) fun c drop => ?_
    have ascii : ∀ c ∈ droppable, c.toNat < 128 := by simp [droppable]
    exact lowersPlainly_of_ascii (ascii c drop)
  rw [lower, lowerFrom_of_lowersPlainly plainly]

theorem unquoted_of_read : '\'' ∉ s.toList.map asciiLower := by
  have unquoted : ∀ c ∈ s.toList, c ≠ '\'' := by
    refine forall_of_read denotes ?_ (by simp [droppable])
    rintro c numeral rfl
    exact absurd numeral (by decide)
  intro member
  obtain ⟨c, inside, quote⟩ := List.mem_map.mp member
  exact unquoted c inside ((asciiLower_eq_iff (by decide)).mp quote)

end Read

/-! ## Texts without marks and braces -/

/-- 36 characters, four of them hyphens, which may stand anywhere. -/
structure HasGuidShape (cs : List Char) : Prop where
  length : cs.length = 36
  hyphens : cs.count '-' = 4

instance (cs : List Char) : Decidable (HasGuidShape cs) :=
  decidable_of_iff (cs.length = 36 ∧ cs.count '-' = 4) ⟨fun ⟨a, b⟩ => ⟨a, b⟩, fun ⟨a, b⟩ => ⟨a, b⟩⟩

theorem IsGuidText.hasGuidShape {cs : List Char} (guid : IsGuidText cs) : HasGuidShape cs :=
  ⟨guid.length, guid.hyphens⟩

theorem length_filter_hyphens (cs : List Char) :
    (cs.filter (· != '-')).length + cs.count '-' = cs.length := by
  induction cs with
  | nil => rfl
  | cons c cs ih =>
    by_cases hyphen : c = '-'
    · subst hyphen
      simpa [← Nat.add_assoc] using ih
    · simp only [List.count_cons_of_ne hyphen, List.length_cons, ← ih]
      simp [hyphen, Nat.add_right_comm]

theorem filter_map_asciiLower (cs : List Char) :
    (cs.map asciiLower).filter (· != '-') = (cs.filter (· != '-')).map asciiLower := by
  have hyphen {x : Char} : asciiLower x = '-' ↔ x = '-' := asciiLower_eq_iff (by decide)
  have same : (· != '-') ∘ asciiLower = (· != '-') := by
    funext x
    rw [Function.comp_apply, Bool.eq_iff_iff, bne_iff_ne, bne_iff_ne, ne_eq, ne_eq, hyphen]
  rw [List.filter_map, same]

theorem hasGuidShape_map_asciiLower {cs : List Char} :
    HasGuidShape (cs.map asciiLower) ↔ HasGuidShape cs := by
  have lowered := length_filter_hyphens (cs.map asciiLower)
  rw [filter_map_asciiLower, List.length_map, List.length_map, ← length_filter_hyphens cs]
    at lowered
  have hyphens := Nat.add_left_cancel lowered
  exact ⟨fun ⟨length, four⟩ => ⟨by simpa using length, hyphens ▸ four⟩,
    fun ⟨length, four⟩ => ⟨by simpa using length, hyphens ▸ four⟩⟩

section Shaped

variable {s : String} {u : Uuid} (denotes : read s = .ok u) (shape : HasGuidShape s.toList)

include denotes shape

theorem bareDigits_of_hasGuidShape : bareDigits s.toList = s.toList.filter (· != '-') := by
  obtain ⟨length, -⟩ := integer?_of_read denotes
  have kept := length_filter_hyphens s.toList
  rw [shape.length, shape.hyphens] at kept
  exact (bareDigits_sublist s.toList).eq_of_length (by omega)

/-- With this shape the hyphens alone are dropped, so letter case does not matter. -/
theorem read_of_hasGuidShape {s' : String}
    (same : s'.toList.map asciiLower = s.toList.map asciiLower) : read s' = .ok u := by
  obtain ⟨length, n, value, rfl⟩ := integer?_of_read denotes
  rw [bareDigits_of_hasGuidShape denotes shape] at length value
  have kept := congrArg (List.filter (· != '-')) same
  rw [filter_map_asciiLower, filter_map_asciiLower] at kept
  rw [← integer?_map_asciiLower, ← kept, integer?_map_asciiLower] at value
  have length' : (s'.toList.filter (· != '-')).length = 32 := by
    simpa [length] using congrArg List.length kept
  have digit : ∀ x ∈ s'.toList, x = '-' ∨ isNumeralChar .sixteen (plainChar x) = true := by
    intro x member
    by_cases hyphen : x = '-'
    · exact .inl hyphen
    · exact .inr (isNumeralChar_of_integer? value (List.mem_filter.mpr ⟨member, by simp [hyphen]⟩))
  have other {c : Char} (different : c ≠ '-')
      (noNumeral : isNumeralChar .sixteen (plainChar c) = false) : ∀ x ∈ s'.toList, x ≠ c := by
    rintro x member rfl
    rcases digit x member with hyphen | numeral
    · exact different hyphen
    · simp [noNumeral] at numeral
  have unbraced : ∀ x ∈ s'.toList, (x == '\x7b' || x == '\x7d') = false := by
    intro x member
    have opening := other (c := '\x7b') (by decide) (by decide) x member
    have closing := other (c := '\x7d') (by decide) (by decide) x member
    simp [opening, closing]
  have bare := bareDigits_of_forall (other (c := 'u') (by decide) (by decide)) unbraced
  rw [read, bare, value]
  simp [length']

theorem read_map_asciiLower_of_hasGuidShape :
    read (String.ofList (s.toList.map asciiLower)) = .ok u := by
  refine read_of_hasGuidShape denotes shape ?_
  rw [String.toList_ofList, map_asciiLower_twice]

end Shaped

/-! ## Texts in groups -/

theorem isGuidText_of_map_asciiLower {cs : List Char} (guid : IsGuidText (cs.map asciiLower)) :
    IsGuidText cs := by
  generalize lowered : cs.map asciiLower = ds at guid
  cases guid with
  | @groups a b c d e lengths digits =>
    have cut {xs ys zs : List Char} (split : xs.map asciiLower = ys ++ '-' :: zs) :
        ∃ front back, xs = front ++ '-' :: back ∧ front.map asciiLower = ys ∧
          back.map asciiLower = zs := by
      obtain ⟨front, rest, rfl, first, second⟩ := List.map_eq_append_iff.mp split
      obtain ⟨hyphen, back, rfl, same, last⟩ := List.map_eq_cons_iff.mp second
      rw [asciiLower_eq_iff (by decide)] at same
      exact ⟨front, back, by rw [same], first, last⟩
    obtain ⟨a, after, rfl, rfl, first⟩ := cut lowered
    obtain ⟨b, after, rfl, rfl, second⟩ := cut first
    obtain ⟨c, after, rfl, rfl, third⟩ := cut second
    obtain ⟨d, e, rfl, rfl, rfl⟩ := cut third
    refine .groups (by simpa using lengths) fun x member => ?_
    have lower : asciiLower x ∈ (a ++ b ++ c ++ d ++ e).map asciiLower := List.mem_map_of_mem member
    have digit : IsHexadecimal (asciiLower x) := digits _ (by simpa using lower)
    rwa [IsHexadecimal, digit?_asciiLower] at digit

theorem asciiLower_of_digit? {c : Char} {d : Nat} (digit : Base.digit? .sixteen c = some d) :
    asciiLower c = Nat.digitChar d := by
  have all : ∀ n : Fin 128, ∀ d ∈ Base.digit? .sixteen (Char.ofNat n),
      asciiLower (Char.ofNat n) = Nat.digitChar d := by
    decide
  exact forall_ascii (p := fun c => ∀ d ∈ Base.digit? .sixteen c, asciiLower c = Nat.digitChar d)
    all (ascii_of_digit? digit) d digit

theorem map_asciiLower_of_spells {cs : List Char} {digits : List Nat}
    (spells : Spells .sixteen cs digits) : cs.map asciiLower = spell digits := by
  induction cs generalizing digits with
  | nil =>
    rw [List.length_eq_zero_iff.mp spells.length_eq.symm]
    rfl
  | cons c cs ih =>
    obtain ⟨d, more, rfl, digit, rest⟩ := List.map_eq_cons_iff.mp (Eq.symm spells)
    rw [List.map_cons, asciiLower_of_digit? digit.symm, ih rest.symm]
    rfl

theorem hyphenated_congr {a b c d e a' b' c' d' e' : List Char}
    (lengths : [a.length, b.length, c.length, d.length, e.length] =
      [a'.length, b'.length, c'.length, d'.length, e'.length])
    (joined : a ++ b ++ c ++ d ++ e = a' ++ b' ++ c' ++ d' ++ e') :
    hyphenated a b c d e = hyphenated a' b' c' d' e' := by
  simp only [List.cons.injEq, and_true] at lengths
  obtain ⟨-, second, third, fourth, fifth⟩ := lengths
  obtain ⟨upToFourth, rfl⟩ := List.append_inj' joined fifth
  obtain ⟨upToThird, rfl⟩ := List.append_inj' upToFourth fourth
  obtain ⟨upToSecond, rfl⟩ := List.append_inj' upToThird third
  obtain ⟨rfl, rfl⟩ := List.append_inj' upToSecond second
  rfl

theorem map_asciiLower_of_isGuidText {cs : List Char} {u : Uuid} (guid : IsGuidText cs)
    (denotes : read (String.ofList cs) = .ok u) : cs.map asciiLower = u.text.toList := by
  cases guid with
  | @groups a b c d e lengths hexadecimal =>
    obtain ⟨digits, spells⟩ := exists_spells hexadecimal
    obtain ⟨own, size, areDigits, written⟩ := exists_digits u
    obtain ⟨a', b', c', d', e', lengths', joined, text⟩ := exists_text u
    have length : digits.length = 32 := by
      simp only [groupLengths, List.cons.injEq] at lengths
      rw [← spells.length_eq]
      simp only [List.length_append]
      omega
    have value : ofDigits 16 own = ofDigits 16 digits := by
      have small := ofDigits_lt spells.bound
      rw [length] at small
      rw [read_hyphenated lengths spells] at denotes
      rw [areDigits.value, ← Except.ok.inj denotes]
      have fits : ofDigits 16 digits < 2 ^ 128 := small
      rw [BitVec.ofInt_natCast, BitVec.toNat_ofNat, Nat.mod_eq_of_lt fits]
    have same : own = digits :=
      ofDigits_inj areDigits.bound spells.bound (size.trans length.symm) value
    have lowered := map_asciiLower_of_spells spells
    rw [← same, ← written, ← joined] at lowered
    rw [text, hyphenated_map_asciiLower]
    refine hyphenated_congr ?_ ?_
    · simpa using lengths.trans lengths'.symm
    · simpa using lowered

/-- The lower case of a text is the canonical text exactly when the text is in groups. -/
theorem lower_eq_text_iff {s : String} {u : Uuid} (denotes : read s = .ok u) :
    lower s = u.text ↔ IsGuidText s.toList := by
  rw [lower_of_read denotes, ← String.toList_inj, String.toList_ofList]
  constructor
  · intro same
    have guid := isGuidText_text u
    rw [← same] at guid
    exact isGuidText_of_map_asciiLower guid
  · intro guid
    exact map_asciiLower_of_isGuidText guid (by rwa [String.ofList_toList])

end StagedTables.Uuid
