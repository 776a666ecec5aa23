import StagedTables.Proofs.LetterCase
import StagedTables.Text.HexBytes
import StagedTables.Uuid

/-! # Bytes and identifiers in hexadecimal

Bytes written as pairs of digits read back.  A text of 32 digits in the groups of an identifier
denotes the same identifier in either letter case, and the text of an identifier denotes it. -/
set_option autoImplicit false
namespace StagedTables

open Numeral Text

def IsHexadecimal (c : Char) : Prop := (Base.digit? .sixteen c).isSome = true

instance (c : Char) : Decidable (IsHexadecimal c) := inferInstanceAs (Decidable (_ = _))

theorem IsHexadecimal.ascii {c : Char} (digit : IsHexadecimal c) : c.toNat < 128 := by
  obtain ⟨d, value⟩ := Option.isSome_iff_exists.mp digit
  exact ascii_of_digit? value

theorem IsHexadecimal.elim {p : Char → Prop}
    (all : ∀ n : Fin 128, IsHexadecimal (Char.ofNat n) → p (Char.ofNat n)) {c : Char}
    (digit : IsHexadecimal c) : p c :=
  forall_ascii (p := fun c => IsHexadecimal c → p c) all digit.ascii digit

theorem isHexadecimal_of_mem_spell {digits : List Nat} (bound : ∀ d ∈ digits, d < 16) :
    ∀ c ∈ spell digits, IsHexadecimal c :=
  forall_spell bound (by decide)

theorem exists_spells {cs : List Char} (all : ∀ c ∈ cs, IsHexadecimal c) :
    ∃ digits, Spells .sixteen cs digits := by
  induction cs with
  | nil => exact ⟨[], rfl⟩
  | cons c cs ih =>
    obtain ⟨digits, rest⟩ := ih fun d member => all d (by simp [member])
    obtain ⟨first, value⟩ := Option.isSome_iff_exists.mp (all c (by simp))
    exact ⟨first :: digits, by rw [Spells, List.map_cons, value, rest]; rfl⟩

theorem exists_hexPadded {width n : Nat} (positive : 0 < width) (fits : n < 16 ^ width) :
    ∃ digits, digits.length = width ∧ AreDigits 16 n digits ∧ hexPadded width n = spell digits :=
  exists_padded_eq_spell (by decide) positive fits

/-! ## Bytes -/

theorem digitValue?_digitChar {d : Nat} (bound : d < 16) :
    digitValue? (Nat.digitChar d) = some d := by
  have all : ∀ d : Fin 16, digitValue? (Nat.digitChar d) = some d.val := by decide
  exact all ⟨d, bound⟩

theorem exists_byte (byte : UInt8) :
    ∃ high low, high < 16 ∧ low < 16 ∧
      hexPadded 2 byte.toNat = [Nat.digitChar high, Nat.digitChar low] ∧
      high * 16 + low = byte.toNat := by
  obtain ⟨digits, length, areDigits, written⟩ := exists_hexPadded (show 0 < 2 by decide)
    (show byte.toNat < 16 ^ 2 from byte.toNat_lt)
  match digits with
  | [high, low] =>
    have value := areDigits.value
    refine ⟨high, low, areDigits.bound high (by simp), areDigits.bound low (by simp), written, ?_⟩
    simpa [ofDigits_cons] using value

theorem bytesOfHex_hexBytes (data : List UInt8) : bytesOfHex (hexBytes data).toList = data := by
  rw [hexBytes, String.toList_ofList]
  induction data with
  | nil => rfl
  | cons byte data ih =>
    obtain ⟨high, low, highLt, lowLt, written, value⟩ := exists_byte byte
    rw [List.flatMap_cons, written]
    simp only [List.cons_append, List.nil_append, bytesOfHex, digitValue?_digitChar highLt,
      digitValue?_digitChar lowLt, Option.getD_some, value, ih, UInt8.ofNat_toNat]

theorem length_hexBytes (data : List UInt8) : (hexBytes data).toList.length % 2 = 0 := by
  rw [hexBytes, String.toList_ofList]
  induction data with
  | nil => rfl
  | cons byte data ih =>
    obtain ⟨high, low, -, -, written, -⟩ := exists_byte byte
    simp only [List.flatMap_cons, written, List.length_append, List.length_cons, List.length_nil]
    omega

theorem isHexadecimal_hexBytes (data : List UInt8) :
    ∀ c ∈ (hexBytes data).toList, IsHexadecimal c := by
  rw [hexBytes, String.toList_ofList]
  intro c member
  obtain ⟨byte, -, inside⟩ := List.mem_flatMap.mp member
  obtain ⟨high, low, highLt, lowLt, written, -⟩ := exists_byte byte
  have both : ∀ d ∈ [high, low], d < 16 := by simp [highLt, lowLt]
  exact isHexadecimal_of_mem_spell both c (by simpa [written, spell] using inside)

/-! ## Lower case -/

theorem lowerFrom_of_ascii {cs : List Char} (ascii : ∀ c ∈ cs, c.toNat < 128)
    (before : List Char) : lowerFrom before cs = cs.map asciiLower :=
  lowerFrom_of_lowersPlainly (fun c member => lowersPlainly_of_ascii (ascii c member)) before

/-! ## Identifiers -/

namespace Uuid

def hyphenated (a b c d e : List Char) : List Char :=
  a ++ '-' :: (b ++ '-' :: (c ++ '-' :: (d ++ '-' :: e)))

/-- Hexadecimal digits in groups of 8, 4, 4, 4 and 12, joined by hyphens. -/
inductive IsGuidText : List Char → Prop
  | groups {a b c d e : List Char}
      (lengths : [a.length, b.length, c.length, d.length, e.length] = groupLengths)
      (digits : ∀ x ∈ a ++ b ++ c ++ d ++ e, IsHexadecimal x) : IsGuidText (hyphenated a b c d e)

theorem IsGuidText.length {cs : List Char} (guid : IsGuidText cs) : cs.length = 36 := by
  cases guid with
  | groups lengths digits =>
    simp only [groupLengths, List.cons.injEq] at lengths
    simp only [hyphenated, List.length_append, List.length_cons]
    omega

theorem count_hyphen {cs : List Char} (digits : ∀ x ∈ cs, IsHexadecimal x) : cs.count '-' = 0 := by
  rw [List.count_eq_zero]
  intro member
  exact absurd (digits '-' member) (by decide)

theorem IsGuidText.hyphens {cs : List Char} (guid : IsGuidText cs) : cs.count '-' = 4 := by
  cases guid with
  | groups lengths digits =>
    have none := count_hyphen digits
    simp only [List.count_append] at none
    simp only [hyphenated, List.count_append, List.count_cons_self]
    omega

theorem mem_hyphenated {a b c d e : List Char} {x : Char} (member : x ∈ hyphenated a b c d e) :
    x = '-' ∨ x ∈ a ++ b ++ c ++ d ++ e := by
  simp only [hyphenated, List.mem_append, List.mem_cons] at member
  simp only [List.mem_append]
  tauto

theorem IsGuidText.forall {cs : List Char} (guid : IsGuidText cs) {p : Char → Prop}
    (hyphen : p '-') (digit : ∀ n : Fin 128, IsHexadecimal (Char.ofNat n) → p (Char.ofNat n)) :
    ∀ x ∈ cs, p x := by
  cases guid with
  | groups lengths digits =>
    intro x member
    rcases mem_hyphenated member with rfl | inside
    · exact hyphen
    · exact (digits x inside).elim digit

theorem filter_hexadecimal {cs : List Char} (digits : ∀ x ∈ cs, IsHexadecimal x) :
    cs.filter (· != '-') = cs := by
  refine List.filter_eq_self.mpr fun x member => ?_
  exact (digits x member).elim (p := fun x => (x != '-') = true) (by decide)

theorem removeAll_of_forall {first : Char} {pattern cs : List Char}
    (absent : ∀ c ∈ cs, c ≠ first) : removeAll (first :: pattern) cs = cs := by
  induction cs with
  | nil => simp [removeAll]
  | cons c cs ih =>
    have distinct : (first :: pattern).isPrefixOf (c :: cs) = false := by
      simp [List.isPrefixOf, (absent c (by simp)).symm]
    rw [removeAll, if_neg (by simp [distinct]), ih fun d member => absent d (by simp [member])]

/-- Without marks and braces only the hyphens are dropped. -/
theorem bareDigits_of_forall {cs : List Char} (unmarked : ∀ x ∈ cs, x ≠ 'u')
    (unbraced : ∀ x ∈ cs, (x == '\x7b' || x == '\x7d') = false) :
    bareDigits cs = cs.filter (· != '-') := by
  have urn : removeAll "urn:".toList cs = cs := removeAll_of_forall unmarked
  have uuid : removeAll "uuid:".toList cs = cs := removeAll_of_forall unmarked
  rw [bareDigits, urn, uuid, trimBy_of_forall unbraced]

theorem bareDigits_of_isGuidText {a b c d e : List Char}
    (lengths : [a.length, b.length, c.length, d.length, e.length] = groupLengths)
    (digits : ∀ x ∈ a ++ b ++ c ++ d ++ e, IsHexadecimal x) :
    bareDigits (hyphenated a b c d e) = a ++ b ++ c ++ d ++ e := by
  have guid := IsGuidText.groups lengths digits
  have unmarked : ∀ x ∈ hyphenated a b c d e, x ≠ 'u' := guid.forall (by decide) (by decide)
  have unbraced : ∀ x ∈ hyphenated a b c d e, (x == '\x7b' || x == '\x7d') = false :=
    guid.forall (by decide) (by decide)
  have kept := filter_hexadecimal digits
  simp only [List.filter_append, List.append_assoc] at kept
  rw [bareDigits_of_forall unmarked unbraced]
  simpa [hyphenated] using kept

theorem read_hyphenated {a b c d e : List Char} {digits : List Nat}
    (lengths : [a.length, b.length, c.length, d.length, e.length] = groupLengths)
    (spells : Spells .sixteen (a ++ b ++ c ++ d ++ e) digits) :
    read (String.ofList (hyphenated a b c d e)) =
      .ok ⟨BitVec.ofInt 128 (ofDigits 16 digits)⟩ := by
  have hexadecimal : ∀ x ∈ a ++ b ++ c ++ d ++ e, IsHexadecimal x := by
    intro x member
    obtain ⟨value, digit⟩ := spells.digit member
    simp [IsHexadecimal, digit]
  have length : (a ++ b ++ c ++ d ++ e).length = 32 := by
    simp only [groupLengths, List.cons.injEq] at lengths
    simp only [List.length_append]
    omega
  have nonempty : a ++ b ++ c ++ d ++ e ≠ [] :=
    List.ne_nil_of_length_pos (by rw [length]; decide)
  have value := integer?_of_spells spells nonempty (by simp)
  rw [read, String.toList_ofList, bareDigits_of_isGuidText lengths hexadecimal]
  simp only [length, value]
  rfl

theorem IsGuidText.exists_read {cs : List Char} (guid : IsGuidText cs) :
    ∃ u, read (String.ofList cs) = .ok u := by
  cases guid with
  | groups lengths hexadecimal =>
    obtain ⟨digits, spells⟩ := exists_spells hexadecimal
    exact ⟨_, read_hyphenated lengths spells⟩

theorem hyphenated_map_asciiLower (a b c d e : List Char) :
    (hyphenated a b c d e).map asciiLower = hyphenated (a.map asciiLower) (b.map asciiLower)
      (c.map asciiLower) (d.map asciiLower) (e.map asciiLower) := by
  have hyphen : asciiLower '-' = '-' := by decide
  simp [hyphenated, hyphen]

theorem IsGuidText.lower {cs : List Char} (guid : IsGuidText cs) :
    IsGuidText (cs.map asciiLower) ∧
      read (String.ofList (cs.map asciiLower)) = read (String.ofList cs) := by
  cases guid with
  | @groups a b c d e lengths hexadecimal =>
    have lowered : [(a.map asciiLower).length, (b.map asciiLower).length,
        (c.map asciiLower).length, (d.map asciiLower).length, (e.map asciiLower).length] =
          groupLengths := by
      simpa using lengths
    have joined : a.map asciiLower ++ b.map asciiLower ++ c.map asciiLower ++ d.map asciiLower ++
        e.map asciiLower = (a ++ b ++ c ++ d ++ e).map asciiLower := by
      simp
    obtain ⟨digits, spells⟩ := exists_spells hexadecimal
    have lowerSpells : Spells .sixteen ((a ++ b ++ c ++ d ++ e).map asciiLower) digits := by
      rw [Spells, List.map_map, ← spells]
      exact List.map_congr_left fun x _ => digit?_asciiLower .sixteen x
    rw [hyphenated_map_asciiLower]
    constructor
    · refine .groups lowered fun x member => ?_
      rw [joined] at member
      obtain ⟨value, digit⟩ := lowerSpells.digit member
      simp [IsHexadecimal, digit]
    · rw [read_hyphenated lengths spells, read_hyphenated lowered (joined ▸ lowerSpells)]

theorem exists_digits (u : Uuid) :
    ∃ digits, digits.length = 32 ∧ AreDigits 16 u.bits.toNat digits ∧ u.digits = spell digits :=
  exists_hexPadded (by decide) (by simpa using u.bits.isLt)

theorem exists_text (u : Uuid) :
    ∃ a b c d e, [a.length, b.length, c.length, d.length, e.length] = groupLengths ∧
      a ++ b ++ c ++ d ++ e = u.digits ∧ u.text.toList = hyphenated a b c d e := by
  obtain ⟨digits, length, -, written⟩ := exists_digits u
  have size : u.digits.length = 32 := by rw [written, length_spell, length]
  have last : (u.digits.drop 20).take 12 = u.digits.drop 20 :=
    List.take_of_length_le (by simp [size])
  have rejoined := List.take_append_drop 8 u.digits
  rw [← List.take_append_drop 4 (u.digits.drop 8), List.drop_drop,
    ← List.take_append_drop 4 (u.digits.drop 12), List.drop_drop,
    ← List.take_append_drop 4 (u.digits.drop 16), List.drop_drop] at rejoined
  refine ⟨u.digits.take 8, (u.digits.drop 8).take 4, (u.digits.drop 12).take 4,
    (u.digits.drop 16).take 4, u.digits.drop 20, ?_, ?_, ?_⟩
  · simp [size, groupLengths]
  · simpa using rejoined
  · simp [text, cut, groupLengths, hyphenated, last]

theorem isGuidText_text (u : Uuid) : IsGuidText u.text.toList := by
  obtain ⟨digits, -, areDigits, written⟩ := exists_digits u
  obtain ⟨a, b, c, d, e, lengths, joined, shape⟩ := exists_text u
  rw [shape]
  refine .groups lengths ?_
  rw [joined, written]
  exact isHexadecimal_of_mem_spell areDigits.bound

theorem read_text (u : Uuid) : read u.text = .ok u := by
  obtain ⟨digits, -, areDigits, written⟩ := exists_digits u
  obtain ⟨a, b, c, d, e, lengths, joined, shape⟩ := exists_text u
  have spells : Spells .sixteen (a ++ b ++ c ++ d ++ e) digits := by
    rw [joined, written]
    exact spells_spell (.inr rfl) areDigits.bound
  have whole : u.text = String.ofList (hyphenated a b c d e) := by
    rw [← shape, String.ofList_toList]
  rw [whole, read_hyphenated lengths spells, areDigits.value]
  simp

end Uuid
end StagedTables
