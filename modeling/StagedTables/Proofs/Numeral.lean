import Mathlib.Data.List.TakeWhile
import Mathlib.Tactic.Ring
import StagedTables.Number.Numeral
import StagedTables.Text.Quoted

/-! # Digits written and read

`spell` writes digits as characters; every number is the value of the digits that its text spells,
padded or not.  `Spells` relates characters of either case to their digits, and what spells digits
reads as their value, with or without a sign.  A numeral of any text that is read in ten has few
enough digits to be written again. -/
set_option autoImplicit false
namespace StagedTables.Numeral

open StagedTables.Text

def spell (digits : List Nat) : List Char := digits.map Nat.digitChar

@[simp] theorem length_spell (digits : List Nat) : (spell digits).length = digits.length := by
  simp [spell]

@[simp] theorem spell_append (digits more : List Nat) :
    spell (digits ++ more) = spell digits ++ spell more := by
  simp [spell]

theorem forall_spell {digits : List Nat} {p : Char → Prop} {base : Nat}
    (bound : ∀ d ∈ digits, d < base) (all : ∀ d : Fin base, p (Nat.digitChar d)) :
    ∀ c ∈ spell digits, p c := by
  intro c member
  obtain ⟨d, digit, rfl⟩ := List.mem_map.mp member
  exact all ⟨d, bound d digit⟩

/-! ## The value of digits -/

theorem foldl_digits (base : Nat) (digits : List Nat) (start : Nat) :
    digits.foldl (fun value digit => value * base + digit) start =
      start * base ^ digits.length + ofDigits base digits := by
  induction digits generalizing start with
  | nil => simp [ofDigits]
  | cons d digits ih =>
    simp only [ofDigits, List.foldl_cons, List.length_cons]
    rw [ih, ih (0 * base + d), Nat.pow_succ', Nat.add_mul, Nat.mul_assoc]
    simp only [Nat.zero_mul, Nat.zero_add, Nat.add_assoc]

@[simp] theorem ofDigits_nil (base : Nat) : ofDigits base [] = 0 := rfl

theorem ofDigits_cons (base d : Nat) (digits : List Nat) :
    ofDigits base (d :: digits) = d * base ^ digits.length + ofDigits base digits := by
  rw [ofDigits, List.foldl_cons, foldl_digits]
  simp

theorem ofDigits_append (base : Nat) (digits more : List Nat) :
    ofDigits base (digits ++ more) =
      ofDigits base digits * base ^ more.length + ofDigits base more := by
  rw [ofDigits, List.foldl_append, foldl_digits]
  rfl

theorem ofDigits_replicate_zero_append (base count : Nat) (digits : List Nat) :
    ofDigits base (List.replicate count 0 ++ digits) = ofDigits base digits := by
  induction count with
  | zero => simp
  | succ count ih => rw [List.replicate_succ, List.cons_append, ofDigits_cons, ih]; simp

theorem ofDigits_lt {base : Nat} {digits : List Nat} (bound : ∀ d ∈ digits, d < base) :
    ofDigits base digits < base ^ digits.length := by
  induction digits with
  | nil => simp
  | cons d digits ih =>
    have first : d + 1 ≤ base := bound d (by simp)
    have rest := ih fun e member => bound e (by simp [member])
    rw [ofDigits_cons, List.length_cons, Nat.pow_succ']
    calc d * base ^ digits.length + ofDigits base digits
        < d * base ^ digits.length + base ^ digits.length := Nat.add_lt_add_left rest _
      _ = (d + 1) * base ^ digits.length := by rw [Nat.add_mul, Nat.one_mul]
      _ ≤ base * base ^ digits.length := Nat.mul_le_mul_right _ first

theorem ofDigits_inj {base : Nat} {digits more : List Nat} (bound : ∀ d ∈ digits, d < base)
    (bound' : ∀ d ∈ more, d < base) (length : digits.length = more.length)
    (value : ofDigits base digits = ofDigits base more) : digits = more := by
  induction digits generalizing more with
  | nil => exact (List.length_eq_zero_iff.mp length.symm).symm
  | cons d digits ih =>
    cases more with
    | nil => cases length
    | cons e more =>
      have same : digits.length = more.length := Nat.succ.inj length
      obtain ⟨-, small⟩ := List.forall_mem_cons.mp bound
      obtain ⟨-, small'⟩ := List.forall_mem_cons.mp bound'
      have rest := ofDigits_lt small
      have rest' := ofDigits_lt small'
      rw [ofDigits_cons, ofDigits_cons, same] at value
      rw [same] at rest
      have positive : 0 < base ^ more.length := Nat.zero_lt_of_lt rest
      have first : d = e := by
        have quotients := congrArg (· / base ^ more.length) value
        simpa [Nat.mul_add_div, Nat.mul_comm _ (base ^ _), positive, Nat.div_eq_of_lt rest,
          Nat.div_eq_of_lt rest'] using quotients
      subst first
      rw [ih small small' same (Nat.add_left_cancel value)]

/-! ## Numbers are spelled by their digits -/

structure AreDigits (base n : Nat) (digits : List Nat) : Prop where
  bound : ∀ d ∈ digits, d < base
  value : ofDigits base digits = n

theorem exists_toDigits_eq_spell {base : Nat} (one_lt : 1 < base) (n : Nat) :
    ∃ digits, AreDigits base n digits ∧ Nat.toDigits base n = spell digits := by
  induction n using Nat.strongRecOn with
  | ind n ih =>
    by_cases small : n < base
    · refine ⟨[n], ⟨by simpa using small, by simp [ofDigits_cons]⟩, ?_⟩
      rw [Nat.toDigits_of_lt_base small]
      rfl
    · have large : base ≤ n := Nat.le_of_not_lt small
      have positive : 0 < base := by omega
      obtain ⟨digits, areDigits, spelled⟩ := ih (n / base) (Nat.div_lt_self (by omega) one_lt)
      refine ⟨digits ++ [n % base], ⟨?_, ?_⟩, ?_⟩
      · intro d member
        rcases List.mem_append.mp member with member | member
        · exact areDigits.bound d member
        · rw [List.mem_singleton.mp member]
          exact Nat.mod_lt n positive
      · rw [ofDigits_append, areDigits.value]
        simpa [ofDigits_cons, Nat.mul_comm] using Nat.div_add_mod n base
      · rw [Nat.toDigits_of_base_le one_lt large, spelled]
        simp [spell]

theorem exists_padded_eq_spell {base width n : Nat} (one_lt : 1 < base) (positive : 0 < width)
    (fits : n < base ^ width) :
    ∃ digits, digits.length = width ∧ AreDigits base n digits ∧
      List.replicate (width - (Nat.toDigits base n).length) '0' ++ Nat.toDigits base n =
        spell digits := by
  obtain ⟨digits, areDigits, spelled⟩ := exists_toDigits_eq_spell one_lt n
  have short : digits.length ≤ width := by
    rw [← length_spell, ← spelled]
    exact (Nat.length_toDigits_le_iff one_lt positive).mpr fits
  refine ⟨List.replicate (width - digits.length) 0 ++ digits, ?_, ⟨?_, ?_⟩, ?_⟩
  · simp [short]
  · intro d member
    rcases List.mem_append.mp member with member | member
    · rw [(List.mem_replicate.mp member).2]
      omega
    · exact areDigits.bound d member
  · rw [ofDigits_replicate_zero_append, areDigits.value]
  · rw [spelled, length_spell, spell_append]
    simp [spell, Nat.digitChar]

/-! ## Runs of characters -/

/-- A run of the class goes on no further. -/
def EndsRun (p : Char → Bool) (rest : List Char) : Prop := ∀ c ∈ rest.head?, p c = false

theorem endsRun_nil (p : Char → Bool) : EndsRun p [] := by
  simp [EndsRun]

theorem endsRun_cons {p : Char → Bool} {c : Char} (outside : p c = false) (rest : List Char) :
    EndsRun p (c :: rest) := by
  simpa [EndsRun] using outside

theorem endsRun_dropWhile (p : Char → Bool) (cs : List Char) : EndsRun p (cs.dropWhile p) := by
  intro c first
  have stops := List.head?_dropWhile_not p cs
  rwa [Option.mem_def.mp first] at stops

theorem takeWhile_append_of_endsRun {p : Char → Bool} {run rest : List Char}
    (inside : ∀ c ∈ run, p c = true) (ends : EndsRun p rest) :
    (run ++ rest).takeWhile p = run := by
  rw [List.takeWhile_append_of_pos inside]
  cases rest with
  | nil => simp
  | cons c rest => simp [ends c rfl]

theorem dropWhile_append_of_endsRun {p : Char → Bool} {run rest : List Char}
    (inside : ∀ c ∈ run, p c = true) (ends : EndsRun p rest) :
    (run ++ rest).dropWhile p = rest := by
  rw [List.dropWhile_append_of_pos inside]
  cases rest with
  | nil => rfl
  | cons c rest => simp [ends c rfl]

/-! ## Plain characters -/

/-- Characters that stay as they are when a numeral is normalised, wherever they stand. -/
structure IsPlain (c : Char) : Prop where
  ascii : c.toNat < 128
  notBlank : isPlainBlank c = false

instance (c : Char) : Decidable (IsPlain c) :=
  decidable_of_iff (c.toNat < 128 ∧ isPlainBlank c = false)
    ⟨fun ⟨a, b⟩ => ⟨a, b⟩, fun ⟨a, b⟩ => ⟨a, b⟩⟩

theorem dropWhile_eq_self_of_forall {p : Char → Bool} {cs : List Char}
    (outside : ∀ c ∈ cs, p c = false) : cs.dropWhile p = cs := by
  cases cs with
  | nil => rfl
  | cons c cs => rw [List.dropWhile_cons_of_neg (by simp [outside c])]

theorem trimBy_of_forall {drop : Char → Bool} {cs : List Char}
    (outside : ∀ c ∈ cs, drop c = false) : trimBy drop cs = cs := by
  unfold trimBy
  rw [dropWhile_eq_self_of_forall outside,
    dropWhile_eq_self_of_forall fun c member => outside c (List.mem_reverse.mp member),
    List.reverse_reverse]

theorem normalize_of_plain {cs : List Char} (plain : ∀ c ∈ cs, IsPlain c) : normalize cs = cs := by
  have kept : cs.map plainChar = cs := by
    refine (List.map_congr_left fun c member => ?_).trans (List.map_id cs)
    simp [plainChar, (plain c member).ascii]
  rw [normalize, kept]
  exact trimBy_of_forall fun c member => (plain c member).notBlank

/-! ## Characters of digits -/

theorem forall_ascii {p : Char → Prop} (all : ∀ n : Fin 128, p (Char.ofNat n)) {c : Char}
    (ascii : c.toNat < 128) : p c := by
  have here := all ⟨c.toNat, ascii⟩
  rwa [Char.ofNat_toNat] at here

theorem toNat_le {c d : Char} (le : c ≤ d) : c.toNat ≤ d.toNat := le

theorem ascii_of_isAsciiLetter {c : Char} (letter : isAsciiLetter c = true) : c.toNat < 128 := by
  simp only [isAsciiLetter, Bool.or_eq_true, Bool.and_eq_true, decide_eq_true_eq] at letter
  rcases letter with ⟨-, last⟩ | ⟨-, last⟩
  · have : c.toNat ≤ 122 := toNat_le last
    omega
  · have : c.toNat ≤ 90 := toNat_le last
    omega

theorem ascii_of_digit? {base : Base} {c : Char} {d : Nat} (digit : base.digit? c = some d) :
    c.toNat < 128 := by
  have value := (Option.filter_eq_some_iff.mp digit).1
  simp only [digitValue?] at value
  split at value
  · next decimal =>
    simp only [isAsciiDigit, Bool.and_eq_true, decide_eq_true_eq] at decimal
    have : c.toNat ≤ 57 := toNat_le decimal.2
    omega
  split at value
  · next letter => exact ascii_of_isAsciiLetter letter
  · cases value

structure IsBareDigit (c : Char) : Prop where
  plain : IsPlain c
  notUnderscore : c ≠ '_'
  notSign : c ≠ '-' ∧ c ≠ '+'

instance (c : Char) : Decidable (IsBareDigit c) :=
  decidable_of_iff (IsPlain c ∧ c ≠ '_' ∧ c ≠ '-' ∧ c ≠ '+')
    ⟨fun ⟨a, b, d⟩ => ⟨a, b, d⟩, fun ⟨a, b, d⟩ => ⟨a, b, d⟩⟩

theorem isBareDigit_of_digit? {base : Base} {c : Char} {d : Nat}
    (digit : base.digit? c = some d) : IsBareDigit c := by
  have all : ∀ n : Fin 128, (digitValue? (Char.ofNat n)).isSome = true →
      IsBareDigit (Char.ofNat n) := by decide
  have value := (Option.filter_eq_some_iff.mp digit).1
  exact forall_ascii (p := fun c => (digitValue? c).isSome = true → IsBareDigit c) all
    (ascii_of_digit? digit) (by simp [value])

/-- The characters `cs` stand for the digits `digits`. -/
def Spells (base : Base) (cs : List Char) (digits : List Nat) : Prop :=
  cs.map base.digit? = digits.map some

theorem Spells.digit {base : Base} {cs : List Char} {digits : List Nat}
    (spells : Spells base cs digits) {c : Char} (member : c ∈ cs) :
    ∃ d, base.digit? c = some d := by
  have image : base.digit? c ∈ digits.map some := spells ▸ List.mem_map_of_mem member
  obtain ⟨d, -, same⟩ := List.mem_map.mp image
  exact ⟨d, same.symm⟩

theorem Spells.isBareDigit {base : Base} {cs : List Char} {digits : List Nat}
    (spells : Spells base cs digits) {c : Char} (member : c ∈ cs) : IsBareDigit c := by
  obtain ⟨d, digit⟩ := spells.digit member
  exact isBareDigit_of_digit? digit

theorem Spells.filterMap {base : Base} {cs : List Char} {digits : List Nat}
    (spells : Spells base cs digits) : cs.filterMap base.digit? = digits := by
  have mapped : (cs.map base.digit?).filterMap id = digits := by
    rw [spells]
    simp
  simpa [List.filterMap_map] using mapped

theorem spells_spell {base : Base} (written : base = .ten ∨ base = .sixteen) {digits : List Nat}
    (bound : ∀ d ∈ digits, d < base.toNat) : Spells base (spell digits) digits := by
  have digit : ∀ d < base.toNat, base.digit? (Nat.digitChar d) = some d := by
    intro d small
    rcases written with rfl | rfl
    · have all : ∀ d : Fin 10, Base.digit? .ten (Nat.digitChar d) = some d.val := by decide
      exact all ⟨d, small⟩
    · have all : ∀ d : Fin 16, Base.digit? .sixteen (Nat.digitChar d) = some d.val := by decide
      exact all ⟨d, small⟩
  unfold Spells spell
  rw [List.map_map]
  exact List.map_congr_left fun d member => digit d (bound d member)

/-! ## Reading digits -/

theorem singleUnderscores_of_forall {run : List Char} (none : ∀ c ∈ run, c ≠ '_') :
    SingleUnderscores run := by
  refine ⟨fun first => ?_, fun last => ?_, fun pair member doubled => ?_⟩
  · exact none '_' (List.mem_of_head? first) rfl
  · exact none '_' (List.mem_of_getLast? last) rfl
  · have first := (List.of_mem_zip (doubled ▸ member)).1
    exact none '_' first rfl

section Reading

variable {base : Base} {cs : List Char} {digits : List Nat} (spells : Spells base cs digits)

include spells

theorem natural?_of_spells (nonempty : cs ≠ [])
    (short : base = .ten → digits.length ≤ integerDigitLimit) :
    natural? base cs = .ok (ofDigits base.toNat digits) := by
  have inRun : ∀ c ∈ cs, (c == '_' || (base.digit? c).isSome) = true := by
    intro c member
    obtain ⟨d, digit⟩ := spells.digit member
    simp [digit]
  have noUnderscore : ∀ c ∈ cs, c ≠ '_' := fun c member => (spells.isBareDigit member).notUnderscore
  have taken : cs.takeWhile (fun c => c == '_' || (base.digit? c).isSome) = cs :=
    List.takeWhile_eq_self_iff.mpr inRun
  have dropped : cs.dropWhile (fun c => c == '_' || (base.digit? c).isSome) = [] :=
    List.dropWhile_eq_nil_iff.mpr inRun
  have within : ¬ (base = .ten ∧ integerDigitLimit < digits.length) := by
    rintro ⟨ten, long⟩
    exact absurd (short ten) (Nat.not_le.mpr long)
  simp only [natural?, taken, dropped, spells.filterMap]
  rw [if_neg (by simp [nonempty, singleUnderscores_of_forall noUnderscore]), if_neg within,
    if_neg (by simp)]

theorem dropBaseMark_of_spells : dropBaseMark base cs = cs := by
  have noMark : ∀ n : Fin 128, ∀ base : Base, (base.digit? (Char.ofNat n)).isSome = true →
      base.mark? ≠ some (asciiLower (Char.ofNat n)) := by
    intro n base
    cases base <;> revert n <;> decide
  unfold dropBaseMark
  split
  · next mark rest =>
    obtain ⟨d, digit⟩ := spells.digit (c := mark) (by simp)
    have unmarked := forall_ascii
      (p := fun c => (base.digit? c).isSome = true → base.mark? ≠ some (asciiLower c))
      (fun n => noMark n base) (ascii_of_digit? digit) (by simp [digit])
    rw [if_neg unmarked]
  · rfl

theorem splitSign_of_spells : splitSign cs = (false, cs) := by
  unfold splitSign
  split
  · exact absurd rfl (spells.isBareDigit (c := '-') (by simp)).notSign.1
  · exact absurd rfl (spells.isBareDigit (c := '+') (by simp)).notSign.2
  · rfl

theorem integer?_of_spells (nonempty : cs ≠ [])
    (short : base = .ten → digits.length ≤ integerDigitLimit) :
    integer? base cs = .ok (ofDigits base.toNat digits) := by
  have plain : ∀ c ∈ cs, IsPlain c := fun c member => (spells.isBareDigit member).plain
  simp only [integer?, normalize_of_plain plain, splitSign_of_spells spells,
    dropBaseMark_of_spells spells, natural?_of_spells spells nonempty short]
  rfl

theorem integer?_minus_of_spells (nonempty : cs ≠ [])
    (short : base = .ten → digits.length ≤ integerDigitLimit) :
    integer? base ('-' :: cs) = .ok (-(ofDigits base.toNat digits : Int)) := by
  have plain : ∀ c ∈ '-' :: cs, IsPlain c := by
    intro c member
    rcases List.mem_cons.mp member with rfl | member
    · decide
    · exact (spells.isBareDigit member).plain
  simp only [integer?, normalize_of_plain plain, splitSign, dropBaseMark_of_spells spells,
    natural?_of_spells spells nonempty short]
  rfl

end Reading

/-! ## The size of what is read -/

theorem digit?_lt {base : Base} {c : Char} {d : Nat} (digit : base.digit? c = some d) :
    d < base.toNat := by
  simpa using (Option.filter_eq_some_iff.mp digit).2

theorem Spells.bound {base : Base} {cs : List Char} {digits : List Nat}
    (spells : Spells base cs digits) : ∀ d ∈ digits, d < base.toNat := by
  intro d member
  obtain ⟨c, -, digit⟩ := List.mem_filterMap.mp (spells.filterMap ▸ member)
  exact digit?_lt digit

theorem Spells.length_eq {base : Base} {cs : List Char} {digits : List Nat}
    (spells : Spells base cs digits) : cs.length = digits.length := by
  simpa using congrArg List.length spells

/-- The value of digits has no more digits than these, but for the one of zero. -/
theorem length_toDigits_ofDigits_le {base limit : Nat} (one_lt : 1 < base) (positive : 0 < limit)
    {digits : List Nat} (bound : ∀ d ∈ digits, d < base) (short : digits.length ≤ limit) :
    (Nat.toDigits base (ofDigits base digits)).length ≤ limit := by
  rw [Nat.length_toDigits_le_iff one_lt positive]
  have powers := Nat.pow_le_pow_right (Nat.lt_of_succ_lt one_lt) short
  exact Nat.lt_of_lt_of_le (ofDigits_lt bound) powers

/-- A number with no more digits than an integer may be read or written with. -/
def HasFewDigits (n : Nat) : Prop := (Nat.toDigits 10 n).length ≤ integerDigitLimit

theorem natural?_ten_hasFewDigits {cs : List Char} {n : Nat} (read : natural? .ten cs = .ok n) :
    HasFewDigits n := by
  simp only [natural?] at read
  split at read
  · cases read
  split at read
  · cases read
  split at read
  · cases read
  · next long _ =>
    cases read
    generalize run : (cs.takeWhile fun c => c == '_' || (Base.ten.digit? c).isSome).filterMap
      Base.ten.digit? = digits at long ⊢
    have bound : ∀ d ∈ digits, d < 10 := by
      intro d member
      obtain ⟨c, -, digit⟩ := List.mem_filterMap.mp (run ▸ member)
      exact digit?_lt digit
    have short : digits.length ≤ integerDigitLimit := by simpa using long
    exact length_toDigits_ofDigits_le (by decide) (by decide) bound short

theorem integer?_ten_hasFewDigits {cs : List Char} {n : Int} (read : integer? .ten cs = .ok n) :
    HasFewDigits n.natAbs := by
  simp only [integer?] at read
  cases natural : natural? .ten (dropBaseMark .ten (splitSign (normalize cs)).2) with
  | error fault => rw [natural] at read; cases read
  | ok m =>
    rw [natural] at read
    have size : n.natAbs = m := by
      cases read
      split <;> simp
    rw [size]
    exact natural?_ten_hasFewDigits natural

end StagedTables.Numeral
