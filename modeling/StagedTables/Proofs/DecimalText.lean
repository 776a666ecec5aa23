import StagedTables.Proofs.Numeral
import StagedTables.Proofs.Rounding

/-! # Decimal numerals as written

A numeral is written with digits before the point, perhaps a point and digits after it, and perhaps
an exponent with its sign.  Reading gives the double nearest to its value; every layout of the
shortest digits of a double is such a numeral of the same value, and so the text of a double reads
back as that double. -/
set_option autoImplicit false
namespace StagedTables.Numeral

open StagedTables.Text

/-- An unsigned numeral in ten. -/
structure Written where
  whole : List Nat
  fraction : Option (List Nat)
  exponent : Option (Bool × List Nat)
  whole_lt : ∀ d ∈ whole, d < 10
  whole_ne_nil : whole ≠ []
  fraction_lt : ∀ digits ∈ fraction, ∀ d ∈ digits, d < 10
  exponent_lt : ∀ mark ∈ exponent, ∀ d ∈ mark.2, d < 10
  exponent_ne_nil : ∀ mark ∈ exponent, mark.2 ≠ []

namespace Written

def fractionChars (w : Written) : List Char :=
  match w.fraction with
  | some digits => '.' :: spell digits
  | none => []

def exponentChars (w : Written) : List Char :=
  match w.exponent with
  | some (negative, digits) => 'e' :: (if negative then '-' else '+') :: spell digits
  | none => []

def chars (w : Written) : List Char :=
  spell w.whole ++ (w.fractionChars ++ w.exponentChars)

def digits (w : Written) : List Nat := w.whole ++ w.fraction.getD []

def exponentValue (w : Written) : Int :=
  match w.exponent with
  | some (negative, digits) =>
    if negative then -(ofDigits 10 digits : Int) else ofDigits 10 digits
  | none => 0

def double (negative : Bool) (w : Written) : Double :=
  .ofDecimal negative (ofDigits 10 w.digits) (w.exponentValue - (w.fraction.getD []).length)

end Written

/-! ## Reading a written numeral -/

theorem isAsciiDigit_of_mem_spell {digits : List Nat} (bound : ∀ d ∈ digits, d < 10) :
    ∀ c ∈ spell digits, isAsciiDigit c = true :=
  forall_spell bound (by decide)

theorem ofDigitChars_spell {digits : List Nat} (bound : ∀ d ∈ digits, d < 10) :
    Nat.ofDigitChars 10 (spell digits) 0 = ofDigits 10 digits := by
  have step : ∀ start, Nat.ofDigitChars 10 (spell digits) start =
      digits.foldl (fun value digit => value * 10 + digit) start := by
    induction digits with
    | nil => exact fun start => Nat.ofDigitChars_nil
    | cons d digits ih =>
      intro start
      rw [spell, List.map_cons, Nat.ofDigitChars_cons_digitChar_of_lt_ten (bound d (by simp)),
        List.foldl_cons, Nat.mul_comm 10]
      exact ih (fun e member => bound e (by simp [member])) _
  exact step 0

theorem exponent?_chars (w : Written) : exponent? w.exponentChars = some w.exponentValue := by
  unfold Written.exponentChars Written.exponentValue
  cases mark : w.exponent with
  | none => rfl
  | some signed =>
    obtain ⟨negative, digits⟩ := signed
    have bound := w.exponent_lt _ mark
    have nonempty : spell digits ≠ [] := by
      simpa [spell] using w.exponent_ne_nil _ mark
    have all : (spell digits).all isAsciiDigit = true :=
      List.all_eq_true.mpr (isAsciiDigit_of_mem_spell bound)
    cases negative <;>
      simp [exponent?, splitSign, nonempty, all, ofDigitChars_spell bound]

theorem endsRun_exponentChars (w : Written) : EndsRun isAsciiDigit w.exponentChars := by
  unfold Written.exponentChars
  split
  · exact endsRun_cons (by decide) _
  · exact endsRun_nil _

theorem endsRun_fractionChars (w : Written) :
    EndsRun isAsciiDigit (w.fractionChars ++ w.exponentChars) := by
  unfold Written.fractionChars
  split
  · exact endsRun_cons (by decide) _
  · exact endsRun_exponentChars w

theorem exponentChars_ne_point (w : Written) (rest : List Char) :
    w.exponentChars ≠ '.' :: rest := by
  unfold Written.exponentChars
  split <;> simp

theorem decimal?_chars (negative : Bool) (w : Written) :
    decimal? negative w.chars = some (w.double negative) := by
  have inWhole := isAsciiDigit_of_mem_spell w.whole_lt
  have whole := takeWhile_append_of_endsRun inWhole (endsRun_fractionChars w)
  have after := dropWhile_append_of_endsRun inWhole (endsRun_fractionChars w)
  have nonempty : spell w.whole ≠ [] := by simpa [spell] using w.whole_ne_nil
  unfold Written.double Written.digits
  simp only [decimal?, Written.chars, whole, after]
  cases fraction : w.fraction with
  | none =>
    have chars : w.fractionChars = [] := by simp [Written.fractionChars, fraction]
    simp only [chars, List.nil_append, Option.getD_none, List.append_nil]
    split
    · next rest point => exact absurd point (exponentChars_ne_point w rest)
    · simp [nonempty, exponent?_chars, ofDigitChars_spell w.whole_lt]
  | some digits =>
    have bound := w.fraction_lt digits fraction
    have inFraction := isAsciiDigit_of_mem_spell bound
    have ends := endsRun_exponentChars w
    have chars : w.fractionChars = '.' :: spell digits := by simp [Written.fractionChars, fraction]
    have both : ∀ d ∈ w.whole ++ digits, d < 10 := by
      intro d member
      exact (List.mem_append.mp member).elim (w.whole_lt d) (bound d)
    simp only [chars, List.cons_append, takeWhile_append_of_endsRun inFraction ends,
      dropWhile_append_of_endsRun inFraction ends, exponent?_chars, ← spell_append,
      ofDigitChars_spell both, Option.getD_some, length_spell]
    simp [nonempty]

/-! ## A written numeral with its sign -/

def signChars (negative : Bool) : List Char := if negative then ['-'] else []

theorem Written.exists_first (w : Written) :
    ∃ d rest, d < 10 ∧ w.chars = Nat.digitChar d :: rest := by
  cases whole : w.whole with
  | nil => exact absurd whole w.whole_ne_nil
  | cons d digits =>
    refine ⟨d, spell digits ++ (w.fractionChars ++ w.exponentChars), ?_, ?_⟩
    · exact w.whole_lt d (by simp [whole])
    · simp [Written.chars, whole, spell]

theorem Written.forall_chars {p : Char → Prop} (digit : ∀ d : Fin 10, p (Nat.digitChar d))
    (point : p '.') (mark : p 'e') (plus : p '+') (minus : p '-') (w : Written) :
    ∀ c ∈ w.chars, p c := by
  intro c member
  simp only [Written.chars, List.mem_append] at member
  rcases member with whole | fraction | exponent
  · exact forall_spell w.whole_lt digit c whole
  · unfold Written.fractionChars at fraction
    split at fraction
    · next digits shape =>
      rcases List.mem_cons.mp fraction with rfl | member
      · exact point
      · exact forall_spell (w.fraction_lt digits shape) digit c member
    · cases fraction
  · unfold Written.exponentChars at exponent
    split at exponent
    · next negative digits shape =>
      simp only [List.mem_cons] at exponent
      rcases exponent with rfl | rfl | member
      · exact mark
      · cases negative
        · exact plus
        · exact minus
      · exact forall_spell (w.exponent_lt _ shape) digit c member
    · cases exponent

theorem dropUnderscores?_of_forall {cs : List Char} (none : ∀ c ∈ cs, c ≠ '_')
    (previous : Option Char) : dropUnderscores? previous cs = some cs := by
  induction cs generalizing previous with
  | nil => rfl
  | cons c cs ih =>
    have first : c ≠ '_' := none c (by simp)
    have rest := ih (fun d member => none d (by simp [member])) (some c)
    unfold dropUnderscores?
    split
    · next shape => cases shape
    · next shape => exact absurd (List.cons.inj shape).1 first
    · next shape =>
      obtain ⟨rfl, rfl⟩ := List.cons.inj shape
      simp [first, rest]

theorem splitSign_chars (negative : Bool) (w : Written) :
    splitSign (signChars negative ++ w.chars) = (negative, w.chars) := by
  cases negative with
  | true => rfl
  | false =>
    obtain ⟨d, rest, small, shape⟩ := w.exists_first
    have unsigned : ∀ d : Fin 10, Nat.digitChar d ≠ '-' ∧ Nat.digitChar d ≠ '+' := by decide
    have first := unsigned ⟨d, small⟩
    rw [signChars, if_neg (by decide), List.nil_append, shape]
    unfold splitSign
    split
    · next minus => exact absurd (List.cons.inj minus).1 first.1
    · next plus => exact absurd (List.cons.inj plus).1 first.2
    · rfl

theorem bareDouble?_chars (negative : Bool) (w : Written) :
    bareDouble? (signChars negative ++ w.chars) = some (w.double negative) := by
  obtain ⟨d, rest, small, shape⟩ := w.exists_first
  have letters : ∀ d : Fin 10, asciiLower (Nat.digitChar d) ≠ 'i' ∧
      asciiLower (Nat.digitChar d) ≠ 'n' := by decide
  have first := letters ⟨d, small⟩
  have other : ∀ word : String, word.toList.head? ≠ some (asciiLower (Nat.digitChar d)) →
      String.ofList (w.chars.map asciiLower) ≠ word := by
    rintro word different rfl
    simp [shape] at different
  have noInf := other "inf" (by simpa using first.1.symm)
  have noInfinity := other "infinity" (by simpa using first.1.symm)
  have noNan := other "nan" (by simpa using first.2.symm)
  simp only [bareDouble?, splitSign_chars, noInf, noInfinity, noNan, or_self, if_false,
    decimal?_chars]

theorem double?_chars (negative : Bool) (w : Written) :
    double? (signChars negative ++ w.chars) = some (w.double negative) := by
  have unsigned : ∀ c ∈ w.chars, IsPlain c ∧ c ≠ '_' :=
    w.forall_chars (by decide) (by decide) (by decide) (by decide) (by decide)
  have plain : ∀ c ∈ signChars negative ++ w.chars, IsPlain c ∧ c ≠ '_' := by
    intro c member
    rcases List.mem_append.mp member with sign | member
    · cases negative with
      | true =>
        rw [List.mem_singleton.mp sign]
        decide
      | false => cases sign
    · exact unsigned c member
  rw [double?, normalize_of_plain fun c member => (plain c member).1,
    dropUnderscores?_of_forall fun c member => (plain c member).2]
  exact bareDouble?_chars negative w

/-! ## Layouts of digits -/

theorem zeros_eq_spell (count : Nat) : Double.zeros count = spell (List.replicate count 0) := by
  simp [Double.zeros, spell, Nat.digitChar]

theorem dropZeros_spell (digits : List Nat) (bound : ∀ d ∈ digits, d < 10) :
    ∃ rest count, digits = List.replicate count 0 ++ rest ∧
      (spell digits).dropWhile (· == '0') = spell rest := by
  induction digits with
  | nil => exact ⟨[], 0, rfl, rfl⟩
  | cons d digits ih =>
    by_cases zero : d = 0
    · obtain ⟨rest, count, shape, dropped⟩ := ih fun e member => bound e (by simp [member])
      refine ⟨rest, count + 1, by rw [zero, shape]; rfl, ?_⟩
      rw [zero, spell, List.map_cons, List.dropWhile_cons_of_pos (by decide)]
      exact dropped
    · have distinct : ∀ d : Fin 10, d.val ≠ 0 → (Nat.digitChar d == '0') = false := by decide
      have first := distinct ⟨d, bound d (by simp)⟩ zero
      refine ⟨d :: digits, 0, rfl, ?_⟩
      rw [spell, List.map_cons, List.dropWhile_cons_of_neg (by simp [first])]

/-- Digits without the zeros at their end, of which there are `count`. -/
structure AreTrimmed (n : Nat) (digits : List Nat) (count : Nat) : Prop where
  bound : ∀ d ∈ digits, d < 10
  ne_nil : digits ≠ []
  spelled : Double.trimmedDigits n = spell digits
  value : n = ofDigits 10 digits * Nat.pow 10 count
  length : (Nat.toDigits 10 n).length = digits.length + count

theorem exists_areTrimmed (n : Nat) : ∃ digits count, AreTrimmed n digits count := by
  obtain ⟨all, areDigits, written⟩ := exists_toDigits_eq_spell (show 1 < 10 by decide) n
  have reversed : (spell all).reverse = spell all.reverse := by simp [spell]
  obtain ⟨rest, count, shape, dropped⟩ := dropZeros_spell all.reverse fun d member =>
    areDigits.bound d (List.mem_reverse.mp member)
  have split : all = rest.reverse ++ List.replicate count 0 := by
    rw [← List.reverse_reverse all, shape, List.reverse_append, List.reverse_replicate]
  have back : (spell rest).reverse = spell rest.reverse := by simp [spell]
  have value : n = ofDigits 10 rest.reverse * Nat.pow 10 count := by
    have zeros := ofDigits_replicate_zero_append 10 count []
    rw [List.append_nil, ofDigits_nil] at zeros
    rw [← areDigits.value, split, ofDigits_append, zeros, List.length_replicate]
    rfl
  by_cases empty : rest = []
  · subst empty
    have zero : n = 0 := by simpa using value
    subst zero
    exact ⟨[0], 0, ⟨by decide, by decide, rfl, rfl, rfl⟩⟩
  · refine ⟨rest.reverse, count, ⟨?_, by simpa using empty, ?_, value, ?_⟩⟩
    · intro d member
      exact areDigits.bound d (by simp [split, List.mem_reverse.mp member])
    · have nonempty : spell rest.reverse ≠ [] := by simpa [spell] using empty
      unfold Double.trimmedDigits
      rw [written, reversed, dropped, back]
      split
      · next none => exact absurd none nonempty
      · rfl
    · rw [written, split]
      simp

def Written.bare (whole : List Nat) (whole_lt : ∀ d ∈ whole, d < 10) (whole_ne_nil : whole ≠ []) :
    Written where
  whole := whole
  fraction := none
  exponent := none
  whole_lt := whole_lt
  whole_ne_nil := whole_ne_nil
  fraction_lt := by simp
  exponent_lt := by simp
  exponent_ne_nil := by simp

def Written.pointed (whole fraction : List Nat) (whole_lt : ∀ d ∈ whole, d < 10)
    (whole_ne_nil : whole ≠ []) (fraction_lt : ∀ d ∈ fraction, d < 10) : Written where
  whole := whole
  fraction := some fraction
  exponent := none
  whole_lt := whole_lt
  whole_ne_nil := whole_ne_nil
  fraction_lt := by simpa using fraction_lt
  exponent_lt := by simp
  exponent_ne_nil := by simp

/-- A numeral that is no integer by its form. -/
def Written.HasMark (w : Written) : Prop := w.fraction ≠ none ∨ w.exponent ≠ none

theorem Written.hasMark_pointed (whole fraction : List Nat) (whole_lt : ∀ d ∈ whole, d < 10)
    (whole_ne_nil : whole ≠ []) (fraction_lt : ∀ d ∈ fraction, d < 10) :
    (pointed whole fraction whole_lt whole_ne_nil fraction_lt).HasMark := by
  left
  simp [pointed]

theorem Written.chars_pointed {whole fraction : List Nat} (whole_lt : ∀ d ∈ whole, d < 10)
    (whole_ne_nil : whole ≠ []) (fraction_lt : ∀ d ∈ fraction, d < 10) :
    (pointed whole fraction whole_lt whole_ne_nil fraction_lt).chars =
      spell whole ++ '.' :: spell fraction := by
  simp [chars, pointed, fractionChars, exponentChars]

theorem Written.double_pointed {whole fraction : List Nat} (whole_lt : ∀ d ∈ whole, d < 10)
    (whole_ne_nil : whole ≠ []) (fraction_lt : ∀ d ∈ fraction, d < 10) (negative : Bool) :
    (pointed whole fraction whole_lt whole_ne_nil fraction_lt).double negative =
      .ofDecimal negative (ofDigits 10 (whole ++ fraction)) (-(fraction.length : Int)) := by
  simp [double, pointed, Written.digits, exponentValue]

def Written.scientific (first : Nat) (rest : List Nat) (below : Bool) (power : List Nat)
    (first_lt : first < 10) (rest_lt : ∀ d ∈ rest, d < 10) (power_lt : ∀ d ∈ power, d < 10)
    (power_ne_nil : power ≠ []) : Written where
  whole := [first]
  fraction := if rest = [] then none else some rest
  exponent := some (below, power)
  whole_lt := by simpa using first_lt
  whole_ne_nil := by simp
  fraction_lt := by
    intro digits member
    split at member
    · cases member
    · cases member
      exact rest_lt
  exponent_lt := by simpa using power_lt
  exponent_ne_nil := by simpa using power_ne_nil

section Scientific

variable {first : Nat} {rest power : List Nat} (below : Bool) (first_lt : first < 10)
  (rest_lt : ∀ d ∈ rest, d < 10) (power_lt : ∀ d ∈ power, d < 10) (power_ne_nil : power ≠ [])

theorem Written.chars_scientific :
    (scientific first rest below power first_lt rest_lt power_lt power_ne_nil).chars =
      Nat.digitChar first :: (if rest = [] then [] else '.' :: spell rest) ++
        'e' :: (if below then '-' else '+') :: spell power := by
  by_cases short : rest = []
  · simp [chars, scientific, fractionChars, exponentChars, spell, short]
  · simp [chars, scientific, fractionChars, exponentChars, spell, short]

theorem Written.double_scientific (negative : Bool) :
    (scientific first rest below power first_lt rest_lt power_lt power_ne_nil).double negative =
      .ofDecimal negative (ofDigits 10 (first :: rest))
        ((if below then -(ofDigits 10 power : Int) else ofDigits 10 power) - rest.length) := by
  have fraction : (if rest = [] then none else some rest).getD [] = rest := by
    by_cases short : rest = [] <;> simp [short]
  simp [double, scientific, Written.digits, exponentValue, fraction]

end Scientific

/-- `w` is written as `cs`, with a mark, and is the numeral `n * 10 ^ exponent`. -/
structure Writes (cs : List Char) (n : Nat) (exponent : Int) (w : Written) : Prop where
  chars : cs = w.chars
  marked : w.HasMark
  double : ∀ negative, w.double negative = .ofDecimal negative n exponent

theorem forall_replicate_zero (count : Nat) : ∀ d ∈ List.replicate count 0, d < 10 := by
  intro d member
  rw [(List.mem_replicate.mp member).2]
  decide

theorem ofDigits_append_zeros (digits : List Nat) (count : Nat) :
    ofDigits 10 (digits ++ List.replicate count 0) = ofDigits 10 digits * Nat.pow 10 count := by
  have zeros := ofDigits_replicate_zero_append 10 count []
  rw [List.append_nil, ofDigits_nil] at zeros
  rw [ofDigits_append, zeros, List.length_replicate]
  rfl

theorem exists_exponentDigits (width : Nat) (exponent : Int) :
    ∃ power, (∀ d ∈ power, d < 10) ∧ power ≠ [] ∧
      Double.zeros (width - (Nat.toDigits 10 exponent.natAbs).length) ++
        Nat.toDigits 10 exponent.natAbs = spell power ∧
      ofDigits 10 power = exponent.natAbs := by
  obtain ⟨power, areDigits, written⟩ :=
    exists_toDigits_eq_spell (show 1 < 10 by decide) exponent.natAbs
  have length : 0 < (Nat.toDigits 10 exponent.natAbs).length := Nat.length_toDigits_pos
  rw [written, length_spell] at length
  refine ⟨List.replicate (width - (Nat.toDigits 10 exponent.natAbs).length) 0 ++ power,
    List.forall_mem_append.mpr ⟨forall_replicate_zero _, areDigits.bound⟩, ?_, ?_, ?_⟩
  · simpa using fun _ => List.ne_nil_of_length_pos length
  · rw [zeros_eq_spell, spell_append, ← written]
  · rw [ofDigits_replicate_zero_append, areDigits.value]

section Layouts

variable {digits : List Nat} (bound : ∀ d ∈ digits, d < 10)

include bound

theorem exists_writes_leading {point : Int} (leading : point ≤ 0) :
    ∃ w, Writes (Double.positional (spell digits) point) (ofDigits 10 digits)
      (point - digits.length) w := by
  have zeros := forall_replicate_zero (-point).toNat
  have fraction := List.forall_mem_append.mpr ⟨zeros, bound⟩
  refine ⟨.pointed [0] _ (by decide) (by decide) fraction,
    ⟨?_, Written.hasMark_pointed .., fun negative => ?_⟩⟩
  · rw [Double.positional, if_pos leading, zeros_eq_spell, Written.chars_pointed, spell_append]
    rfl
  · have value := ofDigits_replicate_zero_append 10 ((-point).toNat + 1) digits
    rw [List.replicate_succ, List.cons_append] at value
    have places : (-(((List.replicate (-point).toNat 0 ++ digits).length : Nat) : Int)) =
        point - digits.length := by
      rw [List.length_append, List.length_replicate]
      omega
    rw [Written.double_pointed, List.singleton_append, value, places]

variable (nonempty : digits ≠ [])

include nonempty

theorem exists_writes_padded {point : Int} (inside : ¬ point ≤ 0)
    (whole : digits.length ≤ point.toNat) :
    ∃ w, Writes (Double.positional (spell digits) point) (ofDigits 10 digits)
      (point - digits.length) w := by
  have zeros := forall_replicate_zero (point.toNat - digits.length)
  have padded := List.forall_mem_append.mpr ⟨bound, zeros⟩
  refine ⟨.pointed _ [0] padded (by simp [nonempty]) (by decide),
    ⟨?_, Written.hasMark_pointed .., fun negative => ?_⟩⟩
  · rw [Double.positional, if_neg inside, length_spell, if_pos whole, zeros_eq_spell,
      Written.chars_pointed, spell_append]
    rfl
  · have one : [0] = List.replicate 1 0 := rfl
    have places : (-((([0] : List Nat).length : Nat) : Int)) +
        ((point.toNat - digits.length + 1 : Nat) : Int) = point - digits.length := by
      simp only [List.length_singleton]
      omega
    rw [Written.double_pointed, one, List.append_assoc, List.replicate_append_replicate,
      ofDigits_append_zeros, Double.ofDecimal_mul_pow, ← one, places]

theorem exists_writes_split {point : Int} (inside : ¬ point ≤ 0)
    (short : ¬ digits.length ≤ point.toNat) :
    ∃ w, Writes (Double.positional (spell digits) point) (ofDigits 10 digits)
      (point - digits.length) w := by
  have taken : ∀ d ∈ digits.take point.toNat, d < 10 := fun d member =>
    bound d (List.mem_of_mem_take member)
  have dropped : ∀ d ∈ digits.drop point.toNat, d < 10 := fun d member =>
    bound d (List.mem_of_mem_drop member)
  have first : digits.take point.toNat ≠ [] := by
    simp only [ne_eq, List.take_eq_nil_iff, not_or]
    exact ⟨by omega, nonempty⟩
  refine ⟨.pointed _ _ taken first dropped,
    ⟨?_, Written.hasMark_pointed .., fun negative => ?_⟩⟩
  · rw [Double.positional, if_neg inside, length_spell, if_neg short, Written.chars_pointed]
    simp [spell]
  · have places : (-(((digits.drop point.toNat).length : Nat) : Int)) =
        point - digits.length := by
      rw [List.length_drop]
      omega
    rw [Written.double_pointed, List.take_append_drop, places]

theorem exists_positional (point : Int) :
    ∃ w, Writes (Double.positional (spell digits) point) (ofDigits 10 digits)
      (point - digits.length) w := by
  by_cases leading : point ≤ 0
  · exact exists_writes_leading bound leading
  by_cases whole : digits.length ≤ point.toNat
  · exact exists_writes_padded bound nonempty leading whole
  · exact exists_writes_split bound nonempty leading whole

theorem exists_scientific (layout : Double.Layout) (point : Int) :
    ∃ w, Writes (Double.scientific layout (spell digits) (point - 1)) (ofDigits 10 digits)
      (point - digits.length) w := by
  obtain ⟨power, power_lt, power_ne_nil, written, value⟩ :=
    exists_exponentDigits layout.exponentWidth (point - 1)
  obtain ⟨first, rest, rfl⟩ := List.exists_cons_of_ne_nil nonempty
  have bounds := List.forall_mem_cons.mp bound
  refine ⟨.scientific first rest (decide (point - 1 < 0)) power bounds.1 bounds.2 power_lt
    power_ne_nil, ⟨?_, .inr (by simp [Written.scientific]), fun negative => ?_⟩⟩
  · rw [Written.chars_scientific, ← written]
    cases rest with
    | nil => simp [Double.scientific, spell]
    | cons second more => simp [Double.scientific, spell]
  · have power : (if decide (point - 1 < 0) then -(ofDigits 10 power : Int)
        else ofDigits 10 power) = point - 1 := by
      rw [value]
      by_cases below : point - 1 < 0
      · rw [if_pos (by simpa using below)]
        omega
      · rw [if_neg (by simpa using below)]
        omega
    have places : point - 1 - (rest.length : Int) = point - ((first :: rest).length : Nat) := by
      rw [List.length_cons]
      omega
    rw [Written.double_scientific, power, places]

end Layouts

/-- The place of the point, as `renderDigits` computes it, for digits without zeros at the end. -/
theorem ofDecimal_point {numeral : Double.ScaledDigits} {digits : List Nat} {count : Nat}
    (trimmed : AreTrimmed numeral.digits digits count) (negative : Bool) :
    Double.ofDecimal negative (ofDigits 10 digits)
      ((if numeral.digits = 0 then 1
        else numeral.exponent + (Nat.toDigits 10 numeral.digits).length) - digits.length) =
      .ofDecimal negative numeral.digits numeral.exponent := by
  by_cases zero : numeral.digits = 0
  · have none : ofDigits 10 digits = 0 := by
      have value := trimmed.value
      rw [zero] at value
      exact (Nat.mul_eq_zero.mp value.symm).resolve_right
        (Nat.ne_of_gt (Double.pow_ten_pos count))
    rw [zero, none, Double.ofDecimal_zero, Double.ofDecimal_zero]
  · have places : numeral.exponent + ((Nat.toDigits 10 numeral.digits).length : Int) -
        digits.length = numeral.exponent + count := by
      rw [trimmed.length]
      omega
    rw [if_neg zero, places, ← Double.ofDecimal_mul_pow, ← trimmed.value]

theorem exists_renderDigits (layout : Double.Layout) (numeral : Double.ScaledDigits) :
    ∃ w, Writes (Double.renderDigits layout numeral) numeral.digits numeral.exponent w := by
  obtain ⟨digits, count, trimmed⟩ := exists_areTrimmed numeral.digits
  have same := ofDecimal_point trimmed
  unfold Double.renderDigits
  rw [trimmed.spelled]
  generalize (if numeral.digits = 0 then (1 : Int)
    else numeral.exponent + (Nat.toDigits 10 numeral.digits).length) = point at same ⊢
  dsimp only
  split
  · obtain ⟨w, written⟩ := exists_positional trimmed.bound trimmed.ne_nil point
    exact ⟨w, written.chars, written.marked, fun negative =>
      (written.double negative).trans (same negative)⟩
  · obtain ⟨w, written⟩ := exists_scientific trimmed.bound trimmed.ne_nil layout point
    exact ⟨w, written.chars, written.marked, fun negative =>
      (written.double negative).trans (same negative)⟩

/-- The text of a finite double, which reads back as the double. -/
theorem exists_renderChars (layout : Double.Layout) (negative : Bool) {significand exponent : Nat}
    (canonical : CanonicalParts significand exponent) :
    ∃ w : Written, w.HasMark ∧
      Double.renderChars layout (.finite negative significand exponent canonical) =
        signChars negative ++ w.chars ∧
      w.double negative = .finite negative significand exponent canonical := by
  obtain ⟨w, written⟩ := exists_renderDigits layout
    (Double.shortest (.finite negative significand exponent canonical)
      (significand * Nat.pow 2 exponent))
  refine ⟨w, written.marked, ?_, ?_⟩
  · rw [Double.renderChars, written.chars]
    rfl
  · rw [written.double negative]
    exact Double.shortest_readsBack negative canonical

end StagedTables.Numeral
