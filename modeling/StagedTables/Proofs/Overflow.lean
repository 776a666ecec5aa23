import StagedTables.Proofs.Rounding

/-! # Integers beyond every double

An integer has a nearest double unless it reaches `overflowLimit` in size, which lies half a unit
of the last place beyond the greatest double: `ofInt?_eq_none_iff`. -/
set_option autoImplicit false
namespace StagedTables.Double

/-- `2^1024 - 2^970`, the least integer that is rounded to infinity. -/
def overflowLimit : Nat := Nat.pow 2 1024 - Nat.pow 2 970

theorem pow_two_add (m n : Nat) : Nat.pow 2 (m + n) = Nat.pow 2 m * Nat.pow 2 n :=
  Nat.pow_add 2 m n

theorem pow_two_log2_le {n : Nat} (nonzero : n ≠ 0) : Nat.pow 2 n.log2 ≤ n :=
  Nat.log2_self_le nonzero

theorem lt_pow_two_log2 (n : Nat) : n < Nat.pow 2 (n.log2 + 1) := Nat.lt_log2_self

theorem log2_mul_pow {n : Nat} (nonzero : n ≠ 0) (count : Nat) :
    (n * Nat.pow 2 count).log2 = n.log2 + count := by
  have positive := pow_two_pos count
  have product : n * Nat.pow 2 count ≠ 0 := Nat.mul_ne_zero nonzero (Nat.ne_of_gt positive)
  rw [Nat.log2_eq_iff product]
  constructor
  · rw [Nat.pow_add]
    exact Nat.mul_le_mul_right _ (pow_two_log2_le nonzero)
  · rw [Nat.add_right_comm, Nat.pow_add]
    exact Nat.mul_lt_mul_of_pos_right (lt_pow_two_log2 n) positive

theorem le_roundQuotient (numerator denominator : Nat) :
    numerator / denominator ≤ roundQuotient numerator denominator := by
  simp only [roundQuotient]
  repeat' split
  all_goals omega

theorem roundQuotient_le (numerator denominator : Nat) :
    roundQuotient numerator denominator ≤ numerator / denominator + 1 := by
  simp only [roundQuotient]
  repeat' split
  all_goals omega

/-- Below an odd quotient's successor, what is at least half a unit from it is rounded up to it: the
tie goes to the even number. -/
theorem roundQuotient_eq_succ_iff {numerator half quotient : Nat} (positive : 0 < half)
    (odd : quotient % 2 = 1) (below : numerator < (quotient + 1) * (2 * half)) :
    roundQuotient numerator (2 * half) = quotient + 1 ↔
      (quotient + 1) * (2 * half) - half ≤ numerator := by
  have parts := Nat.div_add_mod numerator (2 * half)
  have rest := Nat.mod_lt numerator (Nat.mul_pos Nat.two_pos positive)
  have bound : numerator / (2 * half) < quotient + 1 :=
    (Nat.div_lt_iff_lt_mul (Nat.mul_pos Nat.two_pos positive)).mpr below
  rw [Nat.succ_mul quotient, Nat.mul_comm quotient]
  rcases Nat.lt_or_eq_of_le (Nat.le_of_lt_succ bound) with smaller | same
  · have upper := roundQuotient_le numerator (2 * half)
    have gap : 2 * half * (numerator / (2 * half) + 1) ≤ 2 * half * quotient :=
      Nat.mul_le_mul_left _ smaller
    rw [Nat.mul_succ] at gap
    constructor <;> intro <;> omega
  · rw [same] at parts
    simp only [roundQuotient, same]
    repeat' split
    all_goals constructor <;> intro <;> omega

theorem ofParts_eq_infinite_iff (negative : Bool) (significand exponent : Nat) :
    ofParts negative significand exponent = .infinite negative ↔
      ¬ CanonicalParts significand exponent := by
  unfold ofParts
  split <;> simp_all

theorem exists_unitsPerOne_eq : ∃ count, count = 1074 ∧ unitsPerOne = Nat.pow 2 count :=
  ⟨1074, rfl, by rw [unitsPerOne]⟩

theorem log2_mul_units {n : Nat} (nonzero : n ≠ 0) : (n * unitsPerOne).log2 = n.log2 + 1074 := by
  obtain ⟨count, value, units⟩ := exists_unitsPerOne_eq
  rw [units, log2_mul_pow nonzero, value]

section Integers

variable {n : Nat}

def integerSignificand (n : Nat) : Nat :=
  roundQuotient (n * unitsPerOne) (Nat.pow 2 (n.log2 + 1022))

theorem ofRatio_integer (negative : Bool) (nonzero : n ≠ 0) :
    ofRatio negative n 1 =
      if integerSignificand n = Nat.pow 2 53 then
        ofParts negative (Nat.pow 2 52) (n.log2 + 1022 + 1)
      else ofParts negative (integerSignificand n) (n.log2 + 1022) := by
  have exponent : (n * unitsPerOne / 1).log2 - 52 = n.log2 + 1022 := by
    rw [Nat.div_one, log2_mul_units nonzero]
    omega
  simp only [ofRatio, exponent, Nat.one_mul]
  rfl

theorem integerSignificand_bounds (nonzero : n ≠ 0) :
    Nat.pow 2 52 ≤ integerSignificand n ∧ integerSignificand n ≤ Nat.pow 2 53 := by
  have log := log2_mul_units nonzero
  have product : n * unitsPerOne ≠ 0 :=
    Nat.mul_ne_zero nonzero (Nat.ne_of_gt unitsPerOne_pos)
  have lower := Nat.log2_self_le product
  have upper := Nat.lt_log2_self (n := n * unitsPerOne)
  have low : n.log2 + 1074 = 52 + (n.log2 + 1022) := by omega
  have high : n.log2 + 1074 + 1 = 53 + (n.log2 + 1022) := by omega
  constructor
  · rw [log, low] at lower
    refine Nat.le_trans ?_ (le_roundQuotient _ _)
    rw [Nat.le_div_iff_mul_le (pow_two_pos _), ← pow_two_add]
    exact lower
  · rw [log, high] at upper
    refine Nat.le_trans (roundQuotient_le _ _) (Nat.succ_le_of_lt ?_)
    rw [Nat.div_lt_iff_lt_mul (pow_two_pos _), ← pow_two_add]
    exact upper

theorem ofRatio_eq_infinite_iff_exponent (negative : Bool) (nonzero : n ≠ 0) :
    ofRatio negative n 1 = .infinite negative ↔
      1024 ≤ n.log2 ∨ n.log2 = 1023 ∧ integerSignificand n = Nat.pow 2 53 := by
  obtain ⟨lower, upper⟩ := integerSignificand_bounds nonzero
  have half : Nat.pow 2 52 < Nat.pow 2 53 := by decide
  rw [ofRatio_integer negative nonzero]
  split
  · next full =>
    rw [ofParts_eq_infinite_iff, canonicalParts_iff]
    simp only [full, and_true, half, Nat.le_refl, true_or, true_and]
    omega
  · next room =>
    rw [ofParts_eq_infinite_iff, canonicalParts_iff]
    have inside : integerSignificand n < Nat.pow 2 53 := Nat.lt_of_le_of_ne upper room
    simp only [room, and_false, or_false, inside, lower, true_or, true_and]
    omega

/-- A number below `2^(54 + k)`, counted in units of `2^(k + 1)`, is rounded to `2^53` from half a
unit below it on. -/
theorem roundQuotient_eq_top_iff {k scale : Nat} (below : n < Nat.pow 2 (54 + k)) :
    roundQuotient (n * Nat.pow 2 scale) (Nat.pow 2 (1 + k + scale)) = Nat.pow 2 53 ↔
      Nat.pow 2 (54 + k) - Nat.pow 2 k ≤ n := by
  have whole : Nat.pow 2 (54 + k) = (Nat.pow 2 53 - 1 + 1) * (2 * Nat.pow 2 k) := by
    rw [pow_two_add, ← Nat.mul_assoc]
  have unit : Nat.pow 2 (1 + k + scale) = 2 * Nat.pow 2 k * Nat.pow 2 scale := by
    rw [pow_two_add, pow_two_add]
  rw [whole] at below ⊢
  rw [unit, roundQuotient_mul_right (pow_two_pos scale)]
  exact roundQuotient_eq_succ_iff (pow_two_pos k) (by decide) below

theorem exists_overflowLimit_eq :
    ∃ k, k = 970 ∧ overflowLimit = Nat.pow 2 (54 + k) - Nat.pow 2 k :=
  ⟨970, rfl, by decide +kernel⟩

theorem integerSignificand_eq_iff (log : n.log2 = 1023) :
    integerSignificand n = Nat.pow 2 53 ↔ overflowLimit ≤ n := by
  obtain ⟨scale, scaleValue, units⟩ := exists_unitsPerOne_eq
  obtain ⟨k, value, limit⟩ := exists_overflowLimit_eq
  have below := lt_pow_two_log2 n
  have size : n.log2 + 1 = 54 + k := by omega
  have exponent : n.log2 + 1022 = 1 + k + scale := by omega
  rw [size] at below
  rw [integerSignificand, exponent, units, limit]
  exact roundQuotient_eq_top_iff below

theorem exists_overflowLimit_bounds :
    ∃ low, low = 1023 ∧ Nat.pow 2 low ≤ overflowLimit ∧ overflowLimit ≤ Nat.pow 2 (low + 1) :=
  ⟨1023, rfl, by decide +kernel⟩

/-- An integer has no nearest double exactly from the limit on. -/
theorem ofRatio_eq_infinite_iff (negative : Bool) :
    ofRatio negative n 1 = .infinite negative ↔ overflowLimit ≤ n := by
  obtain ⟨log, value, low, high⟩ := exists_overflowLimit_bounds
  by_cases nonzero : n = 0
  · subst nonzero
    have positive : 0 < overflowLimit := Nat.lt_of_lt_of_le (pow_two_pos log) low
    have zero : ofRatio negative 0 1 = signedZero negative := by
      simp only [ofRatio, roundQuotient, Nat.zero_mul, Nat.zero_div, Nat.zero_mod, Nat.log2_zero,
        Nat.zero_sub, Nat.mul_zero]
      rw [if_pos (by decide : 0 < 1 * Nat.pow 2 0), if_neg (by decide), ofParts,
        dif_pos canonical_zero, signedZero]
    rw [zero]
    simp only [signedZero, reduceCtorEq, false_iff, Nat.not_le]
    exact positive
  rw [ofRatio_eq_infinite_iff_exponent negative nonzero]
  have lower := pow_two_log2_le nonzero
  have upper := lt_pow_two_log2 n
  rcases Nat.lt_trichotomy n.log2 log with small | top | large
  · have power : Nat.pow 2 (n.log2 + 1) ≤ Nat.pow 2 log := Nat.pow_le_pow_right Nat.two_pos small
    have inside : n < overflowLimit := Nat.lt_of_lt_of_le upper (Nat.le_trans power low)
    exact iff_of_false (by omega) (Nat.not_le_of_lt inside)
  · rw [← integerSignificand_eq_iff (top.trans value), top, value]
    simp
  · have power : Nat.pow 2 (log + 1) ≤ Nat.pow 2 n.log2 := Nat.pow_le_pow_right Nat.two_pos large
    exact iff_of_true (.inl (by omega)) (Nat.le_trans high (Nat.le_trans power lower))

end Integers

theorem ofParts_cases (negative : Bool) (significand exponent : Nat) :
    (∃ canonical, ofParts negative significand exponent =
      .finite negative significand exponent canonical) ∨
      ofParts negative significand exponent = .infinite negative := by
  unfold ofParts
  split
  · next canonical => exact .inl ⟨canonical, rfl⟩
  · exact .inr rfl

theorem ofRatio_cases (negative : Bool) (numerator denominator : Nat) :
    (∃ significand exponent canonical, ofRatio negative numerator denominator =
      .finite negative significand exponent canonical) ∨
      ofRatio negative numerator denominator = .infinite negative := by
  unfold ofRatio
  simp only
  split
  all_goals
    rcases ofParts_cases negative _ _ with ⟨canonical, finite⟩ | infinite
    · exact .inl ⟨_, _, canonical, finite⟩
    · exact .inr infinite

theorem bounded?_eq_none_iff (x : Double) :
    x.bounded? = none ↔ ∃ negative, x = .infinite negative := by
  cases x <;> simp [bounded?]

theorem ofInt?_eq_none_iff (n : Int) : ofInt? n = none ↔ overflowLimit ≤ n.natAbs := by
  rw [← ofRatio_eq_infinite_iff (decide (n < 0)), ofInt?, bounded?_eq_none_iff]
  constructor
  · rintro ⟨negative, infinite⟩
    rcases ofRatio_cases (decide (n < 0)) n.natAbs 1 with ⟨_, _, _, finite⟩ | same
    · rw [finite] at infinite
      cases infinite
    · exact same
  · exact fun infinite => ⟨_, infinite⟩

end StagedTables.Double
