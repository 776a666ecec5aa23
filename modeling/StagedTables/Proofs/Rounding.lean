import Mathlib.Tactic.Ring
import StagedTables.Number.Shortest

/-! # Rounding to doubles

The double nearest to a ratio depends on the value of the ratio alone, and the one nearest to a
decimal numeral on the value of the numeral: common factors and zeros at the end make no
difference.  A double is nearest to its own magnitude.  So the shortest numeral of a double reads
back, whether it was found on a grid of few digits or is the exact value. -/
set_option autoImplicit false
namespace StagedTables.Double

/-! ## Ratios -/

theorem roundQuotient_mul_right {factor : Nat} (positive : 0 < factor)
    (numerator denominator : Nat) :
    roundQuotient (numerator * factor) (denominator * factor) =
      roundQuotient numerator denominator := by
  have below : ∀ a b, a * factor < b * factor ↔ a < b :=
    fun a b => Nat.mul_lt_mul_right positive
  simp only [roundQuotient, Nat.mul_div_mul_right _ _ positive, Nat.mul_mod_mul_right,
    ← Nat.mul_assoc, below]

theorem ofRatio_mul_right {factor : Nat} (positive : 0 < factor) (negative : Bool)
    (numerator denominator : Nat) :
    ofRatio negative (numerator * factor) (denominator * factor) =
      ofRatio negative numerator denominator := by
  have units : numerator * factor * unitsPerOne = numerator * unitsPerOne * factor :=
    Nat.mul_right_comm ..
  have quotient : numerator * unitsPerOne * factor / (denominator * factor) =
      numerator * unitsPerOne / denominator := Nat.mul_div_mul_right _ _ positive
  simp only [ofRatio, units, quotient, Nat.mul_right_comm denominator factor,
    roundQuotient_mul_right positive]

theorem roundQuotient_mul_self {denominator : Nat} (positive : 0 < denominator) (n : Nat) :
    roundQuotient (n * denominator) denominator = n := by
  simp only [roundQuotient, Nat.mul_div_cancel _ positive, Nat.mul_mod_left]
  rw [if_pos (by omega)]

theorem pow_two_pos (exponent : Nat) : 0 < Nat.pow 2 exponent := Nat.pow_pos (by decide)

theorem pow_ten_pos (exponent : Nat) : 0 < Nat.pow 10 exponent := Nat.pow_pos (by decide)

theorem pow_ten_add (m n : Nat) : Nat.pow 10 (m + n) = Nat.pow 10 m * Nat.pow 10 n :=
  Nat.pow_add 10 m n

theorem unitsPerOne_pos : 0 < unitsPerOne := by
  unfold unitsPerOne
  apply pow_two_pos

theorem log2_of_canonical {significand exponent : Nat}
    (canonical : CanonicalParts significand exponent) :
    (significand * Nat.pow 2 exponent).log2 - 52 = exponent := by
  have upper := canonical.significand_lt
  rcases canonical.normal_or_smallest with normal | rfl
  · have nonzero : significand * Nat.pow 2 exponent ≠ 0 := by
      have : 0 < significand := Nat.lt_of_lt_of_le (by decide) normal
      exact Nat.ne_of_gt (Nat.mul_pos this (pow_two_pos exponent))
    have log : (significand * Nat.pow 2 exponent).log2 = 52 + exponent := by
      rw [Nat.log2_eq_iff nonzero]
      constructor
      · rw [Nat.pow_add]
        exact Nat.mul_le_mul_right _ normal
      · rw [Nat.add_right_comm, Nat.pow_add]
        exact Nat.mul_lt_mul_of_pos_right upper (pow_two_pos exponent)
    omega
  · by_cases zero : significand = 0
    · subst zero
      decide
    · have small : significand.log2 < 53 := (Nat.log2_lt zero).mpr upper
      have same : significand * Nat.pow 2 0 = significand := Nat.mul_one significand
      rw [same]
      omega

/-- A finite double is the one nearest to its own magnitude. -/
theorem ofRatio_magnitude (negative : Bool) {significand exponent : Nat}
    (canonical : CanonicalParts significand exponent) :
    ofRatio negative (significand * Nat.pow 2 exponent) unitsPerOne =
      .finite negative significand exponent canonical := by
  have units : significand * Nat.pow 2 exponent * unitsPerOne / unitsPerOne =
      significand * Nat.pow 2 exponent := Nat.mul_div_cancel _ unitsPerOne_pos
  have positive : 0 < unitsPerOne * Nat.pow 2 exponent :=
    Nat.mul_pos unitsPerOne_pos (pow_two_pos exponent)
  have rounded : roundQuotient (significand * Nat.pow 2 exponent * unitsPerOne)
      (unitsPerOne * Nat.pow 2 exponent) = significand := by
    rw [Nat.mul_right_comm, Nat.mul_assoc, roundQuotient_mul_self positive]
  have upper := canonical.significand_lt
  simp only [ofRatio, units, log2_of_canonical canonical, rounded]
  rw [if_neg (Nat.ne_of_lt upper), ofParts, dif_pos canonical]

/-! ## Decimal numerals -/

theorem length_toDigits_mul_pow {n : Nat} (nonzero : n ≠ 0) (count : Nat) :
    (Nat.toDigits 10 (n * Nat.pow 10 count)).length = (Nat.toDigits 10 n).length + count := by
  induction count with
  | zero => simp
  | succ count ih =>
    have positive := Nat.mul_pos (Nat.pos_of_ne_zero nonzero) (pow_ten_pos count)
    have step : n * Nat.pow 10 (count + 1) = n * Nat.pow 10 count * 10 :=
      (Nat.mul_assoc n (Nat.pow 10 count) 10).symm
    have large : 10 ≤ n * Nat.pow 10 (count + 1) := by omega
    have tenth : n * Nat.pow 10 (count + 1) / 10 = n * Nat.pow 10 count := by omega
    rw [Nat.toDigits_of_base_le (by decide) large, tenth, List.length_append, ih]
    rfl

def ofScaled (negative : Bool) (digits : Nat) (exponent : Int) : Double :=
  if 0 ≤ exponent then ofRatio negative (digits * Nat.pow 10 exponent.toNat) 1
  else ofRatio negative digits (Nat.pow 10 (-exponent).toNat)

theorem ofScaled_mul_pow (negative : Bool) (digits count : Nat) (exponent : Int) :
    ofScaled negative (digits * Nat.pow 10 count) exponent =
      ofScaled negative digits (exponent + count) := by
  by_cases whole : 0 ≤ exponent
  · have sum : (exponent + count).toNat = count + exponent.toNat := by omega
    rw [ofScaled, if_pos whole, ofScaled, if_pos (by omega), sum, pow_ten_add, Nat.mul_assoc]
  by_cases shifted : 0 ≤ exponent + count
  · have sum : count = (exponent + count).toNat + (-exponent).toNat := by omega
    have factor := ofRatio_mul_right (pow_ten_pos (-exponent).toNat) negative
      (digits * Nat.pow 10 (exponent + count).toNat) 1
    rw [Nat.mul_assoc, ← pow_ten_add, ← sum, Nat.one_mul] at factor
    rw [ofScaled, if_neg whole, ofScaled, if_pos shifted, factor]
  · have sum : (-exponent).toNat = (-(exponent + count)).toNat + count := by omega
    have factor := ofRatio_mul_right (pow_ten_pos count) negative digits
      (Nat.pow 10 (-(exponent + count)).toNat)
    rw [← pow_ten_add, ← sum] at factor
    rw [ofScaled, if_neg whole, ofScaled, if_neg shifted, factor]

theorem ofDecimal_zero (negative : Bool) (exponent : Int) :
    ofDecimal negative 0 exponent = signedZero negative := by
  simp [ofDecimal]

/-- The order of magnitude of a numeral, by which `ofDecimal` settles those out of all bounds. -/
def decimalOrder (digits : Nat) (exponent : Int) : Int :=
  exponent + (Nat.toDigits 10 digits).length

theorem ofDecimal_of_ne_zero (negative : Bool) {digits : Nat} (nonzero : digits ≠ 0)
    (exponent : Int) :
    ofDecimal negative digits exponent =
      if (decimalBound : Int) < decimalOrder digits exponent then .infinite negative
      else if decimalOrder digits exponent < -(decimalBound : Int) then signedZero negative
      else ofScaled negative digits exponent := by
  simp only [ofDecimal, if_neg nonzero]
  rfl

theorem ofDecimal_mul_pow (negative : Bool) (digits count : Nat) (exponent : Int) :
    ofDecimal negative (digits * Nat.pow 10 count) exponent =
      ofDecimal negative digits (exponent + count) := by
  by_cases zero : digits = 0
  · rw [zero, Nat.zero_mul, ofDecimal_zero, ofDecimal_zero]
  have nonzero : digits * Nat.pow 10 count ≠ 0 :=
    Nat.mul_ne_zero zero (Nat.ne_of_gt (pow_ten_pos count))
  have order : decimalOrder (digits * Nat.pow 10 count) exponent =
      decimalOrder digits (exponent + count) := by
    simp only [decimalOrder, length_toDigits_mul_pow zero]
    omega
  rw [ofDecimal_of_ne_zero negative nonzero, ofDecimal_of_ne_zero negative zero, order,
    ofScaled_mul_pow]

/-! ## The shortest numeral -/

/-- The units of `10^-1074` in one of `2^-1074`. -/
def tenthsPerUnit : Nat := Nat.pow 5 1074

theorem pow_five_pos (exponent : Nat) : 0 < Nat.pow 5 exponent := Nat.pow_pos (by decide)

theorem pow_ten_eq (exponent : Nat) :
    Nat.pow 10 exponent = Nat.pow 2 exponent * Nat.pow 5 exponent :=
  Nat.mul_pow 2 5 exponent

theorem tenthsPerUnit_pos : 0 < tenthsPerUnit := by
  unfold tenthsPerUnit
  apply pow_five_pos

theorem pow_ten_units : Nat.pow 10 1074 = unitsPerOne * tenthsPerUnit := by
  unfold unitsPerOne tenthsPerUnit
  rw [pow_ten_eq]

theorem ofScaled_of_pow_ten {places factor scale : Nat} (same : Nat.pow 10 places = scale * factor)
    (below : 0 < places) (positive : 0 < factor) (negative : Bool) (units : Nat) :
    ofScaled negative (units * factor) (-(places : Int)) = ofRatio negative units scale := by
  have negated : (-(-(places : Int))).toNat = places := by omega
  rw [ofScaled, if_neg (by omega), negated, same, ofRatio_mul_right positive]

theorem ofScaled_exact (negative : Bool) (units : Nat) :
    ofScaled negative (units * tenthsPerUnit) (-1074) = ofRatio negative units unitsPerOne :=
  ofScaled_of_pow_ten pow_ten_units (by decide) tenthsPerUnit_pos negative units

theorem mul_pow_two_lt {significand exponent bits last : Nat}
    (small : significand < Nat.pow 2 bits) (within : exponent ≤ last) :
    significand * Nat.pow 2 exponent < Nat.pow 2 bits * Nat.pow 2 last := by
  have scaled : significand * Nat.pow 2 exponent < Nat.pow 2 bits * Nat.pow 2 exponent :=
    Nat.mul_lt_mul_of_pos_right small (pow_two_pos exponent)
  have largest : Nat.pow 2 exponent ≤ Nat.pow 2 last := Nat.pow_le_pow_right (by decide) within
  exact Nat.lt_of_lt_of_le scaled (Nat.mul_le_mul_left _ largest)

def magnitudeBound : Nat := Nat.pow 2 53 * Nat.pow 2 2045

theorem magnitude_lt {significand exponent : Nat}
    (canonical : CanonicalParts significand exponent) :
    significand * Nat.pow 2 exponent < magnitudeBound := by
  unfold magnitudeBound
  exact mul_pow_two_lt canonical.significand_lt canonical.exponent_le

theorem length_toDigits_of_bounds {n low high : Nat} (lowPositive : 0 < low)
    (highPositive : 0 < high) (above : Nat.pow 10 low ≤ n) (below : n < Nat.pow 10 high) :
    low < (Nat.toDigits 10 n).length ∧ (Nat.toDigits 10 n).length ≤ high := by
  constructor
  · refine Nat.lt_of_not_le fun short => ?_
    have := (Nat.length_toDigits_le_iff (by decide) lowPositive).mp short
    exact absurd above (Nat.not_le.mpr this)
  · exact (Nat.length_toDigits_le_iff (by decide) highPositive).mpr below

theorem decimalOrder_exact {units : Nat} (positive : 0 < units) (bound : units < magnitudeBound) :
    -(decimalBound : Int) ≤ decimalOrder (units * tenthsPerUnit) (-1074) ∧
      decimalOrder (units * tenthsPerUnit) (-1074) ≤ decimalBound := by
  have least : Nat.pow 10 673 ≤ tenthsPerUnit := by decide +kernel
  have greatest : magnitudeBound * tenthsPerUnit < Nat.pow 10 1474 := by decide +kernel
  have above : Nat.pow 10 673 ≤ units * tenthsPerUnit :=
    Nat.le_trans least (Nat.le_mul_of_pos_left _ positive)
  have below : units * tenthsPerUnit < Nat.pow 10 1474 :=
    Nat.lt_trans (Nat.mul_lt_mul_of_pos_right bound tenthsPerUnit_pos) greatest
  obtain ⟨long, short⟩ := length_toDigits_of_bounds (by decide) (by decide) above below
  simp only [decimalOrder, decimalBound]
  omega

theorem exact_readsBack (negative : Bool) {significand exponent : Nat}
    (canonical : CanonicalParts significand exponent) (nonzero : significand ≠ 0) :
    ScaledDigits.ReadsBack ⟨significand * Nat.pow 2 exponent * tenthsPerUnit, -1074⟩
      (.finite negative significand exponent canonical) := by
  have positive : 0 < significand * Nat.pow 2 exponent :=
    Nat.mul_pos (Nat.pos_of_ne_zero nonzero) (pow_two_pos exponent)
  obtain ⟨above, below⟩ := decimalOrder_exact positive (magnitude_lt canonical)
  have digits : significand * Nat.pow 2 exponent * tenthsPerUnit ≠ 0 :=
    Nat.ne_of_gt (Nat.mul_pos positive tenthsPerUnit_pos)
  rw [ScaledDigits.ReadsBack, isNegative, ofDecimal_of_ne_zero negative digits,
    if_neg (Int.not_lt.mpr below), if_neg (Int.not_lt.mpr above), ofScaled_exact,
    ofRatio_magnitude negative canonical]

theorem readsBack_of_choice {x : Double} {first second third numeral : ScaledDigits}
    (chosen : (if first.ReadsBack x then some first else if second.ReadsBack x then some second
      else if third.ReadsBack x then some third else none) = some numeral) :
    numeral.ReadsBack x := by
  by_cases one : first.ReadsBack x
  · rw [if_pos one] at chosen
    exact Option.some.inj chosen ▸ one
  rw [if_neg one] at chosen
  by_cases two : second.ReadsBack x
  · rw [if_pos two] at chosen
    exact Option.some.inj chosen ▸ two
  rw [if_neg two] at chosen
  by_cases three : third.ReadsBack x
  · rw [if_pos three] at chosen
    exact Option.some.inj chosen ▸ three
  · rw [if_neg three] at chosen
    cases chosen

theorem onGrid?_readsBack {x : Double} {units count : Nat} {size : Int} {numeral : ScaledDigits}
    (found : onGrid? x units size count = some numeral) : numeral.ReadsBack x :=
  readsBack_of_choice found

theorem shortest_readsBack (negative : Bool) {significand exponent : Nat}
    (canonical : CanonicalParts significand exponent) :
    (shortest (.finite negative significand exponent canonical)
      (significand * Nat.pow 2 exponent)).ReadsBack
        (.finite negative significand exponent canonical) := by
  by_cases zero : significand = 0
  · subst zero
    have smallest : exponent = 0 := canonical.normal_or_smallest.resolve_left (by decide)
    subst smallest
    rw [shortest, if_pos (Nat.zero_mul _)]
    exact ofDecimal_zero negative 0
  have nonzero : significand * Nat.pow 2 exponent ≠ 0 :=
    Nat.mul_ne_zero zero (Nat.ne_of_gt (pow_two_pos exponent))
  have exact := exact_readsBack negative canonical zero
  generalize Double.finite negative significand exponent canonical = x at exact ⊢
  generalize significand * Nat.pow 2 exponent = units at exact nonzero ⊢
  simp only [shortest, if_neg nonzero]
  cases found : (List.range digitLimit).findSome?
      fun k => onGrid? x units (decimalSize units unitsPerOne) (k + 1) with
  | none =>
    -- the power was folded so that no step above computes it
    delta tenthsPerUnit at exact
    exact exact
  | some numeral =>
    obtain ⟨k, -, onGrid⟩ := List.exists_of_findSome?_eq_some found
    exact onGrid?_readsBack onGrid

end StagedTables.Double
