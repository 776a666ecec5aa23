import Mathlib.Tactic.Ring
import StagedTables.Number.Exact
import StagedTables.Proofs.Rounding

/-! # Exact numbers are equal for equal values

Stripping zeros divides a coefficient by a power of ten and adds as much to the exponent.  Two
forms that come out alike are therefore one number of units, whatever power of ten the unit is.
In units of `10^-1074` all integers and doubles are whole, so equal integers are the same, equal
doubles are the same but for the sign of zero, and an integer is rounded to the double that it
equals. -/
set_option autoImplicit false
namespace StagedTables

namespace ExactNumber

theorem exists_of_stripZeros {coefficient : Nat} (nonzero : coefficient ≠ 0) (exponent : Int) :
    ∃ count : Nat, (stripZeros coefficient exponent).1 ≠ 0 ∧
      coefficient = (stripZeros coefficient exponent).1 * Nat.pow 10 count ∧
      (stripZeros coefficient exponent).2 = exponent + count := by
  fun_induction stripZeros coefficient exponent with
  | case1 => exact absurd rfl nonzero
  | case2 coefficient exponent _ divides ih =>
    obtain ⟨count, stripped, quotient, power⟩ := ih (by omega)
    refine ⟨count + 1, stripped, ?_, by rw [power]; omega⟩
    rw [Double.pow_ten_add, ← Nat.mul_assoc, ← quotient]
    have whole : coefficient = coefficient / 10 * 10 := by omega
    exact whole
  | case3 coefficient exponent => exact ⟨0, nonzero, (Nat.mul_one _).symm, by simp⟩

/-- The number `coefficient * 10 ^ exponent` counted in units of `10 ^ bottom`. -/
def unitsAbove (bottom : Int) (coefficient : Nat) (exponent : Int) : Nat :=
  coefficient * Nat.pow 10 (exponent - bottom).toNat

theorem unitsAbove_eq_stripped {bottom exponent : Int} {coefficient : Nat}
    (nonzero : coefficient ≠ 0) (above : bottom ≤ exponent) :
    (stripZeros coefficient exponent).1 ≠ 0 ∧
      unitsAbove bottom coefficient exponent =
        unitsAbove bottom (stripZeros coefficient exponent).1
          (stripZeros coefficient exponent).2 := by
  obtain ⟨count, stripped, product, power⟩ := exists_of_stripZeros nonzero exponent
  refine ⟨stripped, ?_⟩
  have sum : (exponent + count - bottom).toNat = count + (exponent - bottom).toNat := by omega
  rw [unitsAbove, unitsAbove, power, sum, Double.pow_ten_add, ← Nat.mul_assoc, ← product]

theorem stripZeros_zero (exponent : Int) : stripZeros 0 exponent = (0, 0) := by
  rw [stripZeros, if_pos rfl]

section Parts

variable {bottom exponent exponent' : Int} {negative negative' : Bool}
  {coefficient coefficient' : Nat}

theorem ofParts_eq_iff :
    ofParts negative coefficient exponent = ofParts negative' coefficient' exponent' ↔
      (if negative then -((stripZeros coefficient exponent).1 : Int)
        else (stripZeros coefficient exponent).1) =
      (if negative' then -((stripZeros coefficient' exponent').1 : Int)
        else (stripZeros coefficient' exponent').1) ∧
      (stripZeros coefficient exponent).2 = (stripZeros coefficient' exponent').2 := by
  simp only [ofParts, ExactNumber.finite.injEq]

theorem units_eq_of_ofParts_eq (above : bottom ≤ exponent) (above' : bottom ≤ exponent')
    (same : ofParts negative coefficient exponent = ofParts negative' coefficient' exponent') :
    unitsAbove bottom coefficient exponent = unitsAbove bottom coefficient' exponent' ∧
      (coefficient ≠ 0 → negative = negative') := by
  obtain ⟨digits, power⟩ := ofParts_eq_iff.mp same
  by_cases zero : coefficient = 0
  · by_cases zero' : coefficient' = 0
    · simp [unitsAbove, zero, zero']
    · obtain ⟨stripped, -⟩ := unitsAbove_eq_stripped zero' above'
      rw [zero, stripZeros_zero] at digits
      split at digits <;> split at digits <;> omega
  · obtain ⟨stripped, units⟩ := unitsAbove_eq_stripped zero above
    by_cases zero' : coefficient' = 0
    · rw [zero', stripZeros_zero] at digits
      split at digits <;> split at digits <;> omega
    · obtain ⟨stripped', units'⟩ := unitsAbove_eq_stripped zero' above'
      have same : negative = negative' ∧
          (stripZeros coefficient exponent).1 = (stripZeros coefficient' exponent').1 := by
        cases negative <;> cases negative' <;> simp at digits ⊢ <;> omega
      exact ⟨by rw [units, units', same.2, power], fun _ => same.1⟩

end Parts

theorem ofInt_inj {n m : Int} (same : ofInt n = ofInt m) : n = m := by
  obtain ⟨units, sign⟩ := units_eq_of_ofParts_eq (le_refl (0 : Int)) le_rfl same
  simp only [unitsAbove] at units
  by_cases zero : n.natAbs = 0
  · simp [zero] at units
    omega
  · have negative := sign zero
    simp at units negative
    omega

/-! ## Doubles -/

/-- The smallest positive double is two to the minus this. -/
def places : Nat := 1074

/-- The exponent of the unit in which every integer and every double is whole. -/
def leastExponent : Int := -(places : Int)

theorem tenthsPerUnit_eq : Double.tenthsPerUnit = Nat.pow 5 places := by
  unfold Double.tenthsPerUnit
  have same : 1074 = places := rfl
  rw [same]

theorem pow_ten_places : Nat.pow 10 places = Double.unitsPerOne * Double.tenthsPerUnit := by
  unfold Double.unitsPerOne
  have same : 1074 = places := rfl
  rw [same, tenthsPerUnit_eq, Double.pow_ten_eq]

theorem twos_mul_pow_ten {exponent unit : Nat} (large : unit ≤ exponent) (significand : Nat) :
    significand * Nat.pow 2 (exponent - unit) * Nat.pow 10 unit =
      significand * Nat.pow 2 exponent * Nat.pow 5 unit := by
  obtain ⟨more, rfl⟩ := Nat.le.dest large
  have power : Nat.pow 2 (unit + more) = Nat.pow 2 unit * Nat.pow 2 more := Nat.pow_add 2 unit more
  rw [Nat.add_sub_cancel_left, Double.pow_ten_eq, power]
  ring

theorem fives_mul_pow_ten {exponent unit : Nat} (small : exponent ≤ unit) (significand : Nat) :
    significand * Nat.pow 5 (unit - exponent) * Nat.pow 10 exponent =
      significand * Nat.pow 2 exponent * Nat.pow 5 unit := by
  obtain ⟨missing, rfl⟩ := Nat.le.dest small
  have power : Nat.pow 5 (exponent + missing) = Nat.pow 5 exponent * Nat.pow 5 missing :=
    Nat.pow_add 5 exponent missing
  rw [Nat.add_sub_cancel_left, Double.pow_ten_eq, power]
  ring

theorem ofDouble?_finite (negative : Bool) {significand exponent : Nat}
    (canonical : CanonicalParts significand exponent) :
    ∃ coefficient power, leastExponent ≤ power ∧
      ofDouble? (.finite negative significand exponent canonical) =
        some (ofParts negative coefficient power) ∧
      unitsAbove leastExponent coefficient power =
        significand * Nat.pow 2 exponent * Double.tenthsPerUnit := by
  by_cases large : places ≤ exponent
  · refine ⟨significand * Nat.pow 2 (exponent - places), 0, by decide, if_pos large, ?_⟩
    have shift : (0 - leastExponent).toNat = places := rfl
    rw [unitsAbove, shift, tenthsPerUnit_eq]
    exact twos_mul_pow_ten large significand
  · have small := Nat.le_of_not_le large
    refine ⟨significand * Nat.pow 5 (places - exponent), -((places - exponent : Nat) : Int), ?_,
      if_neg large, ?_⟩
    · simp only [leastExponent]
      omega
    · have shift : (-((places - exponent : Nat) : Int) - leastExponent).toNat = exponent := by
        simp only [leastExponent]
        omega
      rw [unitsAbove, shift, tenthsPerUnit_eq]
      exact fives_mul_pow_ten small significand

theorem coefficient_ne_zero {bottom power : Int} {significand exponent coefficient : Nat}
    (nonzero : significand ≠ 0)
    (units : unitsAbove bottom coefficient power =
      significand * Nat.pow 2 exponent * Double.tenthsPerUnit) : coefficient ≠ 0 := by
  rintro rfl
  rw [unitsAbove, Nat.zero_mul, eq_comm, Nat.mul_eq_zero, Nat.mul_eq_zero] at units
  have twos := Nat.ne_of_gt (Double.pow_two_pos exponent)
  have fives := Nat.ne_of_gt Double.tenthsPerUnit_pos
  exact units.elim (fun product => product.elim nonzero twos) fives

theorem ofDouble?_zero (negative : Bool) {exponent : Nat} (canonical : CanonicalParts 0 exponent) :
    ofDouble? (.finite negative 0 exponent canonical) = some (.finite 0 0) := by
  obtain ⟨coefficient, power, -, form, units⟩ := ofDouble?_finite negative canonical
  rw [Nat.zero_mul, Nat.zero_mul, unitsAbove, Nat.mul_eq_zero] at units
  have zero := units.resolve_right (Nat.ne_of_gt (Double.pow_ten_pos _))
  rw [form, zero, ofParts, stripZeros_zero]
  cases negative <;> rfl

/-- Doubles of one exact value are the same unless they are zeros of different signs. -/
theorem eq_of_ofDouble?_eq {x y : Double} {number : ExactNumber}
    (first : ofDouble? x = some number) (second : ofDouble? y = some number)
    (zeros : x.isZero = true → y.isZero = true → x.isNegative = y.isNegative) : x = y := by
  cases x with
  | nan => cases first
  | infinite negative =>
    cases y with
    | nan => cases second
    | infinite negative' =>
      rw [← first] at second
      simp only [ofDouble?, Option.some.injEq, ExactNumber.infinite.injEq] at second
      rw [second]
    | finite negative' significand' exponent' canonical' =>
      obtain ⟨_, _, -, form, -⟩ := ofDouble?_finite negative' canonical'
      rw [← first, form] at second
      cases second
  | finite negative significand exponent canonical =>
    obtain ⟨_, _, least, form, units⟩ := ofDouble?_finite negative canonical
    cases y with
    | nan => cases second
    | infinite negative' =>
      rw [← second, form] at first
      cases first
    | finite negative' significand' exponent' canonical' =>
      obtain ⟨_, _, least', form', units'⟩ := ofDouble?_finite negative' canonical'
      rw [form, ← second, form', Option.some.injEq] at first
      obtain ⟨same, sign⟩ := units_eq_of_ofParts_eq least least' first
      rw [units, units'] at same
      have magnitude := Nat.eq_of_mul_eq_mul_right Double.tenthsPerUnit_pos same
      have signs : negative = negative' := by
        by_cases zero : significand = 0
        · have zero' : significand' = 0 := by
            rw [zero, Nat.zero_mul, eq_comm, Nat.mul_eq_zero] at magnitude
            exact magnitude.resolve_right (Nat.ne_of_gt (Double.pow_two_pos exponent'))
          exact zeros (by simp [Double.isZero, zero]) (by simp [Double.isZero, zero'])
        · exact sign (coefficient_ne_zero zero units)
      rw [← Double.ofRatio_magnitude negative canonical, magnitude, signs,
        Double.ofRatio_magnitude negative' canonical']

/-- An integer is rounded to the double of the same value, negative zero apart. -/
theorem ofInt?_of_ofDouble?_eq {n : Int} {x : Double} (same : ofDouble? x = some (ofInt n))
    (nonnegative : x.isZero = true → x.isNegative = false) : Double.ofInt? n = some x := by
  cases x with
  | nan => cases same
  | infinite negative =>
    simp only [ofDouble?, ofInt, ofParts, Option.some.injEq, reduceCtorEq] at same
  | finite negative significand exponent canonical =>
    obtain ⟨_, _, least, form, units⟩ := ofDouble?_finite negative canonical
    rw [form, Option.some.injEq] at same
    obtain ⟨whole, sign⟩ := units_eq_of_ofParts_eq least (by decide) same
    have tens : unitsAbove leastExponent n.natAbs 0 =
        n.natAbs * Double.unitsPerOne * Double.tenthsPerUnit := by
      have shift : (0 - leastExponent).toNat = places := rfl
      rw [unitsAbove, shift, pow_ten_places, ← Nat.mul_assoc]
    rw [units, tens] at whole
    have magnitude := Nat.eq_of_mul_eq_mul_right Double.tenthsPerUnit_pos whole
    have signs : negative = decide (n < 0) := by
      by_cases zero : significand = 0
      · rw [zero, Nat.zero_mul, eq_comm, Nat.mul_eq_zero] at magnitude
        have none : n = 0 := Int.natAbs_eq_zero.mp
          (magnitude.resolve_right (Nat.ne_of_gt Double.unitsPerOne_pos))
        exact (nonnegative (by simp [Double.isZero, zero])).trans (by simp [none])
      · exact sign (coefficient_ne_zero zero units)
    have scaled := Double.ofRatio_mul_right Double.unitsPerOne_pos (decide (n < 0)) n.natAbs 1
    rw [← magnitude, Nat.one_mul, ← signs, Double.ofRatio_magnitude negative canonical] at scaled
    rw [Double.ofInt?, ← signs, ← scaled]
    rfl

end ExactNumber
end StagedTables
