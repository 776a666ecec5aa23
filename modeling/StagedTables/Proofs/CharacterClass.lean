import StagedTables.Proofs.Numeral
import StagedTables.Text.Numeric

/-! # Classes of characters

A search in a table of boundaries ends between two of its entries, so a character of a class lies
between the two boundaries of one of its ranges.  No letter is a digit: no range of digits meets a
range of letters. -/
set_option autoImplicit false
namespace StagedTables.Text

/-! ## Searching a table -/

structure IsPlaced (table : Array Nat) (n place : Nat) : Prop where
  below : 0 < place → table.getD (place - 1) 0 ≤ n
  above : place < table.size → n < table.getD place 0
  within : place ≤ table.size

theorem isPlaced_rankBetween {table : Array Nat} {n low high : Nat} (ordered : low ≤ high)
    (below : 0 < low → table.getD (low - 1) 0 ≤ n)
    (above : high < table.size → n < table.getD high 0) (within : high ≤ table.size) :
    IsPlaced table n (rankBetween table n low high) := by
  induction low, high using rankBetween.induct table n with
  | case1 low high between middle atMost ih =>
    rw [rankBetween, if_pos between]
    simp only [middle] at atMost ih
    rw [if_pos atMost]
    refine ih (by omega) (fun _ => ?_) above within
    simpa using atMost
  | case2 low high between middle beyond ih =>
    rw [rankBetween, if_pos between]
    simp only [middle] at beyond ih
    rw [if_neg beyond]
    exact ih (by omega) below (fun _ => Nat.lt_of_not_le beyond) (by omega)
  | case3 low high closed =>
    have same : high = low := by omega
    rw [rankBetween, if_neg closed]
    exact ⟨below, same ▸ above, same ▸ within⟩

theorem isPlaced_rank (table : Array Nat) (n : Nat) : IsPlaced table n (rank table n) :=
  isPlaced_rankBetween (Nat.zero_le _) (by omega) (by omega) (Nat.le_refl _)

/-! ## Ranges -/

/-- Boundaries in pairs, each the first code point of a range and the one after its last. -/
def rangesOf : List Nat → List (Nat × Nat)
  | first :: last :: rest => (first, last) :: rangesOf rest
  | _ => []

theorem getD_mem_rangesOf {table : List Nat} {k : Nat} (within : 2 * k + 1 < table.length) :
    (table.getD (2 * k) 0, table.getD (2 * k + 1) 0) ∈ rangesOf table := by
  induction table using rangesOf.induct generalizing k with
  | case1 first last rest ih =>
    cases k with
    | zero => exact List.mem_cons_self
    | succ k =>
      have inner : 2 * k + 1 < rest.length := by
        simp only [List.length_cons] at within
        omega
      exact List.mem_cons_of_mem _ (ih inner)
  | case2 table short =>
    match table with
    | [] => simp at within
    | [_] => simp at within
    | first :: last :: rest => exact absurd rfl (short first last rest)

theorem exists_range {table : Array Nat} {n : Nat} (even : table.size % 2 = 0)
    (inside : inBounds table n = true) :
    ∃ range ∈ rangesOf table.toList, range.1 ≤ n ∧ n < range.2 := by
  have placed := isPlaced_rank table n
  have odd : rank table n % 2 = 1 := by simpa [inBounds] using inside
  obtain ⟨k, place⟩ : ∃ k, rank table n = 2 * k + 1 := ⟨rank table n / 2, by omega⟩
  rw [place] at placed
  have within := placed.within
  have inner : 2 * k + 1 < table.size := by omega
  refine ⟨_, getD_mem_rangesOf (k := k) (by simpa using inner), ?_, ?_⟩
  · simpa using placed.below (by omega)
  · simpa using placed.above inner

/-- Whether sorted ranges from `low` on keep clear of other sorted ranges, of which those that end
before the present one are passed for good. -/
def keepClear (low : Nat) : List (Nat × Nat) → List (Nat × Nat) → Bool
  | [], _ => true
  | range :: ranges, others =>
    let after := others.dropWhile fun other => other.2.ble range.1
    low.ble range.1 && after.head?.all (fun other => range.2.ble other.1) &&
      keepClear range.1 ranges after

theorem apart_of_keepClear {low : Nat} {ranges others : List (Nat × Nat)}
    (clear : keepClear low ranges others = true) (sorted : others.Pairwise (·.1 ≤ ·.1)) :
    ∀ range ∈ ranges, low ≤ range.1 ∧
      ∀ other ∈ others, other.2 ≤ range.1 ∨ range.2 ≤ other.1 := by
  induction ranges generalizing low others with
  | nil => simp
  | cons range ranges ih =>
    simp only [keepClear, Bool.and_eq_true, Nat.ble_eq] at clear
    obtain ⟨⟨first, ahead⟩, rest⟩ := clear
    have split := List.takeWhile_append_dropWhile (p := fun other => other.2.ble range.1)
      (l := others)
    have passed : ∀ other ∈ others.takeWhile (fun other => other.2.ble range.1),
        other.2 ≤ range.1 := fun other member => by
      simpa using List.mem_takeWhile_imp member
    generalize others.takeWhile (fun other => other.2.ble range.1) = before at split passed
    generalize others.dropWhile (fun other => other.2.ble range.1) = after at split ahead rest
    subst split
    have later := (List.pairwise_append.mp sorted).2.1
    intro here member
    rcases List.mem_cons.mp member with rfl | member
    · refine ⟨first, fun other inside => ?_⟩
      rcases List.mem_append.mp inside with inside | inside
      · exact .inl (passed other inside)
      · cases after with
        | nil => cases inside
        | cons next after =>
          have ahead : here.2 ≤ next.1 := by simpa using ahead
          rcases List.mem_cons.mp inside with rfl | inside
          · exact .inr ahead
          · exact .inr (Nat.le_trans ahead ((List.pairwise_cons.mp later).1 other inside))
    · obtain ⟨low, apart⟩ := ih rest later here member
      refine ⟨Nat.le_trans first low, fun other inside => ?_⟩
      rcases List.mem_append.mp inside with inside | inside
      · exact .inl (Nat.le_trans (passed other inside) low)
      · exact apart other inside

/-! ## Letters and digits -/

def decimalRanges : List (Nat × Nat) := decimalZeros.toList.map fun first => (first, first + 10)

theorem exists_decimalRange {c : Char} (beyond : 128 ≤ c.toNat) (decimal : isDecimal c = true) :
    ∃ range ∈ decimalRanges, range.1 ≤ c.toNat ∧ c.toNat < range.2 := by
  obtain ⟨d, value⟩ := Option.isSome_iff_exists.mp decimal
  simp only [decimalValue?, if_neg (Nat.not_lt.mpr beyond)] at value
  split at value
  · next first found =>
    split at value
    · next inside =>
      have member : first ∈ decimalZeros.toList :=
        Array.mem_toList_iff.mpr (Array.mem_of_getElem? found)
      exact ⟨_, List.mem_map_of_mem member, inside⟩
    · cases value
  · cases value

theorem decimals_apart : keepClear 0 (rangesOf alphabeticBounds.toList) decimalRanges = true := by
  decide +kernel

theorem otherDigits_apart : keepClear 0 (rangesOf alphabeticBounds.toList)
    (rangesOf otherDigitBounds.toList) = true := by
  decide +kernel

theorem isDigit_eq_false_of_isAlphabetic {c : Char} (letter : isAlphabetic c = true) :
    isDigit c = false := by
  by_cases ascii : c.toNat < 128
  · exact Numeral.forall_ascii (p := fun c => isAlphabetic c = true → isDigit c = false)
      (by decide) ascii letter
  have beyond : 128 ≤ c.toNat := Nat.le_of_not_lt ascii
  rw [isAlphabetic, if_neg ascii] at letter
  obtain ⟨range, member, first, last⟩ := exists_range (by decide +kernel) letter
  rw [isDigit, Bool.or_eq_false_iff]
  constructor
  · by_contra decimal
    obtain ⟨other, inside, start, stop⟩ := exists_decimalRange beyond (by simpa using decimal)
    have sorted : decimalRanges.Pairwise (·.1 ≤ ·.1) := by decide
    have := (apart_of_keepClear decimals_apart sorted range member).2 other inside
    omega
  · by_contra digit
    have inClass : inBounds otherDigitBounds c.toNat = true := by simp_all
    obtain ⟨other, inside, start, stop⟩ := exists_range (by decide) inClass
    have sorted : (rangesOf otherDigitBounds.toList).Pairwise (·.1 ≤ ·.1) := by decide
    have := (apart_of_keepClear otherDigits_apart sorted range member).2 other inside
    omega

end StagedTables.Text
