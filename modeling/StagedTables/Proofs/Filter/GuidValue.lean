import StagedTables.Proofs.ExactNumber
import StagedTables.Proofs.Filter.LiteralFault
import StagedTables.Proofs.Identifier

/-! # Values that denote identifiers

An identifier type accepts whatever has a text that denotes an identifier.  Such a text is long
and holds no point, so it is never the text of a double, and of a decimal only if it is a whole
number written in full.  No text of a compound value denotes an identifier.  So two equal values
that both denote identifiers have one text. -/
set_option autoImplicit false
namespace StagedTables

open Text Numeral

/-! ## Texts of numbers -/

namespace Double

theorem mem_positional (digits : List Char) (point : Int) : '.' ∈ positional digits point := by
  unfold positional
  split
  · simp
  split
  · simp
  · simp

theorem mem_or_length_scientific (layout : Layout) (digits : List Char) (exponent : Int) :
    '.' ∈ scientific layout digits exponent ∨
      (scientific layout digits exponent).length ≤
        3 + (layout.exponentWidth + (Nat.toDigits 10 exponent.natAbs).length) := by
  rcases digits with - | ⟨first, - | ⟨second, rest⟩⟩
  · right
    simp [scientific, zeros]
    omega
  · right
    simp [scientific, zeros]
    omega
  · left
    simp [scientific]

/-- A numeral that reads back as a double other than zero is neither too large nor too small to
compute. -/
theorem decimalOrder_of_readsBack {numeral : ScaledDigits} {negative : Bool}
    {significand exponent : Nat} {canonical : CanonicalParts significand exponent}
    (readsBack : numeral.ReadsBack (.finite negative significand exponent canonical))
    (nonzero : significand ≠ 0) (digits : numeral.digits ≠ 0) :
    -(decimalBound : Int) ≤ decimalOrder numeral.digits numeral.exponent ∧
      decimalOrder numeral.digits numeral.exponent ≤ decimalBound := by
  rw [ScaledDigits.ReadsBack, ofDecimal_of_ne_zero _ digits] at readsBack
  split at readsBack
  · cases readsBack
  split at readsBack
  · simp only [signedZero, finite.injEq] at readsBack
    exact absurd readsBack.2.1.symm nonzero
  · omega

theorem length_toDigits_le {n width : Nat} (small : n < 10 ^ width) (positive : 0 < width) :
    (Nat.toDigits 10 n).length ≤ width :=
  (Nat.length_toDigits_le_iff (by decide) positive).mpr small

theorem mem_or_length_renderDigits {numeral : ScaledDigits}
    (bounded : numeral.digits ≠ 0 →
      -(decimalBound : Int) ≤ decimalOrder numeral.digits numeral.exponent ∧
        decimalOrder numeral.digits numeral.exponent ≤ decimalBound) :
    '.' ∈ renderDigits plainLayout numeral ∨ (renderDigits plainLayout numeral).length ≤ 8 := by
  have point : ∃ point : Int, -400 ≤ point ∧ point ≤ 400 ∧
      renderDigits plainLayout numeral =
        if -plainLayout.leadingZeroLimit ≤ point ∧ point ≤ plainLayout.positionalLimit then
          positional (trimmedDigits numeral.digits) point
        else scientific plainLayout (trimmedDigits numeral.digits) (point - 1) := by
    by_cases zero : numeral.digits = 0
    · exact ⟨1, by decide, by decide, by rw [renderDigits, if_pos zero]⟩
    · exact ⟨_, (bounded zero).1, (bounded zero).2, by rw [renderDigits, if_neg zero]; rfl⟩
  obtain ⟨point, above, below, rendered⟩ := point
  rw [rendered]
  split
  · exact .inl (mem_positional _ _)
  · refine (mem_or_length_scientific plainLayout _ (point - 1)).imp id fun short => ?_
    have small : (point - 1).natAbs < 10 ^ 3 := by omega
    have power := length_toDigits_le small (by decide)
    have least : plainLayout.exponentWidth = 2 := rfl
    omega

theorem mem_or_length_text (x : Double) :
    '.' ∈ x.text.toList ∨ x.text.toList.length < 32 := by
  rw [text, String.toList_ofList]
  cases x with
  | nan => exact .inr (by decide)
  | infinite negative => cases negative <;> exact .inr (by decide)
  | finite negative significand exponent canonical =>
    have readsBack := shortest_readsBack negative canonical
    have sign : (if negative then ['-'] else []).length ≤ 1 := by cases negative <;> simp
    refine (mem_or_length_renderDigits fun digits => ?_).imp (List.mem_append_right _)
      fun short => ?_
    · refine decimalOrder_of_readsBack readsBack (fun zero => digits ?_) digits
      simp [shortest, zero]
    · simp only [renderChars, List.length_append]
      omega

end Double

namespace Decimal

theorem length_exponent_le {negative : Bool} {coefficient : Nat} {exponent : Int}
    (inRange : (finite negative coefficient exponent).isInRange = true) :
    (Nat.toDigits 10 exponent.natAbs).length ≤ 19 := by
  have digits : 1 ≤ digitCount coefficient := Nat.length_toDigits_pos
  rw [isInRange, Bool.and_eq_true] at inRange
  have above : minExponent ≤ exponent := of_decide_eq_true inRange.1
  have below : exponent + digitCount coefficient - 1 ≤ maxExponent := of_decide_eq_true inRange.2
  simp only [minExponent, maxExponent] at above below
  have small : exponent.natAbs < 10 ^ 19 := by omega
  exact Double.length_toDigits_le small (by decide)

theorem layOut_zero (coefficient : Nat) : layOut coefficient 0 = Nat.toDigits 10 coefficient := by
  have some : 0 < (Nat.toDigits 10 coefficient).length := Nat.length_toDigits_pos
  have inside : (0 : Int) ≤ 0 ∧ -6 < 0 + ((Nat.toDigits 10 coefficient).length : Int) := by omega
  simp only [layOut, if_pos inside]
  rw [if_neg (by omega), if_pos (by omega)]
  simp [exponentMark]

theorem mem_or_length_layOut {negative : Bool} {coefficient : Nat} {exponent : Int}
    (inRange : (finite negative coefficient exponent).isInRange = true) (shifted : exponent ≠ 0) :
    '.' ∈ layOut coefficient exponent ∨ (layOut coefficient exponent).length < 31 := by
  have few := length_exponent_le inRange
  have some : 0 < (Nat.toDigits 10 coefficient).length := Nat.length_toDigits_pos
  simp only [layOut]
  generalize Nat.toDigits 10 coefficient = digits at some ⊢
  by_cases inside : exponent ≤ 0 ∧ -6 < exponent + (digits.length : Int)
  · -- fewer digits stand before the point than there are
    simp only [if_pos inside]
    left
    split
    · simp
    · rw [if_neg (by omega)]
      simp
  · simp only [if_neg inside]
    rw [if_neg (by decide)]
    split
    · next single =>
      have one : digits.length = 1 := Nat.le_antisymm single some
      have power : exponent + (digits.length : Int) - 1 = exponent := by omega
      right
      rw [power, exponentMark, if_neg shifted]
      simp only [List.length_append, List.length_replicate, List.length_cons, one]
      omega
    · left
      simp

end Decimal

/-! ## Texts that are too short or hold a mark -/

namespace Uuid

variable {s : String} {u : Uuid} (denotes : read s = .ok u)

include denotes

theorem length_of_read : 32 ≤ s.toList.length := by
  have short := (bareDigits_sublist s.toList).length_le
  rw [(integer?_of_read denotes).1] at short
  exact short.trans (List.length_filter_le _ _)

def otherMarks : List Char := ['.', '\'', '"', '<', '(', '[', 'y']

theorem unmarked_of_read (mark : Char) (other : mark ∈ otherMarks) : mark ∉ s.toList := by
  have noNumeral : ∀ c ∈ otherMarks, (!isNumeralChar .sixteen (plainChar c)) = true :=
    List.all_eq_true.mp (by decide)
  have kept : ∀ c ∈ otherMarks, c ∉ droppable := by simp [otherMarks, droppable]
  have unmarked : ∀ c ∈ s.toList, c ≠ mark := by
    refine forall_of_read denotes ?_ ?_
    · rintro c numeral rfl
      simpa [numeral] using noNumeral c other
    · rintro c dropped rfl
      exact kept c other dropped
  exact fun member => unmarked mark member rfl

end Uuid

/-! ## Values with such texts -/

namespace Value

def isObject : Value → Bool
  | object _ => true
  | _ => false

/-- Numbers are compared by their exact values, unless an object is asked. -/
theorem exists_exactNumber_of_compare {c : Comparing} {v w : Value} (number : v.isNumber = true)
    (plain : w.isObject = false) (same : compare c v w = .ok true) :
    ∃ x, v.exactNumber? = some x ∧ w.exactNumber? = some x := by
  have compared : plainCompare c v w = .ok true := by
    cases v with
    | boolean b => cases w <;> exact same
    | integer n => cases w <;> exact same
    | double x => cases w <;> exact same
    | decimal d => cases w <;> exact same
    | _ => cases number
  have equal : v.numbersEqual w = true := by
    unfold plainCompare at compared
    split at compared
    any_goals cases number
    · cases plain
    · split at compared
      · cases compared
      · exact Except.ok.inj compared
  unfold numbersEqual at equal
  split at equal
  · next x y first second => exact ⟨x, first, by rw [second, beq_iff_eq.mp equal]⟩
  · cases equal

/-- The text of a value denotes an identifier. -/
def Denotes (v : Value) (s : String) : Prop :=
  v.plainText = .ok s ∧ ∃ u, Uuid.read s = .ok u

theorem exists_denotes_of_accepts {v : Value} (accepted : Edm.guid.accepts v = true) :
    ∃ s, v.Denotes s := by
  cases text : v.plainText with
  | error reason =>
    have failing : Literal.ofGuid v = .error (.value reason) := by
      simp only [Literal.ofGuid, Literal.plainChars, text]
      rfl
    exact absurd failing (ofGuid_ne_error accepted)
  | ok s =>
    cases denotes : v.asUuid with
    | error fault => simp [Edm.accepts, denotes, Except.isOk, Except.toBool] at accepted
    | ok u => exact ⟨s, text, u, read_plainText text denotes⟩

def IsInRange (v : Value) : Prop := ∀ d, v = .decimal d → d.isInRange = true

theorem exists_ofInt_of_signed (negative : Bool) {coefficient : Nat} (nonzero : coefficient ≠ 0) :
    ∃ n : Int, ExactNumber.ofParts negative coefficient 0 = .ofInt n ∧
      signChars negative ++ Nat.toDigits 10 coefficient = (toString n).toList := by
  have signed : ∃ n : Int, n.natAbs = coefficient ∧ decide (n < 0) = negative := by
    cases negative
    · exact ⟨coefficient, Int.natAbs_natCast coefficient, decide_eq_false (by omega)⟩
    · exact ⟨-(coefficient : Int), by omega, decide_eq_true (by omega)⟩
  obtain ⟨n, size, sign⟩ := signed
  refine ⟨n, ?_, ?_⟩
  · rw [ExactNumber.ofInt, size, sign]
  · rw [Filter.toString_toList, size, sign]

theorem exists_ofInt_of_decimal {d : Decimal} {x : ExactNumber} (inRange : d.isInRange = true)
    (long : 32 ≤ d.chars.length) (unpointed : '.' ∉ d.chars)
    (number : ExactNumber.ofDecimal? d = some x) :
    ∃ n : Int, x = .ofInt n ∧ d.text = toString n := by
  cases d with
  | infinite negative => cases negative <;> exact absurd long (by decide)
  | notANumber => cases number
  | finite negative coefficient exponent =>
    have sign : (Decimal.signMark negative).length ≤ 1 := by cases negative <;> decide
    rw [Decimal.chars, List.length_append] at long
    have whole : exponent = 0 := by
      by_contra shifted
      rcases Decimal.mem_or_length_layOut inRange shifted with point | short
      · exact unpointed (List.mem_append_right _ point)
      · omega
    rw [whole, Decimal.layOut_zero] at long
    have nonzero : coefficient ≠ 0 := by
      rintro rfl
      have one : (Nat.toDigits 10 0).length = 1 := by decide
      omega
    obtain ⟨n, exact, written⟩ := exists_ofInt_of_signed negative nonzero
    refine ⟨n, ?_, ?_⟩
    · rw [← exact, ← whole]
      exact (Option.some.inj number).symm
    · rw [Decimal.text, Decimal.chars, whole, Decimal.layOut_zero]
      exact String.toList_inj.mp (String.toList_ofList.trans written)

/-- A number whose text denotes an identifier is a whole number written in full. -/
theorem Denotes.eq_ofInt {v : Value} {s : String} {x : ExactNumber} (denotes : v.Denotes s)
    (inRange : v.IsInRange) (number : v.exactNumber? = some x) :
    ∃ n : Int, x = .ofInt n ∧ s = toString n := by
  obtain ⟨text, u, read⟩ := denotes
  have long := Uuid.length_of_read read
  have unpointed := Uuid.unmarked_of_read read '.' (by decide)
  cases v with
  | boolean b =>
    cases b <;> cases text <;> exact absurd long (by decide)
  | integer n =>
    simp only [plainText, quoted, integerText] at text
    split at text
    · exact ⟨n, (Option.some.inj number).symm, (Except.ok.inj text).symm⟩
    · cases text
  | double y =>
    cases text
    rcases Double.mem_or_length_text y with point | short
    · exact absurd point unpointed
    · exact absurd long (Nat.not_le.mpr short)
  | decimal d =>
    cases text
    rw [Decimal.text, String.toList_ofList] at long unpointed
    exact exists_ofInt_of_decimal (inRange d rfl) long unpointed number
  | _ => cases number

/-! ## Compound values -/

section DateTimeText

open Calendar Filter.DateTimeLiteral

variable {p : Char → Prop} (digit : ∀ d : Fin 10, p (Nat.digitChar d))

include digit

theorem forall_offsetChars (offset : Offset) (signs : p '-' ∧ p '+') (marks : p ':' ∧ p '.') :
    ∀ c ∈ offset.chars, p c := by
  have bounds := offset.isOffset
  simp only [microsPerDay] at bounds
  generalize measured : offset.micros.natAbs = size
  have seconds : size / microsPerSecond < 86400 := by
    simp only [microsPerSecond]
    omega
  have hours := forall_padded (show 0 < 2 by decide)
    (show size / microsPerSecond / 3600 < 10 ^ 2 by omega) digit
  have minutes := forall_padded (show 0 < 2 by decide)
    (show size / microsPerSecond / 60 % 60 < 10 ^ 2 by omega) digit
  have odd := forall_padded (show 0 < 2 by decide)
    (show size / microsPerSecond % 60 < 10 ^ 2 by omega) digit
  have fraction := forall_padded (show 0 < 6 by decide)
    (show size % microsPerSecond < 10 ^ 6 from Nat.mod_lt _ (by decide)) digit
  have sign : p (if offset.micros < 0 then '-' else '+') := by
    split
    · exact signs.1
    · exact signs.2
  simp only [Offset.chars, measured, List.append_assoc, List.cons_append, List.forall_mem_append,
    List.forall_mem_cons]
  refine ⟨sign, hours.2, marks.1, minutes.2, ?_, ?_⟩
  · split
    · simp
    · exact List.forall_mem_cons.mpr ⟨marks.1, odd.2⟩
  · split
    · simp
    · exact List.forall_mem_cons.mpr ⟨marks.2, fraction.2⟩

theorem forall_isoTextAt (d : DateTime) (offset : Option Offset) (signs : p '-' ∧ p '+')
    (marks : p ' ' ∧ p ':' ∧ p '.') : ∀ c ∈ (d.isoTextAt ' ' offset).toList, p c := by
  obtain ⟨blank, colon, point⟩ := marks
  have date := forall_dateChars digit d.date signs.1
  have time := forall_timeChars digit d.time colon
  have micros := forall_padded (show 0 < 6 by decide) d.time.microsecond.isLt digit
  have fraction : ∀ c ∈ (if d.time.microsecond.val = 0 then []
      else '.' :: padded 6 d.time.microsecond), p c := by
    split
    · simp
    · exact List.forall_mem_cons.mpr ⟨point, micros.2⟩
  simp only [DateTime.isoTextAt, String.toList_ofList, List.append_assoc, List.cons_append,
    List.forall_mem_append, List.forall_mem_cons]
  refine ⟨date.2, blank, time.2, fraction, ?_⟩
  split
  · exact forall_offsetChars digit _ signs ⟨colon, point⟩
  · simp

end DateTimeText

theorem not_denotes_dateTime (d : Calendar.DateTime) (s : String) : ¬ (dateTime d).Denotes s := by
  rintro ⟨text, u, read⟩
  obtain ⟨offset, rfl⟩ : ∃ offset, d.isoTextAt ' ' offset = s := by
    simp only [plainText, Calendar.DateTime.isoText] at text
    cases known : d.offset with
    | raises error => simp [known, Answer.map, ValueFault.ofAnswer] at text
    | gives offset =>
      exact ⟨offset, by simpa [known, Answer.map, ValueFault.ofAnswer] using text⟩
  have kept := forall_isoTextAt (p := fun c => c ≠ 'u' ∧ (c == '\x7b' || c == '\x7d') = false)
    (by decide) d offset (by decide) (by decide)
  have bare := Uuid.bareDigits_of_forall (fun c member => (kept c member).1)
    fun c member => (kept c member).2
  obtain ⟨-, n, value, -⟩ := Uuid.integer?_of_read read
  have colon : ':' ∈ (d.isoTextAt ' ' offset).toList := by
    simp [Calendar.DateTime.isoTextAt, Calendar.TimeOfDay.chars]
  rw [bare] at value
  exact absurd (isNumeralChar_of_integer? value (List.mem_filter.mpr ⟨colon, by decide⟩))
    (by decide)

theorem not_denotes_of_mem {v : Value} {s : String} (mark : Char) (member : mark ∈ s.toList)
    (other : mark ∈ Uuid.otherMarks) : ¬ v.Denotes s := by
  rintro ⟨-, u, read⟩
  exact Uuid.unmarked_of_read read mark other member

theorem not_denotes_bytes (form : ByteForm) (data : List UInt8) (s : String) :
    ¬ (bytes form data).Denotes s := by
  have quote : chooseByteQuote data ∈ Uuid.otherMarks := by
    unfold chooseByteQuote chooseQuote
    split <;> decide
  intro denotes
  cases denotes.1
  cases form with
  | view view =>
    have bracket : '<' ∈ (toString "<memory at ").toList := by decide
    exact not_denotes_of_mem '<' (by simp [bytesQuoted, bracket]) (by decide) denotes
  | constant =>
    refine not_denotes_of_mem _ ?_ quote denotes
    simp [bytesQuoted, quotedBytes, quoteBytes]
  | buffer =>
    refine not_denotes_of_mem _ ?_ quote denotes
    simp [bytesQuoted, quotedBuffer, quoteBytes]

theorem not_denotes_released (address : Nat) (s : String) : ¬ (released address).Denotes s := by
  intro denotes
  cases denotes.1
  have bracket : '<' ∈ (toString "<released memory at ").toList := by decide
  exact not_denotes_of_mem '<' (by simp [bracket]) (by decide) denotes

theorem exists_of_bind {α β : Type} {shown : Except ValueFault α}
    {build : α → Except ValueFault β} {result : β} (made : shown >>= build = .ok result) :
    ∃ part, shown = .ok part ∧ build part = .ok result := by
  cases shown with
  | error fault => cases made
  | ok part => exact ⟨part, rfl, made⟩

theorem not_denotes_list (items : List Value) (s : String) : ¬ (list items).Denotes s := by
  intro denotes
  have made := denotes.1
  simp only [plainText, quoted] at made
  obtain ⟨parts, -, built⟩ := exists_of_bind made
  cases built
  exact not_denotes_of_mem '[' (by simp) (by decide) denotes

theorem not_denotes_typed (edm : Edm) (value : Value) (s : String) :
    ¬ (typed edm value).Denotes s := by
  intro denotes
  have made := denotes.1
  simp only [plainText, quoted] at made
  obtain ⟨part, -, built⟩ := exists_of_bind made
  cases built
  have bracket : '(' ∈ (toString "TypedValue(").toList := by decide
  exact not_denotes_of_mem '(' (by simp [bracket]) (by decide) denotes

theorem not_denotes_property (edm : Edm) (value : Value) (s : String) :
    ¬ (property edm value).Denotes s := by
  intro denotes
  have made := denotes.1
  simp only [plainText, quoted] at made
  obtain ⟨part, -, built⟩ := exists_of_bind made
  cases built
  have bracket : '(' ∈ (toString "EntityProperty(value=").toList := by decide
  exact not_denotes_of_mem '(' (by simp [bracket]) (by decide) denotes

theorem not_denotes_record (fields : List (String × Value)) (s : String) :
    ¬ (record fields).Denotes s := by
  intro denotes
  have made := denotes.1
  simp only [plainText, quoted] at made
  obtain ⟨parts, shown, built⟩ := exists_of_bind made
  cases built
  cases fields with
  | nil =>
    cases shown
    obtain ⟨u, read⟩ := denotes.2
    exact absurd (Uuid.length_of_read read) (by decide)
  | cons field rest =>
    obtain ⟨name, value⟩ := field
    simp only [quotedFields] at shown
    obtain ⟨part, -, shown⟩ := exists_of_bind shown
    obtain ⟨others, -, shown⟩ := exists_of_bind shown
    cases shown
    have quote : chooseQuote name.toList ∈ Uuid.otherMarks := by
      unfold chooseQuote
      split <;> decide
    have front : chooseQuote name.toList ∈ (Text.quoted name).toList := by
      simp [Text.quoted, quoteChars]
    exact not_denotes_of_mem _ (by cases others <;> simp [front]) quote denotes

/-- Two equal values that denote identifiers have one text, unless an object says otherwise. -/
theorem Denotes.eq_of_compare {c : Comparing} {v w : Value} {s t : String}
    (denotes : v.Denotes s) (other : w.Denotes t) (inRange : v.IsInRange) (inRange' : w.IsInRange)
    (plain : v.isObject = false) (plain' : w.isObject = false)
    (same : compare c v w = .ok true) : s = t := by
  by_cases number : v.isNumber = true
  · obtain ⟨x, first, second⟩ := exists_exactNumber_of_compare number plain' same
    obtain ⟨n, exact, rfl⟩ := denotes.eq_ofInt inRange first
    obtain ⟨m, exact', rfl⟩ := other.eq_ofInt inRange' second
    rw [ExactNumber.ofInt_inj (exact.symm.trans exact')]
  · have alike : w = v := by
      cases v with
      | bytes form data => exact absurd denotes (not_denotes_bytes form data s)
      | released address => exact absurd denotes (not_denotes_released address s)
      | dateTime d => exact absurd denotes (not_denotes_dateTime d s)
      | list items => exact absurd denotes (not_denotes_list items s)
      | record fields => exact absurd denotes (not_denotes_record fields s)
      | typed edm value => exact absurd denotes (not_denotes_typed edm value s)
      | property edm value => exact absurd denotes (not_denotes_property edm value s)
      | object o => cases plain
      | null =>
        cases w with
        | null => rfl
        | object o => cases plain'
        | _ => cases same
      | text a =>
        cases w with
        | text b => exact congrArg text (beq_iff_eq.mp (Except.ok.inj same)).symm
        | object o => cases plain'
        | _ => cases same
      | date d =>
        cases w with
        | date e => exact congrArg date (beq_iff_eq.mp (Except.ok.inj same)).symm
        | object o => cases plain'
        | _ => cases same
      | uuid u =>
        cases w with
        | uuid u' => exact congrArg uuid (beq_iff_eq.mp (Except.ok.inj same)).symm
        | object o => cases plain'
        | _ => cases same
      | _ => exact absurd rfl number
    have text := other.1
    rw [alike, denotes.1] at text
    exact Except.ok.inj text

end Value

end StagedTables
