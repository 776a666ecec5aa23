import StagedTables.Proofs.Filter.GuidValue

/-! # Equal filters and their queries

Equality of values looks at what they denote, and the literal of a value at its type, so equal
values may be written apart: a truth value and the number that it counts as, zeros of two signs,
date-times of one zone that differ in `fold`, views of other bytes with the same items, and text
for what has no literal of its own.  These are all the ways, but for objects, which say themselves
what they equal.  Literals of different types are never the same.  Equal filters whose values are
paired so that none is written apart have one query. -/
set_option autoImplicit false
namespace StagedTables

open Calendar (DateTime LocalZone)
open Text Numeral

/-! ## A literal shows its type -/

namespace Literal

def openings : Edm → List Char
  | .binary => ['X']
  | .boolean => ['t', 'f']
  | .dateTime => ['d']
  | .guid => ['g']
  | .string => ['\'']
  | _ => "-0123456789IN".toList

def Opens (edm : Edm) (cs : List Char) : Prop := ∃ c ∈ openings edm, cs.head? = some c

theorem opens_number {edm : Edm} (numeric : edm.isNumeric = true) (negative : Bool) (w : Written)
    (rest : List Char) : Opens edm (signChars negative ++ w.chars ++ rest) := by
  have digits : ∀ d : Fin 10, Nat.digitChar d ∈ openings .int32 := by decide
  have listed : openings edm = openings .int32 := by
    cases edm <;> first | rfl | cases numeric
  obtain ⟨d, tail, small, shape⟩ := w.exists_first
  rw [Opens, listed, shape]
  cases negative
  · exact ⟨Nat.digitChar d, digits ⟨d, small⟩, rfl⟩
  · exact ⟨'-', by decide, rfl⟩

theorem opens_marked (edm : Edm) {mark : String} (body : List Char)
    (opens : ∃ c ∈ openings edm, (mark.toList ++ ['\'']).head? = some c) :
    Opens edm (marked mark body) := by
  obtain ⟨c, listed, first⟩ := opens
  refine ⟨c, listed, ?_⟩
  rw [marked, ← first]
  cases mark.toList <;> rfl

theorem opens_integer {edm : Edm} (numeric : edm.isNumeric = true) {n : Int} (fits : FitsInt64 n)
    (rest : List Char) : Opens edm ((toString n).toList ++ rest) := by
  obtain ⟨w, -, -, written, -⟩ := Filter.exists_integerText (hasFewDigits_of_fitsInt64 fits)
  rw [written]
  exact opens_number numeric _ w rest

theorem opens_double (x : Double) : Opens .double (x.renderChars doubleLayout) := by
  cases x with
  | nan => exact ⟨'N', by decide, rfl⟩
  | infinite negative => cases negative <;> exact ⟨_, by decide, rfl⟩
  | finite negative significand exponent canonical =>
    obtain ⟨w, -, written, -⟩ := exists_renderChars doubleLayout negative canonical
    rw [written, ← List.append_nil (signChars negative ++ w.chars)]
    exact opens_number rfl negative w []

def textOf : Value → Except ValueFault String
  | .null => .ok ""
  | other => other.formattedText

theorem ofString_eq (v : Value) : ofString v = (charsOf (textOf v)).map (marked "") := by
  by_cases absent : v = .null
  · subst absent
    rfl
  · rw [ofString_of_ne_null absent]
    cases v with
    | null => exact absurd rfl absent
    | _ => rfl

theorem exists_textOf_of_ofString {v : Value} {literal : List Char}
    (encoded : ofString v = .ok literal) :
    ∃ s, textOf v = .ok s ∧ literal = marked "" s.toList := by
  rw [ofString_eq] at encoded
  cases written : charsOf (textOf v) with
  | error fault => simp [written, Except.map] at encoded
  | ok cs =>
    obtain ⟨s, text, rfl⟩ := exists_text_of_charsOf written
    rw [written] at encoded
    exact ⟨s, text, (Except.ok.inj encoded).symm⟩

section Typed

variable {zone : LocalZone} {edm edm' : Edm} {v w : Value} {literal : List Char}

theorem exists_toUtc_of_ofDateTime {d : DateTime} (encoded : ofDateTime zone d = .ok literal) :
    ∃ u, d.toUtc zone = .ok u ∧ literal = marked dateTimeMark (dateTimeBody u) := by
  unfold ofDateTime at encoded
  cases turned : d.toUtc zone with
  | error fault => simp [turned] at encoded
  | ok u =>
    rw [turned] at encoded
    exact ⟨u, rfl, (Except.ok.inj encoded).symm⟩

theorem opens_of_encodeAs (accepted : edm.accepts v = true)
    (encoded : encodeAs zone edm v = .ok literal) : Opens edm literal := by
  cases edm with
  | binary =>
    cases v with
    | bytes form data => exact Except.ok.inj encoded ▸ opens_marked .binary _ ⟨'X', by decide, rfl⟩
    | released address => cases encoded
    | _ => cases accepted
  | boolean =>
    cases v with
    | boolean b => cases b <;> cases encoded <;> exact ⟨_, by decide, rfl⟩
    | _ => cases accepted
  | dateTime =>
    cases v with
    | dateTime d =>
      obtain ⟨u, -, rfl⟩ := exists_toUtc_of_ofDateTime encoded
      exact opens_marked .dateTime _ ⟨'d', by decide, rfl⟩
    | _ => cases accepted
  | double =>
    cases converted : v.asDouble with
    | error fault => simp [encodeAs, converted, bind, Except.bind] at encoded
    | ok x =>
      simp only [encodeAs, converted] at encoded
      exact Except.ok.inj encoded ▸ opens_double x
  | guid =>
    obtain ⟨s, u, -, -, -, rfl⟩ := exists_text_of_ofGuid accepted encoded
    exact opens_marked .guid _ ⟨'g', by decide, rfl⟩
  | int32 =>
    cases v with
    | integer n =>
      have fits : FitsInt32 n := of_decide_eq_true accepted
      have numeric : Edm.int32.isNumeric = true := rfl
      have opens := opens_integer numeric (fitsInt64_of_fitsInt32 fits) []
      rw [encodeAs_int32 fits] at encoded
      rwa [List.append_nil, Except.ok.inj encoded] at opens
    | _ => cases accepted
  | int64 =>
    cases v with
    | integer n =>
      have fits : FitsInt64 n := of_decide_eq_true accepted
      rw [encodeAs_int64 fits] at encoded
      exact Except.ok.inj encoded ▸ opens_integer rfl fits ['L']
    | _ => cases accepted
  | string =>
    obtain ⟨s, -, rfl⟩ := exists_textOf_of_ofString encoded
    exact opens_marked .string s.toList ⟨'\'', by decide, rfl⟩

/-- Only the literals of numbers may begin alike. -/
theorem numeric_of_opens (first : Opens edm literal) (second : Opens edm' literal) :
    edm = edm' ∨ edm.isNumeric = true ∧ edm'.isNumeric = true := by
  have apart : ∀ c ∈ openings edm, c ∈ openings edm' →
      edm = edm' ∨ edm.isNumeric = true ∧ edm'.isNumeric = true := by
    cases edm <;> cases edm' <;> simp [openings, Edm.isNumeric]
  obtain ⟨c, listed, head⟩ := first
  obtain ⟨d, listed', head'⟩ := second
  rw [head, Option.some.injEq] at head'
  exact apart c listed (head' ▸ listed')

theorem isLiteral_unique (first : IsLiteral zone edm v literal)
    (second : IsLiteral zone edm' w literal) :
    ∃ u, CanonicalValue zone edm v u ∧ CanonicalValue zone edm' w u := by
  obtain ⟨lexeme, u, scans, value, canonical⟩ := first
  obtain ⟨lexeme', u', scans', value', canonical'⟩ := second
  have once := scans.scan [] Filter.isBoundary_nil
  rw [scans'.scan [] Filter.isBoundary_nil] at once
  cases once
  have decoded : Filter.decodeLiteral ⟨lexeme, .start, 0⟩ = .ok u :=
    Filter.decodeLiteral_of_literalValue value
  have decoded' : Filter.decodeLiteral ⟨lexeme, .start, 0⟩ = .ok u' :=
    Filter.decodeLiteral_of_literalValue value'
  rw [decoded'] at decoded
  exact ⟨u, canonical, Except.ok.inj decoded ▸ canonical'⟩

/-- No literal stands for values of two types. -/
theorem edm_eq_of_encodeAs (accepted : edm.accepts v = true)
    (accepted' : edm'.accepts w = true) (first : encodeAs zone edm v = .ok literal)
    (second : encodeAs zone edm' w = .ok literal) : edm = edm' := by
  rcases numeric_of_opens (opens_of_encodeAs accepted first) (opens_of_encodeAs accepted' second)
    with same | ⟨numeric, numeric'⟩
  · exact same
  · have isLiteral := isLiteral_of_encodeAs accepted first
      (by rintro rfl; cases numeric) (by rintro rfl; cases numeric)
    have isLiteral' := isLiteral_of_encodeAs accepted' second
      (by rintro rfl; cases numeric') (by rintro rfl; cases numeric')
    obtain ⟨u, canonical, canonical'⟩ := isLiteral_unique isLiteral isLiteral'
    cases canonical <;> cases canonical' <;> rfl

end Typed

end Literal

/-! ## Equal values -/

theorem ConversionFault.ofAnswer_eq_ok_iff {α : Type} {answer : Answer α} {value : α} :
    ConversionFault.ofAnswer answer = .ok value ↔ answer = .gives value := by
  cases answer <;> simp [ConversionFault.ofAnswer, ValueFault.ofAnswer, Except.mapError]

namespace Calendar.DateTime

variable {d e u u' : DateTime} {zone : LocalZone}

/-- Date-times of two zones are equal only at one instant. -/
theorem exists_offsets_of_compare (same : d.compare e = .gives true)
    (apart : d.sharesZone e = false) :
    ∃ offset other, d.offset = .gives offset ∧ e.offset = .gives other ∧
      offset.isSome = other.isSome ∧ d.instant = e.instant := by
  simp only [compare, apart, Bool.false_eq_true, ↓reduceIte] at same
  cases zoned : d.offset with
  | raises error => simp [zoned, Answer.bind] at same
  | gives offset =>
    cases zoned' : e.offset with
    | raises error => simp [zoned, zoned', Answer.bind] at same
    | gives other =>
      simp only [zoned, zoned', Answer.bind] at same
      split at same
      · next alike =>
        simp only [Bool.and_eq_true, beq_iff_eq] at alike
        exact ⟨offset, other, rfl, rfl, alike⟩
      · cases same

/-- Equal date-times are one in UTC, unless they are compared by their fields. -/
theorem toUtc_eq_of_compare (same : d.compare e = .gives true) (apart : d.sharesZone e = false)
    (zoned : d.offset ≠ .gives none) : d.toUtc zone = e.toUtc zone := by
  obtain ⟨offset, other, known, known', alike, instant⟩ := exists_offsets_of_compare same apart
  cases offset with
  | none => exact absurd known zoned
  | some offset =>
    cases other with
    | none => cases alike
    | some other => rw [toUtc_of_aware known, toUtc_of_aware known', instant]

theorem dateTimeBody_inj (isUtc : u.IsUtc) (isUtc' : u'.IsUtc)
    (same : Literal.dateTimeBody u = Literal.dateTimeBody u') : u = u' := by
  have decoded := Filter.DateTimeLiteral.decode_dateTimeBody isUtc
  rw [same, Filter.DateTimeLiteral.decode_dateTimeBody isUtc'] at decoded
  exact (Except.ok.inj decoded).symm

end Calendar.DateTime

namespace Value

/-- Negative zero, which equals zero but is written with its sign. -/
def isNegativeZero : Value → Bool
  | double x => x.isZero && x.isNegative
  | _ => false

def isView : Value → Bool
  | bytes (.view _) _ => true
  | _ => false

def foldedText (v : Value) : Except ValueFault (List Char) :=
  v.plainText.map fun s => lowerFrom [] s.toList

/-- What equal values under one type have in common if they are written alike.  Date-times with one
zone, or without an offset, are equal by their fields, views by their items, and objects by what
they say. -/
def WrittenAlike (zone : LocalZone) (edm : Edm) (v w : Value) : Prop :=
  match edm, v, w with
  | .double, v, w => v.isNegativeZero = w.isNegativeZero
  | .string, v, w => Literal.textOf v = Literal.textOf w
  | .dateTime, dateTime d, dateTime e =>
    d.sharesZone e = true ∨ d.offset = .gives none → d.toUtc zone = e.toUtc zone
  | .binary, v, w => v.isView = true ∨ w.isView = true → v.asBytes = w.asBytes
  | .guid, v, w => v.isObject = true ∨ w.isObject = true → v.foldedText = w.foldedText
  | _, _, _ => True

def SharesForm (zone : LocalZone) (v w : Value) : Prop :=
  v.edm = w.edm ∧ WrittenAlike zone v.edm v.untyped w.untyped

theorem WrittenAlike.refl (zone : LocalZone) (edm : Edm) (v : Value) :
    WrittenAlike zone edm v v := by
  cases edm <;> cases v <;> simp [WrittenAlike]

/-- How two values under their types come to be taken for equal. -/
inductive Meets (c : Comparing) : Value → Value → Prop
  | same (v : Value) : Meets c v v
  | asked {v w : Value} (object : v.isObject = true ∨ w.isObject = true) : Meets c v w
  | equal {v w : Value} (equal : compare c v w = .ok true) : Meets c v w

section Comparing

variable {c : Comparing} {v w : Value}

theorem meets_untyped (identity : ∀ v w, c.same v w = true → v = w)
    (same : compareHeld c v w = .ok true) : Meets c v.untyped w.untyped := by
  unfold compareHeld at same
  split at same
  · next one =>
    rw [identity v w one]
    exact .same _
  cases v with
  | typed edm value =>
    cases w with
    | typed other value' =>
      simp only [compare] at same
      split at same
      · next one =>
        rw [show value = value' from identity _ _ one]
        exact .same _
      · cases inner : compare c value value' with
        | error fault => simp [inner, bind, Except.bind] at same
        | ok equal =>
          simp only [inner, bind, Except.bind, pure, Except.pure, Except.ok.injEq,
            Bool.and_eq_true] at same
          exact .equal (inner.trans (congrArg Except.ok same.1))
    | object o => exact .asked (.inr rfl)
    | _ => cases same
  | object o => exact .asked (.inl rfl)
  | boolean | integer | double | decimal =>
    cases w with
    | typed other value' =>
      obtain ⟨x, -, typed⟩ := exists_exactNumber_of_compare rfl rfl same
      cases typed
    | _ => exact .equal same
  | _ =>
    cases w with
    | typed other value' => cases same
    | _ => exact .equal same

theorem integer_inj_of_compare {n m : Int} (same : compare c (integer n) (integer m) = .ok true) :
    n = m := by
  obtain ⟨x, first, second⟩ := exists_exactNumber_of_compare rfl rfl same
  rw [← first] at second
  exact (ExactNumber.ofInt_inj (Option.some.inj second)).symm

theorem boolean_inj_of_compare {b b' : Bool}
    (same : compare c (boolean b) (boolean b') = .ok true) : b = b' := by
  obtain ⟨x, first, second⟩ := exists_exactNumber_of_compare rfl rfl same
  rw [← first] at second
  have counts := ExactNumber.ofInt_inj (Option.some.inj second)
  cases b <;> cases b' <;> first | rfl | cases counts

theorem bytes_eq_of_compare {form form' : ByteForm} {data data' : List UInt8}
    (same : compare c (bytes form data) (bytes form' data') = .ok true)
    (plain : (bytes form data).isView = false) (plain' : (bytes form' data').isView = false) :
    data = data' := by
  cases form with
  | view => cases plain
  | _ =>
    cases form' with
    | view => cases plain'
    | _ => exact beq_iff_eq.mp (Except.ok.inj same)

theorem ofInt?_of_doubleOfInteger {n : Int} {x : Double} (nearest : doubleOfInteger n = .ok x) :
    Double.ofInt? n = some x := by
  unfold doubleOfInteger at nearest
  cases found : Double.ofInt? n with
  | none => simp [found] at nearest
  | some y =>
    rw [found] at nearest
    exact congrArg some (Except.ok.inj nearest)

theorem isNegative_of_isNegativeZero {x : Double} (positive : (double x).isNegativeZero = false)
    (zero : x.isZero = true) : x.isNegative = false := by
  simpa [isNegativeZero, zero] using positive

theorem asDouble_eq_of_compare {x y : Double} (accepted : Edm.double.accepts v = true)
    (accepted' : Edm.double.accepts w = true) (same : compare c v w = .ok true)
    (zeros : v.isNegativeZero = w.isNegativeZero) (first : v.asDouble = .ok x)
    (second : w.asDouble = .ok y) : x = y := by
  cases v with
  | integer n =>
    have nearest := ofInt?_of_doubleOfInteger first
    cases w with
    | integer m =>
      rw [← integer_inj_of_compare same, first] at second
      exact Except.ok.inj second
    | double y' =>
      cases second
      obtain ⟨number, exact, exact'⟩ := exists_exactNumber_of_compare rfl rfl same
      rw [← exact] at exact'
      rw [ExactNumber.ofInt?_of_ofDouble?_eq exact' (isNegative_of_isNegativeZero zeros.symm)]
        at nearest
      exact (Option.some.inj nearest).symm
    | _ => cases accepted'
  | double x' =>
    cases first
    cases w with
    | integer m =>
      obtain ⟨number, exact, exact'⟩ := exists_exactNumber_of_compare rfl rfl same
      have nearest := ofInt?_of_doubleOfInteger second
      rw [← exact'] at exact
      rw [ExactNumber.ofInt?_of_ofDouble?_eq exact (isNegative_of_isNegativeZero zeros)] at nearest
      exact Option.some.inj nearest
    | double y' =>
      cases second
      obtain ⟨number, exact, exact'⟩ := exists_exactNumber_of_compare rfl rfl same
      refine ExactNumber.eq_of_ofDouble?_eq exact exact' fun zero zero' => ?_
      simpa [isNegativeZero, zero, zero'] using zeros
    | _ => cases accepted'
  | _ => cases accepted

theorem isNegativeZero_of_doubleOfInteger {n : Int} {x : Double}
    (nearest : doubleOfInteger n = .ok x)
    (same : (double x).exactNumber? = (integer n).exactNumber?) :
    (double x).isNegativeZero = false := by
  cases zero : x.isZero with
  | false => simp [isNegativeZero, zero]
  | true =>
    have exact : ExactNumber.ofDouble? .positiveZero = some (.ofInt n) := by
      refine Eq.trans ?_ same
      cases x with
      | finite negative significand exponent canonical =>
        obtain rfl := beq_iff_eq.mp zero
        exact (ExactNumber.ofDouble?_zero false Double.canonical_zero).trans
          (ExactNumber.ofDouble?_zero negative canonical).symm
      | _ => cases zero
    have positive := ExactNumber.ofInt?_of_ofDouble?_eq exact fun _ => rfl
    rw [ofInt?_of_doubleOfInteger nearest] at positive
    rw [Option.some.inj positive]
    rfl

theorem isNegativeZero_eq_of_canonical {zone : LocalZone} {u : Value}
    (same : compare c v w = .ok true) (first : CanonicalValue zone .double v u)
    (second : CanonicalValue zone .double w u) : v.isNegativeZero = w.isNegativeZero := by
  cases first with
  | double =>
    cases second with
    | double => rfl
    | doubleOfInteger nearest =>
      obtain ⟨number, exact, exact'⟩ := exists_exactNumber_of_compare rfl rfl same
      exact isNegativeZero_of_doubleOfInteger nearest (exact.trans exact'.symm)
  | doubleOfInteger nearest =>
    cases second with
    | double =>
      obtain ⟨number, exact, exact'⟩ := exists_exactNumber_of_compare rfl rfl same
      exact (isNegativeZero_of_doubleOfInteger nearest (exact'.trans exact.symm)).symm
    | doubleOfInteger => rfl

end Comparing

/-! ## Literals of equal values -/

section Literals

open Literal

variable {zone : LocalZone} {c : Comparing} {edm : Edm} {v w : Value} {literal literal' : List Char}

theorem string_literal_eq_iff (first : encodeAs zone .string v = .ok literal)
    (second : encodeAs zone .string w = .ok literal') :
    literal = literal' ↔ textOf v = textOf w := by
  obtain ⟨s, text, rfl⟩ := exists_textOf_of_ofString first
  obtain ⟨t, text', rfl⟩ := exists_textOf_of_ofString second
  rw [text, text', Except.ok.injEq]
  simp [marked, String.toList_inj]

theorem guid_literal_eq_iff (accepted : Edm.guid.accepts v = true)
    (accepted' : Edm.guid.accepts w = true) (first : encodeAs zone .guid v = .ok literal)
    (second : encodeAs zone .guid w = .ok literal') :
    literal = literal' ↔ v.foldedText = w.foldedText := by
  obtain ⟨s, u, text, -, -, rfl⟩ := exists_text_of_ofGuid accepted first
  obtain ⟨t, u', text', -, -, rfl⟩ := exists_text_of_ofGuid accepted' second
  simp [foldedText, text, text', marked, Except.map]

theorem dateTime_literal_eq_iff {d e : DateTime}
    (first : encodeAs zone .dateTime (.dateTime d) = .ok literal)
    (second : encodeAs zone .dateTime (.dateTime e) = .ok literal') :
    literal = literal' ↔ d.toUtc zone = e.toUtc zone := by
  obtain ⟨u, turned, rfl⟩ := exists_toUtc_of_ofDateTime first
  obtain ⟨u', turned', rfl⟩ := exists_toUtc_of_ofDateTime second
  rw [turned, turned', Except.ok.injEq]
  constructor
  · intro same
    have bodies : dateTimeBody u = dateTimeBody u' := by simpa [marked] using same
    exact DateTime.dateTimeBody_inj (DateTime.isUtc_of_toUtc turned)
      (DateTime.isUtc_of_toUtc turned') bodies
  · rintro rfl
    rfl

theorem binary_literal_eq_iff {form form' : ByteForm} {data data' : List UInt8}
    (first : encodeAs zone .binary (.bytes form data) = .ok literal)
    (second : encodeAs zone .binary (.bytes form' data') = .ok literal') :
    literal = literal' ↔ data = data' := by
  constructor
  · rintro rfl
    obtain ⟨u, canonical, canonical'⟩ := isLiteral_unique
      (isLiteral_of_encodeAs rfl first nofun nofun) (isLiteral_of_encodeAs rfl second nofun nofun)
    cases canonical
    cases canonical'
    rfl
  · rintro rfl
    exact Except.ok.inj (first.symm.trans second)

theorem guid_literal_eq_of_compare (accepted : Edm.guid.accepts v = true)
    (accepted' : Edm.guid.accepts w = true) (inRange : v.IsInRange) (inRange' : w.IsInRange)
    (plain : v.isObject = false) (plain' : w.isObject = false)
    (same : compare c v w = .ok true) (first : encodeAs zone .guid v = .ok literal)
    (second : encodeAs zone .guid w = .ok literal') : literal = literal' := by
  obtain ⟨s, denotes⟩ := exists_denotes_of_accepts accepted
  obtain ⟨t, denotes'⟩ := exists_denotes_of_accepts accepted'
  have alike := denotes.eq_of_compare denotes' inRange inRange' plain plain' same
  refine (guid_literal_eq_iff accepted accepted' first second).mpr ?_
  rw [foldedText, foldedText, denotes.1, denotes'.1, alike]

theorem isObject_of_accepts (accepted : edm.accepts v = true) (notText : edm ≠ .string)
    (notGuid : edm ≠ .guid) : v.isObject = false := by
  cases v with
  | object o =>
    cases edm <;> first | exact absurd rfl notText | exact absurd rfl notGuid | cases accepted
  | _ => rfl

theorem bytes_writtenAlike_iff {form form' : ByteForm} {data data' : List UInt8}
    (same : compare c (bytes form data) (bytes form' data') = .ok true)
    (first : encodeAs zone .binary (.bytes form data) = .ok literal)
    (second : encodeAs zone .binary (.bytes form' data') = .ok literal') :
    literal = literal' ↔ WrittenAlike zone .binary (bytes form data) (bytes form' data') := by
  rw [binary_literal_eq_iff first second]
  constructor
  · rintro rfl -
    rfl
  · intro alike
    by_cases views : (bytes form data).isView = true ∨ (bytes form' data').isView = true
    · exact Except.ok.inj (alike views)
    · simp only [not_or, Bool.not_eq_true] at views
      exact bytes_eq_of_compare same views.1 views.2

theorem dateTime_writtenAlike_iff {d e : DateTime}
    (same : compare c (dateTime d) (dateTime e) = .ok true)
    (first : encodeAs zone .dateTime (.dateTime d) = .ok literal)
    (second : encodeAs zone .dateTime (.dateTime e) = .ok literal') :
    literal = literal' ↔ WrittenAlike zone .dateTime (dateTime d) (dateTime e) := by
  rw [dateTime_literal_eq_iff first second]
  refine ⟨fun turned _ => turned, fun alike => ?_⟩
  by_cases fields : d.sharesZone e = true ∨ d.offset = .gives none
  · exact alike fields
  · simp only [not_or, Bool.not_eq_true] at fields
    exact DateTime.toUtc_eq_of_compare (ConversionFault.ofAnswer_eq_ok_iff.mp same) fields.1
      fields.2

theorem exists_asDouble_of_encodeAs (encoded : encodeAs zone .double v = .ok literal) :
    ∃ x, v.asDouble = .ok x ∧ x.renderChars doubleLayout = literal := by
  cases converted : v.asDouble with
  | error fault => simp [encodeAs, converted, bind, Except.bind] at encoded
  | ok x =>
    simp only [encodeAs, converted] at encoded
    exact ⟨x, rfl, Except.ok.inj encoded⟩

theorem double_literal_eq_iff (accepted : Edm.double.accepts v = true)
    (accepted' : Edm.double.accepts w = true) (same : compare c v w = .ok true)
    (first : encodeAs zone .double v = .ok literal)
    (second : encodeAs zone .double w = .ok literal') :
    literal = literal' ↔ v.isNegativeZero = w.isNegativeZero := by
  constructor
  · rintro rfl
    obtain ⟨u, canonical, canonical'⟩ := isLiteral_unique
      (isLiteral_of_encodeAs accepted first nofun nofun)
      (isLiteral_of_encodeAs accepted' second nofun nofun)
    exact isNegativeZero_eq_of_canonical same canonical canonical'
  · intro zeros
    obtain ⟨x, converted, rfl⟩ := exists_asDouble_of_encodeAs first
    obtain ⟨y, converted', rfl⟩ := exists_asDouble_of_encodeAs second
    rw [asDouble_eq_of_compare accepted accepted' same zeros converted converted']

theorem guid_writtenAlike_iff (accepted : Edm.guid.accepts v = true)
    (accepted' : Edm.guid.accepts w = true) (inRange : v.IsInRange) (inRange' : w.IsInRange)
    (same : compare c v w = .ok true) (first : encodeAs zone .guid v = .ok literal)
    (second : encodeAs zone .guid w = .ok literal') :
    literal = literal' ↔ WrittenAlike zone .guid v w := by
  by_cases objects : v.isObject = true ∨ w.isObject = true
  · rw [guid_literal_eq_iff accepted accepted' first second]
    simp [WrittenAlike, objects]
  · refine iff_of_true ?_ fun objects' => absurd objects' objects
    simp only [not_or, Bool.not_eq_true] at objects
    exact guid_literal_eq_of_compare accepted accepted' inRange inRange' objects.1 objects.2
      same first second

/-- Values of one type that are taken for equal share their literal exactly if they are written
alike. -/
theorem encodeAs_eq_iff (meets : Meets c v w) (accepted : edm.accepts v = true)
    (accepted' : edm.accepts w = true) (inRange : v.IsInRange) (inRange' : w.IsInRange)
    (first : encodeAs zone edm v = .ok literal) (second : encodeAs zone edm w = .ok literal') :
    literal = literal' ↔ WrittenAlike zone edm v w := by
  cases meets with
  | same => exact iff_of_true (Except.ok.inj (first.symm.trans second)) (.refl zone edm v)
  | asked object =>
    by_cases isText : edm = .string
    · subst isText
      exact string_literal_eq_iff first second
    by_cases isGuid : edm = .guid
    · subst isGuid
      rw [guid_literal_eq_iff accepted accepted' first second]
      simp [WrittenAlike, object]
    · rw [isObject_of_accepts accepted isText isGuid,
        isObject_of_accepts accepted' isText isGuid] at object
      simp at object
  | equal same =>
    cases edm with
    | binary =>
      cases v with
      | bytes form data =>
        cases w with
        | bytes form' data' => exact bytes_writtenAlike_iff same first second
        | released address => cases second
        | _ => cases accepted'
      | released address => cases first
      | _ => cases accepted
    | boolean =>
      cases v with
      | boolean b =>
        cases w with
        | boolean b' =>
          rw [← boolean_inj_of_compare same, first] at second
          exact iff_of_true (Except.ok.inj second) trivial
        | _ => cases accepted'
      | _ => cases accepted
    | dateTime =>
      cases v with
      | dateTime d =>
        cases w with
        | dateTime e => exact dateTime_writtenAlike_iff same first second
        | _ => cases accepted'
      | _ => cases accepted
    | double => exact double_literal_eq_iff accepted accepted' same first second
    | guid => exact guid_writtenAlike_iff accepted accepted' inRange inRange' same first second
    | int32 | int64 =>
      cases v with
      | integer n =>
        cases w with
        | integer m =>
          rw [← integer_inj_of_compare same, first] at second
          exact iff_of_true (Except.ok.inj second) trivial
        | _ => cases accepted'
      | _ => cases accepted
    | string => exact string_literal_eq_iff first second

end Literals

theorem chars_eq_iff_sharesForm {zone : LocalZone} {c : Comparing} {v w : Value}
    {literal literal' : List Char} (identity : ∀ v w, c.same v w = true → v = w)
    (accepted : v.IsAccepted) (accepted' : w.IsAccepted) (inRange : v.untyped.IsInRange)
    (inRange' : w.untyped.IsInRange) (same : compareHeld c v w = .ok true)
    (first : Literal.chars zone v = .ok literal) (second : Literal.chars zone w = .ok literal') :
    Literal.chars zone v = Literal.chars zone w ↔ v.SharesForm zone w := by
  have meets := meets_untyped identity same
  have accepts' := accepted'.accepts
  rw [first, second, Except.ok.injEq]
  constructor
  · rintro rfl
    have edm := Literal.edm_eq_of_encodeAs accepted.accepts accepts' first second
    rw [Literal.chars, ← edm] at second
    rw [← edm] at accepts'
    exact ⟨edm, (encodeAs_eq_iff meets accepted.accepts accepts' inRange inRange' first
      second).mp rfl⟩
  · rintro ⟨edm, alike⟩
    rw [Literal.chars, ← edm] at second
    rw [← edm] at accepts'
    exact (encodeAs_eq_iff meets accepted.accepts accepts' inRange inRange' first second).mpr alike

end Value

/-! ## Equal filters -/

namespace Filter

/-- Two filters have one shape, and their values are paired so. -/
inductive Leafwise (R : Value → Value → Prop) : Filter → Filter → Prop
  | empty : Leafwise R .empty .empty
  | column (name : String) (comparison : Comparison) {v w : Value} (paired : R v w) :
      Leafwise R (.column name comparison v) (.column name comparison w)
  | binary {left right left' right' : Filter} (connective : Connective)
      (first : Leafwise R left left') (second : Leafwise R right right') :
      Leafwise R (.binary left connective right) (.binary left' connective right')
  | not {operand operand' : Filter} (inner : Leafwise R operand operand') :
      Leafwise R (.not operand) (.not operand')

section Leafwise

variable {R S : Value → Value → Prop} {f g : Filter}

theorem Leafwise.imp_of_mem (leafwise : f.Leafwise R g)
    (imp : ∀ v ∈ f.values, ∀ w ∈ g.values, R v w → S v w) : f.Leafwise S g := by
  induction leafwise with
  | empty => exact .empty
  | column name comparison paired =>
    exact .column name comparison (imp _ (by simp [values]) _ (by simp [values]) paired)
  | binary connective _ _ first second =>
    simp only [values, List.mem_append] at imp
    exact .binary connective (first fun v left w left' => imp v (.inl left) w (.inl left'))
      (second fun v right w right' => imp v (.inr right) w (.inr right'))
  | not _ inner => exact .not (inner imp)

theorem Leafwise.and (first : f.Leafwise R g) (second : f.Leafwise S g) :
    f.Leafwise (fun v w => R v w ∧ S v w) g := by
  induction first with
  | empty => exact .empty
  | column name comparison paired =>
    cases second with
    | column _ _ paired' => exact .column name comparison ⟨paired, paired'⟩
  | binary connective _ _ left right =>
    cases second with
    | binary _ left' right' => exact .binary connective (left left') (right right')
  | not _ inner =>
    cases second with
    | not inner' => exact .not (inner inner')

theorem leafwise_of_compare {c : Comparing} (same : f.compare c g = .ok true) :
    f.Leafwise (fun v w => v.compareHeld c w = .ok true) g := by
  induction f generalizing g with
  | empty =>
    cases g with
    | empty => exact .empty
    | _ => cases same
  | column name comparison v =>
    cases g with
    | column name' comparison' w =>
      simp only [compare] at same
      split at same
      · next alike =>
        obtain ⟨rfl, rfl⟩ := alike
        exact .column name comparison same
      · cases same
    | _ => cases same
  | binary left connective right first second =>
    cases g with
    | binary left' connective' right' =>
      simp only [compare] at same
      cases lefts : left.compare c left' with
      | error fault => simp [lefts, bind, Except.bind] at same
      | ok equal =>
        simp only [lefts, bind, Except.bind] at same
        split at same
        · cases same
        · next alike =>
          simp only [Bool.or_eq_true, Bool.not_eq_true', bne_iff_ne, not_or, not_not,
            Bool.not_eq_false] at alike
          obtain ⟨rfl, rfl⟩ := alike
          exact .binary connective (first lefts) (second same)
    | _ => cases same
  | not operand inner =>
    cases g with
    | not operand' => exact .not (inner same)
    | _ => cases same

theorem Leafwise.clause_eq {zone : LocalZone}
    (leafwise : f.Leafwise (fun v w => Literal.chars zone v = Literal.chars zone w) g) :
    f.clause zone = g.clause zone := by
  induction leafwise with
  | empty => rfl
  | column name comparison paired => rw [clause, clause, paired]
  | binary connective _ _ first second => rw [clause, clause, first, second]
  | not _ inner => rw [clause, clause, inner]

end Leafwise

theorem IsConstructible.exists_chars {zone : LocalZone} {f : Filter}
    (constructible : f.IsConstructible) {query : Option String}
    (compiled : f.toQuery zone = .ok query) {v : Value} (member : v ∈ f.values) :
    ∃ literal, Literal.chars zone v = .ok literal := by
  cases written : Literal.chars zone v with
  | ok literal => exact ⟨literal, rfl⟩
  | error fault =>
    have accepts := (constructible.isAccepted member).accepts
    have lacks : v.LacksLiteral zone fault := (encodeAs_eq_error_iff accepts).mp written
    obtain ⟨other, first⟩ := First.exists_of_mem member lacks
    rw [(toQuery_eq_error_iff constructible other).mpr first] at compiled
    cases compiled

/-- Two equal filters that have queries have one query if their values share their forms pair by
pair, and the values of a pair share their form exactly if they share their literal. -/
theorem toQuery_eq_of_equal (zone : LocalZone) {c : Comparing}
    (identity : ∀ v w, c.same v w = true → v = w) {f g : Filter}
    (constructible : f.IsConstructible) (constructible' : g.IsConstructible)
    (inRange : ∀ v ∈ f.values, v.untyped.IsInRange)
    (inRange' : ∀ w ∈ g.values, w.untyped.IsInRange) (same : f.compare c g = .ok true)
    {query query' : Option String} (compiled : f.toQuery zone = .ok query)
    (compiled' : g.toQuery zone = .ok query') :
    (f.Leafwise (Value.SharesForm zone) g → query = query') ∧
      f.Leafwise (fun v w =>
        Literal.chars zone v = Literal.chars zone w ↔ v.SharesForm zone w) g := by
  have exact : f.Leafwise (fun v w =>
      Literal.chars zone v = Literal.chars zone w ↔ v.SharesForm zone w) g := by
    refine (leafwise_of_compare same).imp_of_mem fun v member w member' paired => ?_
    obtain ⟨literal, first⟩ := constructible.exists_chars compiled member
    obtain ⟨literal', second⟩ := constructible'.exists_chars compiled' member'
    exact Value.chars_eq_iff_sharesForm identity (constructible.isAccepted member)
      (constructible'.isAccepted member') (inRange v member) (inRange' w member') paired first
      second
  refine ⟨fun shared => ?_, exact⟩
  have alike : f.clause zone = g.clause zone :=
    Leafwise.clause_eq ((exact.and shared).imp_of_mem fun v _ w _ both => both.1.mpr both.2)
  rw [toQuery, alike] at compiled
  exact Except.ok.inj (compiled.symm.trans compiled')

def noonEast : DateTime :=
  .withOffset ⟨2024, 2, 29, by decide⟩
    { Calendar.TimeOfDay.midnight with hour := ⟨12, by decide⟩ } ⟨7200000000, by decide⟩

def tenUtc : DateTime :=
  .withOffset ⟨2024, 2, 29, by decide⟩
    { Calendar.TimeOfDay.midnight with hour := ⟨10, by decide⟩ } .utc

def unmarkedBefore (d : DateTime) (form : ByteForm) : Filter :=
  .and (.column "At" .less (.dateTime d))
    (.not (.column "Mark" .equal (.typed .binary (.bytes form [1, 255]))))

theorem unmarkedBefore_values (d : DateTime) (form : ByteForm) :
    (unmarkedBefore d form).IsConstructible ∧
      ∀ v ∈ (unmarkedBefore d form).values, v.untyped.IsInRange := by
  constructor
  · intro v member edm inner shape
    simp only [unmarkedBefore, Filter.and, values, List.cons_append, List.nil_append,
      List.mem_cons, List.not_mem_nil, or_false] at member
    rcases member with rfl | rfl
    · cases shape
    · cases shape
      rfl
  · intro v member
    simp only [unmarkedBefore, Filter.and, values, List.cons_append, List.nil_append,
      List.mem_cons, List.not_mem_nil, or_false] at member
    rcases member with rfl | rfl
    · exact fun _ shape => by cases shape
    · exact fun _ shape => by cases shape

/-- One instant in two zones, and the same bytes as a buffer and as a constant. -/
theorem toQuery_eq_of_equal_zones :
    let f := unmarkedBefore noonEast .buffer
    let g := unmarkedBefore tenUtc .constant
    f.compare .apart g = .ok true ∧ f.toQuery .utc = g.toQuery .utc ∧ f.toQuery .utc = .ok (some
      "(At lt datetime'2024-02-29T10:00:00.0000000Z') and (not (Mark eq X'01ff'))") := by
  intro f g
  obtain ⟨constructible, inRange⟩ := unmarkedBefore_values noonEast .buffer
  obtain ⟨constructible', inRange'⟩ := unmarkedBefore_values tenUtc .constant
  have same : f.compare .apart g = .ok true := by decide
  have query : f.toQuery .utc = .ok (some
      "(At lt datetime'2024-02-29T10:00:00.0000000Z') and (not (Mark eq X'01ff'))") := by decide
  obtain ⟨other, compiled⟩ : ∃ other, g.toQuery .utc = .ok other := ⟨_, rfl⟩
  have identity : ∀ v w, Comparing.apart.same v w = true → v = w := nofun
  have zones : noonEast.sharesZone tenUtc = true ∨ noonEast.offset = .gives none →
      noonEast.toUtc .utc = tenUtc.toUtc .utc := by
    rintro (one | none)
    · cases one
    · cases none
  have bytes : (Value.bytes .buffer [1, 255]).isView = true ∨
      (Value.bytes .constant [1, 255]).isView = true →
      (Value.bytes .buffer [1, 255]).asBytes = (Value.bytes .constant [1, 255]).asBytes :=
    fun _ => rfl
  have shared : f.Leafwise (Value.SharesForm .utc) g :=
    .binary .and (.column "At" .less ⟨rfl, zones⟩) (.not (.column "Mark" .equal ⟨rfl, bytes⟩))
  have alike := (toQuery_eq_of_equal .utc identity constructible constructible' inRange inRange'
    same query compiled).1 shared
  exact ⟨same, by rw [query, compiled, alike], query⟩

/-- Equal values of two types are written apart. -/
theorem toQuery_of_equal_values_differs :
    (column "A" .equal (.boolean true)).compare .apart (.column "A" .equal (.integer 1)) =
        .ok true ∧
      toQuery .utc (.column "A" .equal (.boolean true)) = .ok (some "A eq true") ∧
      toQuery .utc (.column "A" .equal (.integer 1)) = .ok (some "A eq 1") := by
  refine ⟨?_, by decide, by decide +kernel⟩
  simp [compare, Value.compareHeld, Value.compare, Value.plainCompare, Value.numbersEqual,
    Value.exactNumber?, Value.isNumber, Value.isSignaling, Comparing.apart]

end Filter

end StagedTables
