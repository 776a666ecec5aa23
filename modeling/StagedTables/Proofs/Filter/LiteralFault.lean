import StagedTables.Filter.Query
import StagedTables.Proofs.Filter.LiteralText
import StagedTables.Proofs.Overflow

/-! # Values without a literal

A value that its type accepts has a literal unless it is at fault: a date-time whose instant lies
outside the calendar, whose zone raises or that the local zone loses, an integer beyond every
double that is to be one, a view that was released, and a value with a text of which some part
cannot be written.  A filter has a query text unless one of its values is at fault, and the first
such value decides how it fails. -/
set_option autoImplicit false
namespace StagedTables

open Calendar (DateTime LocalZone)
open Numeral

/-! ## The first fault -/

/-- The fault of the first item that has one: every item before it is sound. -/
inductive First {α ε : Type} (fails : α → ε → Prop) : List α → ε → Prop
  | here {a : α} {rest : List α} {fault : ε} (failed : fails a fault) :
      First fails (a :: rest) fault
  | later {a : α} {rest : List α} {fault : ε} (sound : ∀ other, ¬ fails a other)
      (failed : First fails rest fault) : First fails (a :: rest) fault

namespace First

variable {α ε : Type} {fails : α → ε → Prop} {as bs : List α} {fault : ε}

theorem exists_mem (first : First fails as fault) : ∃ a ∈ as, fails a fault := by
  induction first with
  | here failed => exact ⟨_, List.mem_cons_self, failed⟩
  | later _ _ ih =>
    obtain ⟨a, member, failed⟩ := ih
    exact ⟨a, List.mem_cons_of_mem _ member, failed⟩

theorem exists_of_mem {a : α} (member : a ∈ as) (failed : fails a fault) :
    ∃ other, First fails as other := by
  induction as with
  | nil => cases member
  | cons first rest ih =>
    by_cases sound : ∀ other, ¬ fails first other
    · have later : a ∈ rest := by
        rcases List.mem_cons.mp member with rfl | later
        · exact absurd failed (sound fault)
        · exact later
      obtain ⟨other, found⟩ := ih later
      exact ⟨other, .later sound found⟩
    · push Not at sound
      obtain ⟨other, found⟩ := sound
      exact ⟨other, .here found⟩

theorem singleton_iff {a : α} : First fails [a] fault ↔ fails a fault := by
  constructor
  · intro first
    cases first with
    | here failed => exact failed
    | later _ none => cases none
  · exact .here

theorem append_iff :
    First fails (as ++ bs) fault ↔
      First fails as fault ∨ (∀ other, ¬ First fails as other) ∧ First fails bs fault := by
  induction as with
  | nil =>
    have none : ∀ other, ¬ First fails [] other := nofun
    simp [none]
  | cons a as ih =>
    constructor
    · intro first
      cases first with
      | here failed => exact .inl (.here failed)
      | later sound failed =>
        rcases ih.mp failed with early | ⟨none, late⟩
        · exact .inl (.later sound early)
        · refine .inr ⟨?_, late⟩
          intro other early
          cases early with
          | here failed => exact sound other failed
          | later _ early => exact none other early
    · rintro (first | ⟨none, late⟩)
      · cases first with
        | here failed => exact .here failed
        | later sound failed => exact .later sound (ih.mpr (.inl failed))
      · have sound : ∀ other, ¬ fails a other := fun other failed => none other (.here failed)
        have rest : ∀ other, ¬ First fails as other :=
          fun other early => none other (.later sound early)
        exact .later sound (ih.mpr (.inr ⟨rest, late⟩))

end First

/-! ## Texts of values -/

/-- A part of a text that may not be written: the digits of an integer, or what an object or a zone
says. -/
inductive Shown where
  | integer (n : Int)
  | answer (answer : Answer String)

inductive Shown.Fails : Shown → ValueFault → Prop
  | long {n : Int} (long : ¬ HasFewDigits n.natAbs) : Fails (.integer n) .integerTooLong
  | raised (error : ForeignError) : Fails (.answer (.raises error)) (.foreign error)

namespace Value

mutual

/-- The parts of the quoted text of a value that may not be written, from left to right. -/
def quotedParts : Value → List Shown
  | integer n => [.integer n]
  | dateTime d => [.answer d.quoted]
  | list items => partsOfItems items
  | record fields => partsOfFields fields
  | typed _ value => quotedParts value
  | property _ value => quotedParts value
  | object o => [.answer o.quoted]
  | _ => []

def partsOfItems : List Value → List Shown
  | [] => []
  | value :: rest => quotedParts value ++ partsOfItems rest

def partsOfFields : List (String × Value) → List Shown
  | [] => []
  | (_, value) :: rest => quotedParts value ++ partsOfFields rest

end

def formattedParts : Value → List Shown
  | dateTime d => [.answer (d.isoText ' ')]
  | object o => [.answer o.formatted]
  | other => other.quotedParts

def WrittenOf {α : Type} (parts : List Shown) (text : Except ValueFault α) : Prop :=
  ∀ fault, text = .error fault ↔ First Shown.Fails parts fault

theorem writtenOf_ok {α : Type} (value : α) : WrittenOf [] (.ok value) :=
  fun _ => iff_of_false nofun nofun

theorem writtenOf_answer (answer : Answer String) :
    WrittenOf [.answer answer] (ValueFault.ofAnswer answer) := by
  intro fault
  rw [First.singleton_iff]
  cases answer with
  | gives text => exact iff_of_false nofun nofun
  | raises error =>
    constructor
    · rintro ⟨⟩
      exact .raised error
    · rintro ⟨⟩
      rfl

theorem writtenOf_integerText (n : Int) : WrittenOf [.integer n] (integerText n) := by
  intro fault
  rw [First.singleton_iff, integerText]
  have positive : 0 < integerDigitLimit := by decide
  have few : n.natAbs < Nat.pow 10 integerDigitLimit ↔ HasFewDigits n.natAbs := by
    unfold HasFewDigits
    -- the power itself is too large to be computed
    generalize integerDigitLimit = limit at positive ⊢
    exact (Nat.length_toDigits_le_iff (by decide) positive).symm
  by_cases short : HasFewDigits n.natAbs
  · rw [if_pos (few.mpr short)]
    refine iff_of_false nofun fun failed => ?_
    cases failed with
    | long long => exact long short
  · rw [if_neg (mt few.mp short)]
    constructor
    · rintro ⟨⟩
      exact .long short
    · rintro ⟨⟩
      rfl

theorem WrittenOf.map {α β : Type} {parts : List Shown} {text : Except ValueFault α}
    (written : WrittenOf parts text) (f : α → β) :
    WrittenOf parts (text >>= fun value => .ok (f value)) := by
  intro fault
  rw [← written fault]
  cases text <;> simp [bind, Except.bind]

theorem WrittenOf.append {α β γ : Type} {parts more : List Shown} {text : Except ValueFault α}
    {next : Except ValueFault β} (first : WrittenOf parts text) (second : WrittenOf more next)
    (f : α → β → γ) :
    WrittenOf (parts ++ more)
      (text >>= fun value => next >>= fun other => .ok (f value other)) := by
  intro fault
  rw [First.append_iff, ← second fault]
  simp only [← first _]
  cases text <;> cases next <;> simp [bind, Except.bind]

mutual

theorem writtenOf_quoted : (v : Value) → WrittenOf v.quotedParts v.quoted
  | null => writtenOf_ok _
  | boolean _ => writtenOf_ok _
  | integer n => writtenOf_integerText n
  | double _ => writtenOf_ok _
  | text _ => writtenOf_ok _
  | bytes _ _ => writtenOf_ok _
  | released _ => writtenOf_ok _
  | dateTime d => writtenOf_answer d.quoted
  | date _ => writtenOf_ok _
  | uuid _ => writtenOf_ok _
  | decimal _ => writtenOf_ok _
  | list items => by
    simp only [quotedParts, quoted]
    exact (writtenOf_quotedItems items).map _
  | record fields => by
    simp only [quotedParts, quoted]
    exact (writtenOf_quotedFields fields).map _
  | typed edm value => by
    simp only [quotedParts, quoted]
    exact (writtenOf_quoted value).map _
  | property edm value => by
    simp only [quotedParts, quoted]
    exact (writtenOf_quoted value).map _
  | object o => writtenOf_answer o.quoted

theorem writtenOf_quotedItems : (items : List Value) →
    WrittenOf (partsOfItems items) (quotedItems items)
  | [] => writtenOf_ok _
  | value :: rest => by
    simp only [partsOfItems, quotedItems]
    exact (writtenOf_quoted value).append (writtenOf_quotedItems rest) _

theorem writtenOf_quotedFields : (fields : List (String × Value)) →
    WrittenOf (partsOfFields fields) (quotedFields fields)
  | [] => writtenOf_ok _
  | (name, value) :: rest => by
    simp only [partsOfFields, quotedFields]
    exact (writtenOf_quoted value).append (writtenOf_quotedFields rest) _

end

theorem writtenOf_formattedText (v : Value) : WrittenOf v.formattedParts v.formattedText := by
  cases v with
  | text s => exact writtenOf_ok s
  | dateTime d => exact writtenOf_answer (d.isoText ' ')
  | date d => exact writtenOf_ok _
  | uuid u => exact writtenOf_ok _
  | decimal d => exact writtenOf_ok _
  | object o => exact writtenOf_answer o.formatted
  | _ => exact writtenOf_quoted _

end Value

/-! ## Literals -/

/-- `LiteralFault zone edm v fault`: why there is no literal of the type `edm` for the value `v`,
although the type accepts it, when the program runs in `zone`. -/
inductive LiteralFault (zone : LocalZone) : Edm → Value → ConversionFault → Prop
  | instant {d : DateTime} {offset : Calendar.Offset} (aware : d.offset = .gives (some offset))
      (outside : d.instant < 0 ∨ DateTime.endOfCalendar ≤ d.instant) :
      LiteralFault zone .dateTime (.dateTime d) (.range .instant)
  | raised {d : DateTime} {error : ForeignError} (raised : d.offset = .raises error) :
      LiteralFault zone .dateTime (.dateTime d) (.value (.foreign error))
  | naive {d : DateTime} {fault : Calendar.Fault} (naive : d.offset = .gives none)
      (lost : zone.Loses d fault) :
      LiteralFault zone .dateTime (.dateTime d) (.ofCalendar fault)
  | double {n : Int} (beyond : Double.overflowLimit ≤ n.natAbs) :
      LiteralFault zone .double (.integer n) (.range .integerAsDouble)
  | released {address : Nat} :
      LiteralFault zone .binary (.released address) (.value .releasedView)
  | text {v : Value} {fault : ValueFault} (unwritten : First Shown.Fails v.formattedParts fault) :
      LiteralFault zone .string v (.value fault)

section Encoding

variable {zone : LocalZone} {v : Value} {fault : ConversionFault}

theorem ofDateTime_eq_error_iff (d : DateTime) :
    Literal.ofDateTime zone d = .error fault ↔ LiteralFault zone .dateTime (.dateTime d) fault := by
  constructor
  · intro failed
    cases turned : d.toUtc zone with
    | ok utc => simp [Literal.ofDateTime, turned] at failed
    | error lost =>
      obtain rfl : .ofCalendar lost = fault := by simpa [Literal.ofDateTime, turned] using failed
      cases zoned : d.offset with
      | raises error =>
        simp only [DateTime.toUtc, zoned] at turned
        cases turned
        exact .raised zoned
      | gives known =>
        cases known with
        | some offset =>
          obtain ⟨rfl, outside⟩ := (DateTime.toUtc_eq_error_iff zoned).mp turned
          exact .instant zoned outside
        | none => exact .naive zoned ((DateTime.toUtc_eq_error_iff_of_naive zoned).mp turned)
  · intro faulty
    unfold Literal.ofDateTime
    cases faulty with
    | instant aware outside =>
      rw [(DateTime.toUtc_eq_error_iff aware).mpr ⟨rfl, outside⟩]
      rfl
    | raised raised =>
      simp only [DateTime.toUtc, raised]
      rfl
    | naive naive lost => rw [DateTime.toUtc_of_loses naive lost]

theorem doubleOfInteger_eq_error_iff (n : Int) :
    Value.doubleOfInteger n = .error fault ↔ LiteralFault zone .double (.integer n) fault := by
  have overflows := Double.ofInt?_eq_none_iff n
  rw [Value.doubleOfInteger]
  cases nearest : Double.ofInt? n with
  | some x =>
    rw [nearest] at overflows
    refine iff_of_false nofun fun faulty => ?_
    cases faulty with
    | double beyond => cases overflows.mpr beyond
  | none =>
    constructor
    · rintro ⟨⟩
      exact .double (overflows.mp nearest)
    · intro faulty
      cases faulty
      rfl

theorem encodeAs_double_eq_error_iff (n : Int) :
    Literal.encodeAs zone .double (.integer n) = .error fault ↔
      LiteralFault zone .double (.integer n) fault := by
  rw [← doubleOfInteger_eq_error_iff]
  simp only [Literal.encodeAs, Value.asDouble]
  cases Value.doubleOfInteger n <;> simp [bind, Except.bind, pure, Except.pure]

theorem charsOf_eq_error_iff {parts : List Shown} {text : Except ValueFault String}
    (written : Value.WrittenOf parts text) :
    Literal.charsOf text = .error fault ↔
      ∃ reason, First Shown.Fails parts reason ∧ .value reason = fault := by
  simp only [← written _]
  unfold Literal.charsOf
  cases text <;> simp

theorem ofString_eq_error_iff :
    Literal.ofString v = .error fault ↔ LiteralFault zone .string v fault := by
  by_cases absent : v = .null
  · subst absent
    refine iff_of_false (by simp [Literal.ofString]) fun faulty => ?_
    cases faulty with
    | text unwritten => cases unwritten
  · have failing : Literal.ofString v = .error fault ↔
        Literal.charsOf v.formattedText = .error fault := by
      rw [Literal.ofString_of_ne_null absent]
      cases Literal.charsOf v.formattedText <;> simp [Except.map]
    rw [failing, charsOf_eq_error_iff (Value.writtenOf_formattedText v)]
    constructor
    · rintro ⟨reason, unwritten, rfl⟩
      exact .text unwritten
    · intro faulty
      cases faulty with
      | text unwritten => exact ⟨_, unwritten, rfl⟩

/-- What denotes an identifier is one, or has a text that is read as one. -/
theorem ofGuid_ne_error (accepted : Edm.guid.accepts v = true) :
    Literal.ofGuid v ≠ .error fault := by
  cases text : v.plainText with
  | ok s =>
    simp only [Literal.ofGuid, Literal.plainChars, Literal.charsOf, text]
    rintro ⟨⟩
  | error reason =>
    exfalso
    cases v with
    | uuid u => cases text
    | _ => simp [Edm.accepts, Value.asUuid, text, Except.isOk, Except.toBool] at accepted

/-- A type that accepts a value has a literal for it but for the faults of literals. -/
theorem encodeAs_eq_error_iff {edm : Edm} (accepted : edm.accepts v = true) :
    Literal.encodeAs zone edm v = .error fault ↔ LiteralFault zone edm v fault := by
  cases edm with
  | binary =>
    cases v with
    | bytes form data => exact iff_of_false nofun nofun
    | released address =>
      constructor
      · rintro ⟨⟩
        exact .released
      · intro faulty
        cases faulty
        rfl
    | _ => cases accepted
  | boolean =>
    cases v with
    | boolean b => exact iff_of_false (by cases b <;> nofun) nofun
    | _ => cases accepted
  | dateTime =>
    cases v with
    | dateTime d => exact ofDateTime_eq_error_iff d
    | _ => cases accepted
  | double =>
    cases v with
    | double x => exact iff_of_false nofun nofun
    | integer n => exact encodeAs_double_eq_error_iff n
    | _ => cases accepted
  | guid => exact iff_of_false (ofGuid_ne_error accepted) nofun
  | int32 =>
    cases v with
    | integer n =>
      rw [encodeAs_int32 (of_decide_eq_true accepted)]
      exact iff_of_false nofun nofun
    | _ => cases accepted
  | int64 =>
    cases v with
    | integer n =>
      rw [encodeAs_int64 (of_decide_eq_true accepted)]
      exact iff_of_false nofun nofun
    | _ => cases accepted
  | string => exact ofString_eq_error_iff

end Encoding

/-! ## Filters -/

def Value.LacksLiteral (zone : LocalZone) (v : Value) (fault : ConversionFault) : Prop :=
  LiteralFault zone v.edm v.untyped fault

namespace Filter

def values : Filter → List Value
  | empty => []
  | column _ _ value => [value]
  | binary left _ right => left.values ++ right.values
  | not operand => operand.values

/-- Every typed value is one that can be built. -/
def IsConstructible (f : Filter) : Prop :=
  ∀ v ∈ f.values, ∀ edm inner, v = .typed edm inner → Value.withEdm edm inner = .ok v

theorem IsConstructible.isAccepted {f : Filter} (constructible : f.IsConstructible) {v : Value}
    (member : v ∈ f.values) : v.IsAccepted := by
  intro edm inner shape
  have built := constructible v member edm inner shape
  unfold Value.withEdm at built
  split at built
  · next accepted => exact accepted
  · split at built <;> cases built

section Query

variable {zone : LocalZone}

theorem clause_eq_error_iff {f : Filter} (constructible : f.IsConstructible) :
    ∀ fault, f.clause zone = .error fault ↔ First (Value.LacksLiteral zone) f.values fault := by
  induction f with
  | empty => exact fun fault => iff_of_false nofun nofun
  | column name comparison value =>
    intro fault
    have accepted : value.IsAccepted := constructible.isAccepted (by simp [values])
    have failing : (column name comparison value).clause zone = .error fault ↔
        Literal.chars zone value = .error fault := by
      rw [clause]
      cases Literal.chars zone value <;> simp [bind, Except.bind, pure, Except.pure]
    rw [failing, Literal.chars, encodeAs_eq_error_iff accepted.accepts, values,
      First.singleton_iff]
    rfl
  | binary left connective right leftIff rightIff =>
    intro fault
    have first := leftIff fun v member => constructible v (List.mem_append_left _ member)
    have second := rightIff fun v member => constructible v (List.mem_append_right _ member)
    rw [values, First.append_iff, ← first, ← second, clause]
    simp only [← first]
    cases left.clause zone with
    | error reason => simp [bind, Except.bind]
    | ok l =>
      cases right.clause zone with
      | error reason => simp [bind, Except.bind]
      | ok r => cases l <;> cases r <;> simp [bind, Except.bind, pure, Except.pure]
  | not operand ih =>
    intro fault
    rw [values, ← ih constructible, clause]
    cases operand.clause zone <;> simp [bind, Except.bind, pure, Except.pure]

theorem toQuery_eq_error_iff {f : Filter} (constructible : f.IsConstructible)
    (fault : ConversionFault) :
    f.toQuery zone = .error fault ↔ First (Value.LacksLiteral zone) f.values fault := by
  rw [← clause_eq_error_iff constructible, toQuery]
  cases f.clause zone <;> simp [bind, Except.bind, pure, Except.pure]

/-- A filter that can be built has a query text, or needs none, unless one of its values has no
literal; then the fault is that of the first such value. -/
theorem toQuery_outcome (zone : LocalZone) {f : Filter} (constructible : f.IsConstructible) :
    ((∃ query, f.toQuery zone = .ok query) ↔
        ∀ v ∈ f.values, ∀ fault, ¬ v.LacksLiteral zone fault) ∧
      ∀ fault, f.toQuery zone = .error fault ↔
        First (Value.LacksLiteral zone) f.values fault := by
  have failing : ∀ fault, f.toQuery zone = .error fault ↔
      First (Value.LacksLiteral zone) f.values fault := toQuery_eq_error_iff constructible
  refine ⟨⟨?_, ?_⟩, failing⟩
  · rintro ⟨query, written⟩ v member fault faulty
    obtain ⟨other, first⟩ := First.exists_of_mem member faulty
    rw [(failing other).mpr first] at written
    cases written
  · intro sound
    cases outcome : f.toQuery zone with
    | ok query => exact ⟨query, rfl⟩
    | error fault =>
      obtain ⟨v, member, faulty⟩ := ((failing fault).mp outcome).exists_mem
      exact absurd faulty (sound v member fault)

end Query

def firstMidnightEast : DateTime :=
  .withOffset ⟨1, 1, 1, by decide⟩ .midnight ⟨3600000000, by decide⟩

theorem toQuery_first_midnight_east :
    toQuery .utc (.and (.column "A" .equal (.typed .int64 (.integer 7)))
      (.not (.column "At" .less (.dateTime firstMidnightEast)))) = .error (.range .instant) := by
  have constructible : IsConstructible (.and (.column "A" .equal (.typed .int64 (.integer 7)))
      (.not (.column "At" .less (.dateTime firstMidnightEast)))) := by
    intro v member edm inner shape
    simp only [Filter.and, values, List.cons_append, List.nil_append, List.mem_cons,
      List.not_mem_nil, or_false] at member
    rcases member with rfl | rfl
    · cases shape
      rfl
    · cases shape
  have sound : ∀ other, ¬ (Value.typed .int64 (.integer 7)).LacksLiteral .utc other := nofun
  have faulty : (Value.dateTime firstMidnightEast).LacksLiteral .utc (.range .instant) :=
    .instant rfl (.inl (by decide))
  exact ((toQuery_outcome .utc constructible).2 _).mpr (.later sound (.here faulty))

/-- The double type accepts an integer that no double is near. -/
theorem toQuery_integer_beyond_doubles :
    Value.withEdm .double (.integer (Nat.pow 10 309)) =
        .ok (.typed .double (.integer (Nat.pow 10 309))) ∧
      toQuery .utc (.column "A" .equal (.typed .double (.integer (Nat.pow 10 309)))) =
        .error (.range .integerAsDouble) := by
  have constructible : IsConstructible
      (.column "A" .equal (.typed .double (.integer (Nat.pow 10 309)))) := by
    intro v member edm inner shape
    simp only [values, List.mem_singleton] at member
    subst member
    cases shape
    rfl
  have beyond : Double.overflowLimit ≤ Int.natAbs (Nat.pow 10 309) := by decide +kernel
  exact ⟨rfl, (toQuery_eq_error_iff constructible _).mpr (.here (.double beyond))⟩

end Filter
end StagedTables
