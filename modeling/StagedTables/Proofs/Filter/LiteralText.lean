import StagedTables.Filter.Parser
import StagedTables.Proofs.Filter.DateTimeLiteral
import StagedTables.Proofs.Filter.Grammar
import StagedTables.Proofs.Filter.Scanning
import StagedTables.Proofs.LocalZone

/-! # The literal of a value

The literal of a value is one lexeme wherever a boundary follows, and the value of that lexeme is
the canonical form of the value: dates in UTC, bytes constant, integers under their type, and text
for what has no literal of its own. -/
set_option autoImplicit false
namespace StagedTables

open Text Numeral StagedTables.Filter

section Canonical

variable (zone : Calendar.LocalZone)

/-- `CanonicalValue zone edm v w`: the value `v` under the type `edm` is `w` once written in the
local zone and read.  A date-time with an offset keeps its instant; the instant of one without is
its local time less the offset that the zone has then. -/
inductive CanonicalValue : Edm → Value → Value → Prop
  | boolean (b : Bool) : CanonicalValue .boolean (.boolean b) (.boolean b)
  | int32 (n : Int) : CanonicalValue .int32 (.integer n) (.integer n)
  | int64 (n : Int) : CanonicalValue .int64 (.integer n) (.typed .int64 (.integer n))
  | double (x : Double) : CanonicalValue .double (.double x) (.double x)
  | doubleOfInteger {n : Int} {x : Double} (nearest : Value.doubleOfInteger n = .ok x) :
      CanonicalValue .double (.integer n) (.double x)
  | aware {d u : Calendar.DateTime} {offset : Calendar.Offset}
      (aware : d.offset = .gives (some offset)) (isUtc : u.IsUtc)
      (sameInstant : u.instant = d.instant) : CanonicalValue .dateTime (.dateTime d) (.dateTime u)
  | naive {d u : Calendar.DateTime} {offset : Calendar.Offset} (naive : d.offset = .gives none)
      (told : zone.offsetOf d = .ok offset) (isUtc : u.IsUtc)
      (shifted : u.instant = d.localMicros - offset.micros) :
      CanonicalValue .dateTime (.dateTime d) (.dateTime u)
  | guid {v : Value} {u : Uuid} (denotes : v.asUuid = .ok u) : CanonicalValue .guid v (.uuid u)
  | binary (form : ByteForm) (data : List UInt8) :
      CanonicalValue .binary (.bytes form data) (.bytes .constant data)
  | null : CanonicalValue .string .null (.text "")
  | string {v : Value} {s : String} (present : v ≠ .null) (text : v.formattedText = .ok s) :
      CanonicalValue .string v (.text s)

def Value.HasCanonical (v w : Value) : Prop := CanonicalValue zone v.edm v.untyped w

end Canonical

variable {zone : Calendar.LocalZone}

theorem eq_of_instant_eq {u u' : Calendar.DateTime} (isUtc : u.IsUtc) (isUtc' : u'.IsUtc)
    (same : u.instant = u'.instant) : u = u' := by
  have one := Calendar.DateTime.ofInstant?_instant isUtc
  rw [same, Calendar.DateTime.ofInstant?_instant isUtc'] at one
  exact (Option.some.inj one).symm

theorem CanonicalValue.unique {edm : Edm} {v w w' : Value} (first : CanonicalValue zone edm v w)
    (second : CanonicalValue zone edm v w') : w = w' := by
  cases first with
  | aware aware isUtc sameInstant =>
    cases second with
    | aware _ isUtc' sameInstant' =>
      rw [eq_of_instant_eq isUtc isUtc' (sameInstant.trans sameInstant'.symm)]
    | naive naive => cases aware.symm.trans naive
  | naive naive told isUtc shifted =>
    cases second with
    | aware aware => cases aware.symm.trans naive
    | naive _ told' isUtc' shifted' =>
      cases told.symm.trans told'
      rw [eq_of_instant_eq isUtc isUtc' (shifted.trans shifted'.symm)]
  | string present text =>
    cases second with
    | null => exact absurd rfl present
    | string _ text' =>
      rw [text] at text'
      cases text'
      rfl
  | null =>
    cases second with
    | null => rfl
    | string present _ => exact absurd rfl present
  | doubleOfInteger nearest =>
    cases second with
    | doubleOfInteger nearest' =>
      rw [nearest] at nearest'
      cases nearest'
      rfl
  | guid denotes =>
    cases second with
    | guid denotes' =>
      rw [denotes] at denotes'
      cases denotes'
      rfl
  | _ => cases second; rfl

theorem canonicalValue_of_toUtc {d utc : Calendar.DateTime} (turned : d.toUtc zone = .ok utc) :
    CanonicalValue zone .dateTime (.dateTime d) (.dateTime utc) := by
  cases zoned : d.offset with
  | raises error => simp [Calendar.DateTime.toUtc, zoned] at turned
  | gives known =>
    cases known with
    | some offset =>
      obtain ⟨isUtc, same⟩ := (Calendar.DateTime.toUtc_eq_ok_iff zoned).mp turned
      exact .aware zoned isUtc same
    | none =>
      obtain ⟨offset, told, isUtc, shifted, -⟩ :=
        (Calendar.DateTime.toUtc_eq_ok_iff_of_naive zoned).mp turned
      exact .naive zoned told isUtc shifted

/-! ## One lexeme for every type -/

/-- The characters are scanned as a literal, whose value is canonical for the value. -/
def IsLiteral (zone : Calendar.LocalZone) (edm : Edm) (v : Value) (cs : List Char) : Prop :=
  ∃ lexeme w, ScansAs cs lexeme ∧ LiteralValue lexeme w ∧ CanonicalValue zone edm v w

theorem isLiteral_boolean (b : Bool) :
    IsLiteral zone .boolean (.boolean b) (if b then "true".toList else "false".toList) :=
  ⟨_, _, scansAs_boolean b, .boolean b, .boolean b⟩

theorem isLiteral_double {v : Value} {x : Double}
    (canonical : CanonicalValue zone .double v (.double x)) :
    IsLiteral zone .double v (x.renderChars Literal.doubleLayout) :=
  ⟨_, _, scansAs_double x, .float x, canonical⟩

theorem bodyFault?_hexBytes (data : List UInt8) :
    bodyFault? .binary (hexBytes data).toList = none := by
  have digits : (hexBytes data).toList.all isHexDigit = true := by
    rw [List.all_eq_true]
    intro c member
    have digit := isHexadecimal_hexBytes data c member
    exact digit.elim (p := fun c => isHexDigit c = true) (by decide)
  simp only [bodyFault?]
  rw [if_pos ⟨length_hexBytes data, digits⟩]

theorem isLiteral_binary (form : ByteForm) (data : List UInt8) :
    IsLiteral zone .binary (.bytes form data)
      (Literal.marked Literal.binaryMark (hexBytes data).toList) := by
  have unquoted : '\'' ∉ (hexBytes data).toList := by
    intro member
    have digit := isHexadecimal_hexBytes data _ member
    exact absurd digit (by decide)
  have isWord : IsLetterWord Literal.binaryMark.toList := by decide
  have scans := scansAs_quoted isWord (by decide) unquoted (bodyFault?_hexBytes data)
  have value := LiteralValue.binary (String.ofList (hexBytes data).toList)
  rw [String.toList_ofList, bytesOfHex_hexBytes] at value
  exact ⟨_, _, scans, value, .binary form data⟩

theorem isLiteral_string {v : Value} {s : String}
    (canonical : CanonicalValue zone .string v (.text s))
    (unquoted : '\'' ∉ s.toList) : IsLiteral zone .string v (Literal.marked "" s.toList) := by
  have scans := scansAs_string unquoted
  rw [String.ofList_toList] at scans
  exact ⟨_, _, scans, .string s, canonical⟩

theorem hasFewDigits_of_fitsInt64 {n : Int} (fits : FitsInt64 n) : HasFewDigits n.natAbs := by
  have short : n.natAbs < 10 ^ 19 := by
    simp only [FitsInt64, int64Min, int64Max] at fits
    omega
  have length : (Nat.toDigits 10 n.natAbs).length ≤ 19 :=
    (Nat.length_toDigits_le_iff (by decide) (by decide)).mpr short
  exact Nat.le_trans length (by decide)

theorem fitsInt64_of_fitsInt32 {n : Int} (fits : FitsInt32 n) : FitsInt64 n := by
  simp only [FitsInt32, int32Min, int32Max] at fits
  simp only [FitsInt64, int64Min, int64Max]
  omega

theorem isLiteral_int32 {n : Int} (fits : FitsInt32 n) :
    IsLiteral zone .int32 (.integer n) (toString n).toList :=
  ⟨_, _, scansAs_integer (hasFewDigits_of_fitsInt64 (fitsInt64_of_fitsInt32 fits)),
    .integer fits, .int32 n⟩

theorem isLiteral_int64 {n : Int} (fits : FitsInt64 n) :
    IsLiteral zone .int64 (.integer n) ((toString n).toList ++ ['L']) :=
  ⟨_, _, scansAs_long (hasFewDigits_of_fitsInt64 fits), .long fits, .int64 n⟩

theorem isLiteral_guid {v : Value} {s : String} {u : Uuid} (read : Uuid.read s = .ok u)
    (guid : Uuid.IsGuidText s.toList) (canonical : CanonicalValue zone .guid v (.uuid u)) :
    IsLiteral zone .guid v (Literal.marked Literal.guidMark (lowerFrom [] s.toList)) := by
  obtain ⟨lowered, same⟩ := guid.lower
  have ascii : ∀ c ∈ s.toList, c.toNat < 128 :=
    guid.forall (by decide) fun n digit => digit.ascii
  have unquoted : '\'' ∉ s.toList.map asciiLower := by
    intro member
    exact lowered.forall (p := fun c => c ≠ '\'') (by decide) (by decide) _ member rfl
  have faultless : bodyFault? .guid (s.toList.map asciiLower) = none :=
    (bodyFault?_guid_eq_none_iff _).mpr lowered.hasGuidShape
  have isWord : IsLetterWord Literal.guidMark.toList := by decide
  have scans := scansAs_quoted isWord (by decide) unquoted faultless
  rw [lowerFrom_of_ascii ascii]
  rw [String.ofList_toList] at same
  exact ⟨_, _, scans, .guid (same.trans read), canonical⟩

theorem isLiteral_dateTime {d utc : Calendar.DateTime} (turned : d.toUtc zone = .ok utc) :
    IsLiteral zone .dateTime (.dateTime d)
      (Literal.marked Literal.dateTimeMark (Literal.dateTimeBody utc)) := by
  have isUtc := Calendar.DateTime.isUtc_of_toUtc turned
  have body := DateTimeLiteral.forall_dateTimeBody (p := fun c => c ≠ '\'') (by decide) utc
    (by decide)
  have unquoted : '\'' ∉ Literal.dateTimeBody utc := fun member => body.2 _ member rfl
  have faultless : bodyFault? .dateTime (Literal.dateTimeBody utc) = none := by
    simp [bodyFault?, body.1, dateTimeLengthMin]
  have isWord : IsLetterWord Literal.dateTimeMark.toList := by decide
  have scans := scansAs_quoted isWord (by decide) unquoted faultless
  exact ⟨_, _, scans, .dateTime (DateTimeLiteral.decode_dateTimeBody isUtc),
    canonicalValue_of_toUtc turned⟩

/-! ## Every literal that is written -/

theorem Value.read_plainText {v : Value} {s : String} {u : Uuid} (text : v.plainText = .ok s)
    (denotes : v.asUuid = .ok u) : Uuid.read s = .ok u := by
  cases v with
  | uuid identifier =>
    simp only [Value.plainText, Except.ok.injEq] at text
    simp only [Value.asUuid, Except.ok.injEq] at denotes
    rw [← text, ← denotes]
    exact Uuid.read_text identifier
  | _ =>
    simp only [Value.asUuid, text] at denotes
    cases read : Uuid.read s with
    | ok identifier =>
      simp only [read, Except.ok.injEq] at denotes
      rw [denotes]
    | error fault => simp only [read, reduceCtorEq] at denotes

theorem Literal.exists_text_of_charsOf {text : Except ValueFault String} {cs : List Char}
    (written : charsOf text = .ok cs) : ∃ s, text = .ok s ∧ cs = s.toList := by
  unfold charsOf at written
  split at written
  · next s => cases written; exact ⟨s, rfl, rfl⟩
  · cases written

theorem lt_pow_of_hasFewDigits {n : Nat} (few : HasFewDigits n) :
    n < Nat.pow 10 integerDigitLimit := by
  have positive : 0 < integerDigitLimit := by decide
  unfold HasFewDigits at few
  -- the power itself is too large to be computed
  generalize integerDigitLimit = limit at few positive ⊢
  exact (Nat.length_toDigits_le_iff (by decide) positive).mp few

theorem plainChars_integer {n : Int} (fits : FitsInt64 n) :
    Literal.plainChars (.integer n) = .ok (toString n).toList := by
  have few := lt_pow_of_hasFewDigits (hasFewDigits_of_fitsInt64 fits)
  have text : Value.integerText n = .ok (toString n) := if_pos few
  simp only [Literal.plainChars, Literal.charsOf, Value.plainText, Value.quoted, text]

theorem encodeAs_int32 {n : Int} (fits : FitsInt32 n) :
    Literal.encodeAs zone .int32 (.integer n) = .ok (toString n).toList := by
  have plain := plainChars_integer (fitsInt64_of_fitsInt32 fits)
  simp only [Literal.encodeAs, Value.asInteger, Literal.ofInteger, plain, bind, Except.bind]

theorem encodeAs_int64 {n : Int} (fits : FitsInt64 n) :
    Literal.encodeAs zone .int64 (.integer n) = .ok ((toString n).toList ++ ['L']) := by
  have plain := plainChars_integer fits
  simp only [Literal.encodeAs, Value.asInteger, Literal.ofInteger, plain, bind, Except.bind, pure,
    Except.pure]

theorem encodeAs_dateTime {d utc : Calendar.DateTime} (turned : d.toUtc zone = .ok utc) :
    Literal.encodeAs zone .dateTime (.dateTime d) =
      .ok (Literal.marked Literal.dateTimeMark (Literal.dateTimeBody utc)) := by
  simp only [Literal.encodeAs, Literal.ofDateTime, turned]

section Encoded

variable {edm : Edm} {v : Value} {literal : List Char}

theorem isLiteral_of_encodeDouble (encoded : Literal.encodeAs zone .double v = .ok literal)
    (canonical : ∀ x, v.asDouble = .ok x → CanonicalValue zone .double v (.double x)) :
    IsLiteral zone .double v literal := by
  simp only [Literal.encodeAs] at encoded
  cases converted : v.asDouble with
  | error fault =>
    rw [converted] at encoded
    cases encoded
  | ok x =>
    rw [converted] at encoded
    rw [← Except.ok.inj encoded]
    exact isLiteral_double (canonical x converted)

theorem isLiteral_of_encodeDateTime {d : Calendar.DateTime}
    (encoded : Literal.encodeAs zone .dateTime (.dateTime d) = .ok literal) :
    IsLiteral zone .dateTime (.dateTime d) literal := by
  cases turned : d.toUtc zone with
  | error fault => simp [Literal.encodeAs, Literal.ofDateTime, turned] at encoded
  | ok utc =>
    rw [encodeAs_dateTime turned] at encoded
    rw [← Except.ok.inj encoded]
    exact isLiteral_dateTime turned

theorem accepts_guid_of_read {s : String} {u : Uuid} (denotes : Uuid.read s = .ok u) :
    Edm.guid.accepts (.text s) = true := by
  simp [Edm.accepts, Value.asUuid, Value.plainText, denotes, Except.isOk, Except.toBool]

theorem accepts_guid_of_isGuidText {s : String} (guid : Uuid.IsGuidText s.toList) :
    Edm.guid.accepts (.text s) = true := by
  obtain ⟨u, denotes⟩ := guid.exists_read
  rw [String.ofList_toList] at denotes
  exact accepts_guid_of_read denotes

theorem exists_text_of_ofGuid (accepted : Edm.guid.accepts v = true)
    (encoded : Literal.ofGuid v = .ok literal) :
    ∃ s u, v.plainText = .ok s ∧ v.asUuid = .ok u ∧ Uuid.read s = .ok u ∧
      literal = Literal.marked Literal.guidMark (lowerFrom [] s.toList) := by
  cases denotes : v.asUuid with
  | error fault => simp [Edm.accepts, denotes, Except.isOk, Except.toBool] at accepted
  | ok u =>
    cases written : Literal.plainChars v with
    | error fault => simp [Literal.ofGuid, written, bind, Except.bind] at encoded
    | ok cs =>
      obtain ⟨s, text, rfl⟩ := Literal.exists_text_of_charsOf written
      refine ⟨s, u, text, rfl, Value.read_plainText text denotes, ?_⟩
      simpa [Literal.ofGuid, written, bind, Except.bind, pure, Except.pure, eq_comm] using encoded

theorem isLiteral_of_ofGuid (accepted : Edm.guid.accepts v = true)
    (encoded : Literal.ofGuid v = .ok literal)
    (guid : ∀ s, v.plainText = .ok s → Uuid.IsGuidText s.toList) :
    IsLiteral zone .guid v literal := by
  obtain ⟨s, u, text, denotes, read, rfl⟩ := exists_text_of_ofGuid accepted encoded
  exact isLiteral_guid read (guid s text) (.guid denotes)

theorem Literal.ofString_of_ne_null {v : Value} (present : v ≠ .null) :
    ofString v = (charsOf v.formattedText).map (marked "") := by
  cases v with
  | null => exact absurd rfl present
  | _ =>
    simp only [ofString]
    generalize charsOf _ = written
    cases written <;> rfl

theorem isLiteral_of_ofString (encoded : Literal.ofString v = .ok literal)
    (unquoted : ∀ s, v.formattedText = .ok s → '\'' ∉ s.toList) :
    IsLiteral zone .string v literal := by
  by_cases present : v = .null
  · subst present
    simp only [Literal.ofString, Except.ok.injEq] at encoded
    rw [← encoded]
    exact isLiteral_string .null (by decide)
  · have plain := (Literal.ofString_of_ne_null present).symm.trans encoded
    cases written : Literal.charsOf v.formattedText with
    | error fault => simp [written, Except.map] at plain
    | ok cs =>
      obtain ⟨s, text, rfl⟩ := Literal.exists_text_of_charsOf written
      simp only [written, Except.map, Except.ok.injEq] at plain
      rw [← plain]
      exact isLiteral_string (.string present text) (unquoted s text)

/-- A type that accepts a value writes it as a literal of the type. -/
theorem isLiteral_of_encodeAs (accepted : edm.accepts v = true)
    (encoded : Literal.encodeAs zone edm v = .ok literal)
    (unquoted : edm = .string → ∀ s, v.formattedText = .ok s → '\'' ∉ s.toList)
    (guid : edm = .guid → ∀ s, v.plainText = .ok s → Uuid.IsGuidText s.toList) :
    IsLiteral zone edm v literal := by
  cases edm with
  | binary =>
    cases v with
    | bytes form data => exact Except.ok.inj encoded ▸ isLiteral_binary form data
    | released address => cases encoded
    | _ => cases accepted
  | boolean =>
    cases v with
    | boolean b => exact Except.ok.inj encoded ▸ isLiteral_boolean b
    | _ => cases accepted
  | dateTime =>
    cases v with
    | dateTime d => exact isLiteral_of_encodeDateTime encoded
    | _ => cases accepted
  | double =>
    cases v with
    | double x =>
      refine isLiteral_of_encodeDouble encoded fun y same => ?_
      exact Except.ok.inj same ▸ .double x
    | integer n => exact isLiteral_of_encodeDouble encoded fun x => .doubleOfInteger
    | _ => cases accepted
  | guid => exact isLiteral_of_ofGuid accepted encoded (guid rfl)
  | int32 =>
    cases v with
    | integer n =>
      have fits : FitsInt32 n := of_decide_eq_true accepted
      rw [encodeAs_int32 fits] at encoded
      exact Except.ok.inj encoded ▸ isLiteral_int32 fits
    | _ => cases accepted
  | int64 =>
    cases v with
    | integer n =>
      have fits : FitsInt64 n := of_decide_eq_true accepted
      rw [encodeAs_int64 fits] at encoded
      exact Except.ok.inj encoded ▸ isLiteral_int64 fits
    | _ => cases accepted
  | string => exact isLiteral_of_ofString encoded (unquoted rfl)

end Encoded

theorem Value.accepts_edm (v : Value) (untyped : ∀ edm inner, v ≠ .typed edm inner) :
    v.edm.accepts v.untyped = true := by
  cases v with
  | typed edm inner => exact absurd rfl (untyped edm inner)
  | integer n =>
    simp only [Value.edm, Value.untyped]
    split
    · next fits => simpa [Edm.accepts] using fits
    · split
      · next fits => simpa [Edm.accepts] using fits
      · rfl
  | _ => rfl

def Value.IsAccepted (v : Value) : Prop :=
  ∀ edm inner, v = .typed edm inner → edm.accepts inner = true

theorem Value.IsAccepted.accepts {v : Value} (accepted : v.IsAccepted) :
    v.edm.accepts v.untyped = true := by
  by_cases untyped : ∀ edm inner, v ≠ .typed edm inner
  · exact v.accepts_edm untyped
  · push Not at untyped
    obtain ⟨edm, inner, rfl⟩ := untyped
    exact accepted edm inner rfl

/-- What the literal of a value must satisfy to be read back: the type of a typed value accepts it,
it can be written, the text of a string holds no quote, and a text that stands for an identifier is
in its groups. -/
structure Value.IsWritable (zone : Calendar.LocalZone) (v : Value) : Prop where
  accepted : ∀ edm inner, v = .typed edm inner → edm.accepts inner = true
  encodes : ∃ literal, Literal.chars zone v = .ok literal
  unquoted : v.edm = .string → ∀ s, v.untyped.formattedText = .ok s → '\'' ∉ s.toList
  guid : v.edm = .guid →
    (∃ u, v = .uuid u) ∨ ∀ s, v.untyped.plainText = .ok s → Uuid.IsGuidText s.toList

theorem Value.IsWritable.accepts {v : Value} (writable : v.IsWritable zone) :
    v.edm.accepts v.untyped = true :=
  Value.IsAccepted.accepts writable.accepted

theorem Value.IsWritable.isGuidText {v : Value} (writable : v.IsWritable zone)
    (guid : v.edm = .guid)
    (s : String) (text : v.untyped.plainText = .ok s) : Uuid.IsGuidText s.toList := by
  rcases writable.guid guid with ⟨u, rfl⟩ | groups
  · simp only [Value.untyped, Value.plainText, Except.ok.injEq] at text
    rw [← text]
    exact Uuid.isGuidText_text u
  · exact groups s text

/-- The literal of a value that can be written is one lexeme, which reads as its canonical form. -/
theorem Value.IsWritable.isLiteral {v : Value} {literal : List Char} (writable : v.IsWritable zone)
    (encoded : Literal.chars zone v = .ok literal) : IsLiteral zone v.edm v.untyped literal :=
  isLiteral_of_encodeAs writable.accepts encoded writable.unquoted writable.isGuidText

end StagedTables
