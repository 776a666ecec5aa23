import StagedTables.Proofs.Filter.LiteralFault
import StagedTables.Proofs.Filter.RoundTrip
import StagedTables.Proofs.Identifier

/-! # Identifiers in a filter

Whatever the reader of identifiers takes may be given the type of identifiers, and its literal is
its text in lower case, as it was written.  The literal is the canonical one exactly when the text
has its digits in groups.  It is read as the identifier exactly when the text has 36 characters,
four of them hyphens, and it is refused otherwise. -/
set_option autoImplicit false
namespace StagedTables

open Text StagedTables.Filter

/-! ## The literal of an identifier -/

namespace Literal

theorem ofList_marked (mark : String) (body : List Char) :
    String.ofList (marked mark body) = mark ++ "'" ++ String.ofList body ++ "'" := by
  rw [← String.toList_inj]
  simp [marked]

def guidChars (s : String) : List Char := marked guidMark (lowerFrom [] s.toList)

theorem ofList_guidChars (s : String) :
    String.ofList (guidChars s) = "guid'" ++ lower s ++ "'" := ofList_marked guidMark _

theorem guidChars_of_read {s : String} {u : Uuid} (denotes : Uuid.read s = .ok u) :
    guidChars s = marked guidMark (s.toList.map asciiLower) := by
  have lowered := congrArg String.toList (Uuid.lower_of_read denotes)
  rw [lower, String.toList_ofList, String.toList_ofList] at lowered
  rw [guidChars, lowered]

theorem guidChars_eq_canonical_iff {s : String} {u : Uuid} (denotes : Uuid.read s = .ok u) :
    String.ofList (guidChars s) = "guid'" ++ u.text ++ "'" ↔ Uuid.IsGuidText s.toList := by
  rw [ofList_guidChars, ← Uuid.lower_eq_text_iff denotes]
  constructor
  · intro same
    exact (String.append_right_inj _).mp ((String.append_left_inj _).mp same)
  · intro same
    rw [same]

end Literal

namespace Filter

/-! ## Reading the literal of an identifier -/

theorem parse_of_bodyFault {name : String} (isName : IsColumnName name.toList)
    (comparison : Comparison) {mark : String} {kind : QuotedKind} {body : List Char}
    {fault : SyntaxFault} (isWord : IsLetterWord mark.toList)
    (marks : quotedKind? (mark.toList.map asciiLower) = some kind) (unquoted : '\'' ∉ body)
    (faulty : bodyFault? kind body = some fault) :
    parse (String.ofList (comparisonClause name comparison (Literal.marked mark body))) =
      .error (.refused ⟨fault, Position.start.advance (comparisonClause name comparison [])⟩) := by
  have scanned := scan_marked isWord marks unquoted isBoundary_nil
  rw [List.append_nil, faulty] at scanned
  obtain ⟨c, rest, shape, solid⟩ := isWord.marked_start body
  rw [shape] at scanned ⊢
  have front := tokensFrom_of_lexes (lexes_comparisonClause isName comparison .start (c :: rest))
  rw [tokensFrom.eq_def _ (c :: rest)] at front
  simp only [solid, scanned] at front
  rw [parse, tokens_ofList, front]
  rfl

section GuidLiteral

variable {name : String} (isName : IsColumnName name.toList) (comparison : Comparison)
  {s : String} {u : Uuid} (denotes : Uuid.read s = .ok u)

include isName denotes

theorem parse_guid_of_shape (shape : Uuid.HasGuidShape s.toList) :
    parse (String.ofList (comparisonClause name comparison (Literal.guidChars s))) =
      .ok (.column name comparison (.uuid u)) := by
  have lowered := Uuid.hasGuidShape_map_asciiLower.mpr shape
  have faultless : bodyFault? .guid (s.toList.map asciiLower) = none :=
    (bodyFault?_guid_eq_none_iff _).mpr lowered
  have isWord : IsLetterWord Literal.guidMark.toList := by decide
  have scans := scansAs_quoted isWord (by decide) (Uuid.unquoted_of_read denotes) faultless
  have value := Uuid.read_map_asciiLower_of_hasGuidShape denotes shape
  rw [Literal.guidChars_of_read denotes]
  have reads := reads_comparisonClause comparison isName scans (.guid value)
  exact parse_of_reads (reads.map fun ts derived => .conjunction (.negation (.primary derived)))

theorem parse_guid_of_misshapen (misshapen : ¬ Uuid.HasGuidShape s.toList) :
    parse (String.ofList (comparisonClause name comparison (Literal.guidChars s))) =
      .error (.refused ⟨.misshapenGuid (lower s),
        Position.start.advance (comparisonClause name comparison [])⟩) := by
  have faulty : bodyFault? .guid (s.toList.map asciiLower) =
      some (.misshapenGuid (String.ofList (s.toList.map asciiLower))) := by
    refine if_pos ?_
    by_contra neither
    push Not at neither
    exact misshapen (Uuid.hasGuidShape_map_asciiLower.mp ⟨neither.1, neither.2⟩)
  have isWord : IsLetterWord Literal.guidMark.toList := by decide
  rw [Literal.guidChars_of_read denotes, Uuid.lower_of_read denotes]
  exact parse_of_bodyFault isName comparison isWord (by decide) (Uuid.unquoted_of_read denotes)
    faulty

end GuidLiteral

/-- Three notions of an identifier: what is accepted, what is written canonically, and what is
read back. -/
theorem parse_toQuery_guid (zone : Calendar.LocalZone) {v : Value}
    (constructible : ∀ edm inner, v = .typed edm inner → Value.withEdm edm inner = .ok v)
    (guid : v.edm = .guid) :
    ∃ s u, v.untyped.plainText = .ok s ∧ Uuid.read s = .ok u ∧
      ((∃ own, v = .uuid own) → Uuid.IsGuidText s.toList) ∧
      Literal.encode zone v = .ok ("guid'" ++ lower s ++ "'") ∧
      (Literal.encode zone v = .ok ("guid'" ++ u.text ++ "'") ↔ Uuid.IsGuidText s.toList) ∧
      ∀ name comparison, IsColumnName name.toList → ∃ query,
        toQuery zone (.column name comparison v) = .ok (some query) ∧
        (parse query = .ok (.column name comparison (.uuid u)) ↔ Uuid.HasGuidShape s.toList) ∧
        (¬ Uuid.HasGuidShape s.toList →
          parse query = .error (.refused ⟨.misshapenGuid (lower s),
            Position.start.advance (comparisonClause name comparison [])⟩)) := by
  have built : IsConstructible (.column "" .equal v) := by
    intro w member
    rw [List.mem_singleton.mp member]
    exact constructible
  have accepted := (built.isAccepted (List.mem_singleton.mpr rfl)).accepts
  rw [guid] at accepted
  obtain ⟨literal, written⟩ : ∃ literal, Literal.ofGuid v.untyped = .ok literal := by
    cases written : Literal.ofGuid v.untyped with
    | error fault => exact absurd written (ofGuid_ne_error accepted)
    | ok literal => exact ⟨literal, rfl⟩
  obtain ⟨s, u, text, -, denotes, rfl⟩ := exists_text_of_ofGuid accepted written
  have chars : Literal.chars zone v = .ok (Literal.guidChars s) := by
    rw [Literal.chars, guid]
    exact written
  have encoded : Literal.encode zone v = .ok (String.ofList (Literal.guidChars s)) := by
    rw [Literal.encode, chars]
    rfl
  refine ⟨s, u, text, denotes, ?_, ?_, ?_, fun name comparison isName => ?_⟩
  · rintro ⟨own, rfl⟩
    rw [← Except.ok.inj text]
    exact Uuid.isGuidText_text own
  · rw [encoded, Literal.ofList_guidChars]
  · rw [encoded, Except.ok.injEq]
    exact Literal.guidChars_eq_canonical_iff denotes
  · have written : clause zone (.column name comparison v) =
        .ok (some (comparisonClause name comparison (Literal.guidChars s))) := by
      rw [clause, chars]
      rfl
    have refused := parse_guid_of_misshapen isName comparison denotes
    refine ⟨_, toQuery_of_clause written, ⟨fun read => ?_, ?_⟩, refused⟩
    · by_contra misshapen
      cases (refused misshapen).symm.trans read
    · exact parse_guid_of_shape isName comparison denotes

theorem parse_toQuery_guid_upper_case :
    Literal.encode .utc (.typed .guid (.text "ABCDEF00-1234-5678-1234-567812345678")) =
        .ok "guid'abcdef00-1234-5678-1234-567812345678'" ∧
      ∃ query u, toQuery .utc (.column "Id" .notEqual
          (.typed .guid (.text "ABCDEF00-1234-5678-1234-567812345678"))) = .ok (some query) ∧
        parse query = .ok (.column "Id" .notEqual (.uuid u)) ∧
        u.text = "abcdef00-1234-5678-1234-567812345678" := by
  have groups : Uuid.IsGuidText (Uuid.hyphenated "ABCDEF00".toList "1234".toList "5678".toList
      "1234".toList "567812345678".toList) :=
    .groups (by decide) (List.all_eq_true.mp (by decide))
  have guid : Uuid.IsGuidText "ABCDEF00-1234-5678-1234-567812345678".toList := groups
  have constructible : ∀ edm inner,
      Value.typed .guid (.text "ABCDEF00-1234-5678-1234-567812345678") = .typed edm inner →
        Value.withEdm edm inner =
          .ok (.typed .guid (.text "ABCDEF00-1234-5678-1234-567812345678")) := by
    intro edm inner same
    cases same
    exact if_pos (accepts_guid_of_isGuidText guid)
  obtain ⟨s, u, text, denotes, -, written, -, queries⟩ := parse_toQuery_guid .utc constructible rfl
  cases text
  obtain ⟨query, asked, back, -⟩ := queries "Id" .notEqual isColumnName_id
  have lowered : lower "ABCDEF00-1234-5678-1234-567812345678" =
      "abcdef00-1234-5678-1234-567812345678" := by
    rw [Uuid.lower_of_read denotes]
    decide
  have canonical := (Uuid.lower_eq_text_iff denotes).mpr guid
  rw [lowered] at written canonical
  exact ⟨written, query, u, asked, back.mpr guid.hasGuidShape, canonical.symm⟩

/-- Digits without hyphens are accepted, and neither is their literal canonical nor is it read. -/
theorem parse_toQuery_guid_without_hyphens :
    Value.withEdm .guid (.text "abcdef00123456781234567812345678") =
        .ok (.typed .guid (.text "abcdef00123456781234567812345678")) ∧
      Uuid.read "abcdef00123456781234567812345678" =
        .ok ⟨0xabcdef00123456781234567812345678#128⟩ ∧
      Uuid.text ⟨0xabcdef00123456781234567812345678#128⟩ =
        "abcdef00-1234-5678-1234-567812345678" ∧
      Literal.encode .utc (.typed .guid (.text "abcdef00123456781234567812345678")) =
        .ok "guid'abcdef00123456781234567812345678'" ∧
      parse "Id eq guid'abcdef00123456781234567812345678'" =
        .error (.refused ⟨.misshapenGuid "abcdef00123456781234567812345678", ⟨1, 7, 6⟩⟩) := by
  have value : Uuid.read "abcdef00123456781234567812345678" =
      .ok ⟨0xabcdef00123456781234567812345678#128⟩ := by
    rw [Uuid.read, Uuid.bareDigits_of_forall (by simp) (by simp)]
    rfl
  have misshapen : ¬ Uuid.HasGuidShape "abcdef00123456781234567812345678".toList :=
    fun shape => absurd shape.length (by decide)
  have refused := parse_guid_of_misshapen isColumnName_id .equal value misshapen
  rw [Literal.guidChars_of_read value, Uuid.lower_of_read value] at refused
  exact ⟨if_pos (accepts_guid_of_read value), value, by decide, by decide, refused⟩

end Filter
end StagedTables
