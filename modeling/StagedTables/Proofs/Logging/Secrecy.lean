import StagedTables.Logging.Format
import StagedTables.Proofs.Json.Line
import StagedTables.Proofs.Redaction.Secrecy

/-! # Secrets in log lines

The filter masks the template of a record and nothing else.  So a secret that stands in the template
does not reach the line, whatever the arguments are; but what comes from an argument, an error or a
context is shown as it is, and a template can lose a directive in a secret, so that its arguments
do not fit any more. -/
set_option autoImplicit false
namespace StagedTables.Logging

open Redaction (IsSecret redact valueRules folded)
open Text (isBlank)

/-! ## Templates -/

section Templates

variable {front back : List Char} {arguments : Arguments}

theorem fillFrom_append (plain : '%' ∉ front) (arguments : Arguments) (index : Nat)
    (cs : List Char) :
    fillFrom arguments index (front ++ cs) =
      (fillFrom arguments (index + front.length) cs).map (front ++ ·) := by
  induction front generalizing index with
  | nil =>
    rw [List.nil_append, List.length_nil, Nat.add_zero]
    cases fillFrom arguments index cs <;> rfl
  | cons c rest ih =>
    obtain ⟨other, plain⟩ := List.ne_and_not_mem_of_not_mem_cons plain
    rw [List.cons_append, fillFrom, if_neg other.symm, ih plain, List.length_cons,
      Nat.add_right_comm, Nat.add_assoc]
    cases fillFrom arguments (index + (rest.length + 1)) cs <;> rfl

theorem fillFrom_plain (plain : '%' ∉ front) (index : Nat) :
    fillFrom arguments index front =
      (fillFrom arguments (index + front.length) []).map (front ++ ·) := by
  simpa using fillFrom_append plain arguments index []

theorem fillFrom_nil (index : Nat) : fillFrom (.list []) index [] = .ok [] := by
  unfold fillFrom
  rfl

theorem directive_text (argument : String) (rest : List Value) (index : Nat) (cs : List Char) :
    directive (.list (.text argument :: rest)) index ('s' :: cs) =
      .ok (argument.toList, 1, .list rest) := by
  let plain : Directive := ⟨Flags.ofChars [], 0, none⟩
  have rendered : plain.render 's' index (.text argument) = .ok argument.toList := by
    simp [plain, Directive.render, textOf, Value.plainText, Except.mapError, Directive.ofText,
      Directive.pad, Flags.ofChars]
  have read : directive (.list (.text argument :: rest)) index ('s' :: cs) =
      (plain.render 's' index (.text argument)).bind fun chars => .ok (chars, 1, .list rest) := rfl
  rw [read, rendered]
  rfl

theorem fill_text {before after : String} (front : '%' ∉ before.toList)
    (back : '%' ∉ after.toList) (argument : String) :
    fill (before ++ "%s" ++ after) [.text argument] = .ok (before ++ argument ++ after) := by
  have split : (before ++ "%s" ++ after).toList = before.toList ++ '%' :: 's' :: after.toList := by
    simp
  have read := directive_text argument [] (0 + before.toList.length + 1) after.toList
  have given : Arguments.ofList [.text argument] = .list [.text argument] := rfl
  unfold fill
  rw [split, given, fillFrom_append front, fillFrom, if_pos rfl, if_neg (by simp), read]
  dsimp only
  rw [List.drop_one, List.tail_cons, fillFrom_plain back, fillFrom_nil]
  simp [Except.map, String.ofList_append, String.append_assoc]

theorem fill_plain {template : String} (plain : '%' ∉ template.toList) (argument : String)
    (rest : List Value) : fill template (.text argument :: rest) = .error .tooManyArguments := by
  have given : Arguments.ofList (.text argument :: rest) = .list (.text argument :: rest) := rfl
  unfold fill
  rw [given, fillFrom_plain plain, fillFrom]
  rfl

end Templates

/-! ## Lines -/

def LineFormat.shown (format : LineFormat) (given : String) : List Char :=
  match format with
  | .json => given.toList.flatMap Json.escapeChar
  | .text => given.toList

/-- What a record must come with beside its message to have a line. -/
def LineFormat.Accepts (format : LineFormat) (record : LogRecord) : Prop :=
  match format with
  | .json => (∃ stamp, stampText record.created = .ok stamp) ∧
    ∀ context, record.context = some context → ∃ json, jsonOf context = .ok json
  | .text => ∃ clock, clockText record.created = .ok clock

section Lines

variable {record : LogRecord}

theorem jsonMembers_of_ok {members : List (String × Json)}
    (made : jsonMembers record = .ok members) :
    (∃ stamp, stampText record.created = .ok stamp) ∧
      (∃ message, record.messageText = .ok message ∧ ("message", .text message) ∈ members) ∧
      (∀ shown, record.exception = some shown → ("exception", .text shown) ∈ members) ∧
      ∀ context, record.context = some context →
        ∃ json, jsonOf context = .ok json ∧ ("context", json) ∈ members := by
  unfold jsonMembers at made
  cases stamped : stampText record.created with
  | error fault => simp [stamped, bind, Except.bind] at made
  | ok stamp =>
    cases filled : record.messageText with
    | error fault => simp [stamped, filled, bind, Except.bind, Except.mapError] at made
    | ok message =>
      rw [stamped, filled] at made
      cases given : record.context with
      | none =>
        rw [given] at made
        cases made
        refine ⟨⟨stamp, rfl⟩, ⟨message, rfl, by simp⟩, fun shown same => ?_, nofun⟩
        simp [same]
      | some context =>
        rw [given] at made
        cases encoded : jsonOf context with
        | error fault => simp [encoded, bind, Except.bind, Except.mapError] at made
        | ok json =>
          dsimp only at made
          rw [encoded] at made
          cases made
          refine ⟨⟨stamp, rfl⟩, ⟨message, rfl, by simp⟩, fun shown same => ?_, ?_⟩
          · simp [same]
          · rintro _ ⟨⟩
            exact ⟨json, encoded, by simp⟩

theorem jsonLine_of_ok {line : String} (made : jsonLine record = .ok line) :
    ∃ members, jsonMembers record = .ok members ∧ line = (Json.object members).line := by
  unfold jsonLine at made
  cases members : jsonMembers record with
  | error fault => simp [members, bind, Except.bind] at made
  | ok given =>
    rw [members] at made
    cases made
    exact ⟨given, rfl, rfl⟩

theorem exists_jsonMembers (accepted : LineFormat.json.Accepts record) {message : String}
    (filled : record.messageText = .ok message) : ∃ members, jsonMembers record = .ok members := by
  obtain ⟨⟨stamp, stamped⟩, encodes⟩ := accepted
  unfold jsonMembers
  rw [stamped, filled]
  cases given : record.context with
  | none => exact ⟨_, rfl⟩
  | some context =>
    obtain ⟨json, encoded⟩ := encodes context given
    dsimp only
    rw [encoded]
    exact ⟨_, rfl⟩

/-- A line of text is the message and then the error, with or without a line break between. -/
theorem textLine_of_ok {line : String} (made : textLine record = .ok line) :
    ∃ front message, record.messageText = .ok message ∧
      ((record.exception = none ∧ line = front ++ message) ∨
        ∃ gap shown, record.exception = some shown ∧ line = front ++ message ++ gap ++ shown) := by
  unfold textLine at made
  cases filled : record.messageText with
  | error fault => simp [filled, bind, Except.bind, Except.mapError] at made
  | ok message =>
    cases timed : clockText record.created with
    | error fault => simp [filled, timed, bind, Except.bind, Except.mapError] at made
    | ok clock =>
      rw [filled, timed] at made
      cases raised : record.exception with
      | none =>
        rw [raised] at made
        cases made
        exact ⟨s!"{clock} [{record.level.name}] {record.logger}: ", message, rfl, .inl ⟨rfl, rfl⟩⟩
      | some shown =>
        rw [raised] at made
        cases made
        refine ⟨s!"{clock} [{record.level.name}] {record.logger}: ", message, rfl, .inr ?_⟩
        split
        · exact ⟨"", shown, rfl, by rw [String.append_empty]; rfl⟩
        · exact ⟨"\n", shown, rfl, rfl⟩

/-- A record has a line exactly if it has a message and the rest of it fits the format. -/
theorem LineFormat.exists_render_iff (format : LineFormat) :
    (∃ line, format.render record = .ok line) ↔
      (∃ message, record.messageText = .ok message) ∧ format.Accepts record := by
  cases format with
  | json =>
    constructor
    · rintro ⟨line, made⟩
      obtain ⟨members, listed, -⟩ := jsonLine_of_ok made
      obtain ⟨stamped, ⟨message, filled, -⟩, -, encodes⟩ := jsonMembers_of_ok listed
      refine ⟨⟨message, filled⟩, stamped, fun context given => ?_⟩
      obtain ⟨json, encoded, -⟩ := encodes context given
      exact ⟨json, encoded⟩
    · rintro ⟨⟨message, filled⟩, accepted⟩
      obtain ⟨members, listed⟩ := exists_jsonMembers accepted filled
      refine ⟨(Json.object members).line, ?_⟩
      unfold render jsonLine
      rw [listed]
      rfl
  | text =>
    unfold render textLine Accepts
    cases record.messageText with
    | error fault => simp [bind, Except.bind, Except.mapError]
    | ok message =>
      cases clockText record.created with
      | error fault => simp [bind, Except.bind, Except.mapError]
      | ok clock =>
        cases record.exception with
        | none => simp [bind, Except.bind, Except.mapError, pure, Except.pure]
        | some shown => simp [bind, Except.bind, Except.mapError, pure, Except.pure]

theorem LineFormat.not_isOk_render_of_messageText (format : LineFormat)
    {fault : TemplateFault} (misfit : record.messageText = .error fault) :
    ¬ (format.render record).isOk := by
  intro hasLine
  cases made : format.render record with
  | error other =>
    rw [made] at hasLine
    cases hasLine
  | ok line =>
    obtain ⟨⟨message, filled⟩, -⟩ := format.exists_render_iff.mp ⟨line, made⟩
    cases misfit.symm.trans filled

variable {format : LineFormat} {line : String}

theorem LineFormat.message_infix_render {message : String}
    (filled : record.messageText = .ok message) (made : format.render record = .ok line) :
    format.shown message <:+: line.toList := by
  cases format with
  | json =>
    obtain ⟨members, given, rfl⟩ := jsonLine_of_ok made
    obtain ⟨-, ⟨other, same, member⟩, -⟩ := jsonMembers_of_ok given
    cases filled.symm.trans same
    exact (Json.infix_line_text message).trans (Json.infix_line member)
  | text =>
    obtain ⟨front, other, same, ends⟩ := textLine_of_ok made
    cases filled.symm.trans same
    rcases ends with ⟨-, rfl⟩ | ⟨gap, shown, -, rfl⟩
    · exact ⟨front.toList, [], by simp [shown]⟩
    · exact ⟨front.toList, (gap ++ shown).toList, by simp [LineFormat.shown]⟩

theorem LineFormat.exception_infix_render {shown : String} (raised : record.exception = some shown)
    (made : format.render record = .ok line) : format.shown shown <:+: line.toList := by
  cases format with
  | json =>
    obtain ⟨members, given, rfl⟩ := jsonLine_of_ok made
    obtain ⟨-, -, raises, -⟩ := jsonMembers_of_ok given
    exact (Json.infix_line_text shown).trans (Json.infix_line (raises shown raised))
  | text =>
    obtain ⟨front, message, -, ends⟩ := textLine_of_ok made
    rcases ends with ⟨none, -⟩ | ⟨gap, other, same, rfl⟩
    · cases raised.symm.trans none
    · cases raised.symm.trans same
      exact ⟨(front ++ message ++ gap).toList, [], by simp [LineFormat.shown]⟩

theorem context_infix_jsonLine {context : Value} {json : Json}
    (given : record.context = some context) (encoded : jsonOf context = .ok json)
    (made : jsonLine record = .ok line) : json.line.toList <:+: line.toList := by
  obtain ⟨members, listed, rfl⟩ := jsonLine_of_ok made
  obtain ⟨-, -, -, encodes⟩ := jsonMembers_of_ok listed
  obtain ⟨other, same, member⟩ := encodes context given
  cases encoded.symm.trans same
  exact Json.infix_line member

theorem jsonLine_eq {stamp message : String} {context : Option Json}
    (stamped : stampText record.created = .ok stamp) (filled : record.messageText = .ok message)
    (encoded : record.context.mapM jsonOf = .ok context) :
    jsonLine record = .ok (Json.object ([("timestamp", .text stamp),
      ("level", .text record.level.name), ("module", .text record.logger)] ++
        ("message", .text message) ::
          ((record.exception.map fun shown => ("exception", Json.text shown)).toList ++
            (context.map fun json => ("context", json)).toList))).line := by
  unfold jsonLine jsonMembers
  rw [stamped, filled]
  cases given : record.context with
  | none =>
    rw [given] at encoded
    cases encoded
    simp [bind, Except.bind, pure, Except.pure, Except.mapError]
  | some value =>
    cases written : jsonOf value with
    | error fault => simp [given, written] at encoded
    | ok json =>
      have same : some json = context := by
        simpa [given, written, pure, Except.pure] using encoded
      subst same
      simp [written, bind, Except.bind, pure, Except.pure, Except.mapError]

theorem textLine_eq {clock message : String} (timed : clockText record.created = .ok clock)
    (filled : record.messageText = .ok message) :
    textLine record =
      let line := s!"{clock} [{record.level.name}] {record.logger}: {message}"
      .ok (match record.exception with
        | none => line
        | some shown => (if line.endsWith "\n" then line else line ++ "\n") ++ shown) := by
  unfold textLine
  rw [filled, timed]
  cases record.exception <;> rfl

/-! ## Filtered records -/

namespace LogRecord

theorem redactMessage_text {template : String} (written : record.message = .text template) :
    record.redactMessage = { record with message := .text (redact template) } := by
  unfold redactMessage
  rw [written]

theorem redactMessage_eq (record : LogRecord) :
    ∃ message, record.redactMessage = { record with message } := by
  unfold redactMessage
  split
  · exact ⟨_, rfl⟩
  · exact ⟨record.message, rfl⟩

theorem redactMessage_of_unmasked {template : String} (written : record.message = .text template)
    (unmasked : redact template = template) : record.redactMessage = record := by
  rw [redactMessage_text written, unmasked, ← written]

theorem accepts_redactMessage (format : LineFormat) (record : LogRecord) :
    format.Accepts record.redactMessage ↔ format.Accepts record := by
  obtain ⟨message, same⟩ := record.redactMessage_eq
  rw [same]
  cases format <;> rfl

theorem messageText_redactMessage_iff (none : record.arguments = []) :
    (∃ message, record.redactMessage.messageText = .ok message) ↔
      ∃ message, record.messageText = .ok message := by
  cases written : record.message with
  | text template =>
    rw [redactMessage_text written]
    unfold messageText
    rw [none, written]
    exact ⟨fun _ => ⟨template, rfl⟩, fun _ => ⟨redact template, rfl⟩⟩
  | _ =>
    have same : record.redactMessage = record := by
      unfold redactMessage
      rw [written]
    rw [same]

theorem messageText_text {template : String} (written : record.message = .text template)
    {argument : Value} {rest : List Value} (given : record.arguments = argument :: rest) :
    record.messageText = fill template (argument :: rest) := by
  unfold messageText
  rw [written, given]
  rfl

end LogRecord
end Lines

/-! ## What reaches a line -/

/-- The filter hides what follows a mark in the template of a record, and nothing else. -/
structure LogRecord.MasksTemplate (format : LineFormat) (record : LogRecord) : Prop where
  /-- The line does not depend on a secret in the template, whatever the arguments are. -/
  hides : ∀ rule ∈ valueRules, ∀ mark secret alternative before after : String,
    folded mark.toList = folded rule.mark → IsSecret secret.toList → IsSecret alternative.toList →
    (∀ c ∈ after.toList.head?, c = ';' ∨ c = '&' ∨ isBlank c = true) →
      format.render { record with
        message := .text (before ++ mark ++ secret ++ after) }.redactMessage =
      format.render { record with
        message := .text (before ++ mark ++ alternative ++ after) }.redactMessage
  /-- Without arguments a record has a line after the filter exactly if it has one before. -/
  plain : record.arguments = [] →
    ((∃ line, format.render record.redactMessage = .ok line) ↔
      ∃ line, format.render record = .ok line)
  /-- With arguments it keeps its line exactly if they fit the masked template. -/
  fits : (∃ line, format.render record = .ok line) →
    ((∃ line, format.render record.redactMessage = .ok line) ↔
      ∃ message, record.redactMessage.messageText = .ok message)
  /-- An argument does not fit if its directive is masked. -/
  misfit : ∀ template argument rest, record.message = .text template →
    record.arguments = .text argument :: rest → '%' ∉ (redact template).toList →
      record.redactMessage.messageText = .error .tooManyArguments
  /-- An argument that fits is shown whole. -/
  argument : ∀ before after argument, '%' ∉ before.toList → '%' ∉ after.toList →
    redact (before ++ "%s" ++ after) = before ++ "%s" ++ after →
    record.message = .text (before ++ "%s" ++ after) → record.arguments = [.text argument] →
      record.redactMessage.messageText = .ok (before ++ argument ++ after)
  /-- So are the message as it is filled in, the error and the context. -/
  message : ∀ line message, format.render record.redactMessage = .ok line →
    record.redactMessage.messageText = .ok message → format.shown message <:+: line.toList
  exception : ∀ line shown, format.render record.redactMessage = .ok line →
    record.exception = some shown → format.shown shown <:+: line.toList
  context : format = .json → ∀ line context json, format.render record.redactMessage = .ok line →
    record.context = some context → jsonOf context = .ok json → json.line.toList <:+: line.toList

theorem LogRecord.masksTemplate (format : LineFormat) (record : LogRecord) :
    record.MasksTemplate format where
  hides rule listed mark secret alternative before after isMark isSecret isAlternative ends := by
    have same := Redaction.redactChars_secret listed isMark isSecret isAlternative before.toList
      (Redaction.closes_of_head ends)
    simp only [redactMessage, redact, String.toList_append, List.append_assoc]
    rw [same]
  plain none := by
    rw [format.exists_render_iff, format.exists_render_iff, accepts_redactMessage,
      messageText_redactMessage_iff none]
  fits hasLine := by
    obtain ⟨-, accepted⟩ := format.exists_render_iff.mp hasLine
    rw [format.exists_render_iff, accepts_redactMessage]
    exact and_iff_left accepted
  misfit template argument rest written given plain := by
    rw [redactMessage_text written, ← fill_plain plain argument rest]
    exact messageText_text rfl given
  argument before after argument front back unmasked written given := by
    rw [redactMessage_text written, unmasked, ← fill_text front back argument]
    exact messageText_text rfl given
  message line message made filled := LineFormat.message_infix_render filled made
  exception line shown made raised := by
    obtain ⟨message, same⟩ := record.redactMessage_eq
    refine LineFormat.exception_infix_render ?_ made
    rw [same]
    exact raised
  context isJson line context json made given encoded := by
    subst isJson
    obtain ⟨message, same⟩ := record.redactMessage_eq
    refine context_infix_jsonLine ?_ encoded made
    rw [same]
    exact given

/-- A secret is masked before the directive of an argument that still fits. -/
theorem LogRecord.masksTemplate_argument :
    let record (secret : String) : LogRecord := ⟨"test", Level.info,
      .text ("key " ++ "accountkey=" ++ secret ++ ";user=%s"), [.text "x"],
      Double.ofDecimal false 0 0, none, none⟩
    LineFormat.text.render (record "a").redactMessage =
        LineFormat.text.render (record "b c").redactMessage ∧
      LineFormat.text.render (record "a").redactMessage =
        .ok "1970-01-01 00:00:00 [INFO] test: key accountkey=***REDACTED***;user=x" := by
  intro record
  have listed : Redaction.accountKeyRule ∈ valueRules := by simp [valueRules]
  have isMark : folded "accountkey=".toList = folded Redaction.accountKeyRule.mark := by decide
  have isSecret : IsSecret "a".toList :=
    ⟨by decide, by simp, Redaction.forall_valueRules (by decide) (by decide) (by decide)⟩
  have isAlternative : IsSecret "b c".toList :=
    ⟨by decide, by simp, Redaction.forall_valueRules (by decide) (by decide) (by decide)⟩
  have masks := LogRecord.masksTemplate .text (record "a")
  have timed : clockText (record "a").redactMessage.created = .ok "1970-01-01 00:00:00" := by
    decide +kernel
  have masked : redact ("key " ++ "accountkey=" ++ "a" ++ ";user=%s") =
      "key accountkey=***REDACTED***;user=" ++ "%s" ++ "" := by
    decide +kernel
  have filled : (record "a").redactMessage.messageText =
      .ok ("key accountkey=***REDACTED***;user=" ++ "x" ++ "") := by
    rw [redactMessage_text rfl, masked]
    exact (messageText_text rfl rfl).trans (fill_text (by decide) (by decide) _)
  exact ⟨masks.hides _ listed _ _ _ "key " ";user=%s" isMark isSecret isAlternative (by simp),
    (textLine_eq timed filled).trans (congrArg Except.ok (by decide))⟩

/-- What no argument, error or context keeps from the line of a record, at any time that has a
line. -/
theorem LogRecord.lines_show_secrets {created : Double} {stamp clock : String}
    (stamped : stampText created = .ok stamp) (timed : clockText created = .ok clock) :
    let record (template : String) (arguments : List Value) : LogRecord :=
      ⟨"test", Level.info, .text template, arguments, created, none, none⟩
    let filled (secret : String) := record "connecting with %s" [.text ("AccountKey=" ++ secret)]
    let raised (secret : String) : LogRecord :=
      { record "failed" [] with exception := some ("ValueError: AccountKey=" ++ secret) }
    let within (secret : String) : LogRecord :=
      { record "failed" [] with context := some (.text ("AccountKey=" ++ secret)) }
    let masked := record "AccountKey=%s" [.text "c2VjcmV0"]
    (∀ format : LineFormat,
      format.render (filled "a").redactMessage ≠ format.render (filled "b").redactMessage ∧
      format.render (raised "a").redactMessage ≠ format.render (raised "b").redactMessage ∧
      (format.render masked).isOk ∧ ¬ (format.render masked.redactMessage).isOk) ∧
    LineFormat.json.render (within "a").redactMessage ≠
      LineFormat.json.render (within "b").redactMessage := by
  intro record filled raised within masked
  have unmasked : redact "connecting with %s" = "connecting with %s" := by decide +kernel
  have unmaskedError : redact "failed" = "failed" := by decide +kernel
  have mask : redact "AccountKey=%s" = "AccountKey=***REDACTED***" := by decide +kernel
  have keepsFilled (s : String) : (filled s).redactMessage = filled s :=
    redactMessage_of_unmasked rfl unmasked
  have keepsRaised (s : String) : (raised s).redactMessage = raised s :=
    redactMessage_of_unmasked rfl unmaskedError
  have keepsWithin (s : String) : (within s).redactMessage = within s :=
    redactMessage_of_unmasked rfl unmaskedError
  have shows (s : String) :
      (filled s).messageText = .ok ("connecting with " ++ ("AccountKey=" ++ s) ++ "") :=
    (messageText_text rfl rfl).trans (fill_text (by decide) (by decide) _)
  have misfit : masked.redactMessage.messageText = .error .tooManyArguments := by
    rw [redactMessage_text rfl, mask]
    exact (messageText_text rfl rfl).trans (fill_plain (by decide) _ _)
  have fits : masked.messageText = .ok ("AccountKey=" ++ "c2VjcmV0" ++ "") :=
    (messageText_text rfl rfl).trans (fill_text (by decide) (by decide) _)
  refine ⟨fun format => ⟨fun same => ?_, fun same => ?_, ?_, ?_⟩, fun same => ?_⟩
  · rw [keepsFilled, keepsFilled] at same
    cases format with
    | json =>
      have line (s : String) := jsonLine_eq stamped (shows s) rfl
      have lines := Except.ok.inj ((line "a").symm.trans (same.trans (line "b")))
      exact Json.line_ne_of_escaped_ne (by decide) _ _ _ lines
    | text =>
      have line (s : String) := textLine_eq timed (shows s)
      have lines := Except.ok.inj ((line "a").symm.trans (same.trans (line "b")))
      exact absurd ((String.append_right_inj _).mp lines) (by decide)
  · rw [keepsRaised, keepsRaised] at same
    cases format with
    | json =>
      have line (s : String) : jsonLine (raised s) = _ := jsonLine_eq stamped rfl rfl
      have lines := Except.ok.inj ((line "a").symm.trans (same.trans (line "b")))
      exact Json.line_ne_of_escaped_ne (by decide) [_, _, _, _] _ _ lines
    | text =>
      have line (s : String) : textLine (raised s) = _ := textLine_eq timed rfl
      have lines := Except.ok.inj ((line "a").symm.trans (same.trans (line "b")))
      exact absurd ((String.append_right_inj _).mp lines) (by decide)
  · cases format with
    | json => exact (congrArg Except.isOk (jsonLine_eq stamped fits rfl)).trans rfl
    | text => exact (congrArg Except.isOk (textLine_eq timed fits)).trans rfl
  · exact format.not_isOk_render_of_messageText misfit
  · rw [keepsWithin, keepsWithin] at same
    have line (s : String) : jsonLine (within s) = _ := jsonLine_eq stamped rfl rfl
    have lines := Except.ok.inj ((line "a").symm.trans (same.trans (line "b")))
    exact Json.line_ne_of_escaped_ne (by decide) [_, _, _, _] _ _ lines

/-- A secret in an argument, in an error or in a context reaches the line, and a record whose secret
is to be filled in has no line once it is filtered. -/
theorem LogRecord.secrets_reach_lines :
    let record (template : String) (arguments : List Value) : LogRecord :=
      ⟨"test", Level.info, .text template, arguments, Double.ofDecimal false 0 0, none, none⟩
    let filled (secret : String) := record "connecting with %s" [.text ("AccountKey=" ++ secret)]
    let raised (secret : String) : LogRecord :=
      { record "failed" [] with exception := some ("ValueError: AccountKey=" ++ secret) }
    let within (secret : String) : LogRecord :=
      { record "failed" [] with context := some (.text ("AccountKey=" ++ secret)) }
    let masked := record "AccountKey=%s" [.text "c2VjcmV0"]
    (∀ format : LineFormat,
      format.render (filled "a").redactMessage ≠ format.render (filled "b").redactMessage ∧
      format.render (raised "a").redactMessage ≠ format.render (raised "b").redactMessage ∧
      (format.render masked).isOk ∧ ¬ (format.render masked.redactMessage).isOk) ∧
    LineFormat.json.render (within "a").redactMessage ≠
      LineFormat.json.render (within "b").redactMessage :=
  LogRecord.lines_show_secrets
    (show stampText (Double.ofDecimal false 0 0) = .ok "1970-01-01T00:00:00+00:00" by
      decide +kernel)
    (show clockText (Double.ofDecimal false 0 0) = .ok "1970-01-01 00:00:00" by decide +kernel)

end StagedTables.Logging
