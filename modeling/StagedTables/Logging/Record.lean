import StagedTables.Failure.Report
import StagedTables.Logging.Level
import StagedTables.Logging.Template
import StagedTables.Redaction

/-! # Log records

A record carries its message as a template with arguments, when it was made, and perhaps the text
of an error and a context of further values. -/
set_option autoImplicit false
namespace StagedTables.Logging

structure LogRecord where
  logger : String
  level : Level
  message : Value
  arguments : List Value
  /-- Seconds since the start of 1970. -/
  created : Double
  exception : Option String
  context : Option Value
  deriving Repr

def rootLoggerName : String := "root"

/-- An error by its class, and its text unless that is empty. -/
def exceptionText (className message : String) : String :=
  if message = "" then className else s!"{className}: {message}"

namespace LogRecord

/-- The message with its arguments filled in; a template without arguments stays as it is. -/
def messageText (record : LogRecord) : Except TemplateFault String :=
  match textOf record.message.plainText, record.arguments with
  | .error fault, _ => .error fault
  | .ok text, [] => .ok text
  | .ok text, arguments => fill text arguments

/-- Masks the secrets in a message that is a text; arguments, error and context stay. -/
def redactMessage (record : LogRecord) : LogRecord :=
  match record.message with
  | .text s => { record with message := .text (Redaction.redact s) }
  | _ => record

end LogRecord
end StagedTables.Logging
