import StagedTables.Failure
import StagedTables.Json

/-! # Error reports

The form in which an error is handed on: the name of its class, a code for programs, a message for
people, and details.  Errors of the session have a report; those of services, callbacks and
conversions have a class and a message only. -/
set_option autoImplicit false
namespace StagedTables

inductive ErrorClass where
  | general
  | configuration
  | invalidTableName
  | provisioning
  | cancelled
  | query
  | filterSyntax
  deriving DecidableEq, Repr

namespace ErrorClass

def name : ErrorClass → String
  | general => "TackleError"
  | configuration => "ConfigurationError"
  | invalidTableName => "InvalidTableNameError"
  | provisioning => "TableProvisioningError"
  | cancelled => "OperationCancelledError"
  | query => "QueryExecutionError"
  | filterSyntax => "FilterSyntaxError"

def code : ErrorClass → String
  | general => "TackleError"
  | configuration => "ConfigurationError"
  | invalidTableName => "InvalidTableName"
  | provisioning => "TableProvisioningFailed"
  | cancelled => "OperationCancelled"
  | query => "QueryExecutionFailed"
  | filterSyntax => "FilterSyntaxError"

/-- The class and those it refines, up to the most general. -/
def lineage (c : ErrorClass) : List ErrorClass :=
  match c with
  | general => [general]
  | invalidTableName => [invalidTableName, configuration, general]
  | other => [other, general]

end ErrorClass

structure Report where
  errorClass : ErrorClass
  code : String
  message : String
  details : Json
  deriving Repr

namespace Report

/-- An error with a code of its own, unless that is empty, and details, unless they are. -/
def general (errorClass : ErrorClass) (message : String) (code : Option String) (details : Json) :
    Report :=
  { errorClass
    code := match code with
      | some code => if code = "" then errorClass.code else code
      | none => errorClass.code
    message
    details := if details.isTruthy then details else .object [] }

def ofClass (errorClass : ErrorClass) (message : String) (details : List (String × Json)) :
    Report :=
  ⟨errorClass, errorClass.code, message, .object details⟩

def invalidTableName (name reason : String) : Report :=
  ofClass .invalidTableName s!"Invalid table name '{name}': {reason}" [("table_name", .text name)]

/-- The message may be given; an empty one counts as none. -/
def provisioning (table : String) (attempts : Int) (message : Option String) : Report :=
  let usual := s!"Could not get a table '{table}' after {attempts} attempt(s)"
  let text := match message with
    | some message => if message = "" then usual else message
    | none => usual
  ofClass .provisioning text [("table_name", .text table), ("attempts", .integer attempts)]

def cancelled (operation : String) : Report :=
  ofClass .cancelled s!"Operation '{operation}' was cancelled" [("operation", .text operation)]

def query (causeClass causeMessage : String) : Report :=
  ofClass .query s!"ExecuteDirect failed with exn: {causeMessage}"
    [("error_type", .text causeClass)]

/-- A suggestion stands on a line of its own; an empty one is left out. -/
def filterSyntax (message : String) (line column : Int) (suggestion : Option String) : Report :=
  let text := s!"Syntax Error at line {line}, column {column}: {message}"
  let hint := match suggestion with
    | some hint => if hint = "" then "" else s!"\n  Suggestion: {hint}"
    | none => ""
  ofClass .filterSyntax (text ++ hint) [("line", .integer line), ("column", .integer column)]

def ofSyntaxError (error : Filter.SyntaxError) : Report :=
  filterSyntax error.fault.message error.position.line error.position.column
    error.fault.suggestion?

def toJson (report : Report) : Json :=
  .object [("error", .object
    [("code", .text report.code), ("message", .text report.message),
      ("details", report.details)])]

end Report

namespace Filter.ParseFault

def className : ParseFault → String
  | refused _ => ErrorClass.filterSyntax.name
  | instantOutOfRange => "OverflowError"
  | noTokens => "IndexError"
  | endless => "RecursionError"

def message : ParseFault → String
  | refused error => (Report.ofSyntaxError error).message
  | instantOutOfRange => RangeFault.instant.message
  | noTokens => "list index out of range"
  | endless => "maximum recursion depth exceeded"

end Filter.ParseFault

namespace Failure

def className : Failure → String
  | conversion fault => fault.className
  | foreign error => error.kind.className
  | filterText fault => fault.className
  | unknownStage _ => "ValueError"
  | logging fault => fault.className
  | invalid _ => "ValidationError"
  | misuse _ => ErrorClass.configuration.name
  | tableName _ _ => ErrorClass.invalidTableName.name
  | provisioning _ _ _ => ErrorClass.provisioning.name
  | cancelled _ => ErrorClass.cancelled.name
  | query _ => ErrorClass.query.name

def message : Failure → String
  | conversion fault => fault.message
  | foreign error => error.message
  | filterText fault => fault.message
  | unknownStage text => Text.quoted text ++ " is not a valid Stage"
  | logging fault => fault.message
  | invalid refusal => refusal.text
  | misuse cause => cause.message
  | tableName name fault => (Report.invalidTableName name fault.message).message
  | provisioning table attempts _ => (Report.provisioning table attempts none).message
  | cancelled operation => (Report.cancelled operation).message
  | query cause => (Report.query cause.className cause.message).message

/-- The report of a failure of the session itself. -/
def report? : Failure → Option Report
  | misuse cause => some (.ofClass .configuration cause.message [])
  | tableName name fault => some (.invalidTableName name fault.message)
  | provisioning table attempts _ => some (.provisioning table attempts none)
  | cancelled operation => some (.cancelled operation)
  | query cause => some (.query cause.className cause.message)
  | filterText (.refused error) => some (.ofSyntaxError error)
  | _ => none

def causeClass? : Failure → Option String
  | misuse (.connectionString _ error) => some error.kind.className
  | provisioning _ _ cause => some cause.kind.className
  | query cause => some cause.className
  | _ => none

end Failure
end StagedTables
