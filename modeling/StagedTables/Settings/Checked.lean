import StagedTables.Settings.Issue

/-! # Checked readings

Readings of settings that gather all issues instead of stopping at the first. -/
set_option autoImplicit false
namespace StagedTables

inductive IssueKind where
  | integerText
  | integerTooLong
  | fraction
  | infinite
  | notAnInteger
  | doubleText
  | notADouble
  | notAText
  | notUnicode
  | notAChoice
  | notASection
  | notAMapping
  | belowMinimum
  | aboveMaximum
  | rule (rule : SettingsRule)
  deriving DecidableEq, Repr

def IssueKind.code : IssueKind → String
  | integerText => "int_parsing"
  | integerTooLong => "int_parsing_size"
  | fraction => "int_from_float"
  | infinite => "finite_number"
  | notAnInteger => "int_type"
  | doubleText => "float_parsing"
  | notADouble => "float_type"
  | notAText => "string_type"
  | notUnicode => "string_unicode"
  | notAChoice => "enum"
  | notASection => "model_type"
  | notAMapping => "dict_type"
  | belowMinimum => "greater_than_equal"
  | aboveMaximum => "less_than_equal"
  | rule _ => "value_error"

/-- Only the rules of the settings as a whole have a text of their own. -/
def IssueKind.message? : IssueKind → Option String
  | rule broken => some ("Value error, " ++ broken.message)
  | _ => none

/-- A reading that gathers all issues instead of stopping at the first. -/
def Checked (α : Type) : Type := Except (List Issue) α

namespace Checked

variable {α β : Type}

def valid (a : α) : Checked α := Except.ok a

def refused (kind : IssueKind) : Checked α := Except.error [⟨[], kind.code, kind.message?⟩]

def summary (issues : List Issue) : String :=
  "; ".intercalate (issues.map fun issue => s!"{issue.location} {issue.code}")

/-- What a validator answers; the text of a refusal is a summary. -/
def answer (checked : Checked α) : Except Refusal α :=
  match checked with
  | .ok a => .ok a
  | .error issues => .error ⟨issues, summary issues⟩

/-- Applies a function to a value; the issues of both are kept, those of the function first. -/
def ap (f : Checked (α → β)) (a : Checked α) : Checked β :=
  match f, a with
  | .ok f, .ok a => Except.ok (f a)
  | .ok _, .error issues => Except.error issues
  | .error issues, .ok _ => Except.error issues
  | .error issues, .error more => Except.error (issues ++ more)

instance : Applicative Checked where
  pure := valid
  seq f a := ap f (a ())

def under (name : String) (checked : Checked α) : Checked α :=
  match checked with
  | .ok a => Except.ok a
  | .error issues => Except.error (issues.map (Issue.under name))

def next (checked : Checked α) (more : α → Checked β) : Checked β :=
  match checked with
  | .ok a => more a
  | .error issues => Except.error issues

end Checked
end StagedTables
