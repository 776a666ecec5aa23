import StagedTables.Text.Quoted

/-! # Errors and answers from outside

Services, callbacks, time zones and other objects are not part of the program.  What they give it,
and the errors that they raise, reach it as they are. -/
set_option autoImplicit false
namespace StagedTables

inductive ForeignKind where
  | httpResponse
  | resourceNotFound
  | serviceRequest
  | value
  | key
  | wrongKind
  /-- Any other class of errors.  It may derive from the errors of storage services, or from those
  of values. -/
  | other (name : String) (ofService ofValue : Bool)
  deriving DecidableEq, Repr

structure ForeignError where
  kind : ForeignKind
  text : String
  deriving DecidableEq, Repr

namespace ForeignKind

def className : ForeignKind → String
  | httpResponse => "HttpResponseError"
  | resourceNotFound => "ResourceNotFoundError"
  | serviceRequest => "ServiceRequestError"
  | value => "ValueError"
  | key => "KeyError"
  | wrongKind => "TypeError"
  | other name _ _ => name

def known : List ForeignKind :=
  [httpResponse, resourceNotFound, serviceRequest, value, key, wrongKind]

def ofClassName? (name : String) : Option ForeignKind := known.find? (·.className = name)

/-- Errors by which a storage service reports that a request failed. -/
def isService : ForeignKind → Bool
  | httpResponse => true
  | resourceNotFound => true
  | serviceRequest => true
  | other _ ofService _ => ofService
  | _ => false

def isValue : ForeignKind → Bool
  | value => true
  | other _ _ ofValue => ofValue
  | _ => false

end ForeignKind

/-- A key is quoted; a response without a text is described by its status. -/
def ForeignError.message (error : ForeignError) : String :=
  match error.kind with
  | .key => Text.quoted error.text
  | .httpResponse | .resourceNotFound =>
    if error.text = "" then "Operation returned an invalid status 'None'" else error.text
  | _ => error.text

inductive Answer (α : Type) where
  | gives (value : α)
  | raises (error : ForeignError)
  deriving DecidableEq, Repr

namespace Answer

variable {α β : Type}

def map (f : α → β) : Answer α → Answer β
  | gives value => .gives (f value)
  | raises error => .raises error

def bind (answer : Answer α) (next : α → Answer β) : Answer β :=
  match answer with
  | gives value => next value
  | raises error => .raises error

end Answer

end StagedTables
