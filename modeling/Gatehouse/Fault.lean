import Gatehouse.Http.Status

/-!
# Faults

A fault is an error of a handler that knows its kind, and through it its status.  What a client is
told is `Fault.publicMessage`: the details of an internal fault are not for clients.
-/

namespace Gatehouse

/-- The kinds of faults. -/
inductive FaultKind where
  | badRequest
  | unauthorized
  | forbidden
  | notFound
  | timeout
  | internal
deriving DecidableEq, Repr

namespace FaultKind

/-- The kinds of faults. -/
def all : List FaultKind := [badRequest, unauthorized, forbidden, notFound, timeout, internal]

/-- The status of a kind. -/
def status : FaultKind → Status
  | badRequest => .badRequest
  | unauthorized => .unauthorized
  | forbidden => .forbidden
  | notFound => .notFound
  | timeout => .gatewayTimeout
  | internal => .internalError

/-- The code for machines. -/
def code : FaultKind → String
  | badRequest => "BAD_REQUEST"
  | unauthorized => "UNAUTHORIZED"
  | forbidden => "FORBIDDEN"
  | notFound => "NOT_FOUND"
  | timeout => "TIMEOUT"
  | internal => "INTERNAL_ERROR"

/-- The name in settings and in data. -/
def name : FaultKind → String
  | badRequest => "bad_request"
  | unauthorized => "unauthorized"
  | forbidden => "forbidden"
  | notFound => "not_found"
  | timeout => "timeout"
  | internal => "internal"

/-- The kind of a name. -/
def ofName? (s : String) : Option FaultKind := all.find? fun k => k.name == s

/-- The words that a displayed fault begins with. -/
def heading : FaultKind → String
  | badRequest => "Bad request"
  | unauthorized => "Unauthorized"
  | forbidden => "Forbidden"
  | notFound => "Not found"
  | timeout => "Timeout"
  | internal => "Internal error"

/-- The diagnostic form. -/
def debug : FaultKind → String
  | badRequest => "BadRequest"
  | unauthorized => "Unauthorized"
  | forbidden => "Forbidden"
  | notFound => "NotFound"
  | timeout => "Timeout"
  | internal => "Internal"

end FaultKind

/-- An error with its kind.  Only an internal fault keeps the text of its cause. -/
structure Fault where
  kind : FaultKind
  message : String
  cause : Option String
deriving DecidableEq, Repr

namespace Fault

/-- The fault with a message; a cause is kept for internal faults alone. -/
def of (kind : FaultKind) (message : String) (cause : Option String) : Fault :=
  ⟨kind, message, if kind = .internal then cause else none⟩

/-- The status of the fault's kind. -/
def status (f : Fault) : Status := f.kind.status

/-- The displayed form. -/
def display (f : Fault) : String := f.kind.heading ++ ": " ++ f.message

/-- The message for clients: the reason phrase of an internal fault, otherwise the message. -/
def publicMessage (f : Fault) : String :=
  match f.kind with
  | .internal => f.status.canonicalText
  | _ => f.message

end Fault

end Gatehouse
