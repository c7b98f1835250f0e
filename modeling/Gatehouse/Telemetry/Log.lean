import Gatehouse.Text.Quoted

/-!
# Log records

A record has a level, a message and named fields, each a text or a number.
-/

namespace Gatehouse

/-- The severity of a record. -/
inductive LogLevel where
  | debug
  | info
  | warn
  | error
deriving DecidableEq, Repr

/-- The written name of a level. -/
def LogLevel.name : LogLevel → String
  | debug => "DEBUG"
  | info => "INFO"
  | warn => "WARN"
  | error => "ERROR"

/-- The value of a field. -/
inductive LogField where
  | text (s : String)
  | number (n : Nat)
deriving DecidableEq, Repr

/-- A log record. -/
structure LogRecord where
  level : LogLevel
  message : String
  fields : List (String × LogField)
deriving DecidableEq, Repr

end Gatehouse
