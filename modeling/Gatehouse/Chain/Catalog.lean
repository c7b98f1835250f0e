import Gatehouse.Chain.Basic
import Gatehouse.Named

/-!
# The catalog of stages

Stages under unique names, in the order of their registration.  A name that is taken is refused and
leaves the catalog as it was.
-/

namespace Gatehouse

/-- What can go wrong when stages are registered and chains are built. -/
inductive WiringError where
  | duplicateStage (name : String)
  | missingStage (kind stage : String)
  | unknownKind (kind : String)
  | duplicateChain (name : String)
deriving DecidableEq, Repr

namespace WiringError

/-- The displayed text. -/
def message : WiringError → String
  | duplicateStage name => "middleware '" ++ name ++ "' is already registered"
  | missingStage kind stage =>
    "chain type '" ++ kind ++ "' requires unregistered middleware '" ++ stage ++ "'"
  | unknownKind kind => "unknown chain type '" ++ kind ++ "'"
  | duplicateChain name => "chain '" ++ name ++ "' is already registered"

end WiringError

/-- Stages under unique names. -/
structure Catalog where
  entries : Named Stage

namespace Catalog

/-- The catalog without stages. -/
def empty : Catalog := ⟨[]⟩

/-- Registers a stage under a name. -/
def register (c : Catalog) (name : String) (s : Stage) : Except WiringError Catalog :=
  if c.entries.has name then .error (.duplicateStage name) else .ok ⟨c.entries ++ [(name, s)]⟩

/-- Registers a stage under its own name. -/
def registerOwn (c : Catalog) (s : Stage) : Except WiringError Catalog := c.register s.name s

/-- The stage under a name. -/
def find? (c : Catalog) (name : String) : Option Stage := c.entries.find? name

/-- The place of a name in the order of registration. -/
def position? (c : Catalog) (name : String) : Option Nat := c.entries.position? name

/-- The names in order of registration. -/
def names (c : Catalog) : List String := c.entries.keys

/-- The record of a registration. -/
def registered (name : String) : LogRecord :=
  ⟨.debug, "registered middleware", [("middleware", .text name)]⟩

/-- The diagnostic form. -/
def debug (c : Catalog) : String :=
  Quoted.record "Registry" [("middleware", Quoted.texts c.names)] false

end Catalog

end Gatehouse
