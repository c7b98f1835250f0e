import Gatehouse.Assertion.Verifier
import Gatehouse.Chain.Catalog
import Gatehouse.Report.Message

/-!
# Errors as data

The JSON forms of errors: the name of the kind and the displayed text, and for a refused assertion
the label under which it is counted.
-/

namespace Gatehouse

namespace Json

/-- An error that only its kind is told of. -/
def failure (kind : String) : Json := .obj [("error", .str kind)]

/-- An error with its displayed text. -/
def failureWith (kind message : String) : Json :=
  .obj [("error", .str kind), ("message", .str message)]

end Json

namespace Refusal

/-- The name of the reason. -/
def name : Refusal → String
  | missingHeader _ => "MissingHeader"
  | r => r.debug

/-- The members of a refusal. -/
def members (r : Refusal) : List (String × Json) :=
  [("error", .str r.name), ("message", .str r.message), ("reason", .str r.reason)]

/-- A refusal, or the form of what was not refused. -/
def orJson {α : Type} (f : α → Json) : Except Refusal α → Json
  | .ok a => f a
  | .error r => .obj r.members

end Refusal

/-- A signed assertion with the headers that carry it. -/
def Assertion.toJson (a : Assertion) : Json :=
  .obj [("user_id", .str a.userId), ("timestamp", .str a.timestamp),
    ("plan_tier", .str a.tier.name),
    ("signature", .str a.signature), ("headers", Refusal.orJson Headers.toJson a.toHeaders)]

/-- The members of a verified claim. -/
def Claim.members (c : Claim) : List (String × Json) :=
  [("user_id", .str c.userId), ("plan_tier", .str c.tier.name),
    ("timestamp", .arr [.int c.signedAt.seconds.toInt, .nat c.signedAt.nanos]),
    ("signature", .str c.signature)]

namespace WiringError

/-- The name of the kind. -/
def name : WiringError → String
  | duplicateStage _ => "DuplicateMiddleware"
  | missingStage _ _ => "MissingMiddleware"
  | unknownKind _ => "UnknownChainType"
  | duplicateChain _ => "DuplicateChain"

/-- The error with its text. -/
def toJson (e : WiringError) : Json := .failureWith e.name e.message

end WiringError

/-- A catalog: the names in it and its diagnostic form. -/
def Catalog.toJson (c : Catalog) : Json :=
  .obj [("names", .texts c.names), ("len", .nat c.names.length),
    ("is_empty", .bool c.names.isEmpty),
    ("debug", .str c.debug)]

end Gatehouse
