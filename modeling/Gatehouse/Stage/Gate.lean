import Gatehouse.Assertion.Verifier
import Gatehouse.Chain.Stage

/-!
# The stage that admits only verified callers

The headers are verified when the request comes in.  A refused request is answered at once, always
in the same way; the reason goes to the log and to the observer alone.  For an admitted one the user
and the tier are put into the request's store.
-/

namespace Gatehouse.Stage

/-- The store key of the verified user. -/
def userIdKey : String := "assertion.user_id"

/-- The store key of the verified tier. -/
def tierKey : String := "assertion.plan_tier"

/-- The user that an earlier stage verified. -/
def verifiedUser (m : ValueMap) : Option Value := m.get? userIdKey .text

/-- The tier that an earlier stage verified. -/
def verifiedTier (m : ValueMap) : Option Value := m.get? tierKey .tier

/-- Adds the record of a refusal. -/
def logRefused (reason : Refusal) (w : World) : World :=
  match reason with
  | .emptyKey =>
    w.log .error "assertion key is empty, rejecting" [("request_id", .text w.requestId.toText)]
  | e =>
    w.log .warn "assertion rejected"
      [("request_id", .text w.requestId.toText), ("reason", .text e.reason)]

/-- Adds the record of a verified claim. -/
def logVerified (c : Claim) (w : World) : World :=
  w.log .debug "assertion verified"
    [("request_id", .text w.requestId.toText), ("user_id", .text c.userId),
      ("plan_tier", .text c.tier.name)]

/-- Tells the observer of a refusal. -/
def tellRefused (observer : Option (Refusal → Event)) (reason : Refusal) (w : World) : World :=
  match observer with
  | some f => w.emit (f reason)
  | none => w

/-- The stage that admits only verified callers. -/
def gate (v : Verifier) (observer : Option (Refusal → Event)) : Stage where
  name := "assertion"
  priority := 0
  enter r := do
    let elapsed ← Task.read World.clock
    match v.verify r.headers elapsed with
    | .error e => do
      Task.modify (logRefused e)
      Task.modify (tellRefused observer e)
      pure (.reply .unauthorized)
    | .ok c => do
      Task.modify (logVerified c)
      Run.store r.store userIdKey (.text c.userId)
      Run.store r.store tierKey (.tier c.tier)
      pure (.forward r pure)

/-- The record that a verifier with an empty key leaves when it is made. -/
def emptyKeyRecord : LogRecord :=
  ⟨.warn, "assertion verifier has an empty key, all requests will be rejected", []⟩

/-- The records that making a verifier with a key leaves. -/
def verifierRecords (key : Bytes) : List LogRecord := if key = [] then [emptyKeyRecord] else []

/-- A span in the largest of its units, with as many decimals as it needs. -/
def spanDebug (s : Skew) : String :=
  let part (whole fraction width : Nat) (unit : String) : String :=
    let digits := (toString fraction).toList
    let padded := List.replicate (width - digits.length) '0' ++ digits
    let kept := (padded.reverse.dropWhile (· == '0')).reverse
    toString whole ++ (if kept = [] then "" else "." ++ String.ofList kept) ++ unit
  if 0 < s.seconds then part s.seconds s.nanos 9 "s"
  else if 1000000 ≤ s.nanos then part (s.nanos / 1000000) (s.nanos % 1000000) 6 "ms"
  else if 1000 ≤ s.nanos then part (s.nanos / 1000) (s.nanos % 1000) 3 "µs"
  else toString s.nanos ++ "ns"

/-- What stands for a secret in every diagnostic form. -/
def redacted : String := "[REDACTED]"

/-- The diagnostic form of a signing key's holder. -/
def signerDebug : String := Quoted.record "AssertionSigner" [("secret", redacted)] false

/-- The diagnostic form of a verifier. -/
def verifierDebug (s : Skew) : String :=
  Quoted.record "AssertionVerifier" [("secret", redacted), ("skew", spanDebug s)] true

/-- The diagnostic form of the stage. -/
def gateDebug (s : Skew) (observed : Bool) : String :=
  Quoted.record "AssertionMiddleware"
    [("verifier", verifierDebug s), ("on_reject", toString observed)] false

end Gatehouse.Stage
