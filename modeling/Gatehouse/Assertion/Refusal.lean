import Gatehouse.Text.Quoted

/-!
# Refusals

Why an assertion was refused, with the text that is displayed and the label under which it is
counted.
-/

namespace Gatehouse

/-- The reasons for refusing an assertion. -/
inductive Refusal where
  /-- A required header is absent, empty or not printable ASCII. -/
  | missingHeader (name : String)
  | invalidUserId
  | unknownTier
  | signatureMismatch
  | malformedTimestamp
  | expired
  /-- The key is empty, so nothing is signed or verified under it. -/
  | emptyKey
deriving DecidableEq, Repr

namespace Refusal

/-- The displayed text. -/
def message : Refusal → String
  | missingHeader name => "missing required header " ++ name
  | invalidUserId => "user id must be non-empty and must not contain ':'"
  | unknownTier => "unknown plan tier"
  | signatureMismatch => "signature mismatch"
  | malformedTimestamp => "malformed timestamp"
  | expired => "timestamp outside allowed skew"
  | emptyKey => "signing key is empty"

/-- The label in logs and counters. -/
def reason : Refusal → String
  | missingHeader _ => "missing_header"
  | invalidUserId => "invalid_user_id"
  | unknownTier => "unknown_plan_tier"
  | signatureMismatch => "signature_mismatch"
  | malformedTimestamp => "malformed_timestamp"
  | expired => "timestamp_expired"
  | emptyKey => "invalid_key"

/-- The diagnostic form. -/
def debug : Refusal → String
  | missingHeader name => "MissingHeader(" ++ Quoted.text name ++ ")"
  | invalidUserId => "InvalidUserId"
  | unknownTier => "UnknownPlanTier"
  | signatureMismatch => "SignatureMismatch"
  | malformedTimestamp => "MalformedTimestamp"
  | expired => "TimestampExpired"
  | emptyKey => "InvalidKey"

end Refusal

end Gatehouse
