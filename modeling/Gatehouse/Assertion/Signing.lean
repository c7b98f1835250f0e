import Gatehouse.Assertion.Refusal
import Gatehouse.Crypto.Hmac
import Gatehouse.Http.Headers
import Gatehouse.Tier
import Gatehouse.Time.Rfc3339

/-!
# Signing assertions

A caller states who it is by four headers: user, timestamp, tier and a signature over the three,
joined by colons.  `sign` makes them for an instant and `Assertion.toHeaders` writes them.
-/

namespace Gatehouse

namespace Assertion

def userIdHeader : HeaderName := "x-user-id"
def timestampHeader : HeaderName := "x-timestamp"
def signatureHeader : HeaderName := "x-signature"
def tierHeader : HeaderName := "x-plan-tier"

/-- The number of digits of a signature. -/
def signatureLength : Nat := 64

/-- The text that is signed: user, timestamp and tier with colons between them. -/
def payload (userId timestamp tier : String) : String := userId ++ ":" ++ timestamp ++ ":" ++ tier

/-- The authentication code of a text; an empty key signs nothing. -/
def code (key : Bytes) (text : String) : Except Refusal Bytes :=
  if key = [] then .error .emptyKey else .ok (Hmac.mac key (Bytes.ofText text))

/-- The signature of a text in lowercase hexadecimal. -/
def signatureOf (key : Bytes) (text : String) : Except Refusal String :=
  (code key text).map Bytes.toHex

/--
Whether a text can be a user id: not empty and without a colon, which separates the signed parts.
-/
def isUserId (s : String) : Bool := !s.toList.isEmpty && !s.toList.contains ':'

/-- Passes a text that can be a user id. -/
def checkUserId (s : String) : Except Refusal Unit :=
  if isUserId s then .ok () else .error .invalidUserId

end Assertion

/-- A signed statement of who calls. -/
structure Assertion where
  userId : String
  timestamp : String
  tier : Tier
  signature : String
deriving DecidableEq, Repr

namespace Assertion

/-- Signs for a user at an instant, which is stated to the whole second. -/
def sign (key : Bytes) (userId : String) (tier : Tier) (at_ : Instant) :
    Except Refusal Assertion := do
  checkUserId userId
  let timestamp := Rfc3339.render at_
  let sig ← signatureOf key (payload userId timestamp tier.name)
  pure ⟨userId, timestamp, tier, sig⟩

/-- A text as a header value, or the refusal that names the part it belongs to. -/
def headerValue (s : String) (refusal : Refusal) : Except Refusal HeaderValue :=
  match HeaderValue.ofText? s with
  | some v => .ok v
  | none => .error refusal

/-- The four headers. -/
def toHeaders (a : Assertion) : Except Refusal Headers := do
  let userId ← headerValue a.userId .invalidUserId
  let timestamp ← headerValue a.timestamp .malformedTimestamp
  let tier ← headerValue a.tier.name .unknownTier
  let sig ← headerValue a.signature .signatureMismatch
  pure ((((Headers.empty.insert userIdHeader userId).insert timestampHeader timestamp).insert
    tierHeader tier).insert signatureHeader sig)

end Assertion

end Gatehouse
