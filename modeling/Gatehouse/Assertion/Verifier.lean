import Gatehouse.Assertion.Signing

/-!
# Verifying assertions

A verifier holds a key, a skew and a clock.  `Verifier.verifyAt` checks, in this order: the key, the
presence of user, timestamp and signature, the user id, the tier, the signature over the three as
sent, the form of the timestamp, and its distance from the current time.  The first check that fails
decides.
-/

namespace Gatehouse

/-- What a verified assertion states. -/
structure Claim where
  userId : String
  tier : Tier
  /-- The instant of signing. -/
  signedAt : Instant
  /-- The signature as sent. -/
  signature : String
deriving DecidableEq, Repr

namespace Assertion

/-- The text of a required header. -/
def required (h : Headers) (name : HeaderName) : Except Refusal String :=
  match h.text? name with
  | some s => if s = "" then .error (.missingHeader name) else .ok s
  | none => .error (.missingHeader name)

/-- The tier of the headers: free if none is stated or only blanks are. -/
def tierOf (h : Headers) : Except Refusal Tier :=
  match h.first? tierHeader with
  | none => .ok .free
  | some v =>
    match v.text? with
    | none => .error .unknownTier
    | some s =>
      if s.toList.all fun c => c == ' ' || c == '\t' then .ok .free
      else match Tier.ofName? s with
        | some t => .ok t
        | none => .error .unknownTier

/-- Whether a text has the form of a signature: sixty-four lowercase hexadecimal digits. -/
def isSignature (s : String) : Bool :=
  s.toList.length == signatureLength
    && s.toList.all fun c => ('0' ≤ c && c ≤ '9') || ('a' ≤ c && c ≤ 'f')

/-- Passes a signature that is the authentication code of the text. -/
def checkSignature (key : Bytes) (text sig : String) : Except Refusal Unit :=
  if !isSignature sig then .error .signatureMismatch
  else match Bytes.ofHex? sig with
    | none => .error .signatureMismatch
    | some given => do
      let expected ← code key text
      if expected = given then .ok () else .error .signatureMismatch

/-- The instant that a timestamp writes. -/
def instantOf (timestamp : String) : Except Refusal Instant :=
  match Rfc3339.parse? timestamp with
  | some t => .ok t
  | none => .error .malformedTimestamp

/-- Passes an instant within the skew of the current time. -/
def checkDrift (skew : Skew) (now signedAt : Instant) : Except Refusal Unit :=
  if skew.accepts (now.since signedAt) then .ok () else .error .expired

end Assertion

/-- A key, a skew and a clock. -/
structure Verifier where
  key : Bytes
  skew : Skew
  clock : Clock

namespace Verifier

open Assertion

/-- Passes a key that is not empty. -/
def checkKey (v : Verifier) : Except Refusal Unit :=
  if v.key = [] then .error .emptyKey else .ok ()

/-- Verifies headers as if the current time were `now`. -/
def verifyAt (v : Verifier) (h : Headers) (now : Instant) : Except Refusal Claim := do
  v.checkKey
  let userId ← required h userIdHeader
  let timestamp ← required h timestampHeader
  let sig ← required h signatureHeader
  checkUserId userId
  let tier ← tierOf h
  checkSignature v.key (payload userId timestamp tier.name) sig
  let signedAt ← instantOf timestamp
  checkDrift v.skew now signedAt
  pure ⟨userId, tier, signedAt, sig⟩

/-- Verifies headers by the verifier's clock after some running time. -/
def verify (v : Verifier) (h : Headers) (elapsed : Nat) : Except Refusal Claim :=
  v.verifyAt h (v.clock elapsed)

end Verifier

end Gatehouse
