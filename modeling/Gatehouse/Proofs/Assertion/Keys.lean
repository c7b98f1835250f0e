import Gatehouse.Proofs.Assertion.Domain
import Gatehouse.Proofs.Assertion.Payload
import Gatehouse.Proofs.Crypto.Keys

/-!
# Verifying under another key

A verifier with another key looks at the same headers and finds the same statement, so it differs in
the check of the signature alone (`Presents.verifyAt_other`).  That check compares the
authentication codes, and they agree for keys that enter a code as one key, such as a key and the
same key with a zero octet behind it.  For all other keys the signature is refused, unless the two
codes show a collision of the hash (`Verifier.verifyAt_other_key`).
-/

namespace Gatehouse

namespace Assertion

variable {k k' : Bytes} {userId : String} {tier : Tier} {at_ now : Instant} {skew : Skew}
  {clock clock' : Clock}
variable {a : Assertion} {h : Headers} {c : Claim}

/-- The octets that are signed for a user at an instant. -/
def signedOctets (userId : String) (tier : Tier) (at_ : Instant) : Bytes :=
  Bytes.ofText (payload userId (Rfc3339.render at_) tier.name)

/--
Headers that verify under the key they were signed with present what was signed, under whichever
key.
-/
lemma presents_of_verified (signed : sign k userId tier at_ = .ok a) (made : a.toHeaders = .ok h)
    (verified : Verifier.verifyAt ⟨k, skew, clock⟩ h now = .ok c) (keyed : k' ≠ []) :
    Presents ⟨k', skew, clock'⟩ h a := by
  obtain ⟨hk, hu, hc, sig, coded, rfl⟩ := sign_eq_ok signed
  obtain ⟨read, s⟩ : ∃ a', Presents ⟨k, skew, clock⟩ h a' :=
    Presents.exists_iff.mpr fun e refused => by rw [verified] at refused; cases refused
  -- a user id that is not visible would not have been read
  have visible : ∀ c ∈ userId.toList, Bytes.IsVisibleChar c := by
    by_contra hidden
    exact not_states_of_toHeaders made hidden ⟨_, s.user⟩
  obtain ⟨wu, wt, wr, ws⟩ := states_of_toHeaders made visible (Rfc3339.visible_timestamp at_) coded
  exact ⟨keyed, ⟨wu, hu⟩, hc, ⟨wt, Rfc3339.render_ne_empty at_⟩, .named wr,
    ⟨ws, ne_empty_of_signatureOf hk coded⟩⟩

namespace Presents

/--
Under another key the same is claimed or the signature is refused, and the two codes decide which.
-/
lemma verifyAt_other (s : Presents ⟨k, skew, clock⟩ h a) (s' : Presents ⟨k', skew, clock'⟩ h a)
    (verified : Verifier.verifyAt ⟨k, skew, clock⟩ h now = .ok c) {octets : Bytes}
    (text : octets = Bytes.ofText (payload a.userId a.timestamp a.tier.name)) :
    (Hmac.mac k octets = Hmac.mac k' octets → Verifier.verifyAt ⟨k', skew, clock'⟩ h now = .ok c) ∧
    (Hmac.mac k octets ≠ Hmac.mac k' octets →
      Verifier.verifyAt ⟨k', skew, clock'⟩ h now = .error .signatureMismatch) := by
  -- both verifiers come as far as the signature, and the first one accepts it
  have passed : Accepted k a := (s.accepted_iff now).mpr (by rw [verified]; nofun)
  have coded := mac_eq_of_accepted s.keyed passed
  rw [← text] at coded
  have decides :=
    checkSignature_decides s'.keyed (payload a.userId a.timestamp a.tier.name) a.signature
  rw [signatureOf_eq s'.keyed, ← text] at decides
  rw [s'.verifyAt_eq]
  constructor
  · intro same
    have accepted : (Except.ok (Bytes.toHex (Hmac.mac k' octets)) : Except Refusal String) =
        .ok a.signature := by
      rw [coded, same]
    rw [decides.proceeds (a := ()) accepted, ← verified, s.verifyAt_eq,
      (checkSignature_decides s.keyed _ _).proceeds (a := ()) (((checkSignature_decides s.keyed _ _).passes ()).mp passed)]
  · intro differ
    rcases decides.cases with ⟨_, -, accepted⟩ | ⟨refused, -⟩
    · rw [coded, Except.ok.injEq] at accepted
      exact absurd (Bytes.toHex_inj accepted).symm differ
    · rw [refused]
      rfl

end Presents

end Assertion

namespace Verifier

open Assertion

/-- What is signed for a visible user id in a year of four digits verifies in its own second. -/
lemma exists_verified {key : Bytes} (hk : key ≠ []) : ∃ a h c, sign key "ada" .pro ⟨0, 0⟩ = .ok a ∧
    a.toHeaders = .ok h ∧ verifyAt ⟨key, .ofSeconds 0, .fixed ⟨0, 0⟩⟩ h ⟨0, 0⟩ = .ok c := by
  obtain ⟨a, h, signed, made, verified⟩ := exists_signed key "ada" .pro ⟨0, 0⟩ hk
    (by decide) (Bytes.visible_of_all (by decide)) (by decide) (by decide)
  exact ⟨a, h, _, signed, made, (verified ⟨0, 0⟩ (.ofSeconds 0) _).trans (if_pos (by decide))⟩

/--
What verifies under the key it was signed with is refused under another key for its signature,
unless the two are told apart by zero octets at their ends alone after long ones were hashed, or
show a collision; then the same is claimed. Short keys that do not end with a zero octet are always
told apart, and long keys unless they collide themselves.
-/
theorem verifyAt_other_key (k k' : Bytes) (userId : String) (tier : Tier) (at_ now : Instant)
    (skew : Skew) (clock clock' : Clock) (a : Assertion) (h : Headers) (c : Claim) (keyed : k' ≠ [])
    (signed : sign k userId tier at_ = .ok a) (made : a.toHeaders = .ok h)
    (verified : verifyAt ⟨k, skew, clock⟩ h now = .ok c) :
    (Hmac.trimmed k ≠ Hmac.trimmed k' →
      ¬ Sha256.Collision (Hmac.outer k (signedOctets userId tier at_))
        (Hmac.outer k' (signedOctets userId tier at_)) →
      verifyAt ⟨k', skew, clock'⟩ h now = .error .signatureMismatch) ∧
    (Hmac.trimmed k = Hmac.trimmed k' ∨
      Sha256.Collision (Hmac.outer k (signedOctets userId tier at_))
        (Hmac.outer k' (signedOctets userId tier at_)) →
      verifyAt ⟨k', skew, clock'⟩ h now = .ok c) ∧
    (k ≠ k' → (∀ key ∈ [k, k'], key.length ≤ 64 ∧ key.getLast? ≠ some 0) →
      Hmac.trimmed k ≠ Hmac.trimmed k') ∧
    (k ≠ k' → (∀ key ∈ [k, k'], 64 < key.length) → Hmac.trimmed k = Hmac.trimmed k' →
      Sha256.Collision k k') := by
  obtain ⟨hk, -, -, sig, -, rfl⟩ := sign_eq_ok signed
  have s : Presents ⟨k, skew, clock⟩ h _ := presents_of_verified signed made verified hk
  have s' : Presents ⟨k', skew, clock'⟩ h _ := presents_of_verified signed made verified keyed
  obtain ⟨claimed, refused⟩ := s.verifyAt_other s' verified (rfl : signedOctets userId tier at_ = _)
  rw [Ne, Hmac.mac_eq_iff] at refused
  rw [Hmac.mac_eq_iff] at claimed
  refine ⟨fun apart no_collision => refused fun same => same.elim apart no_collision, claimed,
    fun ne plain => ?_, fun ne long => ?_⟩
  · obtain ⟨short, ends⟩ := plain k (by simp)
    obtain ⟨short', ends'⟩ := plain k' (by simp)
    rwa [Hmac.trimmed_eq_self short ends, Hmac.trimmed_eq_self short' ends']
  · exact Hmac.collision_of_trimmed_eq (long k (by simp)) (long k' (by simp)) ne

/--
Two keys of one octet have different codes, so what is signed under the one is refused under the
other.
-/
theorem verifyAt_other_key_one_octet :
    ∃ a h c, ([2] : Bytes) ≠ [] ∧ sign [1] "ada" .pro ⟨0, 0⟩ = .ok a ∧ a.toHeaders = .ok h ∧
      verifyAt ⟨[1], .ofSeconds 0, .fixed ⟨0, 0⟩⟩ h ⟨0, 0⟩ = .ok c ∧
      verifyAt ⟨[2], .ofSeconds 0, .fixed ⟨0, 0⟩⟩ h ⟨0, 0⟩ = .error .signatureMismatch := by
  obtain ⟨a, h, c, signed, made, verified⟩ := exists_verified (List.cons_ne_nil 1 [])
  obtain ⟨refused, -, apart, -⟩ :=
    verifyAt_other_key [1] [2] "ada" .pro ⟨0, 0⟩ ⟨0, 0⟩ (.ofSeconds 0) (.fixed ⟨0, 0⟩)
    (.fixed ⟨0, 0⟩) a h c (by decide) signed made verified
  refine ⟨a, h, c, by decide, signed, made, verified,
    refused (apart (by decide) (by decide)) fun collision => ?_⟩
  have differ : Hmac.mac [1] (signedOctets "ada" .pro ⟨0, 0⟩) ≠
      Hmac.mac [2] (signedOctets "ada" .pro ⟨0, 0⟩) := by
    decide +kernel
  exact differ collision.same

/--
What is signed under a key verifies under the key with a zero octet behind it.  And there are two
keys that are told apart and still verify the same, because codes are shorter than keys.
-/
theorem verifyAt_zero_behind :
    (∃ a h c, ([1] : Bytes) ≠ [1, 0] ∧ sign [1] "ada" .pro ⟨0, 0⟩ = .ok a ∧ a.toHeaders = .ok h ∧
      verifyAt ⟨[1], .ofSeconds 0, .fixed ⟨0, 0⟩⟩ h ⟨0, 0⟩ = .ok c ∧
      verifyAt ⟨[1, 0], .ofSeconds 0, .fixed ⟨0, 0⟩⟩ h ⟨0, 0⟩ = .ok c) ∧
    ∃ k k' a h c, k' ≠ [] ∧ Hmac.trimmed k ≠ Hmac.trimmed k' ∧ sign k "ada" .pro ⟨0, 0⟩ = .ok a ∧
      a.toHeaders = .ok h ∧ verifyAt ⟨k, .ofSeconds 0, .fixed ⟨0, 0⟩⟩ h ⟨0, 0⟩ = .ok c ∧
      verifyAt ⟨k', .ofSeconds 0, .fixed ⟨0, 0⟩⟩ h ⟨0, 0⟩ = .ok c := by
  have shared {k k' : Bytes} (keyed : k ≠ []) (keyed' : k' ≠ [])
      (same : Hmac.mac k (signedOctets "ada" .pro ⟨0, 0⟩) =
      Hmac.mac k' (signedOctets "ada" .pro ⟨0, 0⟩)) :
      ∃ a h c, sign k "ada" .pro ⟨0, 0⟩ = .ok a ∧ a.toHeaders = .ok h ∧
        verifyAt ⟨k, .ofSeconds 0, .fixed ⟨0, 0⟩⟩ h ⟨0, 0⟩ = .ok c ∧
        verifyAt ⟨k', .ofSeconds 0, .fixed ⟨0, 0⟩⟩ h ⟨0, 0⟩ = .ok c := by
    obtain ⟨a, h, c, signed, made, verified⟩ := exists_verified keyed
    obtain ⟨-, -, -, sig, -, rfl⟩ := sign_eq_ok signed
    exact ⟨_, h, c, signed, made, verified,
      ((presents_of_verified signed made verified keyed).verifyAt_other
      (presents_of_verified signed made verified keyed') verified rfl).1 same⟩
  constructor
  · obtain ⟨a, h, c, found⟩ := shared (List.cons_ne_nil 1 []) (List.cons_ne_nil 1 [0])
      ((Hmac.mac_eq_iff _).mpr (.inl (by decide)))
    exact ⟨a, h, c, by decide, found⟩
  · obtain ⟨k, k', keyed, keyed', apart, same⟩ :=
      Hmac.exists_mac_eq (signedOctets "ada" .pro ⟨0, 0⟩)
    obtain ⟨a, h, c, found⟩ := shared keyed keyed' same
    exact ⟨k, k', a, h, c, keyed', apart, found⟩

end Verifier

end Gatehouse
