import Gatehouse.Proofs.Assertion.Admission
import Gatehouse.Proofs.Http.Values

/-!
# Verifying what was signed

The headers that are made for a user state exactly what was signed (`toHeaders_states`).  A verifier
with the same key therefore admits them, or finds nothing wrong with them but their age: its window
is centred on the whole second that the timestamp states (`Verifier.verifyAt_signed`).
-/

namespace Gatehouse

namespace Assertion

/-- A visible text is a header value, whatever the refusal would be. -/
lemma headerValue_of_visible {s : String} (h : ∀ c ∈ s.toList, Bytes.IsVisibleChar c)
    (e : Refusal) :
    ∃ v, headerValue s e = .ok v ∧ v.text? = some s := by
  obtain ⟨v, hv, ht⟩ := HeaderValue.ofText?_of_visible h
  exact ⟨v, by rw [headerValue, hv], ht⟩

/-- The name of a tier is visible. -/
lemma visible_name (t : Tier) : ∀ c ∈ t.name.toList, Bytes.IsVisibleChar c := by
  apply Bytes.visible_of_all
  cases t with
  | free => decide
  | pro => decide
  | business => decide
  | enterprise => decide

/-- A signature is visible. -/
lemma visible_signature {key : Bytes} {text sig : String} (h : signatureOf key text = .ok sig) :
    ∀ c ∈ sig.toList, Bytes.IsVisibleChar c := by
  have hk : key ≠ [] := by
    rintro rfl
    cases h
  rw [signatureOf_eq hk] at h
  cases h
  intro c hc
  rw [Bytes.toHex, String.toList_ofList] at hc
  exact (Bytes.isLowerHex_of_mem_toHexChars hc).visible

/-- Visible parts make headers that state them. -/
lemma toHeaders_states {a : Assertion} (hu : ∀ c ∈ a.userId.toList, Bytes.IsVisibleChar c)
    (ht : ∀ c ∈ a.timestamp.toList, Bytes.IsVisibleChar c)
    (hs : ∀ c ∈ a.signature.toList, Bytes.IsVisibleChar c) :
    ∃ h, a.toHeaders = .ok h ∧ Writes h userIdHeader a.userId ∧
    Writes h timestampHeader a.timestamp ∧
      Writes h tierHeader a.tier.name ∧ Writes h signatureHeader a.signature := by
  obtain ⟨vu, eu, tu⟩ := headerValue_of_visible hu .invalidUserId
  obtain ⟨vt, et, tt⟩ := headerValue_of_visible ht .malformedTimestamp
  obtain ⟨vr, er, tr⟩ := headerValue_of_visible (visible_name a.tier) .unknownTier
  obtain ⟨vs, es, ts⟩ := headerValue_of_visible hs .signatureMismatch
  refine ⟨_, by simp only [toHeaders, eu, et, er, es]; rfl, ?_, ?_, ?_, ?_⟩
  all_goals
    rw [← text?_eq_some_iff]
    simp [Headers.text?, Headers.first?, userIdHeader, timestampHeader, tierHeader,
    signatureHeader, *]

/-- A signature is not empty. -/
lemma ne_empty_of_signatureOf {key : Bytes} {text sig : String} (hk : key ≠ [])
    (h : signatureOf key text = .ok sig) : sig ≠ "" := by
  rw [signatureOf_eq hk] at h
  cases h
  intro e
  obtain ⟨long, -⟩ := isSignature_iff.mp (isSignature_toHex_mac key (Bytes.ofText text))
  rw [e] at long
  exact absurd long (by decide)

/--
Signing succeeds for a user id under a key with octets, and the headers made of it state what was
signed.
-/
lemma sign_states {key : Bytes} {userId : String} (tier : Tier) {at_ : Instant} (hk : key ≠ [])
    (hu : userId ≠ "") (hv : ∀ c ∈ userId.toList, Bytes.IsVisibleChar c) (hc : ':' ∉ userId.toList)
    (hy : 0 ≤ at_.year ∧ at_.year ≤ 9999) :
    ∃ sig h, sign key userId tier at_ = .ok ⟨userId, Rfc3339.render at_, tier, sig⟩ ∧
      toHeaders ⟨userId, Rfc3339.render at_, tier, sig⟩ = .ok h ∧
      signatureOf key (payload userId (Rfc3339.render at_) tier.name) = .ok sig ∧
      States h userIdHeader userId ∧ Writes h timestampHeader (Rfc3339.render at_) ∧
      Writes h tierHeader tier.name ∧ States h signatureHeader sig := by
  have passed : checkUserId userId = .ok () := ((checkUserId_decides hu).passes ()).mpr hc
  obtain ⟨sig, signed⟩ : ∃ sig, signatureOf key (payload userId (Rfc3339.render at_) tier.name) =
      .ok sig :=
    ⟨_, signatureOf_eq hk _⟩
  have made : sign key userId tier at_ = .ok ⟨userId, Rfc3339.render at_, tier, sig⟩ := by
    simp only [sign, passed, signed]
    rfl
  obtain ⟨h, written, wu, wt, wr, ws⟩ :=
    toHeaders_states (a := ⟨userId, Rfc3339.render at_, tier, sig⟩) hv (Rfc3339.visible_render hy)
      (visible_signature signed)
  exact ⟨sig, h, made, written, signed, ⟨wu, hu⟩, wt, wr, ⟨ws, ne_empty_of_signatureOf hk signed⟩⟩

end Assertion

namespace Verifier

open Assertion

/-- What verification makes of headers that state signed parts depends on their age alone. -/
lemma verifyAt_of_signed {v : Verifier} {h : Headers} {now signedAt : Instant}
    {user timestamp sig : String} {tier : Tier} (hk : v.key ≠ []) (hu : States h userIdHeader user)
    (hc : ':' ∉ user.toList) (ht : States h timestampHeader timestamp)
    (hr : Writes h tierHeader tier.name) (hs : States h signatureHeader sig)
    (signed : signatureOf v.key (payload user timestamp tier.name) = .ok sig)
    (hp : Rfc3339.parse? timestamp = some signedAt) :
    v.verifyAt h now = if (now.since signedAt).natAbs ≤ v.skew.toNanos
      then .ok ⟨user, tier, signedAt, sig⟩ else .error .expired := by
  split
  case isTrue fresh =>
    exact verifyAt_eq_ok_iff.mpr ⟨hk, hu, hc, .named hr, hs, ⟨timestamp, ht, signed, hp⟩, fresh⟩
  case isFalse stale =>
    -- every condition before the last one holds, and the timestamp has one reading
    have last : ¬ ∃ t i, States h timestampHeader t ∧ Rfc3339.parse? t = some i ∧
        (now.since i).natAbs ≤ v.skew.toNanos := by
      rintro ⟨t, i, ht', hi, fresh⟩
      rw [← (required_decides h timestampHeader).unique ht ht', hp] at hi
      cases hi
      exact stale fresh
    refine verifyAt_eq_error_iff.mpr
      (.there hk (.there ⟨_, hu⟩ (.there ⟨_, ht⟩ (.there ⟨_, hs⟩ ?_))))
    exact .there ⟨_, hu, hc⟩ (.there ⟨_, .named hr⟩
      (.there ⟨_, _, _, _, hu, ht, .named hr, hs, signed⟩
      (.there ⟨_, _, ht, hp⟩ (.here last))))

/--
Signing and writing succeed, and what is written verifies with the whole second that it states.
-/
lemma exists_signed (key : Bytes) (userId : String) (tier : Tier) (at_ : Instant) (hk : key ≠ [])
    (hu : userId ≠ "") (hv : ∀ c ∈ userId.toList, Bytes.IsVisibleChar c) (hc : ':' ∉ userId.toList)
    (hy : 0 ≤ at_.year ∧ at_.year ≤ 9999) :
    ∃ a h, sign key userId tier at_ = .ok a ∧ a.toHeaders = .ok h ∧
      ∀ (now : Instant) (skew : Skew) (clock : Clock), verifyAt ⟨key, skew, clock⟩ h now =
        if (now.since at_.stated).natAbs ≤ skew.toNanos
        then .ok ⟨userId, tier, at_.stated, a.signature⟩ else .error .expired := by
  obtain ⟨sig, h, made, written, signed, wu, wt, wr, ws⟩ := sign_states tier hk hu hv hc hy
  have parsed := Rfc3339.parse?_render hy
  have timed : Rfc3339.render at_ ≠ "" := by
    intro e
    rw [e] at parsed
    cases parsed
  refine ⟨_, h, made, written, fun now skew clock => ?_⟩
  exact verifyAt_of_signed hk wu hc ⟨wt, timed⟩ wr ws signed parsed

/--
Headers made from a signed statement verify with its claim, to the whole second that it states,
while this second is within the skew.
-/
theorem verifyAt_signed (key : Bytes) (userId : String) (tier : Tier) (at_ now : Instant)
    (skew : Skew) (clock : Clock) (hk : key ≠ []) (hu : userId ≠ "")
    (hv : ∀ c ∈ userId.toList, Bytes.IsVisibleChar c) (hc : ':' ∉ userId.toList)
    (hy : 0 ≤ at_.year ∧ at_.year ≤ 9999) :
    ∃ a h, sign key userId tier at_ = .ok a ∧ a.toHeaders = .ok h ∧
      verifyAt ⟨key, skew, clock⟩ h now = if (now.since at_.stated).natAbs ≤ skew.toNanos
        then .ok ⟨userId, tier, at_.stated, a.signature⟩ else .error .expired := by
  obtain ⟨a, h, signed, written, verified⟩ := exists_signed key userId tier at_ hk hu hv hc hy
  exact ⟨a, h, signed, written, verified now skew clock⟩

/-- A statement signed in the leap second at the end of 2016 has no age at the midnight after it. -/
theorem verifyAt_signed_leap :
    ∃ a h, sign [1] "ada" .pro ⟨1483228799, 1999999999⟩ = .ok a ∧ a.toHeaders = .ok h ∧
      verifyAt ⟨[1], .ofSeconds 0, .fixed ⟨0, 0⟩⟩ h ⟨1483228800, 0⟩
        = .ok ⟨"ada", .pro, ⟨1483228799, 1000000000⟩, a.signature⟩ := by
  obtain ⟨a, h, signed, written, verified⟩ :=
    verifyAt_signed [1] "ada" .pro ⟨1483228799, 1999999999⟩ ⟨1483228800, 0⟩ (.ofSeconds 0)
      (.fixed ⟨0, 0⟩) (by decide) (by decide) (Bytes.visible_of_all (by decide)) (by decide)
      (by decide)
  refine ⟨a, h, signed, written, ?_⟩
  rw [verified, if_pos (by decide)]
  rfl

/-- Half a second into the leap second after 10:15:30 on the 24th of February 2026. -/
def insideMinute : Instant := ⟨1771928130, 1500000000⟩

/--
A statement signed in a leap second inside a minute is well within a skew of a minute, but it does
not verify with that leap second: it states the second after it.
-/
theorem verifyAt_signed_inside_minute :
    (0 ≤ insideMinute.year ∧ insideMinute.year ≤ 9999) ∧
    (insideMinute.since insideMinute.floor).natAbs ≤ Skew.standard.toNanos ∧
    ∃ a h, sign [1] "ada" .pro insideMinute = .ok a ∧ a.toHeaders = .ok h ∧
      verifyAt ⟨[1], .standard, .fixed insideMinute⟩ h insideMinute =
        .ok ⟨"ada", .pro, ⟨1771928131, 0⟩, a.signature⟩ ∧
      verifyAt ⟨[1], .standard, .fixed insideMinute⟩ h insideMinute ≠
        .ok ⟨"ada", .pro, insideMinute.floor, a.signature⟩ := by
  have stated : insideMinute.stated = ⟨1771928131, 0⟩ := by decide
  obtain ⟨a, h, signed, written, verified⟩ := exists_signed [1] "ada" .pro insideMinute
    (by decide) (by decide) (Bytes.visible_of_all (by decide)) (by decide) (by decide)
  refine ⟨by decide, by decide, a, h, signed, written, ?_⟩
  rw [verified, if_pos (by decide), stated]
  refine ⟨rfl, fun same => ?_⟩
  simp only [Except.ok.injEq, Claim.mk.injEq] at same
  exact absurd same.2.2.1 (by decide)

end Verifier

end Gatehouse
