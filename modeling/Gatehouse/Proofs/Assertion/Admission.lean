import Gatehouse.Proofs.Assertion.Conditions

/-!
# Whom a verifier admits

`Admits` collects what headers must satisfy to be admitted with a claim, and `conditions` lists the
same requirements in the order in which they are checked, each with the refusal that it leads to.
`Verifier.verifyAt` passes exactly the admitted claims, and otherwise refuses for the first
condition that fails.  It does so check by check: `Judges.step` puts one check in front of the
others, and with it one condition in front of theirs.
-/

namespace Gatehouse

namespace Assertion

/-- Headers that a verifier admits with a claim. -/
structure Admits (v : Verifier) (h : Headers) (now : Instant) (c : Claim) : Prop where
  keyed : v.key ≠ []
  user : States h userIdHeader c.userId
  noColon : ':' ∉ c.userId.toList
  tier : StatesTier h c.tier
  signature : States h signatureHeader c.signature
  /-- The signature is over the timestamp as sent, which writes the claim's instant. -/
  signed : ∃ timestamp, States h timestampHeader timestamp ∧
    signatureOf v.key (payload c.userId timestamp c.tier.name) = .ok c.signature ∧
    Rfc3339.parse? timestamp = some c.signedAt
  fresh : (now.since c.signedAt).natAbs ≤ v.skew.toNanos

/-- What is checked, in order, each with the refusal of headers that fail it. -/
def conditions (v : Verifier) (h : Headers) (now : Instant) : List (Prop × Refusal) := [
  (v.key ≠ [], .emptyKey),
  (∃ user, States h userIdHeader user, .missingHeader userIdHeader),
  (∃ timestamp, States h timestampHeader timestamp, .missingHeader timestampHeader),
  (∃ sig, States h signatureHeader sig, .missingHeader signatureHeader),
  (∃ user, States h userIdHeader user ∧ ':' ∉ user.toList, .invalidUserId),
  (∃ tier, StatesTier h tier, .unknownTier),
  (∃ user timestamp tier sig, States h userIdHeader user ∧ States h timestampHeader timestamp ∧
    StatesTier h tier ∧ States h signatureHeader sig ∧
    signatureOf v.key (payload user timestamp tier.name) = .ok sig, .signatureMismatch),
  (∃ timestamp signedAt, States h timestampHeader timestamp ∧
    Rfc3339.parse? timestamp = some signedAt, .malformedTimestamp),
  (∃ timestamp signedAt, States h timestampHeader timestamp ∧
    Rfc3339.parse? timestamp = some signedAt ∧
    (now.since signedAt).natAbs ≤ v.skew.toNanos, .expired)]

/-- The refusal of the first condition of a list that fails. -/
inductive FirstFailure : List (Prop × Refusal) → Refusal → Prop where
  | here {p : Prop} {e cs} : ¬ p → FirstFailure ((p, e) :: cs) e
  | there {p : Prop} {e e' cs} : p → FirstFailure cs e' → FirstFailure ((p, e) :: cs) e'

/-- One condition at most fails first. -/
lemma FirstFailure.unique {cs : List (Prop × Refusal)} {e e' : Refusal} (f : FirstFailure cs e)
    (f' : FirstFailure cs e') : e = e' := by
  induction f with
  | here np =>
    cases f' with
    | here => rfl
    | there hp _ => exact absurd hp np
  | there hp _ ih =>
    cases f' with
    | here np => exact absurd hp np
    | there _ f' => exact ih f'

/-- Where one fails first there is one that fails. -/
lemma FirstFailure.exists_not {cs : List (Prop × Refusal)} {e : Refusal} (f : FirstFailure cs e) :
    ∃ c ∈ cs, ¬ c.1 := by
  induction f with
  | here np => exact ⟨_, List.mem_cons_self, np⟩
  | there _ _ ih =>
    obtain ⟨c, hc, np⟩ := ih
    exact ⟨c, List.mem_cons_of_mem _ hc, np⟩

/--
A computation passes values that are good, or it refuses for the first failure of some conditions.
-/
def Judges {α : Type} (x : Except Refusal α) (good : α → Prop) (cs : List (Prop × Refusal)) :
    Prop :=
  (∃ a, x = .ok a ∧ good a) ∨ ∃ e, x = .error e ∧ FirstFailure cs e

/-- A check decides the first condition, and what follows it the others. -/
lemma Judges.step {α β : Type} {x : Except Refusal α} {k : α → Except Refusal β} {p : α → Prop}
    {q : Prop} {good : β → Prop} {e : Refusal} {cs : List (Prop × Refusal)} (d : Decides x p e)
    (needs : q → ∃ a, p a) (next : ∀ a, p a → q ∧ Judges (k a) good cs) :
    Judges (x >>= k) good ((q, e) :: cs) := by
  rcases d.cases with ⟨a, hx, ha⟩ | ⟨hx, hn⟩
  · have go : (x >>= k) = k a := by rw [hx]; rfl
    obtain ⟨hq, rest⟩ := next a ha
    unfold Judges
    rw [go]
    rcases rest with ok | ⟨e', refused, f⟩
    · exact .inl ok
    · exact .inr ⟨e', refused, .there hq f⟩
  · have stop : (x >>= k) = .error e := by rw [hx]; rfl
    refine .inr ⟨e, stop, .here fun hq => ?_⟩
    obtain ⟨a, ha⟩ := needs hq
    exact hn a ha

/-- Headers that are admitted meet all conditions. -/
lemma Admits.conditions {v : Verifier} {h : Headers} {now : Instant} {c : Claim}
    (a : Admits v h now c) :
    ∀ p ∈ conditions v h now, p.1 := by
  obtain ⟨timestamp, ht, hs, hp⟩ := a.signed
  intro p hp'
  simp only [Assertion.conditions, List.mem_cons, List.not_mem_nil, or_false] at hp'
  rcases hp' with rfl | rfl | rfl | rfl | rfl | rfl | rfl | rfl | rfl
  · exact a.keyed
  · exact ⟨_, a.user⟩
  · exact ⟨_, ht⟩
  · exact ⟨_, a.signature⟩
  · exact ⟨_, a.user, a.noColon⟩
  · exact ⟨_, a.tier⟩
  · exact ⟨_, _, _, _, a.user, ht, a.tier, a.signature, hs⟩
  · exact ⟨_, _, ht, hp⟩
  · exact ⟨_, _, ht, hp, a.fresh⟩

/-- Headers are admitted with one claim at most. -/
lemma Admits.unique {v : Verifier} {h : Headers} {now : Instant} {c c' : Claim}
    (a : Admits v h now c) (a' : Admits v h now c') : c = c' := by
  obtain ⟨t, ht, -, hp⟩ := a.signed
  obtain ⟨t', ht', -, hp'⟩ := a'.signed
  have eu := (required_decides h userIdHeader).unique a.user a'.user
  have es := (required_decides h signatureHeader).unique a.signature a'.signature
  have et := (tierOf_decides h).unique a.tier a'.tier
  have em := (required_decides h timestampHeader).unique ht ht'
  rw [← em, hp] at hp'
  have ei := Option.some.inj hp'
  obtain ⟨u, tier, i, s⟩ := c
  obtain ⟨u', tier', i', s'⟩ := c'
  simp only at eu es et ei
  rw [eu, es, et, ei]

end Assertion

namespace Verifier

open Assertion

/-- Verification admits a claim, or it refuses for the first condition that fails. -/
lemma judges_verifyAt (v : Verifier) (h : Headers) (now : Instant) :
    Judges (v.verifyAt h now) (Admits v h now) (conditions v h now) := by
  have userIs {s s'} := (required_decides h userIdHeader).unique (a := s) (b := s')
  have timestampIs {s s'} := (required_decides h timestampHeader).unique (a := s) (b := s')
  have signatureIs {s s'} := (required_decides h signatureHeader).unique (a := s) (b := s')
  have tierIs {t t'} := (tierOf_decides h).unique (a := t) (b := t')
  -- one step for each check; what the headers state is unique, so later conditions speak of the
  -- same texts
  unfold verifyAt conditions
  refine .step (checkKey_decides v) (fun hk => ⟨(), hk⟩) fun _ hk => ⟨hk, ?_⟩
  refine .step (required_decides h userIdHeader) id fun user hu => ⟨⟨user, hu⟩, ?_⟩
  refine .step (required_decides h timestampHeader) id fun timestamp ht => ⟨⟨timestamp, ht⟩, ?_⟩
  refine .step (required_decides h signatureHeader) id fun sig hs => ⟨⟨sig, hs⟩, ?_⟩
  refine .step (checkUserId_decides hu.2) ?user fun _ hc => ⟨⟨user, hu, hc⟩, ?_⟩
  case user =>
    rintro ⟨user', hu', hc⟩
    exact ⟨(), userIs hu' hu ▸ hc⟩
  refine .step (tierOf_decides h) id fun tier hr => ⟨⟨tier, hr⟩, ?_⟩
  refine .step (checkSignature_decides hk (payload user timestamp tier.name) sig) ?signature
    fun _ hm =>
    ⟨⟨user, timestamp, tier, sig, hu, ht, hr, hs, hm⟩, ?_⟩
  case signature =>
    rintro ⟨user', timestamp', tier', sig', hu', ht', hr', hs', hm⟩
    rw [userIs hu' hu, timestampIs ht' ht, tierIs hr' hr, signatureIs hs' hs] at hm
    exact ⟨(), hm⟩
  refine .step (instantOf_decides timestamp) ?instant fun signedAt hi =>
    ⟨⟨timestamp, signedAt, ht, hi⟩, ?_⟩
  case instant =>
    rintro ⟨timestamp', signedAt, ht', hi⟩
    exact ⟨signedAt, timestampIs ht' ht ▸ hi⟩
  refine .step (checkDrift_decides v.skew now signedAt) ?drift fun _ hd =>
    ⟨⟨timestamp, signedAt, ht, hi, hd⟩, ?_⟩
  case drift =>
    rintro ⟨timestamp', signedAt', ht', hi', hd⟩
    rw [timestampIs ht' ht, hi] at hi'
    cases hi'
    exact ⟨(), hd⟩
  exact .inl ⟨⟨user, tier, signedAt, sig⟩, rfl, hk, hu, hc, hr, hs, ⟨timestamp, ht, hm, hi⟩, hd⟩

/-- What passes is what is admitted. -/
lemma verifyAt_eq_ok_iff {v : Verifier} {h : Headers} {now : Instant} {c : Claim} :
    v.verifyAt h now = .ok c ↔ Admits v h now c := by
  rcases judges_verifyAt v h now with ⟨c', e, a⟩ | ⟨r, e, f⟩
  · rw [e, Except.ok.injEq]
    exact ⟨fun h => h ▸ a, fun a' => a.unique a'⟩
  · rw [e]
    refine ⟨nofun, fun a => ?_⟩
    obtain ⟨p, hp, np⟩ := f.exists_not
    exact absurd (a.conditions p hp) np

/-- What is refused is refused for the first condition that fails. -/
lemma verifyAt_eq_error_iff {v : Verifier} {h : Headers} {now : Instant} {e : Refusal} :
    v.verifyAt h now = .error e ↔ FirstFailure (conditions v h now) e := by
  rcases judges_verifyAt v h now with ⟨c, e', a⟩ | ⟨r, e', f⟩
  · rw [e']
    refine ⟨nofun, fun f => ?_⟩
    obtain ⟨p, hp, np⟩ := f.exists_not
    exact absurd (a.conditions p hp) np
  · rw [e', Except.error.injEq]
    exact ⟨fun h => h ▸ f, fun f' => f.unique f'⟩

/-- With a key nothing is refused for want of one, whatever the time is. -/
lemma verifyAt_ne_emptyKey {v : Verifier} (hk : v.key ≠ []) (h : Headers) (now : Instant) :
    v.verifyAt h now ≠ .error .emptyKey := by
  intro refused
  have keyed : v.checkKey = .ok () := if_neg hk
  rw [verifyAt, keyed] at refused
  obtain ⟨user, hu, refused⟩ := (required_decides h userIdHeader).passed_of_bind refused nofun
  obtain ⟨timestamp, -, refused⟩ :=
    (required_decides h timestampHeader).passed_of_bind refused nofun
  obtain ⟨sig, -, refused⟩ := (required_decides h signatureHeader).passed_of_bind refused nofun
  obtain ⟨-, -, refused⟩ := (checkUserId_decides hu.2).passed_of_bind refused nofun
  obtain ⟨tier, -, refused⟩ := (tierOf_decides h).passed_of_bind refused nofun
  obtain ⟨-, -, refused⟩ := (checkSignature_decides hk _ sig).passed_of_bind refused nofun
  obtain ⟨signedAt, -, refused⟩ := (instantOf_decides timestamp).passed_of_bind refused nofun
  unfold checkDrift at refused
  split at refused
  case isTrue => cases refused
  case isFalse => cases refused

/-- Headers whose user id has a colon, beside a tier, a signature and a timestamp that all fail. -/
def faulty : Headers := .ofList [
  (userIdHeader, ⟨Bytes.ofText "a:b", by decide +kernel⟩),
  (timestampHeader, ⟨Bytes.ofText "today", by decide +kernel⟩),
  (signatureHeader, ⟨Bytes.ofText "00", by decide +kernel⟩),
  (tierHeader, ⟨Bytes.ofText "gold", by decide +kernel⟩)]

end Verifier

end Gatehouse
