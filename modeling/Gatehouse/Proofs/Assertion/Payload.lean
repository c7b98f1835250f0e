import Gatehouse.Proofs.Assertion.RoundTrip

/-!
# What a signature stands for

The text that is signed has its three parts between colons, and the middle part may hold colons
itself.  A user id has none and neither has a tier, so the first and the last colon of the text part
it, and it tells what was signed (`payload_inj`).  Hence requests that are accepted with one
signature state the same, or they show two texts with the same authentication code.
-/

namespace Gatehouse

section

variable {α : Type} {sep : α} {a a' b b' : List α}

/-- The first occurrence of a separator parts a list in one way. -/
lemma eq_of_append_cons (h : sep ∉ a) (h' : sep ∉ a') (e : a ++ sep :: b = a' ++ sep :: b') :
    a = a' ∧ b = b' := by
  -- the longer of the two parts would hold the separator
  rcases List.append_eq_append_iff.mp e with ⟨c, rfl, rest⟩ | ⟨c, rfl, rest⟩
  · cases c with
    | nil =>
      cases rest
      exact ⟨(List.append_nil a).symm, rfl⟩
    | cons x c =>
      cases rest
      exact absurd (List.mem_append_right a List.mem_cons_self) h'
  · cases c with
    | nil =>
      cases rest
      exact ⟨List.append_nil a', rfl⟩
    | cons x c =>
      cases rest
      exact absurd (List.mem_append_right a' List.mem_cons_self) h

/-- So does its last occurrence. -/
lemma eq_of_append_cons_last (h : sep ∉ b) (h' : sep ∉ b') (e : a ++ sep :: b = a' ++ sep :: b') :
    a = a' ∧ b = b' := by
  have r : b.reverse ++ sep :: a.reverse = b'.reverse ++ sep :: a'.reverse := by
    simpa using congrArg List.reverse e
  obtain ⟨eb, ea⟩ := eq_of_append_cons (by rwa [List.mem_reverse]) (by rwa [List.mem_reverse]) r
  exact ⟨List.reverse_inj.mp ea, List.reverse_inj.mp eb⟩

end

/-- Octets are told by their digits. -/
lemma Bytes.toHex_inj {bs bs' : Bytes} (e : toHex bs = toHex bs') : bs = bs' := by
  have read := ofHexChars?_toHexChars bs
  rw [String.ofList_injective e, ofHexChars?_toHexChars] at read
  exact (Option.some.inj read).symm

namespace Tier

/-- No colon stands in the name of a tier. -/
lemma not_colon_name (t : Tier) : ':' ∉ t.name.toList := by
  cases t with
  | free => decide
  | pro => decide
  | business => decide
  | enterprise => decide

/-- Tiers are told by their names. -/
lemma name_inj {t t' : Tier} (e : t.name = t'.name) : t = t' := by
  have read := ofName?_name t
  rw [e, ofName?_name] at read
  exact (Option.some.inj read).symm

end Tier

namespace Assertion

variable {u u' t t' : String} {p p' : Tier}

/-- What is signed tells the user, the timestamp and the tier. -/
lemma payload_inj (hu : ':' ∉ u.toList) (hu' : ':' ∉ u'.toList)
    (e : payload u t p.name = payload u' t' p'.name) :
    u = u' ∧ t = t' ∧ p = p' := by
  have parts : u.toList ++ ':' :: (t.toList ++ ':' :: p.name.toList) =
      u'.toList ++ ':' :: (t'.toList ++ ':' :: p'.name.toList) := by
    simpa [payload] using congrArg String.toList e
  obtain ⟨user, rest⟩ := eq_of_append_cons hu hu' parts
  obtain ⟨timestamp, tier⟩ := eq_of_append_cons_last p.not_colon_name p'.not_colon_name rest
  exact ⟨String.toList_inj.mp user, String.toList_inj.mp timestamp,
    Tier.name_inj (String.toList_inj.mp tier)⟩

/-- A user id that passes has no colon. -/
lemma not_colon_of_checkUserId (h : checkUserId u = .ok ()) : ':' ∉ u.toList := by
  by_cases empty : u = ""
  · rw [empty]
    decide
  · exact ((checkUserId_decides empty).passes ()).mp h

/-- Two messages with the same authentication code. -/
structure Collision (key m m' : Bytes) : Prop where
  distinct : m ≠ m'
  same : Hmac.mac key m = Hmac.mac key m'

/-- Headers that come to the check of their signature with a statement. -/
structure Presents (v : Verifier) (h : Headers) (a : Assertion) : Prop where
  keyed : v.key ≠ []
  user : States h userIdHeader a.userId
  noColon : ':' ∉ a.userId.toList
  timestamp : States h timestampHeader a.timestamp
  tier : StatesTier h a.tier
  signature : States h signatureHeader a.signature

/-- The statement's signature is accepted under the key. -/
def Accepted (key : Bytes) (a : Assertion) : Prop :=
  checkSignature key (payload a.userId a.timestamp a.tier.name) a.signature = .ok ()

/-- Refusals that come no earlier than the check of the signature. -/
def IsLate (e : Refusal) : Prop := e = .signatureMismatch ∨ e = .malformedTimestamp ∨ e = .expired

/-- Behind a check that passes, the rest goes on with its value. -/
lemma Decides.proceeds {α β : Type} {x : Except Refusal α} {q : α → Prop} {e : Refusal} {a : α}
    (d : Decides x q e) (ha : q a) (k : α → Except Refusal β) : (x >>= k) = k a := by
  rw [(d.passes a).mpr ha]
  rfl

/-- A refusal is that of the check in front, or one of what follows it. -/
lemma Decides.refused_of_bind {α β : Type} {x : Except Refusal α} {q : α → Prop} {e e' : Refusal}
    {k : α → Except Refusal β} (d : Decides x q e) (refused : (x >>= k) = .error e') :
    e' = e ∨ ∃ a, q a ∧ k a = .error e' := by
  rcases d.cases with ⟨a, rfl, ha⟩ | ⟨rfl, -⟩
  · exact .inr ⟨a, ha, refused⟩
  · cases refused
    exact .inl rfl

/-- What is refused late has passed each check with an early refusal. -/
lemma Decides.passed_of_late {α β : Type} {x : Except Refusal α} {q : α → Prop} {e : Refusal}
    {k : α → Except Refusal β} (d : Decides x q e) (early : ¬ IsLate e)
    (late : ∀ e', (x >>= k) = .error e' → IsLate e') :
    ∃ a, q a ∧ ∀ e', k a = .error e' → IsLate e' := by
  rcases d.cases with ⟨a, rfl, ha⟩ | ⟨rfl, -⟩
  · exact ⟨a, ha, late⟩
  · exact absurd (late e rfl) early

/-- Once the timestamp is read nothing but its age is refused. -/
lemma expired_of_checkDrift {skew : Skew} {now signedAt : Instant} {c : Claim} {e : Refusal}
    (refused : (checkDrift skew now signedAt >>= fun _ => pure c) = .error e) : e = .expired := by
  unfold checkDrift at refused
  split at refused
  case isTrue => cases refused
  case isFalse =>
    cases refused
    rfl

namespace Presents

variable {v v' : Verifier} {h h' : Headers} {a a' : Assertion}

/-- Behind the check of the signature come those of the timestamp. -/
lemma verifyAt_eq (s : Presents v h a) (now : Instant) : v.verifyAt h now =
    (checkSignature v.key (payload a.userId a.timestamp a.tier.name) a.signature >>= fun _ =>
      instantOf a.timestamp >>= fun signedAt => checkDrift v.skew now signedAt >>= fun _ =>
        pure ⟨a.userId, a.tier, signedAt, a.signature⟩) := by
  rw [Verifier.verifyAt, (checkKey_decides v).proceeds (a := ()) s.keyed,
    (required_decides h _).proceeds s.user,
    (required_decides h _).proceeds s.timestamp, (required_decides h _).proceeds s.signature,
    (checkUserId_decides s.user.2).proceeds (a := ()) s.noColon, (tierOf_decides h).proceeds s.tier]

/--
A signature that is not accepted is the reason for the refusal, and one that is accepted never is.
-/
lemma accepted_iff (s : Presents v h a) (now : Instant) :
    Accepted v.key a ↔ v.verifyAt h now ≠ .error .signatureMismatch := by
  rw [s.verifyAt_eq]
  rcases (checkSignature_decides s.keyed (payload a.userId a.timestamp a.tier.name)
    a.signature).cases with
    ⟨_, passed, -⟩ | ⟨refused, -⟩
  · rw [Accepted, passed]
    refine iff_of_true rfl fun mismatch => ?_
    obtain ⟨signedAt, -, late⟩ := (instantOf_decides a.timestamp).passed_of_bind mismatch nofun
    exact nomatch expired_of_checkDrift late
  · rw [Accepted, refused]
    exact iff_of_false nofun fun h => h rfl

/-- Headers that come to the check of their signature are refused there or later. -/
lemma refused_late (s : Presents v h a) {now : Instant} {e : Refusal}
    (refused : v.verifyAt h now = .error e) :
    IsLate e := by
  rw [s.verifyAt_eq] at refused
  rcases (checkSignature_decides s.keyed _ _).refused_of_bind refused with
    mismatch | ⟨_, -, refused⟩
  · exact .inl mismatch
  rcases (instantOf_decides a.timestamp).refused_of_bind refused with
    malformed | ⟨signedAt, -, refused⟩
  · exact .inr (.inl malformed)
  · exact .inr (.inr (expired_of_checkDrift refused))

/-- Headers come to the check of their signature unless they are refused for an earlier reason. -/
lemma exists_iff {now : Instant} :
    (∃ a, Presents v h a) ↔ ∀ e, v.verifyAt h now = .error e → IsLate e := by
  constructor
  · rintro ⟨a, s⟩ e refused
    exact s.refused_late refused
  · intro late
    have early {e : Refusal} (ne : e ≠ .signatureMismatch ∧ e ≠ .malformedTimestamp ∧
        e ≠ .expired) : ¬ IsLate e := by
      rintro (same | same | same)
      · exact ne.1 same
      · exact ne.2.1 same
      · exact ne.2.2 same
    obtain ⟨-, keyed, late⟩ := (checkKey_decides v).passed_of_late (early (by decide)) late
    obtain ⟨user, hu, late⟩ :=
      (required_decides h userIdHeader).passed_of_late (early (by decide)) late
    obtain ⟨timestamp, ht, late⟩ :=
      (required_decides h timestampHeader).passed_of_late (early (by decide)) late
    obtain ⟨sig, hs, late⟩ :=
      (required_decides h signatureHeader).passed_of_late (early (by decide)) late
    obtain ⟨-, hc, late⟩ := (checkUserId_decides hu.2).passed_of_late (early (by decide)) late
    obtain ⟨tier, hr, -⟩ := (tierOf_decides h).passed_of_late (early (by decide)) late
    exact ⟨⟨user, timestamp, tier, sig⟩, keyed, hu, hc, ht, hr, hs⟩

/-- A signature that is accepted is the code of the payload. -/
lemma mac_eq_of_accepted (keyed : v.key ≠ []) (accepted : Accepted v.key a) :
    a.signature =
      Bytes.toHex (Hmac.mac v.key (Bytes.ofText (payload a.userId a.timestamp a.tier.name))) := by
  have signed := ((checkSignature_decides keyed _ a.signature).passes ()).mp accepted
  rw [signatureOf_eq keyed, Except.ok.injEq] at signed
  exact signed.symm

/-- Under one key a signature is accepted for one statement, or it shows a collision. -/
lemma eq_or_collision (s : Presents v h a) (s' : Presents v' h' a') (same : v.key = v'.key)
    (accepted : Accepted v.key a) (accepted' : Accepted v'.key a')
    (shared : a.signature = a'.signature) :
    a = a' ∨ Collision v.key (Bytes.ofText (payload a.userId a.timestamp a.tier.name))
      (Bytes.ofText (payload a'.userId a'.timestamp a'.tier.name)) := by
  have codes := mac_eq_of_accepted s.keyed accepted
  rw [shared, mac_eq_of_accepted s'.keyed accepted', ← same] at codes
  by_cases signed : payload a.userId a.timestamp a.tier.name =
    payload a'.userId a'.timestamp a'.tier.name
  · obtain ⟨user, timestamp, tier⟩ := payload_inj s.noColon s'.noColon signed
    obtain ⟨u, t, p, sig⟩ := a
    obtain ⟨u', t', p', sig'⟩ := a'
    cases user
    cases timestamp
    cases tier
    cases shared
    exact .inl rfl
  · exact .inr ⟨fun octets => signed (Bytes.ofText_inj octets), (Bytes.toHex_inj codes).symm⟩

end Presents

/--
The signed text tells its parts, whatever colons the timestamp holds.  So of two requests that come
to the check of their signatures under one key and are accepted with one signature, either both
state the same, or they show a collision.
-/
theorem payload_unambiguous :
    (∀ u u' t t' (p p' : Tier), checkUserId u = .ok () → checkUserId u' = .ok () →
      (payload u t p.name = payload u' t' p'.name ↔ u = u' ∧ t = t' ∧ p = p')) ∧
    (∀ v h now, (∃ a, Presents v h a) ↔ ∀ e, v.verifyAt h now = .error e → IsLate e) ∧
    (∀ v h a now, Presents v h a →
      (Accepted v.key a ↔ v.verifyAt h now ≠ .error .signatureMismatch)) ∧
    ∀ v v' h h' a a', v.key = v'.key → Presents v h a → Presents v' h' a' → Accepted v.key a →
    Accepted v'.key a' →
      a.signature = a'.signature → a = a' ∨
      Collision v.key (Bytes.ofText (payload a.userId a.timestamp a.tier.name))
        (Bytes.ofText (payload a'.userId a'.timestamp a'.tier.name)) := by
  refine ⟨fun u u' t t' p p' hu hu' => ⟨?tells, ?same⟩, fun v h now => Presents.exists_iff,
    fun v h a now s => s.accepted_iff now, fun v v' h h' a a' same s s' =>
      s.eq_or_collision s' same⟩
  case tells => exact payload_inj (not_colon_of_checkUserId hu) (not_colon_of_checkUserId hu')
  case same =>
    rintro ⟨rfl, rfl, rfl⟩
    rfl

/--
A timestamp that ends like a tier is no tier; and one signature is accepted with the tier stated and
without it.
-/
theorem payload_unambiguous_unstated :
    payload "ada" "9:free" (Tier.name .pro) ≠ payload "ada" "9" (Tier.name .free) ∧
    ∃ a h h', Presents ⟨[1], .standard, .fixed ⟨0, 0⟩⟩ h a ∧
    Presents ⟨[1], .ofSeconds 0, .fixed ⟨0, 0⟩⟩ h' a ∧
      h.text? tierHeader = some "free" ∧ h'.text? tierHeader = none ∧ Accepted [1] a ∧
      (a = a ∨ Collision [1] (Bytes.ofText (payload a.userId a.timestamp a.tier.name))
        (Bytes.ofText (payload a.userId a.timestamp a.tier.name))) := by
  obtain ⟨tells, -, -, shared⟩ := payload_unambiguous
  refine ⟨fun same => ?_, ?_⟩
  · obtain ⟨-, timestamp, -⟩ := (tells "ada" "ada" "9:free" "9" .pro .free rfl rfl).mp same
    exact absurd timestamp (by decide)
  · have key : ([1] : Bytes) ≠ [] := by decide
    have user : "ada" ≠ "" ∧ ':' ∉ "ada".toList ∧ ∀ c ∈ "ada".toList, Bytes.IsVisibleChar c :=
      ⟨by decide, by decide, Bytes.visible_of_all (by decide)⟩
    have timed : Rfc3339.render ⟨0, 0⟩ ≠ "" := by decide
    have year : 0 ≤ Instant.year ⟨0, 0⟩ ∧ Instant.year ⟨0, 0⟩ ≤ 9999 := by decide
    obtain ⟨sig, h, -, -, signed, wu, wt, wr, ws⟩ :=
      sign_states .free key user.1 user.2.2 user.2.1 year
    have accepted : Accepted [1] ⟨"ada", Rfc3339.render ⟨0, 0⟩, .free, sig⟩ :=
      ((checkSignature_decides key _ sig).passes ()).mpr signed
    have first : Presents ⟨[1], .standard, .fixed ⟨0, 0⟩⟩ h
        ⟨"ada", Rfc3339.render ⟨0, 0⟩, .free, sig⟩ :=
      ⟨key, wu, user.2.1, ⟨wt, timed⟩, .named wr, ws⟩
    obtain ⟨⟨vu, -, -, wu⟩, -⟩ := wu
    obtain ⟨vt, -, -, wt⟩ := wt
    obtain ⟨⟨vs, -, -, ws⟩, some_sig⟩ := ws
    -- the same values without that of the tier
    have second : Presents ⟨[1], .ofSeconds 0, .fixed ⟨0, 0⟩⟩
        (((Headers.empty.insert userIdHeader vu).insert timestampHeader vt).insert
          signatureHeader vs)
        ⟨"ada", Rfc3339.render ⟨0, 0⟩, .free, sig⟩ :=
      ⟨key, ⟨⟨vu, [], rfl, wu⟩, user.1⟩, user.2.1, ⟨⟨vt, [], rfl, wt⟩, timed⟩, .absent rfl,
        ⟨⟨vs, [], rfl, ws⟩, some_sig⟩⟩
    exact ⟨_, _, _, first, second, text?_eq_some_iff.mpr wr, rfl, accepted,
      shared ⟨[1], .standard, .fixed ⟨0, 0⟩⟩ ⟨[1], .ofSeconds 0,
        .fixed ⟨0, 0⟩⟩ _ _ _ _ rfl first second accepted accepted rfl⟩

end Assertion

end Gatehouse
