import Mathlib
import Gatehouse.Proofs.Assertion.RoundTrip

/-!
# Which signed statements verify

Signing takes any user id that is not empty and has no colon, and any instant.  Headers hold more
than verifying reads: a user id in any characters but control characters is a header value, and a
year of more than four digits is written with a sign.  So what was signed and written verifies at
once exactly if the user id is visible and the year lies in 0 to 9999 (`Verifier.verifyAt_made`).
-/

namespace Gatehouse

namespace Rfc3339

open Text (isDigit)

/-- Every timestamp is visible, whatever its year is. -/
lemma visible_timestamp (t : Instant) : ∀ c ∈ (render t).toList, Bytes.IsVisibleChar c := by
  by_cases hy : 0 ≤ t.year ∧ t.year ≤ 9999
  · exact visible_render hy
  · have year : renderYear (Calendar.Date.ofDay t.day).year =
        (if t.year < 0 then '-' else '+') :: four t.year.natAbs := if_neg hy
    refine visible_of_year fun c hc => ?_
    rw [year] at hc
    rcases List.mem_cons.mp hc with rfl | hc
    · split
      · exact .inl (by decide)
      · exact .inl (by decide)
    · exact visible_four _ c hc

/-- A timestamp is not empty. -/
lemma render_ne_empty (t : Instant) : render t ≠ "" := by
  intro e
  have chars : (render t).toList = [] := by rw [e]; rfl
  rw [render, String.toList_ofList, renderChars] at chars
  simp at chars

/-- A year that is written with a sign is not read back. -/
lemma parse?_render_of_outside {t : Instant} (hy : ¬ (0 ≤ t.year ∧ t.year ≤ 9999)) :
    parse? (render t) = none := by
  have year : renderYear (Calendar.Date.ofDay t.day).year =
      (if t.year < 0 then '-' else '+') :: four t.year.natAbs := if_neg hy
  have sign : isDigit (if t.year < 0 then '-' else '+') = false := by
    split
    · decide
    · decide
  have unread (rest : List Char) : number? 4 ((if t.year < 0 then '-' else '+') :: rest) =
      none := by
    simp only [number?, List.take_succ_cons, List.all_cons, sign, Bool.false_and,
      Bool.false_eq_true, and_false, if_false]
  rw [parse?, render, String.toList_ofList, renderChars, year]
  simp only [List.cons_append, parseChars?, unread]
  rfl

end Rfc3339

/-- Between an instant and the whole second that it states is no more than a second. -/
lemma Instant.natAbs_since_stated (t : Instant) : (t.since t.stated).natAbs ≤ nanosPerSecond := by
  have bound := t.nanos.isLt
  rcases t.stated_cases with ⟨leap, stated⟩ | ⟨leap, -, stated⟩ | ⟨leap, inside, stated⟩
  · simp only [inLeapSecond, decide_eq_false_iff_not] at leap
    have zero : ((0 : Fin (2 * nanosPerSecond)) : Nat) = 0 := rfl
    simp only [stated, since, secondOfDay, Int.lt_irrefl, false_and, if_false, zero]
    omega
  · simp only [inLeapSecond, decide_eq_true_eq] at leap
    simp only [stated, leapAfter, since, secondOfDay, Int.lt_irrefl, false_and, if_false]
    omega
  · -- the second after it comes later in the day, and the leap second lies between
    have later : t.stated.secondOfDay = t.secondOfDay + 1 := by
      simp only [stated, secondOfDay, EpochSecond.toInt_next inside, secondsPerDay]
      omega
    have zero : (t.stated.nanos : Nat) = 0 := by rw [stated]; rfl
    have next : t.stated.seconds.toInt = t.seconds.toInt + 1 := by
      rw [stated, EpochSecond.toInt_next inside]
    have before : t.secondOfDay < t.secondOfDay + 1 := Int.lt_succ _
    have behind : ¬ t.secondOfDay + 1 < t.secondOfDay := Int.not_lt.mpr (Int.le_of_lt before)
    have gap : t.since t.stated = (t.nanos : Nat) - 2 * (nanosPerSecond : Int) := by
      simp only [since, later, next, zero, before, behind, leap, false_and, if_false, and_self,
        if_true]
      simp only [nanosPerSecond]
      omega
    simp only [inLeapSecond, decide_eq_true_eq] at leap
    rw [gap]
    omega

namespace Assertion

/-- What signing gives: a key with octets, a user id that was checked, and the statement. -/
lemma sign_eq_ok {key : Bytes} {userId : String} {tier : Tier} {at_ : Instant} {a : Assertion}
    (h : sign key userId tier at_ = .ok a) : key ≠ [] ∧ userId ≠ "" ∧ ':' ∉ userId.toList ∧
      ∃ sig, signatureOf key (payload userId (Rfc3339.render at_) tier.name) = .ok sig ∧
        a = ⟨userId, Rfc3339.render at_, tier, sig⟩ := by
  cases checked : isUserId userId with
  | false =>
    simp only [sign, checkUserId, checked, Bool.false_eq_true, if_false] at h
    cases h
  | true =>
    cases signed : signatureOf key (payload userId (Rfc3339.render at_) tier.name) with
    | error r =>
      simp only [sign, checkUserId, checked, if_true, signed] at h
      cases h
    | ok sig =>
      simp only [sign, checkUserId, checked, if_true, signed] at h
      cases h
      simp only [isUserId, Bool.and_eq_true, Bool.not_eq_true', List.isEmpty_eq_false_iff, ne_eq,
        String.toList_eq_nil_iff, List.contains_eq_mem, decide_eq_false_iff_not] at checked
      refine ⟨?_, checked.1, checked.2, sig, rfl, rfl⟩
      rintro rfl
      cases signed

/-- Written headers state the visible parts of what was signed. -/
lemma states_of_toHeaders {key : Bytes} {a : Assertion} {h : Headers} (made : a.toHeaders = .ok h)
    (hu : ∀ c ∈ a.userId.toList, Bytes.IsVisibleChar c)
    (ht : ∀ c ∈ a.timestamp.toList, Bytes.IsVisibleChar c)
    (signed : signatureOf key (payload a.userId a.timestamp a.tier.name) = .ok a.signature) :
    Writes h userIdHeader a.userId ∧ Writes h timestampHeader a.timestamp ∧
    Writes h tierHeader a.tier.name ∧
      Writes h signatureHeader a.signature := by
  obtain ⟨h', made', writes⟩ := toHeaders_states hu ht (visible_signature signed)
  rw [made] at made'
  cases made'
  exact writes

/-- Whatever can be a header value can be signed and written as a user id. -/
lemma exists_toHeaders (key : Bytes) {userId : String} {v : HeaderValue} (tier : Tier)
    (at_ : Instant)
    (hk : key ≠ []) (hu : isUserId userId = true) (written : HeaderValue.ofText? userId = some v) :
    ∃ a h, sign key userId tier at_ = .ok a ∧ a.toHeaders = .ok h := by
  obtain ⟨sig, coded⟩ : ∃ sig, signatureOf key (payload userId (Rfc3339.render at_) tier.name) =
      .ok sig :=
    ⟨_, signatureOf_eq hk _⟩
  have signed : sign key userId tier at_ = .ok ⟨userId, Rfc3339.render at_, tier, sig⟩ := by
    simp only [sign, checkUserId, hu, if_true, coded]
    rfl
  obtain ⟨vt, et, -⟩ := headerValue_of_visible (Rfc3339.visible_timestamp at_) .malformedTimestamp
  obtain ⟨vr, er, -⟩ := headerValue_of_visible (visible_name tier) .unknownTier
  obtain ⟨vs, es, -⟩ := headerValue_of_visible (visible_signature coded) .signatureMismatch
  have eu : headerValue userId .invalidUserId = .ok v := by rw [headerValue, written]
  exact ⟨_, _, signed, by simp only [toHeaders, eu, et, er, es]; rfl⟩

/-- The first part of written headers is the user id, octet for octet. -/
lemma values_userId_of_toHeaders {a : Assertion} {h : Headers} (made : a.toHeaders = .ok h) :
    ∃ v, h.values userIdHeader = [v] ∧ v.octets = Bytes.ofText a.userId := by
  cases written : HeaderValue.ofText? a.userId with
  | none =>
    simp only [toHeaders, headerValue, written] at made
    cases made
  | some v =>
    have octets : v.octets = Bytes.ofText a.userId := by
      simp only [HeaderValue.ofText?, HeaderValue.of?] at written
      split at written
      · cases written
        rfl
      · cases written
    refine ⟨v, ?_, octets⟩
    simp only [toHeaders, headerValue, written] at made
    cases et : HeaderValue.ofText? a.timestamp with
    | none => rw [et] at made; cases made
    | some vt =>
      cases er : HeaderValue.ofText? a.tier.name with
      | none => rw [et, er] at made; cases made
      | some vr =>
        cases es : HeaderValue.ofText? a.signature with
        | none => rw [et, er, es] at made; cases made
        | some vs =>
          rw [et, er, es] at made
          cases made
          simp [userIdHeader, timestampHeader, tierHeader, signatureHeader]

/-- A user id that is not visible can be written, but no text is read from its header. -/
lemma not_states_of_toHeaders {a : Assertion} {h : Headers} (made : a.toHeaders = .ok h)
    (hv : ¬ ∀ c ∈ a.userId.toList, Bytes.IsVisibleChar c) :
    ¬ ∃ user, States h userIdHeader user := by
  rintro ⟨user, ⟨v, vs, values, -, visible⟩, -⟩
  obtain ⟨v', values', octets⟩ := values_userId_of_toHeaders made
  rw [values] at values'
  cases values'
  refine hv (Bytes.visible_of_isVisible fun b hb => ?_)
  rw [Bytes.isVisible_iff]
  rw [octets] at visible
  exact visible b hb

end Assertion

namespace Verifier

open Assertion

/--
What was signed and written verifies at once for the same user and tier, unless its user id is not
visible or its year has a sign; then it is refused for that.
-/
theorem verifyAt_made (key : Bytes) (userId : String) (tier : Tier) (at_ : Instant) (skew : Skew)
    (clock : Clock) (a : Assertion) (h : Headers) (signed : sign key userId tier at_ = .ok a)
    (made : a.toHeaders = .ok h) (wide : nanosPerSecond ≤ skew.toNanos) :
    verifyAt ⟨key, skew, clock⟩ h at_ =
      if ∀ c ∈ userId.toList, Bytes.IsVisibleChar c then
        if 0 ≤ at_.year ∧ at_.year ≤ 9999 then .ok ⟨userId, tier, at_.stated, a.signature⟩
        else .error .malformedTimestamp
      else .error (.missingHeader userIdHeader) := by
  obtain ⟨hk, hu, hc, sig, coded, rfl⟩ := sign_eq_ok signed
  split
  case isFalse hidden =>
    exact verifyAt_eq_error_iff.mpr (.there hk (.here (not_states_of_toHeaders made hidden)))
  case isTrue visible =>
    obtain ⟨wu, wt, wr, ws⟩ :=
      states_of_toHeaders made visible (Rfc3339.visible_timestamp at_) coded
    have user : States h userIdHeader userId := ⟨wu, hu⟩
    have timestamp : States h timestampHeader (Rfc3339.render at_) :=
      ⟨wt, Rfc3339.render_ne_empty at_⟩
    have signature : States h signatureHeader sig := ⟨ws, ne_empty_of_signatureOf hk coded⟩
    split
    case isTrue hy =>
      have fresh : (at_.since at_.stated).natAbs ≤ skew.toNanos :=
        Nat.le_trans at_.natAbs_since_stated wide
      rw [verifyAt_of_signed hk user hc timestamp wr signature coded (Rfc3339.parse?_render hy),
        if_pos fresh]
    case isFalse hy =>
      -- everything but the timestamp is as it was signed, and the timestamp has one reading, which
      -- is none
      have unread : ¬ ∃ t i, States h timestampHeader t ∧ Rfc3339.parse? t = some i := by
        rintro ⟨t, i, ht, hi⟩
        rw [← (required_decides h timestampHeader).unique timestamp ht,
          Rfc3339.parse?_render_of_outside hy] at hi
        cases hi
      refine verifyAt_eq_error_iff.mpr (.there hk (.there ⟨_, user⟩ (.there ⟨_, timestamp⟩ ?_)))
      refine .there ⟨_, signature⟩ (.there ⟨_, user, hc⟩ (.there ⟨_, .named wr⟩ ?_))
      exact .there ⟨_, _, _, _, user, timestamp, .named wr, signature, coded⟩ (.here unread)

/-- In the year ten thousand what was signed is refused for its timestamp. -/
theorem verifyAt_made_signed_year :
    ∃ a h, sign [1] "ada" .pro ⟨253402300800, 0⟩ = .ok a ∧ a.toHeaders = .ok h ∧
      verifyAt ⟨[1], .ofSeconds 1, .fixed ⟨0, 0⟩⟩ h ⟨253402300800, 0⟩ =
        .error .malformedTimestamp := by
  have visible : ∀ c ∈ "ada".toList, Bytes.IsVisibleChar c := Bytes.visible_of_all (by decide)
  obtain ⟨v, written, -⟩ := HeaderValue.ofText?_of_visible visible
  obtain ⟨a, h, signed, made⟩ :=
    exists_toHeaders [1] .pro ⟨253402300800, 0⟩ (by decide) (by decide) written
  refine ⟨a, h, signed, made, ?_⟩
  rw [verifyAt_made [1] "ada" .pro ⟨253402300800, 0⟩ (.ofSeconds 1) (.fixed ⟨0, 0⟩) a h signed made
    (by decide), if_pos visible, if_neg (by decide)]

/-- What was signed and written for the user `é` does not verify. -/
theorem verifyAt_made_not_visible :
    ∃ a h, sign [1] "é" .free ⟨0, 0⟩ = .ok a ∧ a.toHeaders = .ok h ∧
      nanosPerSecond ≤ (Skew.ofSeconds 1).toNanos ∧
      ∀ c, verifyAt ⟨[1], .ofSeconds 1, .fixed ⟨0, 0⟩⟩ h ⟨0, 0⟩ ≠ .ok c := by
  have ok : (Bytes.ofText "é").all isHeaderOctet = true := by decide +kernel
  have written : HeaderValue.ofText? "é" = some ⟨_, ok⟩ := by
    rw [HeaderValue.ofText?, HeaderValue.of?, dif_pos ok]
  obtain ⟨a, h, signed, made⟩ := exists_toHeaders [1] .free ⟨0, 0⟩ (by decide) (by decide) written
  obtain ⟨-, -, -, sig, -, rfl⟩ := sign_eq_ok signed
  refine ⟨_, h, signed, made, by decide, fun c accepted => ?_⟩
  have hidden : ¬ ∀ c ∈ "é".toList, Bytes.IsVisibleChar c := by
    intro visible
    exact absurd (visible 'é' (List.mem_singleton_self 'é')) (by decide)
  exact not_states_of_toHeaders made hidden ⟨_, (verifyAt_eq_ok_iff.mp accepted).user⟩

end Verifier

end Gatehouse
