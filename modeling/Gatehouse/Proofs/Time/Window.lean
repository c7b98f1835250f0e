import Gatehouse.Proofs.Time.Rfc3339

/-!
# The skew window on instants

The window of a skew is cut down to the longest signed span.  Two instants are never that far apart
(`Instant.natAbs_since_le`), so between them the cut makes no difference: a drift is accepted
exactly if it is no longer than the skew (`Skew.accepts_since_iff`).
-/

namespace Gatehouse

namespace Instant

/-- The numbers of an instant lie between these bounds. -/
lemma bounds (t : Instant) : -8334601228800 ≤ t.seconds.toInt ∧ t.seconds.toInt < 8210266876800 ∧
    (t.nanos : Nat) < 2000000000 := ⟨t.seconds.bounds.1, t.seconds.bounds.2, t.nanos.isLt⟩

/-- Two instants are less than the longest signed span apart. -/
lemma natAbs_since_le (t s : Instant) : (t.since s).natAbs ≤ Skew.longest := by
  obtain ⟨ht1, ht2, ht3⟩ := t.bounds
  obtain ⟨hs1, hs2, hs3⟩ := s.bounds
  simp only [since, nanosPerSecond, Skew.longest]
  split
  · omega
  · split
    · omega
    · omega

end Instant

namespace Skew

/-- A window accepts the drifts that are no longer than it in either direction. -/
lemma accepts_iff (s : Skew) (drift : Int) :
    s.accepts drift = true ↔ drift.natAbs ≤ min s.toNanos longest := by
  simp only [accepts, Bool.and_eq_true, decide_eq_true_eq]
  simp only [window]
  omega

/-- Between instants a skew accepts the drifts that are no longer than itself. -/
lemma accepts_since_iff (s : Skew) (now signedAt : Instant) :
    s.accepts (now.since signedAt) = true ↔ (now.since signedAt).natAbs ≤ s.toNanos := by
  have far := now.natAbs_since_le signedAt
  rw [accepts_iff]
  omega

end Skew

end Gatehouse
