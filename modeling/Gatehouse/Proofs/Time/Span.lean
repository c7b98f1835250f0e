import Gatehouse.Proofs.Time.Window

/-!
# The skew window in checked arithmetic

A signed span is kept as whole seconds and nanoseconds on top of them, and every operation on spans
refuses what is longer than the longest span.  `Span.Writes` ties a span to its number of
nanoseconds, and each operation has one lemma that says which number it writes.  The window of a
skew, its negation and the drift between two instants, which is taken apart into days and times of
day, are therefore never refused, and comparing them is comparing nanoseconds (`Skew.window_exact`).
-/

namespace Gatehouse

/-- A signed span of time: whole seconds, and nanoseconds on top of them. -/
structure Span where
  seconds : Int
  nanos : Nat
deriving DecidableEq, Repr

namespace Span

/-- The order of spans: by their seconds, and by their nanoseconds if those are equal. -/
def le (a b : Span) : Bool := a.seconds < b.seconds || (a.seconds == b.seconds && a.nanos ≤ b.nanos)

/-- The longest span, 2⁶³ - 1 milliseconds. -/
def greatest : Span := ⟨9223372036854775, 807000000⟩

/-- The same backwards. -/
def least : Span := ⟨-9223372036854776, 193000000⟩

/-- The span of seconds and nanoseconds, if it is not too long. -/
def of? (seconds : Int) (nanos : Nat) : Option Span :=
  let s : Span := ⟨seconds, nanos⟩
  if nanos < nanosPerSecond && least.le s && s.le greatest then some s else none

/-- The span in the other direction. -/
def neg? (s : Span) : Option Span :=
  if s.nanos = 0 then of? (-s.seconds) 0 else of? (-s.seconds - 1) (nanosPerSecond - s.nanos)

/-- One span after the other. -/
def add? (a b : Span) : Option Span :=
  if a.nanos + b.nanos < nanosPerSecond then of? (a.seconds + b.seconds) (a.nanos + b.nanos)
  else of? (a.seconds + b.seconds + 1) (a.nanos + b.nanos - nanosPerSecond)

/--
A span writes a number of nanoseconds: less than a second of them stand on top of its seconds.
-/
structure Writes (s : Span) (n : Int) : Prop where
  below : s.nanos < nanosPerSecond
  value : s.seconds * nanosPerSecond + s.nanos = n
  short : n.natAbs ≤ Skew.longest

variable {a b s : Span} {m n : Int}

/-- With less than a second on top the order of spans is that of their nanoseconds. -/
lemma le_iff (below_a : a.nanos < nanosPerSecond) (below_b : b.nanos < nanosPerSecond) :
    a.le b = true ↔ a.seconds * nanosPerSecond + a.nanos ≤
      b.seconds * nanosPerSecond + b.nanos := by
  simp only [le, Bool.or_eq_true, Bool.and_eq_true, decide_eq_true_eq, beq_iff_eq]
  simp only [nanosPerSecond] at *
  omega

/-- Spans are ordered as the numbers that they write. -/
lemma Writes.le_iff (wa : a.Writes m) (wb : b.Writes n) : a.le b = true ↔ m ≤ n := by
  rw [Span.le_iff wa.below wb.below, wa.value, wb.value]

/-- The longest span writes the largest number. -/
lemma writes_greatest : greatest.Writes Skew.longest := ⟨by decide, by decide, by decide⟩

/-- The longest span backwards writes the smallest number. -/
lemma writes_least : least.Writes (-Skew.longest) := ⟨by decide, by decide, by decide⟩

/-- A number that is not too large is written. -/
lemma exists_of? {seconds : Int} {nanos : Nat} (below : nanos < nanosPerSecond)
    (value : seconds * nanosPerSecond + nanos = n) (short : n.natAbs ≤ Skew.longest) :
    ∃ s, of? seconds nanos = some s ∧ s.Writes n := by
  have written : Writes ⟨seconds, nanos⟩ n := ⟨below, value, short⟩
  have above : least.le ⟨seconds, nanos⟩ = true := (writes_least.le_iff written).mpr (by omega)
  have under : le ⟨seconds, nanos⟩ greatest = true :=
    (written.le_iff writes_greatest).mpr (by omega)
  exact ⟨_, by simp [of?, below, above, under], written⟩

/-- No other number is. -/
lemma of?_eq_none {seconds : Int} {nanos : Nat}
    (long : Skew.longest < seconds * nanosPerSecond + nanos) :
    of? seconds nanos = none := by
  rw [of?, if_neg]
  simp only [Bool.and_eq_true, decide_eq_true_eq]
  rintro ⟨⟨below, -⟩, under⟩
  rw [le_iff below writes_greatest.below, writes_greatest.value] at under
  exact absurd under (Int.not_le.mpr long)

/-- Every span can be turned around. -/
lemma Writes.exists_neg? (w : s.Writes n) : ∃ s', s.neg? = some s' ∧ s'.Writes (-n) := by
  obtain ⟨below, value, short⟩ := w
  have short' : (-n).natAbs ≤ Skew.longest := by rwa [Int.natAbs_neg]
  unfold neg?
  split
  case isTrue whole =>
    refine exists_of? (by decide) ?_ short'
    simp only [nanosPerSecond] at *
    omega
  case isFalse =>
    refine exists_of? ?_ ?_ short'
    · omega
    · simp only [nanosPerSecond] at *
      omega

/-- Spans can be added if the sum is not too long. -/
lemma Writes.exists_add? (wa : a.Writes m) (wb : b.Writes n)
    (short : (m + n).natAbs ≤ Skew.longest) :
    ∃ s, a.add? b = some s ∧ s.Writes (m + n) := by
  obtain ⟨below_a, value_a, -⟩ := wa
  obtain ⟨below_b, value_b, -⟩ := wb
  unfold add?
  split
  case isTrue below =>
    refine exists_of? below ?_ short
    simp only [nanosPerSecond] at *
    omega
  case isFalse =>
    refine exists_of? ?_ ?_ short
    · omega
    · simp only [nanosPerSecond] at *
      omega

end Span

namespace Instant

/-- The leap second that lies between two times of day, if the earlier one is in it. -/
def leapBetween (t s : Instant) : Int :=
  if s.secondOfDay < t.secondOfDay ∧ s.inLeapSecond then 1
  else if t.secondOfDay < s.secondOfDay ∧ t.inLeapSecond then -1
  else 0

/-- The span from the day of `s` to that of `t`. -/
def daysSince? (t s : Instant) : Option Span := Span.of? ((t.day - s.day) * secondsPerDay) 0

/-- The span from the time of day of `s` to that of `t`. -/
def clockSince? (t s : Instant) : Option Span :=
  let nanos : Int := t.nanos - s.nanos
  Span.of? (t.secondOfDay - s.secondOfDay + t.leapBetween s + nanos / nanosPerSecond)
    (nanos % nanosPerSecond).toNat

/-- The span from `s` to `t`. -/
def spanSince? (t s : Instant) : Option Span := do
  let days ← t.daysSince? s
  let clock ← t.clockSince? s
  days.add? clock

variable {t s : Instant}

/-- There is one leap second between two times of day, in one direction or the other, or none. -/
lemma leapBetween_cases (t s : Instant) :
    t.leapBetween s = 0 ∨ t.leapBetween s = 1 ∨ t.leapBetween s = -1 := by
  unfold leapBetween
  split
  case isTrue => exact .inr (.inl rfl)
  case isFalse =>
    split
    case isTrue => exact .inr (.inr rfl)
    case isFalse => exact .inl rfl

/-- Only one of two times of day is the earlier one. -/
lemma leapBetween_swap (t s : Instant) : s.leapBetween t = -t.leapBetween s := by
  unfold leapBetween
  rcases Int.lt_trichotomy s.secondOfDay t.secondOfDay with before | same | behind
  · simp only [before, Int.not_lt.mpr (Int.le_of_lt before), true_and, false_and, if_false]
    split
    all_goals rfl
  · simp only [same, Int.lt_irrefl, false_and, if_false, Int.neg_zero]
  · simp only [behind, Int.not_lt.mpr (Int.le_of_lt behind), true_and, false_and, if_false]
    split
    all_goals rfl

/--
The time between two instants: their seconds with the leap second between them, and their
nanoseconds.
-/
lemma since_eq (t s : Instant) :
    t.since s = (t.seconds.toInt - s.seconds.toInt + t.leapBetween s) * nanosPerSecond
      + (t.nanos - s.nanos : Int) := rfl

/-- Backwards the time between two instants is the same, leap seconds included. -/
lemma since_swap (t s : Instant) : s.since t = -t.since s := by
  rw [since_eq, since_eq, leapBetween_swap]
  simp only [nanosPerSecond]
  omega

/-- The span between two instants is computed, part by part. -/
lemma exists_spanSince? (t s : Instant) :
    ∃ d, t.spanSince? s = some d ∧ d.Writes (t.since s) := by
  obtain ⟨ht1, ht2, ht3⟩ := t.bounds
  obtain ⟨hs1, hs2, hs3⟩ := s.bounds
  have leap := leapBetween_cases t s
  have parts : t.since s = (t.day - s.day) * secondsPerDay * nanosPerSecond +
      ((t.secondOfDay - s.secondOfDay + t.leapBetween s) * nanosPerSecond +
      (t.nanos - s.nanos : Int)) := by
    rw [since_eq]
    simp only [day, secondOfDay, secondsPerDay, nanosPerSecond]
    omega
  -- days and times of day are short enough each, and so is their sum
  have total := natAbs_since_le t s
  obtain ⟨days, ed, wd⟩ : ∃ d, t.daysSince? s = some d ∧
      d.Writes ((t.day - s.day) * secondsPerDay * nanosPerSecond) := by
    refine Span.exists_of? (by decide) (by omega) ?_
    simp only [day, secondsPerDay, Calendar.epochDay, nanosPerSecond, Skew.longest]
    omega
  obtain ⟨clock, ec, wc⟩ : ∃ c, t.clockSince? s = some c ∧ c.Writes
      ((t.secondOfDay - s.secondOfDay + t.leapBetween s) * nanosPerSecond +
      (t.nanos - s.nanos : Int)) := by
    refine Span.exists_of? ?_ ?_ ?_
    · simp only [nanosPerSecond]
      omega
    · simp only [nanosPerSecond]
      omega
    · simp only [secondOfDay, secondsPerDay, nanosPerSecond, Skew.longest]
      omega
  rw [parts] at total ⊢
  obtain ⟨d, e, w⟩ := wd.exists_add? wc total
  refine ⟨d, ?_, w⟩
  rw [spanSince?, ed, ec]
  exact e

end Instant

namespace Skew

/-- The window of a skew: a span that is too long is cut down to the longest one. -/
def span (s : Skew) : Span := (Span.of? s.seconds s.nanos).getD .greatest

/--
Whether the second instant is within the skew of the first, if no step of it leaves the range of
spans.
-/
def judge? (s : Skew) (now signedAt : Instant) : Option Bool := do
  let lower ← s.span.neg?
  let drift ← now.spanSince? signedAt
  pure (drift.le s.span && lower.le drift)

variable {s s' : Skew} {now signedAt : Instant}

/-- A skew in nanoseconds as a whole number. -/
lemma toNanos_eq (s : Skew) : (s.toNanos : Int) = s.seconds * nanosPerSecond + s.nanos := by
  rw [toNanos, Int.natCast_add, Int.natCast_mul]

/-- A skew is no span if it is longer than the longest one. -/
lemma of?_eq_none_iff (s : Skew) :
    Span.of? s.seconds s.nanos = none ↔ longest < s.toNanos := by
  constructor
  · intro refused
    refine Nat.lt_of_not_le fun fits => ?_
    obtain ⟨w, e, -⟩ := Span.exists_of? s.nanos.isLt s.toNanos_eq.symm (by rwa [Int.natAbs_natCast])
    rw [refused] at e
    cases e
  · intro long
    exact Span.of?_eq_none (by rw [← toNanos_eq]; exact Int.ofNat_lt.mpr long)

/-- The window of a skew as a span writes the window in nanoseconds. -/
lemma writes_span (s : Skew) : s.span.Writes s.window := by
  by_cases fits : s.toNanos ≤ longest
  · obtain ⟨w, e, written⟩ :=
      Span.exists_of? s.nanos.isLt s.toNanos_eq.symm (by rwa [Int.natAbs_natCast])
    have same : s.window = s.toNanos := Int.min_eq_left (Int.ofNat_le.mpr fits)
    rw [span, e, same]
    exact written
  · have long : longest < s.toNanos := Nat.lt_of_not_le fits
    have same : s.window = longest := Int.min_eq_right (Int.ofNat_le.mpr (Nat.le_of_lt long))
    rw [span, s.of?_eq_none_iff.mpr long, same]
    exact Span.writes_greatest

/--
For every skew and all instants the window, its negation and the drift are computed without leaving
the range of spans, and the verdict is whether the drift is no longer than the skew, in nanoseconds.
Neither instant counts for more than the other, a larger skew accepts more, and one that is too long
for a span accepts all.
-/
theorem window_exact (s : Skew) (now signedAt : Instant) :
    (∃ lower drift, s.span.neg? = some lower ∧ now.spanSince? signedAt = some drift ∧
      s.span.Writes s.window ∧
      lower.Writes (-s.window) ∧ drift.Writes (now.since signedAt)) ∧
    s.judge? now signedAt = some (s.accepts (now.since signedAt)) ∧
    (s.accepts (now.since signedAt) = true ↔ (now.since signedAt).natAbs ≤ s.toNanos) ∧
    s.accepts (signedAt.since now) = s.accepts (now.since signedAt) ∧
    (∀ s' : Skew, s.toNanos ≤ s'.toNanos → s.accepts (now.since signedAt) = true →
      s'.accepts (now.since signedAt) = true) ∧
    (Span.of? s.seconds s.nanos = none ↔ longest < s.toNanos) ∧
    (longest < s.toNanos → s.accepts (now.since signedAt) = true) := by
  have verdict (s : Skew) := s.accepts_since_iff now signedAt
  obtain ⟨lower, el, wl⟩ := s.writes_span.exists_neg?
  obtain ⟨drift, ed, wd⟩ := now.exists_spanSince? signedAt
  refine ⟨⟨lower, drift, el, ed, s.writes_span, wl, wd⟩, ?judged, verdict s, ?swapped,
    fun s' le accepted => ?larger, s.of?_eq_none_iff, fun long => ?all⟩
  case judged =>
    rw [judge?, el, ed]
    have compared : (drift.le s.span && lower.le drift) = s.accepts (now.since signedAt) := by
      rw [Bool.eq_iff_iff, Bool.and_eq_true, wd.le_iff s.writes_span, wl.le_iff wd, accepts,
        Bool.and_eq_true, decide_eq_true_eq, decide_eq_true_eq]
    rw [← compared]
    rfl
  case swapped =>
    rw [Bool.eq_iff_iff, accepts_since_iff s signedAt now, verdict s, Instant.since_swap,
      Int.natAbs_neg]
  case larger => exact (verdict s').mpr (Nat.le_trans ((verdict s).mp accepted) le)
  case all =>
    exact (verdict s).mpr (Nat.le_trans (now.natAbs_since_le signedAt) (Nat.le_of_lt long))

/--
From the first instant there is to the end of the very last leap second the verdict turns at one
nanosecond.
-/
theorem window_exact_widest :
    judge? ⟨16544868105600, 999999998⟩ ⟨.first, 0⟩ ⟨.last, 1999999999⟩ = some false ∧
    judge? ⟨18446744073709551615, 999999999⟩ ⟨.first, 0⟩ ⟨.last, 1999999999⟩ = some true := by
  obtain ⟨-, judged, -⟩ := window_exact ⟨16544868105600, 999999998⟩ ⟨.first, 0⟩ ⟨.last, 1999999999⟩
  obtain ⟨-, judged', -, -, -, -, all⟩ :=
    window_exact ⟨18446744073709551615, 999999999⟩ ⟨.first, 0⟩ ⟨.last, 1999999999⟩
  rw [judged, judged', all (by decide)]
  exact ⟨by decide, rfl⟩

end Skew

end Gatehouse
