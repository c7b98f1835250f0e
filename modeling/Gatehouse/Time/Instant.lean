import Gatehouse.Time.Calendar

/-!
# Instants and the skew window

An instant is a second counted from the Unix epoch and nanoseconds within it.  A leap second is the
second before it with a thousand million nanoseconds more; it can follow any second, although the
calendar has one at the end of a minute only.  `Instant.since` is the time between two instants with
leap seconds counted, and `Skew.window` is the largest drift that a skew accepts.
-/

namespace Gatehouse

/-- The number of nanoseconds in a second. -/
def nanosPerSecond : Nat := 1000000000

/-- The number of seconds in a day. -/
def secondsPerDay : Int := 86400

/-- There are nanoseconds below a second. -/
theorem nanosPerSecond_pos : 0 < nanosPerSecond := Nat.succ_pos 999999999

/-- There are nanoseconds below two seconds. -/
theorem two_mul_nanosPerSecond_pos : 0 < 2 * nanosPerSecond := Nat.succ_pos 1999999999

/-- A number of nanoseconds below a second. -/
instance (n : Nat) : OfNat (Fin nanosPerSecond) n :=
  ⟨⟨n % nanosPerSecond, Nat.mod_lt n nanosPerSecond_pos⟩⟩

/-- A number of nanoseconds below two seconds. -/
instance (n : Nat) : OfNat (Fin (2 * nanosPerSecond)) n :=
  ⟨⟨n % (2 * nanosPerSecond), Nat.mod_lt n two_mul_nanosPerSecond_pos⟩⟩

namespace EpochSecond

/-- The first second that can be represented, the start of the year -262143. -/
def earliest : Int := (Calendar.daysBefore (-262143) - Calendar.epochDay) * secondsPerDay

/-- The second after the last one that can be represented, the end of the year 262142. -/
def latest : Int := (Calendar.daysBefore 262143 - Calendar.epochDay) * secondsPerDay

end EpochSecond

/-- A second of the calendar, counted from the Unix epoch. -/
structure EpochSecond where
  toInt : Int
  earliest_le : EpochSecond.earliest ≤ toInt
  lt_latest : toInt < EpochSecond.latest
deriving DecidableEq, Repr

namespace EpochSecond

/-- The calendar is not empty. -/
theorem earliest_lt_latest : earliest < latest := by decide

/-- The second of the calendar that is nearest to a number. -/
def nearest (n : Int) : EpochSecond :=
  ⟨max earliest (min n (latest - 1)), Int.le_max_left _ _,
    Int.max_lt.mpr ⟨earliest_lt_latest, Int.lt_of_le_of_lt (Int.min_le_right _ _) (by omega)⟩⟩

instance (n : Nat) : OfNat EpochSecond n := ⟨nearest n⟩

/-- The first second of the calendar. -/
def first : EpochSecond := nearest earliest

/-- The last second of the calendar. -/
def last : EpochSecond := nearest latest

end EpochSecond

/-- A point in time in UTC. -/
structure Instant where
  /-- Seconds since the epoch. -/
  seconds : EpochSecond
  /-- Nanoseconds, a thousand million or more in a leap second. -/
  nanos : Fin (2 * nanosPerSecond)
deriving DecidableEq, Repr

namespace Instant

/--
The instant of a timestamp, if there is one: it has a leap second at the end of a minute only.
-/
def of? (seconds : Int) (nanos : Nat) : Option Instant :=
  if h : (EpochSecond.earliest ≤ seconds ∧ seconds < EpochSecond.latest) ∧
    nanos < 2 * nanosPerSecond
      ∧ (nanos < nanosPerSecond ∨ seconds % 60 = 59) then
    some ⟨⟨seconds, h.1.1, h.1.2⟩, ⟨nanos, h.2.1⟩⟩
  else none

/-- The day number of an instant. -/
def day (t : Instant) : Int := t.seconds.toInt / secondsPerDay + Calendar.epochDay

/-- The second of the day. -/
def secondOfDay (t : Instant) : Int := t.seconds.toInt % secondsPerDay

/-- Whether the instant lies in a leap second. -/
def inLeapSecond (t : Instant) : Bool := nanosPerSecond ≤ t.nanos

/--
The nanoseconds from `s` to `t`.  A leap second adds one second between two times of day exactly if
it lies strictly between them, that is if the earlier time of day is in it.
-/
def since (t s : Instant) : Int :=
  let between : Int :=
    if s.secondOfDay < t.secondOfDay ∧ s.inLeapSecond then 1
    else if t.secondOfDay < s.secondOfDay ∧ t.inLeapSecond then -1
    else 0
  (t.seconds.toInt - s.seconds.toInt + between) * nanosPerSecond + (t.nanos - s.nanos : Int)

end Instant

/-- A span of time without sign: whole seconds and nanoseconds below one second. -/
structure Skew where
  seconds : Nat
  nanos : Fin nanosPerSecond
deriving DecidableEq, Repr

namespace Skew

/-- The span of whole seconds. -/
def ofSeconds (s : Nat) : Skew := ⟨s, 0⟩

/-- The span of seconds and nanoseconds; whole seconds among the nanoseconds are carried. -/
def ofParts (seconds nanos : Nat) : Skew :=
  ⟨seconds + nanos / nanosPerSecond, nanos % nanosPerSecond, Nat.mod_lt nanos nanosPerSecond_pos⟩

/-- The span in nanoseconds. -/
def toNanos (s : Skew) : Nat := s.seconds * nanosPerSecond + s.nanos

/-- The longest signed span: 2⁶³ - 1 milliseconds, in nanoseconds. -/
def longest : Nat := 9223372036854775807 * 1000000

/-- The largest drift accepted, cut down to the longest signed span. -/
def window (s : Skew) : Int := min s.toNanos longest

/-- Whether a drift is inside the window in either direction. -/
def accepts (s : Skew) (drift : Int) : Bool := drift ≤ s.window && -s.window ≤ drift

/-- The skew used unless another one is given, sixty seconds. -/
def standard : Skew := ofSeconds 60

end Skew

/-- A source of the current time: the instant after a number of milliseconds of running. -/
abbrev Clock := Nat → Instant

/-- The clock that always shows one instant. -/
def Clock.fixed (t : Instant) : Clock := fun _ => t

end Gatehouse
