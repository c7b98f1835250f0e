/-!
# The Gregorian calendar

Dates of the proleptic Gregorian calendar as day numbers, counted from the first of January of the
year zero.  `Date.toDay` and `Date.ofDay` turn one into the other; the day that begins the Unix
epoch has number `epochDay`.
-/

namespace Gatehouse.Calendar

/-- A leap year: divisible by four and not by a hundred, or divisible by four hundred. -/
def isLeap (y : Int) : Bool := y % 4 == 0 && (y % 100 != 0 || y % 400 == 0)

/-- The number of days before the first of January of a year. -/
def daysBefore (y : Int) : Int := 365 * y + (y + 3) / 4 - (y + 99) / 100 + (y + 399) / 400

/-- The lengths of the twelve months. -/
def monthLengths (leap : Bool) : List Nat :=
  [31, if leap then 29 else 28, 31, 30, 31, 30, 31, 31, 30, 31, 30, 31]

/-- The days of a list of months. -/
def daysIn : List Nat → Nat
  | [] => 0
  | len :: rest => len + daysIn rest

/-- The number of days in a month, zero outside of the months one to twelve. -/
def daysInMonth (y : Int) (m : Nat) : Nat :=
  if m = 0 then 0 else (monthLengths (isLeap y)).getD (m - 1) 0

/-- The year in which a day lies: the estimate from the mean length of a year, put right by one. -/
def yearOf (day : Int) : Int :=
  let y := 400 * day / 146097
  if day < daysBefore y then y - 1
  else if daysBefore (y + 1) ≤ day then y + 1
  else y

/-- The month and the day of the month of a day counted from zero within its year. -/
def monthOf : List Nat → Nat → Nat × Nat
  | [], n => (1, n + 1)
  | len :: rest, n => if n < len then (1, n + 1) else
      let (m, d) := monthOf rest (n - len)
      (m + 1, d)

/-- A calendar date. -/
structure Date where
  year : Int
  month : Nat
  day : Nat
deriving DecidableEq, Repr

namespace Date

/-- A date that the calendar has. -/
def isValid (d : Date) : Bool :=
  1 ≤ d.month && d.month ≤ 12 && 1 ≤ d.day && d.day ≤ daysInMonth d.year d.month

/-- The day number of a date. -/
def toDay (d : Date) : Int :=
  daysBefore d.year + daysIn ((monthLengths (isLeap d.year)).take (d.month - 1)) + (d.day - 1 : Int)

/-- The date of a day number. -/
def ofDay (n : Int) : Date :=
  let y := yearOf n
  let (m, d) := monthOf (monthLengths (isLeap y)) (n - daysBefore y).toNat
  ⟨y, m, d⟩

end Date

/-- The number of the first of January 1970. -/
def epochDay : Int := 719528

end Gatehouse.Calendar
