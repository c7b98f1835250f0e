import Gatehouse.Text.Ascii
import Gatehouse.Time.Instant

/-!
# RFC 3339 timestamps

`Rfc3339.render` writes an instant to the whole second in UTC, `2026-02-24T10:15:30Z`; a leap second
is written as second sixty, and a year outside of 0 to 9999 with a sign and at least four digits.
`Rfc3339.parse?` reads the format: four digits of year, a `T`, `t` or blank before the time, a
fraction of any number of digits, and `Z`, `z` or a numeric offset of less than a day.
-/

namespace Gatehouse.Rfc3339

open Text (isDigit digitsValue)

/-- A decimal digit. -/
def digit (n : Nat) : Char := Char.ofNat (48 + n % 10)

/-- Two digits. -/
def two (n : Nat) : List Char := [digit (n / 10), digit n]

/-- At least four digits. -/
def four (n : Nat) : List Char :=
  if n < 10000 then [digit (n / 1000), digit (n / 100), digit (n / 10), digit n]
  else (toString n).toList

/-- A year: four digits, or a sign and at least four digits outside of 0 to 9999. -/
def renderYear (y : Int) : List Char :=
  if 0 ≤ y ∧ y ≤ 9999 then four y.toNat
  else (if y < 0 then '-' else '+') :: four y.natAbs

/-- The characters of an instant to the whole second. -/
def renderChars (t : Instant) : List Char :=
  let date := Calendar.Date.ofDay t.day
  let s := t.secondOfDay.toNat
  let second := s % 60 + if t.inLeapSecond then 1 else 0
  renderYear date.year ++ '-' :: two date.month ++ '-' :: two date.day
    ++ 'T' :: two (s / 3600) ++ ':' :: two (s / 60 % 60) ++ ':' :: two second ++ ['Z']

/-- An instant to the whole second in UTC. -/
def render (t : Instant) : String := String.ofList (renderChars t)

/-- A number of exactly `n` digits and what follows it. -/
def number? (n : Nat) (cs : List Char) : Option (Nat × List Char) :=
  let ds := cs.take n
  if ds.length = n ∧ ds.all isDigit then some (digitsValue ds, cs.drop n) else none

/-- What follows the character `c`. -/
def expect? (c : Char) : List Char → Option (List Char)
  | [] => none
  | d :: rest => if d = c then some rest else none

/-- What follows the mark between date and time. -/
def timeMark? : List Char → Option (List Char)
  | [] => none
  | c :: rest => if c = 'T' ∨ c = 't' ∨ c = ' ' then some rest else none

/-- The nanoseconds of a fraction, whose digits after the ninth are dropped, and what follows it. -/
def fraction? : List Char → Option (Nat × List Char)
  | '.' :: rest =>
    let ds := rest.takeWhile isDigit
    if ds = [] then none
    else some (digitsValue ((ds ++ List.replicate 9 '0').take 9), rest.dropWhile isDigit)
  | cs => some (0, cs)

/-- The seconds east of Greenwich that an offset states; nothing may follow it. -/
def offset? : List Char → Option Int
  | ['Z'] => some 0
  | ['z'] => some 0
  | sign :: rest => do
    let (hours, r1) ← number? 2 rest
    let r2 ← expect? ':' r1
    let (minutes, r3) ← number? 2 r2
    let seconds : Int := hours * 3600 + minutes * 60
    if r3 = [] ∧ minutes < 60 ∧ seconds < 86400 then
      if sign = '+' then some seconds else if sign = '-' then some (-seconds) else none
    else none
  | [] => none

/-- Reads a timestamp. -/
def parseChars? (cs : List Char) : Option Instant := do
  let (year, cs) ← number? 4 cs
  let cs ← expect? '-' cs
  let (month, cs) ← number? 2 cs
  let cs ← expect? '-' cs
  let (day, cs) ← number? 2 cs
  let cs ← timeMark? cs
  let (hour, cs) ← number? 2 cs
  let cs ← expect? ':' cs
  let (minute, cs) ← number? 2 cs
  let cs ← expect? ':' cs
  let (second, cs) ← number? 2 cs
  let (nanos, cs) ← fraction? cs
  let east ← offset? cs
  let date : Calendar.Date := ⟨year, month, day⟩
  if date.isValid ∧ hour < 24 ∧ minute < 60 ∧ second ≤ 60 then
    let days := date.toDay - Calendar.epochDay
    let time : Int := hour * 3600 + minute * 60 + min second 59
    let extra := if second = 60 then nanosPerSecond else 0
    Instant.of? (days * secondsPerDay + time - east) (nanos + extra)
  else none

/-- Reads a timestamp. -/
def parse? (s : String) : Option Instant := parseChars? s.toList

end Gatehouse.Rfc3339
