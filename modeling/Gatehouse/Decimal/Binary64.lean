/-!
# Binary floating point of sixty-four bits

A finite number is a sign and a magnitude `m * 2 ^ q`.  `Binary64.ofRatio` rounds a fraction to the
nearest magnitude, a tie to the even one; `Binary64.ofDecimal` does so for `m * 10 ^ e`.  Magnitudes
are held as the bits of their encoding without the sign, so that they are ordered as numbers are.
-/

namespace Gatehouse

/-- The bits of a number: sign, exponent and fraction. -/
structure Binary64 where
  negative : Bool
  /-- The lower sixty-three bits. -/
  magnitude : Nat
deriving DecidableEq, Repr

namespace Binary64

/-- The weight of the exponent field. -/
def exponentUnit : Nat := 4503599627370496

/-- The magnitude of infinity. -/
def infinity : Nat := 2047 * exponentUnit

/-- The magnitude of the quiet value that is not a number. -/
def notANumber : Nat := infinity + exponentUnit / 2

/-- The power of two below a fraction, rounded down. -/
def floorLog (num den : Nat) : Int :=
  let e : Int := (num.log2 : Int) - den.log2
  if num * Nat.pow 2 (-e).toNat < den * Nat.pow 2 e.toNat then e - 1 else e

/-- The magnitude nearest to a fraction, of two equally near ones the even one. -/
def ofRatio (num den : Nat) : Nat :=
  if num = 0 then 0
  else
    let q := max (floorLog num den - 52) (-1074)
    let n := num * Nat.pow 2 (-q).toNat
    let d := den * Nat.pow 2 q.toNat
    let m := n / d
    let r := n % d
    let up := d < 2 * r || (2 * r == d && m % 2 == 1)
    min ((q + 1074).toNat * exponentUnit + m + if up then 1 else 0) infinity

/-- The magnitude nearest to `m * 10 ^ e`; exponents out of all range are cut off first. -/
def ofDecimal (m : Nat) (e : Int) : Nat :=
  if m = 0 then 0
  else
    let size : Int := (toString m).length + e
    if 400 < size then infinity
    else if size < -400 then 0
    else ofRatio (m * Nat.pow 10 e.toNat) (Nat.pow 10 (-e).toNat)

/-- The significand and the power of two of a finite magnitude. -/
def parts (magnitude : Nat) : Nat × Int :=
  let field := magnitude / exponentUnit
  let fraction := magnitude % exponentUnit
  if field = 0 then (fraction, -1074) else (fraction + exponentUnit, (field : Int) - 1075)

/-- The exact value of a finite magnitude as a fraction. -/
def fraction (magnitude : Nat) : Nat × Nat :=
  let (m, q) := parts magnitude
  (m * Nat.pow 2 q.toNat, Nat.pow 2 (-q).toNat)

/-- The product of two finite magnitudes, rounded once. -/
def mul (x y : Nat) : Nat :=
  ofRatio ((fraction x).1 * (fraction y).1) ((fraction x).2 * (fraction y).2)

/-- The quotient of two finite magnitudes, the second not zero, rounded once. -/
def div (x y : Nat) : Nat :=
  ofRatio ((fraction x).1 * (fraction y).2) ((fraction x).2 * (fraction y).1)

/-- The greatest power of ten that is finite. -/
def longestPower : Nat := 308

/--
A rounded significand scaled by a power of ten that is rounded, too, so that long numerals may miss
the nearest number by a little; nothing if the result is infinite.  Powers that are too small are
taken in steps, and three steps take every significand of sixty-four bits to zero.
-/
def scaled? (x : Nat) (e : Int) : Nat → Option Nat
  | 0 => some 0
  | steps + 1 =>
    if e.natAbs ≤ longestPower then
      let y := if 0 ≤ e then mul x (ofDecimal 1 e) else div x (ofDecimal 1 (-e))
      if y < infinity then some y else none
    else if x = 0 then some 0
    else if 0 ≤ e then none
    else scaled? (div x (ofDecimal 1 longestPower)) (e + longestPower) steps

/-- All sixty-four bits. -/
def bits (x : Binary64) : Nat := x.magnitude + if x.negative then Nat.pow 2 63 else 0

/-- Whether the number is neither infinite nor undefined. -/
def isFinite (x : Binary64) : Bool := x.magnitude < infinity

/-- The number of a natural number. -/
def ofNat (n : Nat) : Binary64 := ⟨false, ofRatio n 1⟩

/-- The number of an integer. -/
def ofInt (n : Int) : Binary64 := ⟨n < 0, ofRatio n.natAbs 1⟩

end Binary64

end Gatehouse
