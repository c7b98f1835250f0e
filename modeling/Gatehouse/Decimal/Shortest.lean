import Gatehouse.Decimal.Binary64

/-!
# Shortest decimal text of a binary number

The fewest decimal digits that read back as the number, and of those the nearest to it
(`Shortest.digits`), written positionally from `0.00001` up to seventeen digits before the point and
with an exponent otherwise (`Shortest.render`).
-/

namespace Gatehouse.Shortest

/--
The decimals that round to a magnitude, scaled: the value and both ends in quarters of a unit.
-/
structure Range where
  value : Nat
  low : Nat
  high : Nat
  /-- Whether the ends themselves round to the magnitude. -/
  closed : Bool
  /-- The power of two of a quarter. -/
  power : Int

/-- The range of a finite magnitude. -/
def rangeOf (magnitude : Nat) : Range :=
  let (m, q) := Binary64.parts magnitude
  let near := m == Binary64.exponentUnit && (-1074 : Int) < q
  ⟨4 * m, 4 * m - if near then 1 else 2, 4 * m + 2, m % 2 == 0, q - 2⟩

/-- `x` quarters as a numerator over the grid of `10 ^ k`, and the denominator. -/
def onGrid (r : Range) (k : Int) (x : Nat) : Nat × Nat :=
  (x * Nat.pow 2 r.power.toNat * Nat.pow 10 (-k).toNat,
    Nat.pow 2 (-r.power).toNat * Nat.pow 10 k.toNat)

/-- Whether the grid point `c * 10 ^ k` lies in the range. -/
def inRange (r : Range) (k : Int) (c : Nat) : Bool :=
  let (lo, d) := onGrid r k r.low
  let (hi, _) := onGrid r k r.high
  if r.closed then lo ≤ c * d && c * d ≤ hi else lo < c * d && c * d < hi

/-- The point of the grid in the range that is nearest to the value, an even one on a tie. -/
def pick? (r : Range) (k : Int) : Option Nat :=
  let (n, d) := onGrid r k r.value
  let c := n / d
  match inRange r k c, inRange r k (c + 1) with
  | true, true =>
    let rest := n % d
    some (if 2 * rest < d || (2 * rest == d && c % 2 == 0) then c else c + 1)
  | true, false => some c
  | false, true => some (c + 1)
  | false, false => none

/-- The first grid, from coarse to fine, with a point in the range. -/
def search (r : Range) : Nat → Int → Nat × Int
  | 0, k => ((pick? r k).getD 0, k)
  | n + 1, k =>
    match pick? r k with
    | some (c + 1) => (c + 1, k)
    | _ => search r n (k - 1)

/-- Digits without trailing zeros, and the power of ten that makes up for those cut off. -/
def strip : Nat → Nat → Int → Nat × Int
  | 0, c, k => (c, k)
  | n + 1, c, k => if c % 10 = 0 then strip n (c / 10) (k + 1) else (c, k)

/-- The shortest digits of a finite magnitude other than zero, and their power of ten. -/
def digits (magnitude : Nat) : Nat × Int :=
  let r := rangeOf magnitude
  let (n, d) := onGrid r 0 r.value
  let estimate : Int := (toString (n / d)).length
  let top : Int := if n / d = 0 then -(((toString (d / n)).length : Int) - 1) else estimate
  let (c, k) := search r 18 top
  strip 20 c k

/-- The text of digits times a power of ten. -/
def layout (ds : List Char) (k : Int) : List Char :=
  let n : Int := ds.length
  let point := n + k
  if 0 ≤ k ∧ point ≤ 16 then ds ++ List.replicate k.toNat '0' ++ ['.', '0']
  else if 0 < point ∧ point ≤ 16 then ds.take point.toNat ++ '.' :: ds.drop point.toNat
  else if -5 < point ∧ point ≤ 0 then '0' :: '.' :: List.replicate (-point).toNat '0' ++ ds
  else
    let exponent := 'e' :: (toString (point - 1)).toList
    match ds with
    | [d] => d :: exponent
    | d :: rest => d :: '.' :: rest ++ exponent
    | [] => []

/-- The text of a finite number. -/
def render (x : Binary64) : String :=
  let sign := if x.negative then ['-'] else []
  if x.magnitude = 0 then String.ofList (sign ++ ['0', '.', '0'])
  else
    let (c, k) := digits x.magnitude
    String.ofList (sign ++ layout (toString c).toList k)

end Gatehouse.Shortest
