import Gatehouse.Json.Value
import Gatehouse.Text.Ascii

/-!
# Reading JSON

`Json.parse?` reads a whole text as one value.  It accepts exactly the grammar of the format: no
trailing comma, no leading zero, no control character inside of quotes, and surrogates only in
pairs. Integers that fit sixty-four bits stay integers, and a negative zero and all other numbers
are binary floating point: a significand of at most sixty-four bits, scaled by a power of ten.  A
number too large for that is refused.
-/

namespace Gatehouse.Json

open Text (isDigit digitsValue)

/-- White space between tokens. -/
def isBlank (c : Char) : Bool := c == ' ' || c == '\n' || c == '\t' || c == '\r'

/-- A text without its leading white space. -/
def skipBlank (cs : List Char) : List Char := cs.dropWhile isBlank

/-- The number that four hexadecimal digits write, and what follows them. -/
def hexUnit? (cs : List Char) : Option (Nat × List Char) :=
  let ds := cs.take 4
  match ds.mapM Bytes.hexValue? with
  | some vs => if vs.length = 4 then some (vs.foldl (fun n v => n * 16 + v) 0, cs.drop 4) else none
  | none => none

/-- The character that the escape after `\u` writes: one unit, or two that make a surrogate pair. -/
def escapedUnit? (cs : List Char) : Option (Char × List Char) := do
  let (hi, rest) ← hexUnit? cs
  if hi < 0xD800 ∨ 0xDFFF < hi then pure (Char.ofNat hi, rest)
  else if 0xDC00 ≤ hi then none
  else match rest with
    | '\\' :: 'u' :: rest => do
      let (lo, rest) ← hexUnit? rest
      if 0xDC00 ≤ lo ∧ lo ≤ 0xDFFF then
        pure (Char.ofNat (0x10000 + (hi - 0xD800) * 0x400 + (lo - 0xDC00)), rest)
      else none
    | _ => none

/-- The character that an escape of one letter writes. -/
def shortEscape? (c : Char) : Option Char :=
  if c = '"' ∨ c = '\\' ∨ c = '/' then some c
  else if c = 'b' then some '\x08'
  else if c = 'f' then some '\x0c'
  else if c = 'n' then some '\n'
  else if c = 'r' then some '\r'
  else if c = 't' then some '\t'
  else none

/-- The rest of a quoted text, its characters so far in reverse. -/
def quotedRest? : Nat → List Char → List Char → Option (String × List Char)
  | 0, _, _ => none
  | _ + 1, _, [] => none
  | fuel + 1, done, c :: cs =>
    if c = '"' then some (String.ofList done.reverse, cs)
    else if c.toNat < 32 then none
    else if c = '\\' then
      match cs with
      | [] => none
      | 'u' :: cs =>
        match escapedUnit? cs with
        | some (u, rest) => quotedRest? fuel (u :: done) rest
        | none => none
      | e :: cs =>
        match shortEscape? e with
        | some u => quotedRest? fuel (u :: done) cs
        | none => none
    else quotedRest? fuel (c :: done) cs

/-- Digits, at least one of them, and what follows. -/
def digits? (cs : List Char) : Option (List Char × List Char) :=
  let ds := cs.takeWhile isDigit
  if ds = [] then none else some (ds, cs.dropWhile isDigit)

/-- The digits after a point, none without one. -/
def fractionDigits? : List Char → Option (Option (List Char) × List Char)
  | '.' :: rest => (digits? rest).map fun (ds, r) => (some ds, r)
  | cs => some (none, cs)

/-- The power of ten after an `e`, none without one. -/
def exponent? : List Char → Option (Option Int × List Char)
  | c :: rest =>
    if c = 'e' ∨ c = 'E' then
      match rest with
      | '-' :: r => (digits? r).map fun (ds, r) => (some (-(digitsValue ds : Int)), r)
      | '+' :: r => (digits? r).map fun (ds, r) => (some (digitsValue ds : Int), r)
      | r => (digits? r).map fun (ds, r) => (some (digitsValue ds : Int), r)
    else some (none, c :: rest)
  | [] => some (none, [])

/--
Digits put after a number of sixty-four bits as long as the result fits; the first digit that does
not fit and all digits after it are left out and counted.
-/
def keepDigits (n : Nat) : List Char → Nat × Nat
  | [] => (n, 0)
  | d :: ds =>
    let m := n * 10 + digitsValue [d]
    if m ≤ Text.maxWord then keepDigits m ds else (n, ds.length + 1)

/--
The largest power of ten that is written with its value; a larger one is only known to be large.
-/
def mostExponent : Nat := 2147483647

/-- The magnitude of a numeral with a fraction or an exponent, or of a long integer. -/
def magnitude? (whole fraction : List Char) (exponent : Int) : Option Nat :=
  let (n, cut) := keepDigits 0 whole
  let (m, lost) := keepDigits n fraction
  if exponent.natAbs ≤ mostExponent then
    Binary64.scaled? (Binary64.ofRatio m 1) (exponent + cut - (fraction.length - lost : Nat)) 4
  else if m = 0 ∨ exponent < 0 then some 0
  else none

/-- The number with the given parts. -/
def numberOf? (negative : Bool) (whole : List Char) (fraction : Option (List Char))
    (exponent : Option Int) : Option JsonNumber :=
  let n := digitsValue whole
  let integral := fraction.isNone && exponent.isNone
  if integral ∧ ¬ negative ∧ n ≤ Text.maxWord then some (.natural n)
  else if integral ∧ negative ∧ 0 < n ∧ n ≤ 9223372036854775808 then some (.negative (n - 1))
  else (magnitude? whole (fraction.getD []) (exponent.getD 0)).map fun m => .binary ⟨negative, m⟩

/-- A number and what follows it. -/
def number? (cs : List Char) : Option (JsonNumber × List Char) := do
  let (negative, cs) := match cs with
    | '-' :: rest => (true, rest)
    | _ => (false, cs)
  let (whole, cs) ← digits? cs
  if whole.head? = some '0' ∧ 1 < whole.length then none
  else do
    let (fraction, cs) ← fractionDigits? cs
    let (exponent, cs) ← exponent? cs
    let n ← numberOf? negative whole fraction exponent
    pure (n, cs)

mutual
/-- A value and what follows it. -/
def value? : Nat → List Char → Option (Json × List Char)
  | 0, _ => none
  | fuel + 1, cs =>
    match skipBlank cs with
    | [] => none
    | '"' :: cs => (quotedRest? (fuel + 1) [] cs).map fun (s, r) => (str s, r)
    | '[' :: cs =>
      match skipBlank cs with
      | ']' :: rest => some (arr [], rest)
      | cs => (items? fuel cs).map fun (vs, r) => (arr vs, r)
    | '\x7b' :: cs =>
      match skipBlank cs with
      | '\x7d' :: rest => some (obj [], rest)
      | cs => (members? fuel cs).map fun (ms, r) => (obj ms, r)
    | 'n' :: 'u' :: 'l' :: 'l' :: rest => some (null, rest)
    | 't' :: 'r' :: 'u' :: 'e' :: rest => some (bool true, rest)
    | 'f' :: 'a' :: 'l' :: 's' :: 'e' :: rest => some (bool false, rest)
    | cs => (number? cs).map fun (n, r) => (num n, r)

/-- Items up to the closing bracket, at least one. -/
def items? : Nat → List Char → Option (List Json × List Char)
  | 0, _ => none
  | fuel + 1, cs =>
    match value? fuel cs with
    | none => none
    | some (v, rest) =>
      match skipBlank rest with
      | ',' :: rest => (items? fuel rest).map fun (vs, r) => (v :: vs, r)
      | ']' :: rest => some ([v], rest)
      | _ => none

/-- Members up to the closing brace, at least one. -/
def members? : Nat → List Char → Option (List (String × Json) × List Char)
  | 0, _ => none
  | fuel + 1, cs =>
    match skipBlank cs with
    | '"' :: cs =>
      match quotedRest? (fuel + 1) [] cs with
      | none => none
      | some (key, rest) =>
        match skipBlank rest with
        | ':' :: rest =>
          match value? fuel rest with
          | none => none
          | some (v, rest) =>
            match skipBlank rest with
            | ',' :: rest => (members? fuel rest).map fun (ms, r) => ((key, v) :: ms, r)
            | '\x7d' :: rest => some ([(key, v)], rest)
            | _ => none
        | _ => none
    | _ => none
end

/-- Reads a whole text as one value. -/
def parseChars? (cs : List Char) : Option Json :=
  match value? (2 * cs.length + 2) cs with
  | some (v, rest) => if skipBlank rest = [] then some v else none
  | none => none

/-- Reads a whole text as one value. -/
def parse? (s : String) : Option Json := parseChars? s.toList

end Gatehouse.Json
