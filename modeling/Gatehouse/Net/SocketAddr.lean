import Gatehouse.Text.Ascii

/-!
# Socket addresses

An address and a port: `127.0.0.1:80`, `[::1]:80`, `[fe80::1%3]:80`.  `SocketAddr.parse?` reads them
and `SocketAddr.toText` writes them; version six addresses are written with the first longest run of
at least two zero groups shortened to `::`, and mapped version four addresses in dotted form.
-/

namespace Gatehouse

open Text (isDigit)

/-- An address of one of the two protocol versions, with a port. -/
inductive SocketAddr where
  | v4 (octets : List Nat) (port : Nat)
  | v6 (groups : List Nat) (scope : Nat) (port : Nat)
deriving DecidableEq, Repr

namespace SocketAddr

/-- The port. -/
def port : SocketAddr → Nat
  | v4 _ p => p
  | v6 _ _ p => p

/-- Whether the address is of version six. -/
def isV6 : SocketAddr → Bool
  | v4 _ _ => false
  | v6 _ _ _ => true

/-- The value of a digit in a base of at most sixteen. -/
def digitValue? (base : Nat) (c : Char) : Option Nat :=
  let v := if isDigit c then some (c.toNat - 48)
    else if 'a' ≤ c ∧ c ≤ 'f' then some (c.toNat - 87)
    else if 'A' ≤ c ∧ c ≤ 'F' then some (c.toNat - 55)
    else none
  v.filter (· < base)

/-- The number that digits write in a base. -/
def valueOf (base : Nat) (ds : List Char) : Nat :=
  ds.foldl (fun n c => n * base + (digitValue? base c).getD 0) 0

/--
A number and what follows it: all digits that stand there, at least one and at most `width` of them,
with a value up to `most`; a leading zero is refused unless `zeros` allows it.
-/
def number? (base : Nat) (width : Option Nat) (zeros : Bool) (most : Nat) (cs : List Char) :
    Option (Nat × List Char) :=
  let ds := cs.takeWhile fun c => (digitValue? base c).isSome
  let rest := cs.dropWhile fun c => (digitValue? base c).isSome
  let long : Bool := match width with
    | some w => decide (w < ds.length)
    | none => false
  let padded : Bool := !zeros && ds.head? == some '0' && decide (1 < ds.length)
  if ds = [] ∨ long ∨ padded ∨ most < valueOf base ds then none
  else some (valueOf base ds, rest)

/-- What follows the character `c`. -/
def skip? (c : Char) : List Char → Option (List Char)
  | [] => none
  | d :: rest => if d = c then some rest else none

/-- One octet of a dotted address. -/
def octet? (cs : List Char) : Option (Nat × List Char) := number? 10 (some 3) false 255 cs

/-- A dotted address and what follows it. -/
def dotted? (cs : List Char) : Option (List Nat × List Char) := do
  let (a, cs) ← octet? cs
  let cs ← skip? '.' cs
  let (b, cs) ← octet? cs
  let cs ← skip? '.' cs
  let (c, cs) ← octet? cs
  let cs ← skip? '.' cs
  let (d, cs) ← octet? cs
  pure ([a, b, c, d], cs)

/-- What follows the colon in front of every group but the first. -/
def separator? (first : Bool) (cs : List Char) : Option (List Char) :=
  if first then some cs else skip? ':' cs

/--
Up to `limit` groups of a version six address, whether a dotted address ended them, and what
follows. A dotted address takes two groups.
-/
def groups (limit : Nat) (first : Bool) (cs : List Char) : List Nat × Bool × List Char :=
  match limit with
  | 0 => ([], false, cs)
  | limit + 1 =>
    let dot := if limit = 0 then none else separator? first cs >>= dotted?
    match dot with
    | some (os, rest) =>
      ([os.getD 0 0 * 256 + os.getD 1 0, os.getD 2 0 * 256 + os.getD 3 0], true, rest)
    | none =>
      match separator? first cs >>= number? 16 (some 4) true 65535 with
      | none => ([], false, cs)
      | some (g, rest) =>
        let (gs, dots, rest) := groups limit false rest
        (g :: gs, dots, rest)

/-- The eight groups of a version six address and what follows it. -/
def eightGroups? (cs : List Char) : Option (List Nat × List Char) :=
  let (head, dots, rest) := groups 8 true cs
  if head.length = 8 then some (head, rest)
  else if dots then none
  else do
    let rest ← skip? ':' rest
    let rest ← skip? ':' rest
    let (tail, _, rest) := groups (7 - head.length) true rest
    pure (head ++ List.replicate (8 - head.length - tail.length) 0 ++ tail, rest)

/-- The scope after a percent sign, zero without one. -/
def scope? : List Char → Option (Nat × List Char)
  | '%' :: rest => number? 10 none true 4294967295 rest
  | cs => some (0, cs)

/-- The port after a colon; nothing may follow it. -/
def portAtEnd? (cs : List Char) : Option Nat := do
  let cs ← skip? ':' cs
  let (p, rest) ← number? 10 none true 65535 cs
  if rest = [] then some p else none

/-- Reads a dotted address with its port. -/
def parseV4? (cs : List Char) : Option SocketAddr := do
  let (os, rest) ← dotted? cs
  let p ← portAtEnd? rest
  pure (v4 os p)

/-- Reads a version six address in brackets with its port. -/
def parseV6? (cs : List Char) : Option SocketAddr := do
  let cs ← skip? '[' cs
  let (gs, cs) ← eightGroups? cs
  let (s, cs) ← scope? cs
  let cs ← skip? ']' cs
  let p ← portAtEnd? cs
  pure (v6 gs s p)

/-- Reads a socket address. -/
def parseChars? (cs : List Char) : Option SocketAddr :=
  match parseV4? cs with
  | some a => some a
  | none => parseV6? cs

/-- Reads a socket address. -/
def parse? (s : String) : Option SocketAddr := parseChars? s.toList

/-- The first longest run of zero groups: where it starts and how long it is. -/
def longestZeros (gs : List Nat) : Nat × Nat :=
  let run (i : Nat) : Nat := ((gs.drop i).takeWhile (· = 0)).length
  (List.range gs.length).foldl (fun best i => if best.2 < run i then (i, run i) else best) (0, 0)

/-- Lowercase hexadecimal without leading zeros. -/
def hex (n : Nat) : String := String.ofList (Nat.toDigits 16 n)

/-- Groups with colons between them. -/
def colons (gs : List Nat) : String := ":".intercalate (gs.map hex)

/-- Octets with dots between them. -/
def dots (os : List Nat) : String := ".".intercalate (os.map toString)

/-- The text of a version six address. -/
def groupsText (gs : List Nat) : String :=
  if gs.take 6 = [0, 0, 0, 0, 0, 65535] then
    let g := gs.getD 6 0
    let h := gs.getD 7 0
    "::ffff:" ++ dots [g / 256, g % 256, h / 256, h % 256]
  else
    let (start, len) := longestZeros gs
    if len < 2 then colons gs
    else colons (gs.take start) ++ "::" ++ colons (gs.drop (start + len))

/-- The text of an address with its port. -/
def toText : SocketAddr → String
  | v4 os p => dots os ++ ":" ++ toString p
  | v6 gs 0 p => "[" ++ groupsText gs ++ "]:" ++ toString p
  | v6 gs s p => "[" ++ groupsText gs ++ "%" ++ toString s ++ "]:" ++ toString p

/-- What is said of a text that is no socket address. -/
def parseMessage : String := "invalid socket address syntax"

end SocketAddr

end Gatehouse
