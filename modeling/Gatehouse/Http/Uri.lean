import Gatehouse.Bytes
import Gatehouse.Text.Ascii

/-!
# Request targets

The four forms of a request target: a path with a query, an absolute address, an authority alone,
and the asterisk.  `Uri.parse?` reads one and drops its fragment; `Uri.toText` writes it.  Octets
above ASCII are kept as they are in paths and queries.
-/

namespace Gatehouse

/-- A request target.  The path of an authority alone is empty. -/
structure Uri where
  scheme : Option (List Char)
  authority : List Char
  /-- The path as written, possibly empty. -/
  rawPath : List Char
  query? : Option (List Char)
deriving DecidableEq, Repr

namespace Uri

/-- The greatest length of a target, in octets. -/
def longest : Nat := 65534

/-- The greatest length of a scheme. -/
def longestScheme : Nat := 64

/-- A character that may stand unescaped in a path, quotes and braces included. -/
def isPathChar (c : Char) : Bool :=
  let n := c.toNat
  n == 0x21 || n == 0x22 || (0x24 ≤ n && n ≤ 0x3B) || n == 0x3D || (0x40 ≤ n && n ≤ 0x5F)
    || (0x61 ≤ n && n != 0x7F)

/-- A character that may stand in a query. -/
def isQueryChar (c : Char) : Bool :=
  let n := c.toNat
  n == 0x21 || (0x24 ≤ n && n ≤ 0x3B) || n == 0x3D || (0x3F ≤ n && n != 0x7F)

/-- A character of a scheme. -/
def isSchemeChar (c : Char) : Bool := Text.isAlnum c || ['+', '-', '.', '~'].contains c

/-- A character of an authority other than the percent sign. -/
def isAuthorityChar (c : Char) : Bool :=
  Text.isAlnum c || ['!', '$', '&', '\'', '(', ')', '*', '+', ',', '-', '.', ':', ';', '=', '@',
    '[',
    ']', '_', '~'].contains c

/-- A character that ends an authority. -/
def endsAuthority (c : Char) : Bool := c == '/' || c == '?' || c == '#'

/-- What has been seen of an authority. -/
structure Seen where
  colons : Nat
  opened : Bool
  closed : Bool
  percent : Bool
  lastAt : Bool

/--
One more character of an authority.  Colons and percent signs of user information and of a bracketed
address are forgotten when those end.
-/
def Seen.next? (s : Seen) (c : Char) : Option Seen :=
  if c = ':' then
    if 8 ≤ s.colons then none
    else some { s with colons := s.colons + 1, lastAt := false }
  else if c = '[' then
    if s.percent ∨ s.opened then none else some { s with opened := true, lastAt := false }
  else if c = ']' then
    if ¬ s.opened ∨ s.closed then none
    else some { s with closed := true, colons := 0, percent := false, lastAt := false }
  else if c = '@' then some { s with colons := 0, percent := false, lastAt := true }
  else if c = '%' then some { s with percent := true, lastAt := false }
  else if isAuthorityChar c then some { s with lastAt := false }
  else none

/--
Whether a text is an authority: brackets in pairs, at most one colon outside of user information and
brackets, no percent sign outside of them, and something after the at sign.
-/
def isAuthority (cs : List Char) : Bool :=
  match cs.foldlM Seen.next? ⟨0, false, false, false, false⟩ with
  | none => false
  | some s => s.opened == s.closed && s.colons ≤ 1 && !s.lastAt && !s.percent

/-- Reads a path and a query up to a fragment. -/
def pathAndQuery? (cs : List Char) : Option (List Char × Option (List Char)) :=
  let path := cs.takeWhile fun c => c ≠ '?' ∧ c ≠ '#'
  if ¬ path.all isPathChar then none
  else match cs.drop path.length with
    | '?' :: rest =>
      let q := rest.takeWhile (· ≠ '#')
      if q.all isQueryChar then some (path, some q) else none
    | _ => some (path, none)

/-- Whether a text starts with a lowercase text in either case. -/
def startsWithAnyCase (lead cs : List Char) : Bool :=
  lead.isPrefixOf (cs.map Text.lowerAscii)

/-- What a scheme can be found to be. -/
inductive SchemeRead where
  | absent
  | present (scheme rest : List Char)
  | tooLong

/-- Reads a scheme and the colon and slashes after it. -/
def readScheme (cs : List Char) : SchemeRead :=
  if startsWithAnyCase "http://".toList cs then .present "http".toList (cs.drop 7)
  else if startsWithAnyCase "https://".toList cs then .present "https".toList (cs.drop 8)
  else
    let scheme := cs.takeWhile isSchemeChar
    let rest := cs.drop scheme.length
    if 3 < cs.length ∧ "://".toList.isPrefixOf rest then
      if longestScheme < scheme.length then .tooLong else .present scheme (rest.drop 3)
    else .absent

/-- Reads a target that starts with neither a slash nor is a single character. -/
def parseFull? (cs : List Char) : Option Uri :=
  match readScheme cs with
  | .tooLong => none
  | .absent => if isAuthority cs ∧ ¬ cs.any endsAuthority then some ⟨none, cs, [], none⟩ else none
  | .present scheme rest =>
    let authority := rest.takeWhile fun c => !endsAuthority c
    if authority = [] ∨ ¬ isAuthority authority then none
    else (pathAndQuery? (rest.drop authority.length)).map fun (p, q) =>
      ⟨some scheme, authority, p, q⟩

/-- Reads a target. -/
def parseChars? (cs : List Char) : Option Uri :=
  if longest < (Bytes.ofChars cs).length then none
  else match cs with
    | [] => none
    | ['*'] => some ⟨none, [], ['*'], none⟩
    | '/' :: _ => (pathAndQuery? cs).map fun (p, q) => ⟨none, [], p, q⟩
    | _ => parseFull? cs

/-- Reads a target. -/
def parse? (s : String) : Option Uri := parseChars? s.toList

/-- The path: a slash where an absolute address or a query has an empty one. -/
def pathChars (u : Uri) : List Char :=
  if u.rawPath = [] ∧ (u.scheme.isSome ∨ u.query?.isSome) then ['/'] else u.rawPath

/-- The path without the query. -/
def path (u : Uri) : String := String.ofList u.pathChars

/-- The raw query. -/
def query (u : Uri) : Option String := u.query?.map String.ofList

/-- The written form. -/
def toText (u : Uri) : String :=
  let scheme := match u.scheme with
    | some s => s ++ "://".toList
    | none => []
  let query := match u.query? with
    | some q => '?' :: q
    | none => []
  String.ofList (scheme ++ u.authority ++ u.pathChars ++ query)

/-- The target of the root path. -/
def root : Uri := ⟨none, [], ['/'], none⟩

end Uri

end Gatehouse
