import Gatehouse.Bytes
import Gatehouse.Text.Ascii

/-!
# Identifiers of 128 bits

Universally unique identifiers.  They are written in lowercase with hyphens (`Uuid.toText`) and read
from any of the four usual spellings: with hyphens, as thirty-two digits, in braces, and as a URN.
-/

namespace Gatehouse

/-- A universally unique identifier: sixteen octets. -/
structure Uuid where
  octets : Bytes
  length_octets : octets.length = 16
deriving DecidableEq

namespace Uuid

/-- The identifier with the given sixteen octets. -/
def ofOctets? (bs : Bytes) : Option Uuid :=
  if h : bs.length = 16 then some ⟨bs, h⟩ else none

/-- Thirty-two digits with hyphens after the eighth, twelfth, sixteenth and twentieth. -/
def hyphenated (ds : List Char) : List Char :=
  ds.take 8 ++ '-' :: (ds.drop 8).take 4 ++ '-' :: (ds.drop 12).take 4 ++ '-' :: (ds.drop 16).take 4
    ++ '-' :: ds.drop 20

/-- The canonical form: lowercase digits with hyphens. -/
def toText (u : Uuid) : String := String.ofList (hyphenated (Bytes.toHexChars u.octets))

/-- Thirty-two hexadecimal digits of either case. -/
def ofDigits? (cs : List Char) : Option Uuid := do
  let bs ← Bytes.ofHexChars? cs
  ofOctets? bs

/-- Digits in groups of eight, four, four, four and twelve with hyphens between them. -/
def ofHyphenated? (cs : List Char) : Option Uuid :=
  let digits := cs.take 8 ++ (cs.drop 9).take 4 ++ (cs.drop 14).take 4 ++ (cs.drop 19).take 4
    ++ cs.drop 24
  if cs.length = 36 ∧ cs = hyphenated digits then ofDigits? digits else none

/-- The text of the URN namespace, which may be written in any case. -/
def urnLead : List Char := "urn:uuid:".toList

/-- Reads an identifier in any of its spellings. -/
def ofChars? (cs : List Char) : Option Uuid :=
  if cs.length = 32 then ofDigits? cs
  else if cs.length = 36 then ofHyphenated? cs
  else if cs.length = 38 ∧ cs.head? = some '\x7b' ∧ cs.getLast? = some '\x7d' then
    ofHyphenated? (cs.tail.dropLast)
  else if cs.length = 45 ∧ urnLead.isPrefixOf (cs.map Text.lowerAscii) then
    ofHyphenated? (cs.drop 9)
  else none

/-- Reads an identifier in any of its spellings. -/
def ofText? (s : String) : Option Uuid := ofChars? s.toList

/-- The version: the upper half of the seventh octet. -/
def version (u : Uuid) : Nat := (u.octets.getD 6 0).toNat / 16

/--
The identifier of version seven made from a number: the time field is fixed, the version and variant
bits are set, and the number fills the last eight octets but the variant bits.
-/
def ofNumber (n : Nat) : Uuid :=
  ⟨[0x01, 0x94, 0xF0, 0x00, 0x00, 0x00, 0x70, 0x00, 0x80]
    ++ [48, 40, 32, 24, 16, 8, 0].map fun k => UInt8.ofNat (n / Nat.pow 2 k), by simp⟩

end Uuid

end Gatehouse
