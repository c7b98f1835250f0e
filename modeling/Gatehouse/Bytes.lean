/-!
# Octets

Octet strings are lists of `UInt8`.  This module holds their two textual forms: UTF-8, read strictly
(no overlong form, no surrogate, nothing above U+10FFFF) and written by `Bytes.ofText`, and
lowercase hexadecimal, read in either case by `Bytes.ofHex?` and written by `Bytes.toHex`.
-/

namespace Gatehouse

/-- An octet string. -/
abbrev Bytes := List UInt8

namespace Bytes

/-- The UTF-8 form of a list of characters. -/
def ofChars (cs : List Char) : Bytes := cs.flatMap String.utf8EncodeChar

/-- The UTF-8 form of a text. -/
def ofText (s : String) : Bytes := ofChars s.toList

/-- A continuation octet of UTF-8, `10xxxxxx`. -/
def isContinuation (b : UInt8) : Bool := 0x80 ≤ b && b ≤ 0xBF

/-- Low six bits of a continuation octet. -/
def payload (b : UInt8) : Nat := b.toNat - 0x80

/--
One character of strict UTF-8 and what follows it.  The bounds on the second octet exclude overlong
forms, surrogates and code points above U+10FFFF.
-/
def nextChar? : Bytes → Option (Char × Bytes)
  | [] => none
  | b0 :: r0 =>
    if b0 < 0x80 then some (Char.ofNat b0.toNat, r0)
    else match r0 with
      | [] => none
      | b1 :: r1 =>
        if 0xC2 ≤ b0 && b0 ≤ 0xDF && isContinuation b1 then
          some (Char.ofNat ((b0.toNat - 0xC0) * 64 + payload b1), r1)
        else match r1 with
          | [] => none
          | b2 :: r2 =>
            if 0xE0 ≤ b0 && b0 ≤ 0xEF && isContinuation b1 && isContinuation b2
                && (b0 != 0xE0 || 0xA0 ≤ b1) && (b0 != 0xED || b1 ≤ 0x9F) then
              some (Char.ofNat ((b0.toNat - 0xE0) * 4096 + payload b1 * 64 + payload b2), r2)
            else match r2 with
              | [] => none
              | b3 :: r3 =>
                if 0xF0 ≤ b0 && b0 ≤ 0xF4 && isContinuation b1 && isContinuation b2
                    && isContinuation b3 && (b0 != 0xF0 || 0x90 ≤ b1) &&
                    (b0 != 0xF4 || b1 ≤ 0x8F) then
                  some (Char.ofNat ((b0.toNat - 0xF0) * 262144 + payload b1 * 4096
                    + payload b2 * 64 + payload b3), r3)
                else none

/-- A character takes octets, so that what is left is shorter. -/
theorem length_of_nextChar? {bs rest : Bytes} {c : Char} (h : nextChar? bs = some (c, rest)) :
    rest.length < bs.length := by
  unfold nextChar? at h
  grind

/-- Strict UTF-8 reading, with the characters already read in reverse. -/
def charsAfter? (done : List Char) (bs : Bytes) : Option (List Char) :=
  if bs = [] then some done.reverse
  else match _h : nextChar? bs with
    | none => none
    | some (c, rest) => charsAfter? (c :: done) rest
termination_by bs.length
decreasing_by exact length_of_nextChar? ‹_›

/-- Strict UTF-8 reading. -/
def toChars? (bs : Bytes) : Option (List Char) := charsAfter? [] bs

/-- The text that `bs` encodes, if it is valid UTF-8. -/
def toText? (bs : Bytes) : Option String := (toChars? bs).map String.ofList

/-- The digit of a number below sixteen. -/
def hexDigit (n : Nat) : Char := if n < 10 then Char.ofNat (48 + n) else Char.ofNat (87 + n)

/-- The number of a hexadecimal digit of either case. -/
def hexValue? (c : Char) : Option Nat :=
  if '0' ≤ c ∧ c ≤ '9' then some (c.toNat - 48)
  else if 'a' ≤ c ∧ c ≤ 'f' then some (c.toNat - 87)
  else if 'A' ≤ c ∧ c ≤ 'F' then some (c.toNat - 55)
  else none

/-- Lowercase hexadecimal, two digits an octet. -/
def toHexChars (bs : Bytes) : List Char :=
  bs.flatMap fun b => [hexDigit (b.toNat / 16), hexDigit (b.toNat % 16)]

/-- Lowercase hexadecimal text. -/
def toHex (bs : Bytes) : String := String.ofList (toHexChars bs)

/-- Octets from pairs of hexadecimal digits of either case. -/
def ofHexChars? : List Char → Option Bytes
  | [] => some []
  | [_] => none
  | h :: l :: rest => do
    let hi ← hexValue? h
    let lo ← hexValue? l
    let bs ← ofHexChars? rest
    pure (UInt8.ofNat (hi * 16 + lo) :: bs)

/-- Octets from hexadecimal text of either case. -/
def ofHex? (s : String) : Option Bytes := ofHexChars? s.toList

/-- A printable ASCII octet: space to tilde, or a tab. -/
def isVisible (b : UInt8) : Bool := (0x20 ≤ b && b < 0x7F) || b == 0x09

/-- The text of octets that are all printable ASCII or tab. -/
def visibleText? (bs : Bytes) : Option String :=
  if bs.all isVisible then some (String.ofList (bs.map fun b => Char.ofNat b.toNat)) else none

end Bytes

end Gatehouse
