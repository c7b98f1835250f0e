import Gatehouse.Bytes
import Gatehouse.Text.PrintTable

/-!
# Quoted text

A text in double quotes as it stands in diagnostics: line ends, tabs, quotes and backslashes are
escaped by a letter, and every character without a visible form of its own by its code point in
braces. `Quoted.list` and `Quoted.optional` are the diagnostic forms of lists and optional values.
-/

namespace Gatehouse.Quoted

/-- The lowercase hexadecimal digits of a number. -/
def hex (n : Nat) : List Char := Nat.toDigits 16 n

/-- The escape of a code point. -/
def codePoint (c : Char) : List Char := '\\' :: 'u' :: '\x7b' :: hex c.toNat ++ ['\x7d']

/-- The form of one character. -/
def char (c : Char) : List Char :=
  if c = '\x00' then ['\\', '0']
  else if c = '\t' then ['\\', 't']
  else if c = '\r' then ['\\', 'r']
  else if c = '\n' then ['\\', 'n']
  else if c = '"' then ['\\', '"']
  else if c = '\\' then ['\\', '\\']
  else if c.toNat < 32 ∨ c.toNat = 127 then codePoint c
  else if c.toNat < 127 then [c]
  else if Text.inRanges Text.extending c.toNat ∨ Text.inRanges Text.unprintable c.toNat then
    codePoint c
  else [c]

/-- A text in quotes. -/
def text (s : String) : String := String.ofList ('"' :: s.toList.flatMap char ++ ['"'])

/-- Forms in brackets with commas between them. -/
def list (items : List String) : String := "[" ++ ", ".intercalate items ++ "]"

/-- Texts in quotes, in brackets. -/
def texts (ss : List String) : String := list (ss.map text)

/-- An optional value. -/
def optional (form : α → String) : Option α → String
  | none => "None"
  | some a => "Some(" ++ form a ++ ")"

/-- A name followed by named values in braces; `more` says that not all of them are shown. -/
def record (name : String) (fields : List (String × String)) (more : Bool) : String :=
  let shown := fields.map fun f => f.1 ++ ": " ++ f.2
  let all := if more then shown ++ [".."] else shown
  name ++ " \x7b " ++ ", ".intercalate all ++ " \x7d"

/-- Octets of a header value in quotes; those that are not printable ASCII are written by number. -/
def octets (bs : Bytes) : String :=
  let one (b : UInt8) : List Char :=
    if b = 0x22 then ['\\', '"']
    else if Bytes.isVisible b then [Char.ofNat b.toNat]
    else '\\' :: 'x' :: hex b.toNat
  String.ofList ('"' :: bs.flatMap one ++ ['"'])

end Gatehouse.Quoted
