import Gatehouse.Text.Ascii

/-!
# Tokens: methods and header names

A token is a non-empty text of letters, digits and the marks that HTTP allows in names.  Methods
keep their case; header names are kept in lowercase, so that two spellings of one name are one name.
-/

namespace Gatehouse

/-- A character of a token. -/
def isTokenChar (c : Char) : Bool :=
  Text.isAlnum c || ['!', '#', '$', '%', '&', '\'', '*', '+', '-', '.', '^', '_', '\x60', '|',
    '~'].contains c

/-- A request method, kept as written. -/
structure Method where
  text : String
deriving DecidableEq, Repr

namespace Method

/-- Reads a method: a token. -/
def of? (s : String) : Option Method :=
  if s.toList ≠ [] ∧ s.toList.all isTokenChar then some ⟨s⟩ else none

def get : Method := ⟨"GET"⟩

end Method

/-- A header name in lowercase. -/
abbrev HeaderName := String

namespace HeaderName

/-- The greatest length of a header name. -/
def longest : Nat := 65535

/-- Reads a header name: a token of bounded length. -/
def of? (s : String) : Option HeaderName :=
  let cs := s.toList
  if cs ≠ [] ∧ cs.length ≤ longest ∧ cs.all isTokenChar then
    some (String.ofList (cs.map Text.lowerAscii))
  else none

def cookie : HeaderName := "cookie"
def contentType : HeaderName := "content-type"
def setCookie : HeaderName := "set-cookie"
def location : HeaderName := "location"
def requestId : HeaderName := "x-request-id"

end HeaderName

end Gatehouse
