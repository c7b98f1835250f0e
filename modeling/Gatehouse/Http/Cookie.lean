import Gatehouse.Text.Ascii
import Gatehouse.Text.Quoted

/-!
# Cookies

`SetCookie.render` writes the value of a `Set-Cookie` header, and `Cookie.ofLine` reads the pairs of
one `Cookie` header value.  Queries are read in the same manner, by `Query.items`.
-/

namespace Gatehouse

/-- The attribute that limits a cookie to requests from its own site. -/
inductive SameSite where
  | strict
  | lax
  | unrestricted
deriving DecidableEq, Repr

namespace SameSite

/-- The attribute's value. -/
def name : SameSite → String
  | strict => "Strict"
  | lax => "Lax"
  | unrestricted => "None"

end SameSite

/-- A cookie for the client to keep. -/
structure SetCookie where
  name : String
  value : String
  path : Option String
  maxAge : Option Int
  httpOnly : Bool
  secure : Bool
  sameSite : Option SameSite
deriving DecidableEq, Repr

namespace SetCookie

/-- The header value: the pair and then the attributes that are set, in a fixed order. -/
def render (c : SetCookie) : String :=
  let path := match c.path with
    | some p => "; Path=" ++ p
    | none => ""
  let age := match c.maxAge with
    | some n => "; Max-Age=" ++ toString n
    | none => ""
  let site := match c.sameSite with
    | some s => "; SameSite=" ++ s.name
    | none => ""
  c.name ++ "=" ++ c.value ++ path ++ age ++ (if c.httpOnly then "; HttpOnly" else "")
    ++ (if c.secure then "; Secure" else "") ++ site

/-- The diagnostic form. -/
def debug (c : SetCookie) : String :=
  Quoted.record "SetCookie"
    [("name", Quoted.text c.name), ("value", Quoted.text c.value),
      ("path", Quoted.optional Quoted.text c.path), ("max_age", Quoted.optional toString c.maxAge),
      ("http_only", toString c.httpOnly), ("secure", toString c.secure),
      ("same_site", Quoted.optional SameSite.name c.sameSite)] false

end SetCookie

namespace Cookie

/-- White space that may stand around pairs, names and values of a printable line. -/
def isBlank (c : Char) : Bool := c == ' ' || c == '\t'

/--
One pair: the text around the first equals sign, without blanks, the value without quotes at its
ends. A pair without equals sign or without name counts for nothing.
-/
def ofPair? (pair : List Char) : Option (String × String) :=
  match Text.cut? '=' (Text.trim isBlank pair) with
  | none => none
  | some (name, value) =>
    let name := Text.trim isBlank name
    if name = [] then none
    else some (String.ofList name, String.ofList (Text.trim (· == '"') (Text.trim isBlank value)))

/-- The pairs of one header value. -/
def ofLine (line : String) : List (String × String) :=
  (Text.splitOn ';' line.toList).filterMap ofPair?

end Cookie

namespace Query

/-- One item: a key and a value, or a key alone; an empty item counts for nothing. -/
def ofItem? (item : List Char) : Option (List Char × List Char) :=
  match Text.cut? '=' item with
  | some kv => some kv
  | none => if item = [] then none else some (item, [])

/-- The items of a query in order. -/
def items (query : String) : List (List Char × List Char) :=
  (Text.splitOn '&' query.toList).filterMap ofItem?

/-- The value of the first item with the key; nothing is decoded. -/
def get? (query key : String) : Option String :=
  ((items query).find? fun e => e.1 == key.toList).map fun e => String.ofList e.2

end Query

end Gatehouse
