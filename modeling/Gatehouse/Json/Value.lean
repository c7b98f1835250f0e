import Gatehouse.Bytes
import Gatehouse.Decimal.Shortest

/-!
# JSON values

Values of the JSON data format and their compact text.  Numbers are natural numbers, negative
integers or binary floating point.  `Json.object` sorts its members by key, as every body that is
sent does.
-/

namespace Gatehouse

/-- A number of a JSON text. -/
inductive JsonNumber where
  | natural (n : Nat)
  /-- The negative integer `-(n + 1)`. -/
  | negative (n : Nat)
  | binary (x : Binary64)
deriving DecidableEq, Repr

/-- A JSON value; the members of an object stand in the order written. -/
inductive Json where
  | null
  | bool (b : Bool)
  | num (n : JsonNumber)
  | str (s : String)
  | arr (items : List Json)
  | obj (members : List (String × Json))
deriving Repr, Inhabited

namespace Json

/-- The member of an object that counts, the last one written. -/
def get? (key : String) : Json → Option Json
  | obj ms => ms.reverse.lookup key
  | _ => none

/-- A natural number as a value. -/
def nat (n : Nat) : Json := num (.natural n)

/-- A member put at its place in a sorted list; an equal key is replaced. -/
def insertMember (key : String) (v : Json) : List (String × Json) → List (String × Json)
  | [] => [(key, v)]
  | (k, w) :: rest =>
    if key < k then (key, v) :: (k, w) :: rest
    else if key = k then (key, v) :: rest
    else (k, w) :: insertMember key v rest

/-- The object with the given members, sorted by key, the last of equal keys kept. -/
def object (ms : List (String × Json)) : Json :=
  obj (ms.foldl (fun acc m => insertMember m.1 m.2 acc) [])

mutual
/-- The value with the members of all its objects sorted. -/
def sorted : Json → Json
  | arr items => arr (sortedItems items)
  | obj ms => object (sortedMembers ms)
  | v => v

/-- The items of an array with their objects sorted. -/
def sortedItems : List Json → List Json
  | [] => []
  | v :: vs => v.sorted :: sortedItems vs

/-- The members of an object with their objects sorted. -/
def sortedMembers : List (String × Json) → List (String × Json)
  | [] => []
  | (k, v) :: ms => (k, v.sorted) :: sortedMembers ms
end

/-- The text of one character inside of quotes. -/
def escapeChar (c : Char) : List Char :=
  if c = '"' then ['\\', '"']
  else if c = '\\' then ['\\', '\\']
  else if c = '\x08' then ['\\', 'b']
  else if c = '\x0c' then ['\\', 'f']
  else if c = '\n' then ['\\', 'n']
  else if c = '\r' then ['\\', 'r']
  else if c = '\t' then ['\\', 't']
  else if c.toNat < 32 then
    ['\\', 'u', '0', '0', Bytes.hexDigit (c.toNat / 16), Bytes.hexDigit (c.toNat % 16)]
  else [c]

/-- A text in quotes. -/
def quote (s : String) : List Char := '"' :: s.toList.flatMap escapeChar ++ ['"']

/-- The text of a number; one that is not finite has none and is written as null. -/
def renderNumber : JsonNumber → List Char
  | .natural n => (toString n).toList
  | .negative n => '-' :: (toString (n + 1)).toList
  | .binary x => if x.isFinite then (Shortest.render x).toList else "null".toList

mutual
/-- The compact text of a value. -/
def renderChars : Json → List Char
  | null => "null".toList
  | bool true => "true".toList
  | bool false => "false".toList
  | num n => renderNumber n
  | str s => quote s
  | arr items => '[' :: renderItems items ++ [']']
  | obj ms => '\x7b' :: renderMembers ms ++ ['\x7d']

/-- The items of an array with commas between them. -/
def renderItems : List Json → List Char
  | [] => []
  | [v] => v.renderChars
  | v :: w :: vs => v.renderChars ++ ',' :: renderItems (w :: vs)

/-- The members of an object with commas between them. -/
def renderMembers : List (String × Json) → List Char
  | [] => []
  | [(k, v)] => quote k ++ ':' :: v.renderChars
  | (k, v) :: m :: ms => quote k ++ ':' :: v.renderChars ++ ',' :: renderMembers (m :: ms)
end

/-- The compact text of a value. -/
def render (v : Json) : String := String.ofList v.renderChars

end Json

end Gatehouse
