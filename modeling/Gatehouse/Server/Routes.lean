import Gatehouse.Server.Exchange

/-!
# Routes

A route binds a method and a path pattern to a chain and a handler.  Patterns and paths are compared
by their non-empty segments; a segment `:name` of a pattern stands for any one segment and gives it
that name.  The earliest route that matches wins.
-/

namespace Gatehouse

/-- A segment of a pattern. -/
inductive Segment where
  | literal (text : List Char)
  | parameter (name : List Char)
deriving DecidableEq, Repr

namespace Segment

/-- The non-empty parts of a text between slashes. -/
def split (cs : List Char) : List (List Char) := (Text.splitOn '/' cs).filter fun s => s ≠ []

/-- The segment that a part of a pattern writes. -/
def ofPart : List Char → Segment
  | ':' :: name => parameter name
  | cs => literal cs

/-- The segments of a pattern. -/
def ofPattern (cs : List Char) : List Segment := (split cs).map ofPart

/-- The parameters that make a pattern equal to a path, both as segments. -/
def matches? : List Segment → List (List Char) → Option (List (List Char × List Char))
  | [], [] => some []
  | literal t :: ss, p :: ps => if t = p then matches? ss ps else none
  | parameter n :: ss, p :: ps => (matches? ss ps).map ((n, p) :: ·)
  | _, _ => none

end Segment

/-- A route. -/
structure Route where
  method : Method
  pattern : String
  chain : String
  handler : NativeHandler

namespace Route

/-- The parameters that the path gives the route's pattern, if it matches. -/
def matchPath? (r : Route) (path : String) : Option PathParams :=
  (Segment.matches? (Segment.ofPattern r.pattern.toList) (Segment.split path.toList)).map fun ps =>
    ⟨ps.map fun p => (String.ofList p.1, String.ofList p.2)⟩

end Route

/-- Routes in the order in which they were added. -/
abbrev Routes := List Route

namespace Routes

/-- The first route for the method and path, with its parameters. -/
def find? (rs : Routes) (method : Method) (path : String) : Option (Route × PathParams) :=
  (rs.filter fun r => r.method = method).findSome? fun r =>
    (r.matchPath? path).map fun ps => (r, ps)

/-- The chains that routes name, in order, each once. -/
def chains (rs : Routes) : List String := (rs.map Route.chain).eraseDups

/-- The diagnostic form. -/
def debug (rs : Routes) : String :=
  Quoted.texts (rs.map fun r => r.method.text ++ " " ++ r.pattern ++ " -> " ++ r.chain)

end Routes

end Gatehouse
