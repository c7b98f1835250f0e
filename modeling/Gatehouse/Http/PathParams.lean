import Gatehouse.Text.Quoted

/-!
# Path parameters

The parameters that a route takes from the path of a request, by name and in the order of the
pattern.
-/

namespace Gatehouse

/-- Parameters that a route took from a path, in order. -/
structure PathParams where
  pairs : List (String × String)
deriving DecidableEq, Repr

namespace PathParams

/-- No parameter. -/
def empty : PathParams := ⟨[]⟩

/-- The first parameter of a name. -/
def get? (p : PathParams) (name : String) : Option String := p.pairs.lookup name

/-- The diagnostic form. -/
def debug (p : PathParams) : String :=
  "PathParams(" ++
    Quoted.list (p.pairs.map fun e => "(" ++ Quoted.text e.1 ++ ", " ++ Quoted.text e.2 ++ ")") ++
    ")"

end PathParams

end Gatehouse
