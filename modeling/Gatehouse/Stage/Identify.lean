import Gatehouse.Chain.Stage

/-!
# The stage that gives each request its id

The id is drawn fresh, or taken from the request if callers are trusted and its first id header is
one. It becomes the context's id, the only id header of the request that goes in, and the only one
of the answer that comes out.
-/

namespace Gatehouse.Stage

/-- The id that a request brings. -/
def incomingId? (r : Request) : Option Uuid :=
  (r.headers.text? HeaderName.requestId).bind Uuid.ofText?

/-- The id header of a request or an answer. -/
def withId (h : Headers) (id : Uuid) : Headers :=
  match HeaderValue.ofText? id.toText with
  | some v => h.insert HeaderName.requestId v
  | none => h

/-- The stage that gives each request its id. -/
def identify (trusting : Bool) : Stage where
  name := "request_id"
  priority := -100
  enter r := do
    let id ← match if trusting then incomingId? r else none with
      | some id => pure id
      | none => Run.freshId
    Task.modify fun w => { w with requestId := id }
    pure (.forward { r with headers := withId r.headers id } fun b =>
      pure { b with headers := withId b.headers id, requestId := some id.toText })

end Gatehouse.Stage
