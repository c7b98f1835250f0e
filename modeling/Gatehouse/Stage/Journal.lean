import Gatehouse.Chain.Stage

/-!
# The stage that logs requests

One record when a request comes in and one when its answer comes out, a warning if the server is at
fault.  After that an observer, if there is one, is told of the completed request.
-/

namespace Gatehouse.Stage

/-- Adds the record of a request that came in. -/
def logStarted (method : Method) (path : String) (w : World) : World :=
  w.log .debug "request started"
    [("request_id", .text w.requestId.toText), ("chain", .text w.chainText),
      ("http.method", .text method.text), ("http.path", .text path)]

/-- Adds the record of an answer that came out. -/
def logCompleted (method : Method) (path : String) (status : Status) (w : World) : World :=
  w.log (if status.isServerError then .warn else .info)
    (if status.isServerError then "request failed" else "request completed")
    [("request_id", .text w.requestId.toText), ("chain", .text w.chainText),
      ("http.method", .text method.text), ("http.path", .text path),
      ("http.status_code", .number status.code)]

/-- Tells the observer of a completed request. -/
def observe (observer : Option (Summary → Event)) (method : Method) (path : String)
    (status : Status) (w : World) : World :=
  match observer with
  | some f => w.emit (f ⟨w.requestId, w.chain, method, path, status⟩)
  | none => w

/-- The stage that logs requests. -/
def journal (observer : Option (Summary → Event)) : Stage where
  name := "logging"
  priority := -50
  enter r := do
    let path := r.uri.path
    Task.modify (logStarted r.method path)
    pure (.forward r fun b => do
      Task.modify (logCompleted r.method path b.status)
      Task.modify (observe observer r.method path b.status)
      pure b)

/-- The diagnostic form of the stage. -/
def journalDebug (observed : Bool) : String :=
  Quoted.record "LoggingMiddleware" [("observer", toString observed)] false

end Gatehouse.Stage
