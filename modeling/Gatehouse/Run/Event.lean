import Gatehouse.Assertion.Refusal
import Gatehouse.Http.Native
import Gatehouse.Telemetry.Log
import Gatehouse.Telemetry.Metric
import Gatehouse.Uuid

/-!
# Events

What a run leaves behind besides its answer, in order: log records, changes of metrics, calls of the
observers of stages, and what scripted stages and handlers report of what they see.
-/

namespace Gatehouse

/--
What the observer of the logging stage is told of a completed request, except for how long it took.
-/
structure Summary where
  requestId : Uuid
  chain : Option String
  method : Method
  path : String
  status : Status
deriving DecidableEq

/-- What a scripted handler at the end of a chain sees. -/
structure HandlerView where
  method : Method
  path : String
  query : Option String
  headers : Headers
  params : PathParams
  store : ValueMap
  remoteAddr : Option SocketAddr
  userId : Option Value
  tier : Option Value
  body : Except String Bytes
  /-- The number of octets that a second reading of the body gives. -/
  secondRead : Nat
  chain : Option String
  requestId : Uuid
  cancelled : Bool

/-- What a scripted handler of the server sees. -/
structure NativeView where
  method : Method
  uri : Uri
  headers : Headers
  params : Option PathParams
  remoteAddr : Option SocketAddr
  store : Option ValueMap
  body : Except String Bytes

/-- One event of a run. -/
inductive Event where
  | log (r : LogRecord)
  | metric (m : Metric)
  /-- An observer was told why an assertion was refused. -/
  | refused (r : Refusal)
  /-- An observer was told of a completed request. -/
  | summary (s : Summary)
  /-- A scripted stage or handler was somewhere. -/
  | mark (place : String)
  | stored (m : ValueMap)
  | handler (v : HandlerView)
  | native (v : NativeView)

/-- The log records among events. -/
def logsOf (es : List Event) : List LogRecord :=
  es.filterMap fun
    | .log r => some r
    | _ => none

/-- The changes of metrics among events. -/
def metricsOf (es : List Event) : List Metric :=
  es.filterMap fun
    | .metric m => some m
    | _ => none

/-- The events that are neither log records nor changes of metrics. -/
def reportsOf (es : List Event) : List Event :=
  es.filter fun
    | .log _ => false
    | .metric _ => false
    | _ => true

end Gatehouse
