import Gatehouse.Report.Message
import Gatehouse.Run.Event

/-!
# Events as data

The JSON forms in which the events of a run are reported: log records with their level, message and
fields, changes of metrics as one number for each counter, and everything else in order.
-/

namespace Gatehouse

/-- What a scripted handler saw. -/
def HandlerView.toJson (v : HandlerView) : Json :=
  .obj
    [("method", .str v.method.text), ("path", .str v.path), ("query", .text? v.query),
      ("headers", v.headers.toJson), ("params", .pairs v.params.pairs), ("store", v.store.toJson),
      ("remote_addr", SocketAddr.toJson v.remoteAddr), ("user_id", .option Value.toJson v.userId),
      ("plan_tier", .option Value.toJson v.tier), ("body", Body.drainedJson v.body),
      ("second_read_len", .nat v.secondRead), ("chain", .text? v.chain),
      ("request_id", .str v.requestId.toText), ("cancelled", .bool v.cancelled)]

/-- What a scripted handler of the server saw. -/
def NativeView.toJson (v : NativeView) : Json :=
  .obj
    [("method", .str v.method.text), ("uri", .str v.uri.toText), ("headers", v.headers.toJson),
      ("params", .option (fun p => .pairs p.pairs) v.params),
      ("remote_addr", SocketAddr.toJson v.remoteAddr), ("store", .option TypedMap.toJson v.store),
      ("body", Body.drainedJson v.body)]

/-- The summary of a request. -/
def Summary.toJson (s : Summary) : Json :=
  .obj [("request_id", .str s.requestId.toText), ("chain", .text? s.chain),
    ("method", .str s.method.text), ("path", .str s.path), ("status", .nat s.status.code)]

/-- A log record. -/
def LogRecord.toJson (r : LogRecord) : Json :=
  let field : LogField → Json
    | .text s => .str s
    | .number n => .nat n
  .obj [("level", .str r.level.name), ("message", .str r.message),
    ("fields", .obj (r.fields.map fun f => (f.1, field f.2)))]

/-- An event: a mark as its text, any other under the name of its kind. -/
def Event.toJson : Event → Json
  | log r => .obj [("log", r.toJson)]
  | metric m => .obj [("metric", .text? m.sample?)]
  | refused r => .obj [("rejected", .str r.reason)]
  | summary s => .obj [("summary", s.toJson)]
  | mark place => .str place
  | stored m => .obj [("store", m.toJson)]
  | handler v => .obj [("handler", v.toJson)]
  | native v => .obj [("native", v.toJson)]

/-- The reports among events, in order. -/
def reportsJson (es : List Event) : Json := .arr ((reportsOf es).map Event.toJson)

/-- How often each counter went up. -/
def metricsJson (es : List Event) : Json :=
  .obj ((countSamples (metricsOf es)).map fun s => (s.1, .nat s.2))

end Gatehouse
