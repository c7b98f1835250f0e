import Gatehouse.Server.Installation
import Gatehouse.Server.Limits
import Gatehouse.Server.Routes

/-!
# Dispatching requests

A server answers its health check by itself, a request without route with a 404, and every other one
by running it through what is installed.  Every answer but the health check's is counted under the
route's chain with the status that the client gets.
-/

namespace Gatehouse

/-- A server that is ready to answer. -/
structure Server where
  limits : Limits
  routes : Routes
  installed : Installed

namespace Server

/-- The path of the health check. -/
def healthPath : String := "/health"

/-- The version that is reported. -/
def version : String := "0.1.0"

/-- The label of requests without route. -/
def unrouted : String := "none"

/-- The records of routes whose chains were not built. -/
def unbuiltRecords (installed : Installed) (routes : Routes) : List LogRecord :=
  match installed.pipeline with
  | .layers _ => []
  | .chains f =>
    (routes.chains.filter fun c => (f.chain? c).isNone).map fun c =>
      ⟨.warn, "routes refer to a chain that was not built", [("chain", .text c)]⟩

/-- The deadline of requests. -/
def deadline (s : Server) : Deadline := ⟨s.limits.requestTimeout, Deadline.standardGrace⟩

/-- The answer to the health check. -/
def health (s : Server) : NativeResponse :=
  ⟨.ok, Headers.empty.insert HeaderName.contentType HeaderValue.json,
    .buffer (Bytes.ofText (Json.object
      [("status", .str "healthy"), ("version", .str version),
        ("pipeline", s.installed.status.toJson)]).render)⟩

/-- The answer to a request without route. -/
def noRoute (n : NativeRequest) : NativeResponse :=
  HttpFailure.toResponse ⟨.notFound, "no route for " ++ n.method.text ++ " " ++ n.uri.path, .empty⟩

/-- Counts a request that was served. -/
def record (chain : String) (status : Status) (w : World) : World :=
  (w.count (.served chain status.code)).count (.timed chain)

/-- Runs a request through a chain in a context of its own. -/
def runChain (s : Server) (name : String) (c : Chain) (n : NativeRequest) (addr : Option SocketAddr)
    (h : NativeHandler) (w : World) : Option NativeResponse × World :=
  match Exchange.serve s.deadline c.asStage n addr h { w.newContext with chain := some name } with
  | (some (.ok r), w) => (some r, w)
  | (some (.error e), w) => (some e.toFailure.toResponse, w)
  | (none, w) => (none, w)

/-- Adds the record of plain layers whose time was over. -/
def logLayersDeadline (timeout : Nat) (w : World) : World :=
  w.log .warn "request deadline elapsed in legacy stack" [("timeout_ms", .number timeout)]

/-- The plan of a run through plain layers that begins at the given time. -/
def layersPlan (s : Server) (start : Nat) : Plan :=
  match s.limits.requestTimeout with
  | some t => .within (start + t)
  | none => .free

/-- The answer that is sent for what came out of plain layers. -/
def ofResult : NativeResult → NativeResponse
  | .ok n => n
  | .error e => (Response.ofError e).writeOrRender

/-- Runs a request through plain layers; the run is dropped when its time is over. -/
def runLayers (s : Server) (stack : LayerStack) (n : NativeRequest) (addr : Option SocketAddr)
    (h : NativeHandler) (w : World) : Option NativeResponse × World :=
  let n := { n with remoteAddr := addr.or n.remoteAddr }
  match (stack.run h n).run (s.layersPlan w.clock) w with
  | (.finished result, w) => (some (ofResult result), w)
  | (.dropped, w) =>
    (some Response.cancelled.writeOrRender, logLayersDeadline (s.limits.requestTimeout.getD 0) w)
  | (.stuck, w) => (none, w)

/-- Runs a request through what is installed. -/
def runInstalled (s : Server) (r : Route) (n : NativeRequest) (addr : Option SocketAddr)
    (w : World) :
    Option NativeResponse × World :=
  match s.installed.pipeline with
  | .layers stack => s.runLayers stack n addr r.handler w
  | .chains f =>
    match f.chain? r.chain with
    | some c => s.runChain r.chain c n addr r.handler w
    | none =>
      (some HttpFailure.internal.toResponse,
        w.log .error "route refers to a chain that was not built"
          [("chain", .text r.chain), ("http.path", .text n.uri.path)])

/-- Answers a request that is neither the health check nor without route. -/
def runRoute (s : Server) (r : Route) (params : PathParams) (n : NativeRequest)
    (addr : Option SocketAddr) (w : World) : Option NativeResponse × World :=
  match s.runInstalled r { n with params := some params } addr w with
  | (some b, w) => (some b, record r.chain b.status w)
  | (none, w) => (none, w)

/-- Answers a request while it is counted as being in flight. -/
def answer (s : Server) (n : NativeRequest) (addr : Option SocketAddr) (w : World) :
    Option NativeResponse × World :=
  if n.method = .get ∧ n.uri.path = healthPath then (some s.health, w)
  else
    match s.routes.find? n.method n.uri.path with
    | none =>
      (some (noRoute n), record unrouted .notFound (w.log .debug "no route"
        [("http.method", .text n.method.text), ("http.path", .text n.uri.path)]))
    | some (r, params) => s.runRoute r params n addr w

/-- Dispatches a request; there is no answer if its run waits for ever. -/
def dispatch (s : Server) (n : NativeRequest) (addr : Option SocketAddr) (w : World) :
    Option NativeResponse × World :=
  match s.answer n addr (w.count .entered) with
  | (some b, w) => (some b, w.count .left)
  | (none, w) => (none, w)

end Server

end Gatehouse
