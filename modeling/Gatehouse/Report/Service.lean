import Gatehouse.Report.Refusal
import Gatehouse.Run.Signal
import Gatehouse.Server.Dispatch

/-!
# Servers as data

The JSON forms of a server: its limits with the address they name, its routes, and what is
installed.
-/

namespace Gatehouse

/-- The address that a text writes. -/
def SocketAddr.readJson (s : String) : Json :=
  match SocketAddr.parse? s with
  | some a => .obj [("ok", .str a.toText), ("v6", .bool a.isV6), ("port", .nat a.port)]
  | none => .failureWith "AddrParse" SocketAddr.parseMessage

/-- The limits of a server; of a time beyond sixty-four bits the lower ones are shown. -/
def Limits.toJson (l : Limits) : Json :=
  .obj [("http_addr", .str l.address), ("socket_addr", SocketAddr.readJson l.address),
    ("shutdown_ms", .nat (l.shutdownTimeout % (Text.maxWord + 1))),
    ("request_ms", .nat? l.requestTimeout),
    ("max_connections", .nat? l.maxConnections)]

/-- What asking a waiter gives, if it is known. -/
def PollResult.seenJson : Option PollResult → Json
  | none => .str "unknown"
  | some pending => .str "pending"
  | some ready => .str "ready"
  | some done => .str "done"

/-- A route that was found. -/
def Route.foundJson (r : Route) (ps : PathParams) : Json :=
  .obj [("pattern", .str r.pattern), ("chain", .str r.chain), ("first_id", .text? (ps.get? "id")),
    ("shared_handler", .nat 1), ("params", .pairs ps.pairs)]

/-- The members of a server. -/
def Server.members (s : Server) : List (String × Json) :=
  [("status", s.installed.status.toJson), ("active", .str s.installed.pipeline.active.name),
    ("config", s.limits.toJson), ("routes", .nat s.routes.length),
    ("route_chains", .texts (Routes.chains s.routes))]

end Gatehouse
