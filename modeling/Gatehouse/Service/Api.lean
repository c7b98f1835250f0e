import Gatehouse.Server.Dispatch
import Gatehouse.Settings.Basic
import Gatehouse.Stage.Identify
import Gatehouse.Stage.Journal

/-!
# The service

The server that settings describe: a catalog of the three stages, the standard kinds of chains and
those that are set, and two routes.  `/api/ping` answers everyone; `/api/whoami` tells callers who
they are if a chain has verified it, and is unauthorized otherwise.
-/

namespace Gatehouse

namespace Service

/-- The verifier of the settings' key. -/
def verifier (s : Settings) (clock : Clock) : Verifier :=
  ⟨Bytes.ofText s.key.secret, .ofSeconds s.key.skewSeconds, clock⟩

/-- The three stages; refused assertions are counted. -/
def stages (s : Settings) (clock : Clock) : List Stage :=
  [.identify false, .journal none,
    .gate (verifier s clock) (some fun r => .metric (.refused r.reason))]

/-- A catalog with stages registered under their own names. -/
def registerAll (c : Catalog) : List Stage → Except WiringError Catalog
  | [] => .ok c
  | s :: rest =>
    match c.registerOwn s with
    | .ok c => registerAll c rest
    | .error e => .error e

/-- The catalog of the service. -/
def catalog (s : Settings) (clock : Clock) : Except WiringError Catalog :=
  registerAll .empty (stages s clock)

/-- The records of making the catalog. -/
def catalogRecords (s : Settings) (clock : Clock) : List LogRecord :=
  Stage.verifierRecords (Bytes.ofText s.key.secret)
    ++ (stages s clock).map fun m => Catalog.registered m.name

/-- The standard kinds of chains and those that are set. -/
def foundry (s : Settings) (c : Catalog) : Foundry :=
  s.chains.kinds.foldl (fun f k => f.define k.1 k.2) (.standard c)

/-- An answer of JSON. -/
def jsonAnswer (v : Json) : NativeResponse :=
  ⟨.ok, Headers.empty.insert HeaderName.contentType HeaderValue.json,
    .buffer (Bytes.ofText v.render)⟩

/-- Answers everyone. -/
def ping : NativeHandler := fun _ => pure (.ok (jsonAnswer (Json.object [("pong", .bool true)])))

/-- The user and tier that a chain has verified for a request. -/
def identity (n : NativeRequest) (w : World) : Option (String × Tier) :=
  match n.store with
  | none => none
  | some i =>
    match Stage.verifiedUser (w.stores.map i), Stage.verifiedTier (w.stores.map i) with
    | some (.text user), some (.tier t) => some (user, t)
    | _, _ => none

/-- Tells callers who they are. -/
def whoami : NativeHandler := fun n => do
  match ← Task.read (identity n) with
  | some (user, t) =>
    pure (.ok (jsonAnswer (Json.object [("user_id", .str user), ("plan_tier", .str t.name)])))
  | none => pure (.error (.http (.ofStatus .unauthorized)))

/-- The routes of the service. -/
def routes : Routes :=
  [⟨.get, "/api/ping", Foundry.publicKind, ping⟩, ⟨.get, "/api/whoami", Foundry.apiKind, whoami⟩]

/-- The limits that the settings put. -/
def limits (s : Settings) : Limits where
  address := s.listen.address
  shutdownTimeout := s.listen.shutdownSeconds * 1000
  requestTimeout := if s.listen.requestMillis = 0 then none else some s.listen.requestMillis
  maxConnections := some s.listen.maxConnections

/-- The integration that the settings describe. -/
def integration (s : Settings) (c : Catalog) : Integration :=
  ⟨foundry s c, s.chains.enabled, s.chains.bindings⟩

/-- The record of what was installed. -/
def installedRecord (st : PipelineStatus) : LogRecord :=
  ⟨.info, "middleware pipeline installed",
    [("active", .text st.active.debug), ("registered_middleware", .number st.registered.length),
      ("named_chains", .text (Quoted.texts st.chains)),
      ("legacy_middleware", .number st.layers.length)]⟩

/-- The server of the settings, and the records of building it. -/
def build (s : Settings) (clock : Clock) : Except WiringError (Server × List LogRecord) :=
  match catalog s clock with
  | .error e => .error e
  | .ok c =>
    let (installed, records) := (integration s c).setup .standard
    .ok (⟨limits s, routes, installed⟩,
      catalogRecords s clock ++ records ++ installedRecord installed.status
        :: Server.unbuiltRecords installed routes)

end Service

end Gatehouse
