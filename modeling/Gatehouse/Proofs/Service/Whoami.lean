import Gatehouse.Proofs.Assertion.RoundTrip
import Gatehouse.Proofs.Chain.Casting
import Gatehouse.Proofs.Server.Serving
import Gatehouse.Service.Api

/-!
# Whom the service identifies

The service tells a caller who it is only if its headers verify: `Identifies` says that the pipeline
of chains is active, that the chain of the route has a gate, and that the gate's verifier admits a
claim. Then the answer is that claim (`dispatch_whoami`); without it the answer is one of three
fixed refusals, whatever the settings are.
-/

namespace Gatehouse.Service

/-- The stages of the service. -/
def members (s : Settings) (clock : Clock) : List BuiltIn :=
  [.identify false, .journal none,
    .gate (verifier s clock) (some fun r => .metric (.refused r.reason))]

/-- The catalog of the service: its stages under their own names. -/
def registered (s : Settings) (clock : Clock) : Catalog :=
  ⟨(members s clock).map fun b => (b.toStage.name, b.toStage)⟩

/-- The catalog of the service is made without an error. -/
lemma catalog_eq (s : Settings) (clock : Clock) : catalog s clock = .ok (registered s clock) := rfl

/-- Under a name of the catalog stands the stage with this name. -/
lemma find?_registered {s : Settings} {clock : Clock} {name : String} {st : Stage} :
    (registered s clock).find? name = some st ↔ ∃ b ∈ members s clock, b.toStage = st ∧
    st.name = name := by
  constructor
  · intro h
    obtain ⟨before, after, e, -⟩ := List.lookup_eq_some_iff.mp h
    have hm : (name, st) ∈ (registered s clock).entries := by
      rw [e]
      exact List.mem_append_right _ List.mem_cons_self
    obtain ⟨b, hb, e⟩ := List.mem_map.mp hm
    cases e
    exact ⟨b, hb, rfl, rfl⟩
  · rintro ⟨b, hb, rfl, rfl⟩
    rcases List.mem_cons.mp hb with rfl | hb
    · rfl
    rcases List.mem_cons.mp hb with rfl | hb
    · rfl
    cases List.mem_singleton.mp hb
    rfl

/--
The stage names of a kind: those that are set last for it, or those that it has without being set.
-/
def stagesOf (s : Settings) (kind : String) : Option (List String) :=
  (s.chains.kinds.reverse.lookup kind).or ((Foundry.standard .empty).kinds.find? kind)

/--
Defining kinds one after the other changes nothing else, and the last definition of a kind counts.
-/
lemma foldl_define (f : Foundry) (kinds : Named (List String)) :
    (kinds.foldl (fun f k => f.define k.1 k.2) f).catalog = f.catalog ∧
      (kinds.foldl (fun f k => f.define k.1 k.2) f).chains = f.chains ∧
      ∀ kind, (kinds.foldl (fun f k => f.define k.1 k.2) f).kinds.find? kind =
        (kinds.reverse.lookup kind).or (f.kinds.find? kind) := by
  induction kinds generalizing f with
  | nil => exact ⟨rfl, rfl, fun _ => rfl⟩
  | cons k kinds ih =>
    obtain ⟨key, names⟩ := k
    obtain ⟨catalog, chains, found⟩ := ih (f.define key names)
    refine ⟨catalog, chains, fun kind => ?_⟩
    rw [List.foldl_cons, found, List.reverse_cons, List.lookup_append, Option.or_assoc]
    congr 1
    rw [Foundry.define, Named.find?_put]
    by_cases h : kind = key
    · subst h
      rw [if_pos rfl]
      simp only [List.lookup_cons, beq_self_eq_true, Option.some_or]
    · rw [if_neg h]
      simp only [List.lookup_cons, beq_false_of_ne h, List.lookup_nil, Option.none_or]

/-- The foundry of the service: its catalog, no chains of its own, and the kinds that are set. -/
lemma foundry_spec (s : Settings) (c : Catalog) :
    (foundry s c).catalog = c ∧ (foundry s c).chains = [] ∧
    ∀ kind, (foundry s c).kinds.find? kind = stagesOf s kind :=
  foldl_define (.standard c) s.chains.kinds

/-- Stages each of which is built in are a list of built-in ones. -/
lemma exists_map_toStage {ms : List BuiltIn} {ss : List Stage}
    (h : ∀ st ∈ ss, ∃ b ∈ ms, b.toStage = st) :
    ∃ bs : List BuiltIn, ss = bs.map BuiltIn.toStage ∧ ∀ b ∈ bs, b ∈ ms := by
  induction ss with
  | nil => exact ⟨[], rfl, fun b hb => absurd hb List.not_mem_nil⟩
  | cons st ss ih =>
    obtain ⟨b, hb, rfl⟩ := h st List.mem_cons_self
    obtain ⟨bs, rfl, all⟩ := ih fun st hst => h st (List.mem_cons_of_mem _ hst)
    refine ⟨b :: bs, rfl, fun b' hb' => ?_⟩
    rcases List.mem_cons.mp hb' with rfl | hb'
    · exact hb
    · exact all b' hb'

/-- The gate is the only stage of the service under its name. -/
lemma gate_of_name {s : Settings} {clock : Clock} {b : BuiltIn} (hb : b ∈ members s clock)
    (name : b.toStage.name = "assertion") :
    b = .gate (verifier s clock) (some fun r => .metric (.refused r.reason)) := by
  rcases List.mem_cons.mp hb with rfl | hb
  · exact absurd name (by decide)
  rcases List.mem_cons.mp hb with rfl | hb
  · exact absurd name (by decide)
  exact List.mem_singleton.mp hb

/-- A chain that is cast for the service has the stages of the service that its kind lists. -/
lemma mem_cast {s : Settings} {clock : Clock} {kind : String} {c : Chain}
    (h : (foundry s (registered s clock)).cast kind = .ok c) :
    ∃ names, stagesOf s kind = some names ∧
      ∀ st, st ∈ c.stages ↔ ∃ name ∈ names, ∃ b ∈ members s clock, b.toStage = st ∧
      st.name = name := by
  obtain ⟨catalog, -, kinds⟩ := foundry_spec s (registered s clock)
  obtain ⟨names, named, mem⟩ := Foundry.mem_cast h
  rw [kinds] at named
  simp only [catalog, find?_registered] at mem
  exact ⟨names, named, mem⟩

/-- A chain that is cast for the service has the stages of the service alone. -/
lemma stages_cast {s : Settings} {clock : Clock} {kind : String} {c : Chain}
    (h : (foundry s (registered s clock)).cast kind = .ok c) :
    ∃ bs : List BuiltIn, c.stages = bs.map BuiltIn.toStage ∧ ∀ b ∈ bs, b ∈ members s clock := by
  obtain ⟨names, -, mem⟩ := mem_cast h
  apply exists_map_toStage
  intro st hst
  obtain ⟨_, -, b, hb, e, -⟩ := (mem st).mp hst
  exact ⟨b, hb, e⟩

/--
A chain that is cast for the service is made of its stages, and has a gate if its kind lists one.
-/
lemma cast_members {s : Settings} {clock : Clock} {kind : String} {c : Chain}
    (h : (foundry s (registered s clock)).cast kind = .ok c) :
    ∃ (names : List String) (bs : List BuiltIn), stagesOf s kind = some names ∧
    c.stages = bs.map BuiltIn.toStage ∧
      (∀ v o, .gate v o ∈ bs → v = verifier s clock) ∧
      ((∃ o, .gate (verifier s clock) o ∈ bs) ↔ "assertion" ∈ names) := by
  obtain ⟨names, named, mem⟩ := mem_cast h
  obtain ⟨bs, stages, inside⟩ := stages_cast h
  have same : ∀ v o, .gate v o ∈ bs → v = verifier s clock := by
    intro v o hm
    cases gate_of_name (inside _ hm) rfl
    rfl
  refine ⟨names, bs, named, stages, same, ?_⟩
  -- stages are found by name, and a gate has one name
  constructor
  · rintro ⟨o, hm⟩
    have hst : (BuiltIn.gate (verifier s clock) o).toStage ∈ c.stages := by
      rw [stages]
      exact List.mem_map_of_mem hm
    obtain ⟨name, hn, -, -, -, rfl⟩ := (mem _).mp hst
    exact hn
  · intro listed
    have there : BuiltIn.gate (verifier s clock) (some fun r =>
        .metric (.refused r.reason)) ∈ members s clock :=
      List.mem_cons_of_mem _ (List.mem_cons_of_mem _ List.mem_cons_self)
    have hst := (mem _).mpr ⟨"assertion", listed, _, there, rfl, rfl⟩
    rw [stages] at hst
    obtain ⟨b, hb, e⟩ := List.mem_map.mp hst
    have name : b.toStage.name = "assertion" := by rw [e]; rfl
    rw [gate_of_name (inside b hb) name] at hb
    exact ⟨_, hb⟩

/-- The user and tier that are verified in a store. -/
def known (m : ValueMap) : Option (String × Tier) :=
  match Stage.verifiedUser m, Stage.verifiedTier m with
  | some (.text user), some (.tier t) => some (user, t)
  | _, _ => none

/-- What the route of identities answers behind a chain. -/
def reply (i : StoreId) (s : Stores Value) : Response :=
  match known (s.map i) with
  | some (user, t) =>
    .ofNative (jsonAnswer (Json.object [("user_id", .str user), ("plan_tier", .str t.name)]))
  | none => .ofError (.http (.ofStatus .unauthorized))

/-- Where a claim is verified the answer shows it. -/
lemma reply_of_known {i : StoreId} {s : Stores Value} {user : String} {t : Tier}
    (h : known (s.map i) = some (user, t)) : reply i s =
      .ofNative (jsonAnswer (Json.object [("user_id", .str user),
      ("plan_tier", .str t.name)])) := by
  rw [reply, h]

/-- Where no claim is verified the answer is that one is missing. -/
lemma reply_of_unknown {i : StoreId} {s : Stores Value} (h : known (s.map i) = none) :
    reply i s = .ofError (.http (.ofStatus .unauthorized)) := by
  rw [reply, h]

/-- The route of identities answers at once with what it finds in the store. -/
lemma looksUp_whoami : BuiltIn.LooksUp (Exchange.terminal whoami) reply where
  halt r p w := by
    rw [Exchange.terminal, whoami, bind_assoc, Task.guard_read_bind, Task.halt_bind, Task.halt_read,
      Halt.bind_finished, reply]
    change Task.halt (Task.guard _ ((match known (w.stores.map r.store) with
      | some (user, t) => _
      | none => _) >>= _)) p w = _
    cases known (w.stores.map r.store) with
    | none => rfl
    | some known => rfl
  plain i s := by
    rw [reply]
    cases known (s.map i) with
    | none => rfl
    | some known => rfl

/-- A claim that was written into a store is known there. -/
lemma known_bearing {i : StoreId} (c : Claim) {s : Stores Value} (h : i.index < s.all.length) :
    known ((Stage.bearing i c s).map i) = some (c.userId, c.tier) := by
  have bears := Stage.bears_bearing i c s
  simp only [known, Stage.verifiedUser, Stage.verifiedTier, TypedMap.get?, bears.user h,
    bears.tier h]
  rfl

/-- What is sent of a JSON answer is its text. -/
lemma sent_ofNative (v : Json) (hs : Headers) :
    (Response.ofNative (jsonAnswer v)).sent hs = ⟨.ok, hs, .buffer (Bytes.ofText v.render)⟩ := by
  have body (bs : Bytes) :
      Response.Payload.toBody (if (Body.buffer bs).isEnd then .none else .stream (.buffer bs)) =
        .buffer bs := by
    cases bs with
    | nil => rfl
    | cons b bs => rfl
  exact congrArg (NativeResponse.mk .ok hs) (body (Bytes.ofText v.render))

/-- Nothing is known in a new store. -/
lemma known_create (s : Stores Value) : known (s.create.2.map s.create.1) = none := by
  simp only [Stores.create, Stores.map, Stores.store, List.getElem?_append_right (Nat.le_refl _),
    Nat.sub_self]
  rfl

/-- The chain of the route of identities has a gate: it is bound to a kind that lists one. -/
def Guarded (s : Settings) : Prop :=
  ∃ kind names, s.chains.bindings.find? Foundry.apiKind = some kind ∧ stagesOf s kind = some names ∧
    "assertion" ∈ names

/-- The body that shows a claim. -/
def identityBody (c : Claim) : Body :=
  .buffer (Bytes.ofText (Json.object [("user_id", .str c.userId),
    ("plan_tier", .str c.tier.name)]).render)

/-- What the answers are given for, under the headers' verification at some time. -/
inductive Answers (s : Settings) (clock : Clock) (active : ActiveSystem) (h : Headers)
    (elapsed : Nat) :
    NativeResponse → Prop where
  | identified {c hs} : active = .chains → Guarded s → (verifier s clock).verify h elapsed = .ok c →
    Answers s clock active h elapsed ⟨.ok, hs, identityBody c⟩
  | refused {e hs} : active = .chains → Guarded s → (verifier s clock).verify h elapsed = .error e →
    Answers s clock active h elapsed (Response.unauthorized.sent hs)
  | unguarded {kind hs} : active = .chains → s.chains.bindings.find? Foundry.apiKind = some kind →
    ¬ Guarded s → Answers s clock active h elapsed
      ((Response.ofError (.http (.ofStatus .unauthorized))).sent hs)
  | unbound : active = .chains → s.chains.bindings.find? Foundry.apiKind = none →
    Answers s clock active h elapsed HttpFailure.internal.toResponse
  | layers : active = .layers → Answers s clock active h elapsed
      (Response.ofError (.http (.ofStatus .unauthorized))).writeOrRender

/-- Behind a chain that was cast for the service the answer goes with the verification. -/
lemma runChain_whoami {s : Settings} {clock : Clock} {kind : String} {c : Chain}
    (bound : s.chains.bindings.find? Foundry.apiKind = some kind)
    (hc : (foundry s (registered s clock)).cast kind = .ok c) (server : Server) (name : String)
    {n : NativeRequest} (fresh : n.store = none) (addr : Option SocketAddr) (w : World) :
    ∃ b w', server.runChain name c n addr whoami w = (some b, w') ∧
      Answers s clock .chains n.headers w.clock b := by
  obtain ⟨names, bs, named, stages, same, listed⟩ := cast_members hc
  by_cases hl : "assertion" ∈ names
  · have guarded : Guarded s := ⟨kind, names, bound, named, hl⟩
    obtain ⟨o, there⟩ := listed.mpr hl
    cases hv : (verifier s clock).verify n.headers w.clock with
    | error e =>
      obtain ⟨hs, w', sent⟩ := server.runChain_builtIn name stages looksUp_whoami fresh addr w
        (BuiltIn.settle_of_error reply same there hv _ _) rfl rfl
      exact ⟨_, w', sent, .refused rfl guarded hv⟩
    | ok c =>
      have held : w.stores.create.1.index < w.stores.create.2.all.length := by
        simp [Stores.create]
      obtain ⟨s₀, settled, lt⟩ :=
        BuiltIn.settle_of_ok reply same hv w.stores.create.1 (.inl ⟨o, there⟩) held
      rw [reply_of_known (known_bearing c lt)] at settled
      obtain ⟨hs, w', sent⟩ :=
        server.runChain_builtIn name stages looksUp_whoami fresh addr w settled rfl rfl
      refine ⟨_, w', sent, ?_⟩
      rw [sent_ofNative]
      exact .identified rfl guarded hv
  · have unguarded : ¬ Guarded s := by
      rintro ⟨kind', names', bound', named', hl'⟩
      rw [bound] at bound'
      cases bound'
      rw [named] at named'
      cases named'
      exact hl hl'
    have open_ : ∀ v o, BuiltIn.gate v o ∉ bs := by
      intro v o hm
      cases same v o hm
      exact hl (listed.mp ⟨o, hm⟩)
    have settled := BuiltIn.settle_of_open reply open_ w.stores.create.1 n.headers w.clock
      w.stores.create.2
    rw [reply_of_unknown (known_create w.stores)] at settled
    obtain ⟨hs, w', sent⟩ :=
      server.runChain_builtIn name stages looksUp_whoami fresh addr w settled rfl rfl
    exact ⟨_, w', sent, .unguarded rfl bound unguarded⟩

/-- Behind the plain layers nobody is known. -/
lemma halt_layers {n : NativeRequest} (fresh : n.store = none) (p : Plan) (w : World) :
    ∃ w', (LayerStack.standard.run whoami n).halt p w =
      .finished (.error (.http (.ofStatus .unauthorized))) p w' := by
  obtain ⟨method, uri, headers, body, store, params, addr⟩ := n
  cases fresh
  exact ⟨_, rfl⟩

/--
The server that is built has the routes of the service, and either the plain layers or bound chains.
-/
lemma build_spec {s : Settings} {clock : Clock} {server : Server} {records : List LogRecord}
    (built : build s clock = .ok (server, records)) :
    server.routes = routes ∧ (server.installed.pipeline = .layers .standard ∨
      ∃ f records, server.installed.pipeline = .chains f ∧
        (foundry s (registered s clock)).keepAll s.chains.bindings = (.ok f, records)) := by
  rw [build, catalog_eq] at built
  cases built
  refine ⟨rfl, ?_⟩
  rcases (integration s (registered s clock)).setup_cases .standard with
    ⟨f, rs, -, kept, e⟩ | ⟨-, e⟩
  · exact .inr ⟨f, rs, congrArg Installed.pipeline e, kept⟩
  · exact .inl (congrArg Installed.pipeline e)

/-- Requests for identities are routed to the chain of the kind for services. -/
lemma find?_whoami {n : NativeRequest} (get : n.method = .get)
    (asks : Segment.split n.uri.path.toList = Segment.split "/api/whoami".toList) :
    Routes.find? routes n.method n.uri.path = some (⟨.get, "/api/whoami", Foundry.apiKind, whoami⟩,
      ⟨[]⟩) := by
  have ping : Segment.matches? (Segment.ofPattern "/api/ping".toList)
      (Segment.split "/api/whoami".toList) = none := by
    decide
  have whoami : Segment.matches? (Segment.ofPattern "/api/whoami".toList)
      (Segment.split "/api/whoami".toList) = some [] := by
    decide
  simp only [Routes.find?, routes, get, decide_true, List.filter_cons_of_pos, List.filter_nil,
    List.findSome?_cons, Route.matchPath?, asks, ping, whoami, Option.map_none, Option.map_some,
    List.map_nil]

/-- Every request for an identity is answered, and the answer is given for what it should be. -/
lemma answers_whoami {s : Settings} {clock : Clock} {server : Server} {records : List LogRecord}
    (built : build s clock = .ok (server, records)) {n : NativeRequest} (get : n.method = .get)
    (asks : Segment.split n.uri.path.toList = Segment.split "/api/whoami".toList)
    (fresh : n.store = none) (addr : Option SocketAddr) (w : World) :
    ∃ b w', server.dispatch n addr w = (some b, w') ∧
      Answers s clock server.installed.pipeline.active n.headers w.clock b := by
  obtain ⟨rts, installed⟩ := build_spec built
  have unhealthy : ¬ (n.method = .get ∧ n.uri.path = Server.healthPath) := by
    rintro ⟨-, e⟩
    rw [e] at asks
    exact absurd asks (by decide)
  -- what is left is the run of the route, whose answer is counted and sent
  suffices run : ∃ b w', server.runInstalled ⟨.get, "/api/whoami", Foundry.apiKind, whoami⟩
      { n with params := some ⟨[]⟩ } addr (w.count .entered) = (some b, w') ∧
        Answers s clock server.installed.pipeline.active n.headers w.clock b by
    obtain ⟨b, w', run, answers⟩ := run
    refine ⟨b, (Server.record Foundry.apiKind b.status w').count .left, ?_, answers⟩
    rw [Server.dispatch, Server.answer, if_neg unhealthy, rts, find?_whoami get asks]
    simp only [Server.runRoute, run]
  rcases installed with layers | ⟨f, rs, chains, kept⟩
  · rw [layers, Server.runInstalled, layers]
    obtain ⟨w', e⟩ :=
      halt_layers (n := { n with params := some ⟨[]⟩, remoteAddr := addr.or n.remoteAddr }) fresh
      (server.layersPlan (w.count .entered).clock) (w.count .entered)
    refine ⟨_, w', ?_, .layers rfl⟩
    simp only [Server.runLayers, Task.run_eq, e]
    rfl
  · obtain ⟨-, none_kept, -⟩ := foundry_spec s (registered s clock)
    rw [chains, Server.runInstalled, chains]
    rcases Foundry.chain?_of_keepAll kept none_kept Foundry.apiKind with
      ⟨unbound, missing⟩ | ⟨kind, c, bound, found, hc⟩
    · simp only [missing]
      exact ⟨_, _, rfl, .unbound rfl unbound⟩
    · simp only [found]
      exact runChain_whoami (n := { n with params := some ⟨[]⟩ }) bound hc server Foundry.apiKind
        fresh addr
        (w.count .entered)

/-- A request is identified as a claim. -/
structure Identifies (s : Settings) (clock : Clock) (server : Server) (n : NativeRequest)
    (w : World) (c : Claim) : Prop where
  active : server.installed.pipeline.active = .chains
  guarded : Guarded s
  verified : (verifier s clock).verify n.headers w.clock = .ok c

/-- The texts of all answers to callers who are not identified. -/
def refusals : List String := [
  "\x7b\"error\":\"unauthorized\"\x7d",
  "\x7b\"error\":\x7b\"code\":\"UNAUTHORIZED\",\"message\":\"Unauthorized\"\x7d\x7d",
  "\x7b\"error\":\x7b\"code\":\"INTERNAL_SERVER_ERROR\"," ++
    "\"message\":\"Internal Server Error\"\x7d\x7d"]

/-- An answer with one of the texts for those who are not identified. -/
def IsRefusal (b : NativeResponse) : Prop := ∃ t ∈ refusals, b.body = .buffer (Bytes.ofText t)

/-- The answer of a gate is a refusal. -/
lemma isRefusal_unauthorized (hs : Headers) : IsRefusal (Response.unauthorized.sent hs) := by
  have text : (Json.object [("error", .str "unauthorized")]).render ∈ refusals := by decide +kernel
  exact ⟨_, text, rfl⟩

/-- The failure of someone unauthorized is a refusal. -/
lemma isRefusal_failure (hs : Headers) :
    IsRefusal (HttpFailure.toResponse ⟨.unauthorized, "Unauthorized", hs⟩) := by
  have text : (HttpFailure.ofStatus .unauthorized).body.render ∈ refusals := by decide +kernel
  exact ⟨_, text, rfl⟩

/-- The internal failure is a refusal. -/
lemma isRefusal_internal : IsRefusal HttpFailure.internal.toResponse := by
  have text : HttpFailure.internal.body.render ∈ refusals := by decide +kernel
  exact ⟨_, text, rfl⟩

/--
Without the conditions of an identity an answer is a refusal, with 500 if the chain is not bound.
-/
lemma Answers.refusal {s : Settings} {clock : Clock} {active : ActiveSystem} {h : Headers}
    {elapsed : Nat} {b : NativeResponse} (a : Answers s clock active h elapsed b)
    (unknown : ∀ c, active = .chains → Guarded s → (verifier s clock).verify h elapsed ≠ .ok c) :
    IsRefusal b ∧ b.status = if active = .chains ∧ s.chains.bindings.find? Foundry.apiKind = none
      then .internalError else .unauthorized := by
  cases a with
  | identified active guarded verified => exact absurd verified (unknown _ active guarded)
  | refused _ guarded _ =>
    obtain ⟨kind, _, bound, -⟩ := guarded
    refine ⟨isRefusal_unauthorized _, ?_⟩
    rw [if_neg fun unbound => by rw [bound] at unbound; cases unbound.2]
    rfl
  | unguarded _ bound _ =>
    refine ⟨isRefusal_failure _, ?_⟩
    rw [if_neg fun unbound => by rw [bound] at unbound; cases unbound.2]
    rfl
  | unbound active unbound =>
    refine ⟨isRefusal_internal, ?_⟩
    rw [if_pos ⟨active, unbound⟩]
    rfl
  | layers active =>
    refine ⟨isRefusal_failure _, ?_⟩
    rw [if_neg fun unbound => by rw [active] at unbound; cases unbound.1]
    rfl

/-- With the conditions of an identity the answer is that identity. -/
lemma Answers.identity {s : Settings} {clock : Clock} {active : ActiveSystem} {h : Headers}
    {elapsed : Nat} {b : NativeResponse} (a : Answers s clock active h elapsed b) {c : Claim}
    (chains : active = .chains) (guarded : Guarded s)
    (verified : (verifier s clock).verify h elapsed = .ok c) :
    b.status = .ok ∧ b.body = identityBody c := by
  have ⟨kind, _, bound, _⟩ := guarded
  cases a with
  | identified _ _ verified' =>
    rw [verified] at verified'
    cases verified'
    exact ⟨rfl, rfl⟩
  | refused _ _ refused => rw [verified] at refused; cases refused
  | unguarded _ _ unguarded => exact absurd guarded unguarded
  | unbound _ unbound => rw [bound] at unbound; cases unbound
  | layers layers => rw [chains] at layers; cases layers

/--
The service answers with an identity exactly if it identifies the caller, and refuses in fixed words
if not.
-/
theorem dispatch_whoami (s : Settings) (clock : Clock) (server : Server) (records : List LogRecord)
    (n : NativeRequest) (addr : Option SocketAddr) (w : World)
    (built : build s clock = .ok (server, records)) (get : n.method = .get)
    (asks : Segment.split n.uri.path.toList = Segment.split "/api/whoami".toList)
    (fresh : n.store = none) :
    ∃ b w', server.dispatch n addr w = (some b, w') ∧
      (b.status = .ok ↔ ∃ c, Identifies s clock server n w c) ∧
      (∀ c, Identifies s clock server n w c → b.body = identityBody c) ∧
      ((∀ c, ¬ Identifies s clock server n w c) → IsRefusal b ∧ b.status =
        if server.installed.pipeline.active = .chains ∧
        s.chains.bindings.find? Foundry.apiKind = none
        then .internalError else .unauthorized) := by
  obtain ⟨b, w', run, answers⟩ := answers_whoami built get asks fresh addr w
  have identity (c) (i : Identifies s clock server n w c) :=
    answers.identity i.active i.guarded i.verified
  have refusal (none : ∀ c, ¬ Identifies s clock server n w c) :=
    answers.refusal fun c active guarded verified => none c ⟨active, guarded, verified⟩
  refine ⟨b, w', run, ⟨fun ok => ?_, fun ⟨c, i⟩ => (identity c i).1⟩, fun c i => (identity c i).2,
    refusal⟩
  by_cases known : ∃ c, Identifies s clock server n w c
  · exact known
  · obtain ⟨-, status⟩ := refusal fun c i => known ⟨c, i⟩
    rw [ok] at status
    split at status
    · exact absurd status (by decide)
    · exact absurd status (by decide)

/-- Settings with a secret. -/
def deployed : Settings := { Settings.standard with key := ⟨"secret", 60⟩ }

/-- Headers that were signed for a user under the secret. -/
def badge : Headers :=
  match Assertion.sign (Bytes.ofText "secret") "ada" .pro ⟨0, 0⟩ with
  | .ok a => a.toHeaders.toOption.getD .empty
  | .error _ => .empty

/-- A request for the route of identities with these headers. -/
def caller : NativeRequest :=
  ⟨.get, ⟨none, [], "/api/whoami".toList, none⟩, badge, .empty, none, none, none⟩

/-- The badge verifies at the time at which it was signed. -/
lemma verify_badge : ∃ sig,
    (verifier deployed (.fixed ⟨0, 0⟩)).verify badge 0 = .ok ⟨"ada", .pro, ⟨0, 0⟩, sig⟩ := by
  have key : Bytes.ofText "secret" ≠ [] := by decide
  have stated : Instant.stated ⟨0, 0⟩ = ⟨0, 0⟩ := by decide
  obtain ⟨a, h, made, written, verified⟩ := Verifier.exists_signed _ "ada" .pro ⟨0, 0⟩ key
    (by decide) (Bytes.visible_of_all (by decide)) (by decide) (by decide)
  have badged : badge = h := by
    rw [badge, made]
    simp only [written]
    rfl
  have verified := verified ⟨0, 0⟩ (.ofSeconds 60) (.fixed ⟨0, 0⟩)
  rw [if_pos (by decide), ← badged, stated] at verified
  exact ⟨a.signature, verified⟩

/-- A user whose headers were signed is shown by name and tier. -/
theorem dispatch_whoami_ada : ∃ server records b w',
    build deployed (.fixed ⟨0, 0⟩) = .ok (server, records) ∧
    server.dispatch caller none (.start fun _ => ⟨List.replicate 16 0, rfl⟩) = (some b, w') ∧
    b.status = .ok ∧
    b.body = .buffer (Bytes.ofText "\x7b\"plan_tier\":\"pro\",\"user_id\":\"ada\"\x7d") := by
  obtain ⟨sig, verified⟩ := verify_badge
  obtain ⟨⟨server, records⟩, built⟩ : ∃ x, build deployed (.fixed ⟨0, 0⟩) = .ok x := ⟨_, rfl⟩
  obtain ⟨b, w', run, status, body, -⟩ :=
    dispatch_whoami deployed (.fixed ⟨0, 0⟩) server records caller none
    (.start fun _ => ⟨List.replicate 16 0, rfl⟩) built rfl rfl rfl
  have identified : Identifies deployed (.fixed ⟨0, 0⟩) server caller
      (.start fun _ => ⟨List.replicate 16 0, rfl⟩) ⟨"ada", .pro, ⟨0, 0⟩, sig⟩ := by
    refine ⟨?_, ⟨Foundry.apiKind, ["request_id", "logging", "assertion"], rfl, rfl, by decide⟩,
      verified⟩
    cases built
    rfl
  refine ⟨server, records, b, w', built, run, status.mpr ⟨_, identified⟩, ?_⟩
  have text : (Json.object [("user_id", .str "ada"), ("plan_tier", .str "pro")]).render =
      "\x7b\"plan_tier\":\"pro\",\"user_id\":\"ada\"\x7d" := by decide +kernel
  rw [body _ identified, ← text]
  rfl

end Gatehouse.Service
