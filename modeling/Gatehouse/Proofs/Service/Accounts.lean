import Gatehouse.Proofs.Server.Accounting
import Gatehouse.Proofs.Service.Whoami

/-!
# What the service counts

The stages of the service count refusals and nothing else, its handlers and its plain layers count
nothing, so its metrics tell of any sequence of dispatches how many requests there were, with which
answers, and why requests were rejected (`Service.serves_accounts`).
-/

namespace Gatehouse

/-- The access log counts nothing. -/
lemma Layer.keeps_accessLog : accessLog.enter.Keeps World.counts fun _ => True := by
  intro n result _
  refine (Task.Keeps.modify fun w => ?_).bind fun _ _ => trivial
  cases result with
  | ok b => exact w.counts_log _ _ _
  | error e => exact w.counts_log _ _ _

namespace Service

/-- The stages of the service count nothing but refusals of its verifier. -/
lemma tallies_members {s : Settings} {clock : Clock} :
    ∀ b ∈ members s clock, b.Tallies (verifier s clock) := by
  intro b hb
  rcases List.mem_cons.mp hb with rfl | hb
  · exact .identify false
  rcases List.mem_cons.mp hb with rfl | hb
  · exact .journal nofun
  cases List.mem_singleton.mp hb
  exact .gate

/-- The handler of the root counts nothing. -/
lemma keeps_ping : Inside.Keeps World.counts (fun _ => True) ping := fun _ => trivial

/-- The handler of identities counts nothing. -/
lemma keeps_whoami : Inside.Keeps World.counts (fun _ => True) whoami := by
  intro n
  apply (Task.Keeps.read (identity n)).bind
  intro known _
  cases known with
  | none => exact trivial
  | some known => exact trivial

/-- A server with more routes behind its own. -/
def withRoutes (server : Server) (more : Routes) : Server :=
  { server with routes := server.routes ++ more }

/-- A server with no more routes is the same. -/
lemma withRoutes_nil (server : Server) : withRoutes server [] = server := by
  rw [withRoutes, List.append_nil]

/--
The server of the settings is accountable, and stays so with routes whose handlers count nothing.
-/
lemma accountable {s : Settings} {clock : Clock} {server : Server} {records : List LogRecord}
    (built : build s clock = .ok (server, records)) {more : Routes}
    (quiet : ∀ route ∈ more, Inside.Keeps World.counts (fun _ => True) route.handler) :
    (withRoutes server more).Accountable (verifier s clock) := by
  obtain ⟨rts, installed⟩ := build_spec built
  constructor
  case chains =>
    intro f name c chains bound
    rcases installed with layers | ⟨f', rs, chains', kept⟩
    · cases layers.symm.trans chains
    · cases chains'.symm.trans chains
      obtain ⟨-, none_kept, -⟩ := foundry_spec s (registered s clock)
      rcases Foundry.chain?_of_keepAll kept none_kept name with
        ⟨-, missing⟩ | ⟨kind, c', -, found, cast⟩
      · cases missing.symm.trans bound
      · cases found.symm.trans bound
        obtain ⟨bs, stages, inside⟩ := stages_cast cast
        exact ⟨bs, stages, fun b hb => tallies_members b (inside b hb)⟩
  case layers =>
    intro stack layers l hl
    rcases installed with layers' | ⟨f, rs, chains, -⟩
    · cases layers'.symm.trans layers
      cases List.mem_singleton.mp hl
      exact Layer.keeps_accessLog
    · cases chains.symm.trans layers
  case handlers =>
    intro route hr
    rw [withRoutes, rts] at hr
    rcases List.mem_append.mp hr with hr | hr
    · rcases List.mem_cons.mp hr with rfl | hr
      · exact keeps_ping
      · cases List.mem_singleton.mp hr
        exact keeps_whoami
    · exact quiet route hr

/--
However the service is set, its metrics account for its dispatches, with its own routes alone as
with any others.
-/
theorem serves_accounts (s : Settings) (clock : Clock) (server : Server) (records : List LogRecord)
    (built : build s clock = .ok (server, records)) :
    (∀ w ds u, server.Serves w ds u → server.Accounts (verifier s clock) w ds u) ∧
    ∀ more : Routes, (∀ route ∈ more, Inside.Keeps World.counts (fun _ => True) route.handler) →
      ∀ w ds u, (withRoutes server more).Serves w ds u →
      (withRoutes server more).Accounts (verifier s clock) w ds u := by
  have accounts {more : Routes} (quiet : ∀ route ∈ more,
    Inside.Keeps World.counts (fun _ => True) route.handler) :
      ∀ w ds u, (withRoutes server more).Serves w ds u →
        (withRoutes server more).Accounts (verifier s clock) w ds u :=
    fun _ _ _ serves => (accountable built quiet).accounts serves
  refine ⟨?_, fun more quiet => accounts quiet⟩
  rw [← withRoutes_nil server]
  exact accounts fun _ h => absurd h List.not_mem_nil

/-- The chain of a kind that lists all stages. -/
lemma cast_all {s : Settings} {clock : Clock} {kind : String}
    (listed : stagesOf s kind = some ["request_id", "logging", "assertion"]) :
    (foundry s (registered s clock)).cast kind =
      .ok (.of ((members s clock).map BuiltIn.toStage) .notFound) := by
  obtain ⟨catalog, -, kinds⟩ := foundry_spec s (registered s clock)
  rw [Foundry.cast, kinds, listed, catalog]
  have placed : (((members s clock).map BuiltIn.toStage).zipIdx.map Prod.swap).mergeSort
    (fun a b => a.1 ≤ b.1) =
      ((members s clock).map BuiltIn.toStage).zipIdx.map Prod.swap :=
    List.mergeSort_of_pairwise (by simp [members])
  exact congrArg (fun found => Except.ok (Chain.of (found.map Prod.snd) .notFound)) placed

/-- The stages of the service stand in the order of a chain. -/
lemma sorted_members (s : Settings) (clock : Clock) :
    (Chain.of ((members s clock).map BuiltIn.toStage) .notFound).stages =
      (members s clock).map BuiltIn.toStage := by
  apply List.mergeSort_of_pairwise
  simp [members, BuiltIn.toStage, Stage.identify, Stage.journal, Stage.gate]

/-- A request to a path. -/
def asking (path : String) : NativeRequest :=
  ⟨.get, ⟨none, [], path.toList, none⟩, .empty, .empty, none, none, none⟩

/-- A caller without headers is rejected. -/
lemma rejects_stranger {server : Server} {records : List LogRecord}
    (built : build deployed (.fixed ⟨0, 0⟩) = .ok (server, records)) (w : World) :
    server.Rejects (verifier deployed (.fixed ⟨0, 0⟩)) (asking "/api/whoami") none w
      (.missingHeader Assertion.userIdHeader) := by
  obtain ⟨rts, installed⟩ := build_spec built
  obtain ⟨-, none_kept, -⟩ := foundry_spec deployed (registered deployed (.fixed ⟨0, 0⟩))
  rcases installed with layers | ⟨f, rs, chains, kept⟩
  · cases built
    cases layers
  rcases Foundry.chain?_of_keepAll kept none_kept Foundry.apiKind with
    ⟨unbound, -⟩ | ⟨kind, c, bound, found, cast⟩
  · cases unbound
  cases bound
  cases (cast_all rfl).symm.trans cast
  have takes : server.Takes (asking "/api/whoami") ⟨.get, "/api/whoami", Foundry.apiKind,
      whoami⟩ ⟨[]⟩ := by
    refine ⟨by decide, ?_⟩
    rw [rts]
    exact find?_whoami rfl rfl
  obtain ⟨r, p, v, enters, bare, fresh⟩ : ∃ r p v,
    server.Enters (asking "/api/whoami") none w _ whoami r p v ∧
      r.headers = .empty ∧ v.fired = false := ⟨_, _, _, .intro takes chains found rfl, rfl, rfl⟩
  obtain ⟨id, r', u, arrives, headers, unfired⟩ := BuiltIn.arrives_behind false none
    [.gate (verifier deployed (.fixed ⟨0, 0⟩)) (some Refusal.counted)] r p fresh
  have came : Arrives (Chain.of ((members deployed (.fixed ⟨0, 0⟩)).map BuiltIn.toStage)
    .notFound).stages r p v 2 r' p u := by
    rw [sorted_members]
    exact arrives
  have at_ :
    (Chain.of ((members deployed (.fixed ⟨0, 0⟩)).map BuiltIn.toStage) .notFound).stages[2]? =
      some (.gate (verifier deployed (.fixed ⟨0, 0⟩)) (some Refusal.counted)) := by
    rw [sorted_members]
    rfl
  refine .intro enters (.intro at_ came unfired ?_)
  rw [headers, bare, Assertion.verify_congr fun name => BuiltIn.values_withId _ id]
  rfl

/-- The service has no route for a path that it does not know. -/
lemma find?_nowhere {server : Server} {records : List LogRecord}
    (built : build deployed (.fixed ⟨0, 0⟩) = .ok (server, records)) :
    server.routes.find? (asking "/nowhere").method (asking "/nowhere").uri.path = none := by
  obtain ⟨rts, -⟩ := build_spec built
  rw [rts]
  decide

/-- Of the paths that strangers ask for one has no route, and one belongs to a chain. -/
lemma label_strangers {server : Server} {records : List LogRecord}
    (built : build deployed (.fixed ⟨0, 0⟩) = .ok (server, records)) :
    server.label (asking "/nowhere") = "none" ∧ server.label (asking "/api/whoami") = "api" := by
  obtain ⟨rts, -⟩ := build_spec built
  have routed :
      server.routes.find? (asking "/api/whoami").method (asking "/api/whoami").uri.path =
        some (⟨.get, "/api/whoami", Foundry.apiKind, whoami⟩, ⟨[]⟩) := by
    rw [rts]
    exact find?_whoami rfl rfl
  constructor
  case left =>
    rw [Server.label, find?_nowhere built]
    rfl
  case right =>
    rw [Server.label, routed]
    rfl

/-- Strangers ask one after the other, and each of them is answered. -/
lemma serves_strangers {server : Server} {records : List LogRecord}
    (built : build deployed (.fixed ⟨0, 0⟩) = .ok (server, records)) : ∃ u₁ u₂ b u₃,
    server.Serves Stage.visitor.2 [⟨asking "/health", none, Stage.visitor.2, server.health, u₁⟩,
      ⟨asking "/nowhere", none, u₁, Server.noRoute (asking "/nowhere"), u₂⟩,
      ⟨asking "/api/whoami", none, u₂, b, u₃⟩] u₃ := by
  obtain ⟨u₁, first⟩ : ∃ u, server.dispatch (asking "/health") none Stage.visitor.2 =
    (some server.health, u) := ⟨_, rfl⟩
  obtain ⟨u₂, second⟩ : ∃ u, server.dispatch (asking "/nowhere") none u₁ =
      (some (Server.noRoute (asking "/nowhere")), u) := by
    simp only [Server.dispatch, Server.answer, find?_nowhere built]
    exact ⟨_, rfl⟩
  obtain ⟨b, u₃, third, -⟩ := answers_whoami built (n := asking "/api/whoami") rfl rfl rfl none u₂
  exact ⟨u₁, u₂, b, u₃, .cons 0 rfl first (.cons 0 rfl second (.cons 0 rfl third .nil))⟩

/-- Plain layers and little time. -/
def hurried : Settings :=
  { deployed with
    chains := { deployed.chains with enabled := false }
    listen := { deployed.listen with requestMillis := 100 } }

/-- A route whose handler takes a second. -/
def drowsy : Route := ⟨.get, "/slow", "slow", fun _ => do
  Task.sleep 1000
  pure (.ok ⟨.ok, .empty, .empty⟩)⟩

/--
A health check, a request without route and one without headers, and a request that takes too long.
-/
theorem serves_accounts_strangers :
    (∃ server records ds u, build deployed (.fixed ⟨0, 0⟩) = .ok (server, records) ∧
      server.Serves Stage.visitor.2 ds u ∧
      ds.map Server.Dispatched.request =
        [asking "/health", asking "/nowhere", asking "/api/whoami"] ∧
      server.Accounts (verifier deployed (.fixed ⟨0, 0⟩)) Stage.visitor.2 ds u ∧
      requestsOf u.counts = [("none", 404), ("api", 401)] ∧
      refusalsOf u.counts = ["missing_header"]) ∧
    ∃ server records ds u, build hurried (.fixed ⟨0, 0⟩) = .ok (server, records) ∧
      (withRoutes server [drowsy]).Serves Stage.visitor.2 ds u ∧
      (withRoutes server [drowsy]).Accounts (verifier hurried (.fixed ⟨0, 0⟩))
        Stage.visitor.2 ds u ∧
      requestsOf u.counts = [("slow", 499)] := by
  constructor
  · obtain ⟨⟨server, records⟩, built⟩ : ∃ x, build deployed (.fixed ⟨0, 0⟩) = .ok x := ⟨_, rfl⟩
    obtain ⟨u₁, u₂, b, u₃, serves⟩ := serves_strangers built
    have accounts := (serves_accounts deployed (.fixed ⟨0, 0⟩) server records built).1 _ _ _ serves
    have counted : Server.asksHealth (asking "/health") = true ∧
      Server.asksHealth (asking "/nowhere") = false ∧
        Server.asksHealth (asking "/api/whoami") = false := by decide
    have rejects := rejects_stranger built u₂
    obtain ⟨-, status⟩ := accounts.unauthorized _ (.tail _ (.tail _ (.head _))) _ rejects
    have refused : b.status = .unauthorized := status
    refine ⟨server, records, _, u₃, built, serves, rfl, accounts, ?requests, ?refusals⟩
    case requests =>
      rw [accounts.requests]
      simp only [List.filter_cons, List.filter_nil, counted, Bool.not_true, Bool.not_false,
        Bool.false_eq_true, if_true, if_false, List.map_cons, List.map_nil, label_strangers built,
        refused]
      rfl
    case refusals =>
      obtain ⟨reasons, rejected, refusals⟩ := accounts.refusals
      cases rejected with
      | cons h₁ rest =>
      cases rest with
      | cons h₂ rest =>
      cases rest with
      | cons h₃ rest =>
      cases rest
      -- the first one is the health check, and the second one has no route
      have none₁ := accounts.reason_eq_none (.head _) h₁ (.inl counted.1)
      have unfound : Status.notFound ≠ .unauthorized := by decide
      have none₂ := accounts.reason_eq_none (.tail _ (.head _)) h₂ (.inr unfound)
      rw [refusals, none₁, none₂, (h₃ _).mpr rejects]
      rfl
  · obtain ⟨⟨server, records⟩, built⟩ : ∃ x, build hurried (.fixed ⟨0, 0⟩) = .ok x := ⟨_, rfl⟩
    have quiet : ∀ route ∈ [drowsy], Inside.Keeps World.counts (fun _ => True) route.handler := by
      intro route hr
      cases List.mem_singleton.mp hr
      exact fun _ => trivial
    obtain ⟨b, u, run, labels, late⟩ :
      ∃ b u, (withRoutes server [drowsy]).dispatch (asking "/slow") none Stage.visitor.2 =
        (some b, u) ∧ (withRoutes server [drowsy]).label (asking "/slow") = "slow" ∧
        b.status.code = 499 := by
      cases built
      exact ⟨_, _, rfl, rfl, rfl⟩
    have serves : (withRoutes server [drowsy]).Serves Stage.visitor.2
      [⟨asking "/slow", none, Stage.visitor.2, b, u⟩] u := .cons 0 rfl run .nil
    have accounts :=
      (serves_accounts hurried (.fixed ⟨0, 0⟩) server records built).2 [drowsy] quiet _ _ _ serves
    refine ⟨server, records, _, u, built, serves, accounts, ?_⟩
    have counted : Server.asksHealth (asking "/slow") = false := by decide
    rw [accounts.requests]
    simp only [List.filter_cons, List.filter_nil, counted, Bool.not_false, if_true, List.map_cons,
      List.map_nil, labels, late]
    rfl

end Service

end Gatehouse
