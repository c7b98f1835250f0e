import Gatehouse.Proofs.Server.Dressing
import Gatehouse.Proofs.Server.Keeping

/-!
# What is counted of requests

A chain whose stages count nothing but what their gates refuse adds to the metrics the reason for
which one of its gates turns the request away, and nothing if none does (`counts_runStages`).  So
each dispatch adds one request with its status, one refusal if the request is rejected, and leaves
as many requests in flight as it found (`Server.Accountable.dispatch`).  `Server.Accounts` says this
of a sequence of dispatches.
-/

namespace Gatehouse

/-- The changes of metrics so far. -/
def World.counts (w : World) : List Metric := metricsOf w.trace

namespace World

/-- An event is counted if it is a change of a metric. -/
lemma counts_emit (w : World) (e : Event) : (w.emit e).counts = w.counts ++ metricsOf [e] :=
  List.filterMap_append

/-- A record is not counted. -/
@[simp]
lemma counts_log (w : World) (level : LogLevel) (message : String)
    (fields : List (String × LogField)) :
    (w.log level message fields).counts = w.counts := (w.counts_emit _).trans (List.append_nil _)

/-- A change of a metric is counted last. -/
@[simp]
lemma counts_count (w : World) (m : Metric) : (w.count m).counts = w.counts ++ [m] :=
  w.counts_emit _

end World

/-- The requests that were counted, each with its chain and its status. -/
def requestsOf (ms : List Metric) : List (String × Nat) :=
  ms.filterMap fun
    | .served chain status => some (chain, status)
    | _ => none

/-- The reasons of the refusals that were counted. -/
def refusalsOf (ms : List Metric) : List String :=
  ms.filterMap fun
    | .refused reason => some reason
    | _ => none

/-- The number of requests in flight after changes of it. -/
def inFlightOf : List Metric → Int
  | [] => 0
  | m :: ms => m.inFlight + inFlightOf ms

/-- Requests are counted in turn. -/
@[simp]
lemma requestsOf_append (ms ms' : List Metric) :
    requestsOf (ms ++ ms') = requestsOf ms ++ requestsOf ms' :=
  List.filterMap_append

/-- Refusals are counted in turn. -/
@[simp]
lemma refusalsOf_append (ms ms' : List Metric) :
    refusalsOf (ms ++ ms') = refusalsOf ms ++ refusalsOf ms' :=
  List.filterMap_append

/-- Changes of the gauge add up. -/
@[simp]
lemma inFlightOf_append (ms ms' : List Metric) :
    inFlightOf (ms ++ ms') = inFlightOf ms + inFlightOf ms' := by
  induction ms with
  | nil => exact (Int.zero_add _).symm
  | cons m ms ih => rw [List.cons_append, inFlightOf, inFlightOf, ih, Int.add_assoc]

/-- What an observer makes of a refusal to count it. -/
def Refusal.counted (e : Refusal) : Event := .metric (.refused e.reason)

/-- Stages that count nothing but what their gates refuse, all of them by one verifier. -/
inductive BuiltIn.Tallies (v : Verifier) : BuiltIn → Prop where
  | identify (trusting) : Tallies v (.identify trusting)
  | journal {observer} : (∀ f, observer = some f → ∀ s, metricsOf [f s] = []) →
    Tallies v (.journal observer)
  | gate : Tallies v (.gate v (some Refusal.counted))

/-- A chain comes to a gate that refuses the request. -/
inductive TurnsAway (v : Verifier) (ss : List Stage) (r : Request) (p : Plan) (w : World)
    (e : Refusal) : Prop where
  | intro {place r' p' w'} : ss[place]? = some (.gate v (some Refusal.counted)) →
    Arrives ss r p w place r' p' w' →
    w'.fired = false → v.verify r'.headers w'.clock = .error e → TurnsAway v ss r p w e

/-- What is counted of refusals: the one that there is, or nothing. -/
inductive Told (refused : Refusal → Prop) : List Metric → Prop where
  | refusal {e} : refused e → Told refused [.refused e.reason]
  | nothing : (∀ e, ¬ refused e) → Told refused []

/-- What is counted of refusals depends on which there are alone. -/
lemma Told.congr {refused refused' : Refusal → Prop} {told : List Metric} (t : Told refused told)
    (same : ∀ e, refused e ↔ refused' e) : Told refused' told := by
  cases t with
  | refusal h => exact .refusal ((same _).mp h)
  | nothing h => exact .nothing fun e h' => h e ((same e).mpr h')

namespace TurnsAway

variable {v : Verifier} {s : Stage} {ss : List Stage} {r r₁ : Request} {p p₁ : Plan} {w w₁ : World}
  {e e' : Refusal}

/-- A chain without stages turns nothing away. -/
lemma not_nil : ¬ TurnsAway v [] r p w e := by
  rintro ⟨at_, -, -, -⟩
  cases at_

/-- After the signal nothing is turned away. -/
lemma not_fired (hw : w.fired = true) : ¬ TurnsAway v ss r p w e := by
  rintro ⟨-, arrives, unfired, -⟩
  obtain ⟨-, rfl⟩ := arrives.of_fired hw
  rw [hw] at unfired
  cases unfired

/-- Behind a stage that goes on the request is turned away exactly if the whole chain does. -/
lemma cons_iff (hw : w.fired = false) {after : Response → Run Response}
    (entered : (s.enter r).halt p w = .finished (.forward r₁ after) p₁ w₁) :
    TurnsAway v (s :: ss) r p w e ↔ TurnsAway v ss r₁ p₁ w₁ e := by
  constructor
  · rintro ⟨at_, arrives, unfired, refused⟩
    cases arrives with
    | here =>
      -- a gate that refuses does not go on
      cases at_
      cases (Stage.halt_gate_of_error refused).symm.trans entered
    | next _ entered' arrives =>
      cases entered'.symm.trans entered
      exact ⟨at_, arrives, unfired, refused⟩
  · rintro ⟨at_, arrives, unfired, refused⟩
    exact ⟨at_, .next hw entered arrives, unfired, refused⟩

/-- A chain turns a request away for one reason at most. -/
lemma unique (t : TurnsAway v ss r p w e) (t' : TurnsAway v ss r p w e') : e = e' := by
  induction ss generalizing r p w with
  | nil => exact absurd t not_nil
  | cons s ss ih =>
    have first {place r' p' w' e} (at_ : (s :: ss)[place]? = some (.gate v (some Refusal.counted)))
        (arrives : Arrives (s :: ss) r p w place r' p' w') (unfired : w'.fired = false)
        (refused : v.verify r'.headers w'.clock = .error e) :
        (s = .gate v (some Refusal.counted) ∧ v.verify r.headers w.clock = .error e) ∨
          ∃ r₁ after p₁ w₁, w.fired = false ∧ (s.enter r).halt p w =
            .finished (.forward r₁ after) p₁ w₁ := by
      cases arrives with
      | here =>
        cases at_
        exact .inl ⟨rfl, refused⟩
      | next hw entered _ => exact .inr ⟨_, _, _, _, hw, entered⟩
    have ⟨at_, arrives, unfired, refused⟩ := t
    have ⟨at_', arrives', unfired', refused'⟩ := t'
    rcases first at_ arrives unfired refused with ⟨rfl, here⟩ | ⟨r₁, after, p₁, w₁, hw, entered⟩
    · rcases first at_' arrives' unfired' refused' with ⟨-, here'⟩ | ⟨_, _, _, _, -, entered⟩
      · cases here.symm.trans here'
        rfl
      · cases (Stage.halt_gate_of_error here).symm.trans entered
    · exact ih ((cons_iff hw entered).mp t) ((cons_iff hw entered).mp t')

end TurnsAway

/-- Views through which neither time nor a record is seen are spared by the plan of a request. -/
lemma Exchange.spares_plan (d : Deadline) (chain : String) (start : Nat) :
    (plan d chain start).Spares World.counts :=
  ⟨fun _ _ => rfl, fun _ => rfl, fun w => w.counts_log _ _ _⟩

namespace BuiltIn.Tallies

variable {v : Verifier} {b : BuiltIn}

/-- A stage is a gate that refuses the request, or it goes on and counts nothing. -/
lemma enter (t : b.Tallies v) (r : Request) (p : Plan) (w : World) :
    (∃ e, b = .gate v (some Refusal.counted) ∧ v.verify r.headers w.clock = .error e) ∨
      ∃ r₁ after w₁, (b.toStage.enter r).halt p w = .finished (.forward r₁ after) p w₁ ∧
      w₁.counts = w.counts ∧
        ∀ a, (after a).Keeps World.counts fun _ => True := by
  cases t with
  | identify trusting =>
    obtain ⟨drawn, e⟩ := halt_identify_eq trusting r p w
    exact .inr ⟨_, _, _, e, rfl, fun _ => trivial⟩
  | @journal observer silent =>
    refine .inr ⟨_, _, _, rfl, World.counts_log w _ _ _, fun a => ?_⟩
    apply (Task.Keeps.modify fun w => World.counts_log w _ _ _).bind
    intro _ _
    refine (Task.Keeps.modify fun w => ?_).bind fun _ _ => trivial
    cases observer with
    | none => rfl
    | some f => rw [Stage.observe, World.counts_emit, silent f rfl, List.append_nil]
  | gate =>
    cases hv : v.verify r.headers w.clock with
    | error e => exact .inl ⟨e, rfl, rfl⟩
    | ok c => exact .inr ⟨_, _, _, Stage.halt_gate_of_ok hv, World.counts_log w _ _ _,
      fun _ => trivial⟩

end BuiltIn.Tallies

/-- An observer that counts adds the reason of the refusal. -/
lemma Stage.counts_refused (e : Refusal) (w : World) :
    (tellRefused (some Refusal.counted) e (logRefused e w)).counts =
      w.counts ++ [.refused e.reason] := by
  have logged : (logRefused e w).counts = w.counts := by
    cases e <;> exact World.counts_log w _ _ _
  rw [tellRefused, World.counts_emit, logged]
  rfl

/-- A chain counts the refusal for which it turns the request away, and nothing else. -/
lemma counts_runStages {v : Verifier} {bs : List BuiltIn} (all : ∀ b ∈ bs, b.Tallies v)
    {last : Inside Request Response} (silent : Inside.Keeps World.counts (fun _ => True) last)
    (r : Request) {p : Plan} (s : p.Spares World.counts) (w : World) :
    ∃ told, Told (TurnsAway v (bs.map BuiltIn.toStage) r p w) told ∧
      ((runStages (bs.map BuiltIn.toStage) last r).halt p w).Keeps World.counts (fun _ => True)
        (w.counts ++ told) := by
  induction bs generalizing r w with
  | nil =>
    refine ⟨[], .nothing fun _ => TurnsAway.not_nil, ?_⟩
    rw [List.append_nil]
    exact (silent r).halt s
  | cons b bs ih =>
    rw [List.map_cons]
    cases hw : w.fired with
    | true =>
      refine ⟨[], .nothing fun _ => TurnsAway.not_fired hw, ?_⟩
      rw [runStages, halt_proceed, hw, if_pos rfl]
      exact ⟨trivial, s, (List.append_nil _).symm⟩
    | false =>
      rcases (all b List.mem_cons_self).enter r p w with ⟨e, rfl, refused⟩ | ⟨r₁, after, w₁,
        entered, same, out⟩
      · have at_ : ((BuiltIn.gate v (some Refusal.counted)).toStage :: bs.map BuiltIn.toStage)[0]? =
            some (.gate v (some Refusal.counted)) := rfl
        refine ⟨_, .refusal (.intro at_ .here hw refused), ?_⟩
        rw [BuiltIn.toStage, halt_stage_of_reply hw (Stage.halt_gate_of_error refused)]
        exact ⟨trivial, s, Stage.counts_refused e w⟩
      · obtain ⟨told, turned, inner⟩ := ih (fun b hb => all b (List.mem_cons_of_mem _ hb)) r₁ w₁
        refine ⟨told, turned.congr fun e => (TurnsAway.cons_iff hw entered).symm, ?_⟩
        rw [halt_stage_of_forward hw entered, ← same]
        exact inner.bind fun a _ => out a

namespace Server

open Exchange

/-- A request that comes to a gate of its chain, which refuses it. -/
inductive Rejects (s : Server) (v : Verifier) (n : NativeRequest) (addr : Option SocketAddr)
    (w : World) (e : Refusal) : Prop where
  | intro {c h r p u} : s.Enters n addr w c h r p u → TurnsAway v c.stages r p u e →
    Rejects s v n addr w e

/-- Whether a request is the health check. -/
def asksHealth (n : NativeRequest) : Bool := n.method = .get ∧ n.uri.path = healthPath

/-- The label under which a request is counted: the chain of its route. -/
def label (s : Server) (n : NativeRequest) : String :=
  ((s.routes.find? n.method n.uri.path).map fun found => found.1.chain).getD unrouted

/-- Servers that count nothing beside the requests but what one verifier refuses. -/
structure Accountable (s : Server) (v : Verifier) : Prop where
  chains : ∀ f name c, s.installed.pipeline = .chains f → f.chain? name = some c →
    ∃ bs : List BuiltIn, c.stages = bs.map BuiltIn.toStage ∧ ∀ b ∈ bs, b.Tallies v
  layers : ∀ stack, s.installed.pipeline = .layers stack →
    ∀ l ∈ stack, l.enter.Keeps World.counts fun _ => True
  handlers : ∀ route ∈ s.routes, Inside.Keeps World.counts (fun _ => True) route.handler

section

variable {s : Server} {v : Verifier} {n : NativeRequest} {addr : Option SocketAddr} {w : World}

/-- A request enters one chain in one way at most. -/
lemma Enters.unique {c c' : Chain} {h h' : NativeHandler} {r r' : Request} {p p' : Plan}
    {u u' : World} (a : s.Enters n addr w c h r p u) (b : s.Enters n addr w c' h' r' p' u') :
    c = c' ∧ h = h' ∧ r = r' ∧ p = p' ∧ u = u' := by
  obtain ⟨takes, chains, bound, given⟩ := a
  obtain ⟨takes', chains', bound', given'⟩ := b
  cases takes.found.symm.trans takes'.found
  cases chains.symm.trans chains'
  cases bound.symm.trans bound'
  cases given.symm.trans given'
  exact ⟨rfl, rfl, rfl, rfl, rfl⟩

/-- The chain that a request enters is that of its route. -/
lemma Enters.found {c : Chain} {h : NativeHandler} {r : Request} {p : Plan} {u : World}
    (enters : s.Enters n addr w c h r p u) : ∃ route params f, s.Takes n route params ∧
      s.installed.pipeline = .chains f ∧ f.chain? route.chain = some c := by
  obtain ⟨takes, chains, bound, -⟩ := enters
  exact ⟨_, _, _, takes, chains, bound⟩

/-- A request is rejected if the chain that it enters turns it away. -/
lemma Enters.rejects_iff {c : Chain} {h : NativeHandler} {r : Request} {p : Plan} {u : World}
    (enters : s.Enters n addr w c h r p u) (e : Refusal) :
    TurnsAway v c.stages r p u e ↔ s.Rejects v n addr w e := by
  constructor
  · exact .intro enters
  · rintro ⟨enters', turned⟩
    obtain ⟨rfl, -, rfl, rfl, rfl⟩ := enters.unique enters'
    exact turned

/-- A request is rejected for one reason at most. -/
lemma Rejects.unique {e e' : Refusal} (a : s.Rejects v n addr w e) (b : s.Rejects v n addr w e') :
    e = e' := by
  obtain ⟨enters, turned⟩ := a
  exact turned.unique ((enters.rejects_iff e').mpr b)

/-- The route that takes a request is one of those of the server. -/
lemma mem_of_takes {route : Route} {params : PathParams} (takes : s.Takes n route params) :
    route ∈ s.routes := by
  obtain ⟨r, hr, matched⟩ := List.exists_of_findSome?_eq_some takes.found
  obtain ⟨ps, -, e⟩ := Option.map_eq_some_iff.mp matched
  cases e
  exact (List.mem_filter.mp hr).1

/-- The end of a chain counts nothing. -/
lemma counts_finishWith (chain : String) (b : Response) (w : World) :
    (finishWith chain b w).2.counts = w.counts := by
  unfold finishWith
  cases b.write with
  | ok n => rfl
  | error e =>
    cases e with
    | unwritable detail => exact w.counts_log _ _ _
    | raised f => rfl

/-- The plan of plain layers counts nothing. -/
lemma spares_layersPlan (s : Server) (start : Nat) : (s.layersPlan start).Spares World.counts := by
  unfold layersPlan
  cases s.limits.requestTimeout with
  | none => exact ⟨fun _ _ => rfl, fun _ => rfl, fun _ => rfl⟩
  | some t => exact ⟨fun _ _ => rfl, fun _ => rfl, fun _ => rfl⟩

/-- Plain layers that count nothing add nothing to the metrics. -/
lemma counts_runLayers {stack : LayerStack}
    (silent : ∀ l ∈ stack, l.enter.Keeps World.counts fun _ => True)
    {h : NativeHandler} (hh : Inside.Keeps World.counts (fun _ => True) h) (n : NativeRequest) :
    (s.runLayers stack n addr h w).2.counts = w.counts := by
  have k := (LayerStack.keeps_run silent hh { n with remoteAddr := addr.or n.remoteAddr }).halt
    (s.spares_layersPlan w.clock) (w := w)
  simp only [runLayers, Task.run_eq]
  generalize (stack.run h { n with remoteAddr := addr.or n.remoteAddr }).halt
    (s.layersPlan w.clock) w = x at k
  cases x with
  | finished result p u => exact k.2.2
  | dropped u => exact (u.counts_log _ _ _).trans k
  | stuck u => exact k

/-- A request is taken over without a count. -/
lemma counts_ofNative (n : NativeRequest) (addr : Option SocketAddr) (w : World) :
    (Request.ofNative n addr w).2.counts = w.counts := by
  unfold Request.ofNative
  cases n.store <;> rfl

/--
A run through a chain counts the refusal for which the request is turned away, and nothing else.
-/
lemma counts_runChain (s : Server) {c : Chain} {bs : List BuiltIn}
    (stages : c.stages = bs.map BuiltIn.toStage) (tallies : ∀ b ∈ bs, b.Tallies v)
    {h : NativeHandler} (hh : Inside.Keeps World.counts (fun _ => True) h) (name : String)
    (n : NativeRequest) (addr : Option SocketAddr) (w : World) {r : Request} {u : World}
    (given : Request.ofNative n addr { w.newContext with chain := some name } = (r, u)) :
    ∃ told, Told (TurnsAway v c.stages r (plan s.deadline name u.clock) u) told ∧
      (s.runChain name c n addr h w).2.counts = w.counts ++ told := by
  have began : u.counts = w.counts := by
    rw [show u = _ from congrArg Prod.snd given.symm, counts_ofNative]
    rfl
  obtain ⟨told, turned, k⟩ :=
    counts_runStages tallies ((hh.terminal fun _ => trivial).finish trivial) r
    (spares_plan s.deadline name u.clock) u
  refine ⟨told, stages ▸ turned, ?_⟩
  rw [← began, ← k.outcome, ← stages, runChain_eq, given, task, asStage_around]
  generalize (runStages c.stages (finish (terminal h)) r).halt (plan s.deadline name u.clock) u = x
  cases x with
  | finished b p u => exact counts_finishWith name b u
  | dropped u => exact u.counts_log _ _ _
  | stuck u => rfl

namespace Accountable

/--
The run of a request that has a route counts the refusal for which it is rejected, and nothing else.
-/
lemma runInstalled (acc : s.Accountable v) {route : Route} {params : PathParams}
    (takes : s.Takes n route params) (addr : Option SocketAddr) (w : World) :
    ∃ told, Told (s.Rejects v n addr w) told ∧
      (s.runInstalled route { n with params := some params } addr (w.count .entered)).2.counts =
        w.counts ++ .entered :: told := by
  have hh := acc.handlers route (mem_of_takes takes)
  have began : (w.count .entered).counts = w.counts ++ [.entered] := w.counts_count .entered
  cases installed : s.installed.pipeline with
  | layers stack =>
    refine ⟨[], .nothing ?_, ?_⟩
    · rintro e ⟨⟨-, chains, -, -⟩, -⟩
      cases installed.symm.trans chains
    · simp only [Server.runInstalled, installed]
      rw [counts_runLayers (acc.layers stack installed) hh, began]
  | chains f =>
    cases bound : f.chain? route.chain with
    | none =>
      refine ⟨[], .nothing ?_, ?_⟩
      · rintro e ⟨⟨takes', chains, bound', -⟩, -⟩
        cases takes.found.symm.trans takes'.found
        cases installed.symm.trans chains
        cases bound.symm.trans bound'
      · simp only [Server.runInstalled, installed, bound]
        rw [World.counts_log, began]
    | some c =>
      have enters : s.Enters n addr w c route.handler _ _ _ := .intro takes installed bound rfl
      obtain ⟨bs, stages, tallies⟩ := acc.chains f _ c installed bound
      obtain ⟨told, turned, run⟩ :=
        s.counts_runChain stages tallies hh route.chain { n with params := some params }
        addr (w.count .entered) rfl
      refine ⟨told, turned.congr enters.rejects_iff, ?_⟩
      simp only [Server.runInstalled, installed, bound]
      rw [run, began, List.append_assoc, List.singleton_append]

/--
Each dispatch counts one request but for the health check, and the refusal of a request that is
rejected.
-/
lemma dispatch (acc : s.Accountable v) {b : NativeResponse} {u : World}
    (e : s.dispatch n addr w = (some b, u)) :
    ∃ told, Told (s.Rejects v n addr w) told ∧
      u.counts = w.counts ++ .entered :: told ++
        (if asksHealth n then [] else [.served (s.label n) b.status.code, .timed (s.label n)]) ++
        [.left] := by
  by_cases health : n.method = .get ∧ n.uri.path = healthPath
  · rw [Server.dispatch, answer, if_pos health] at e
    cases e
    refine ⟨[], .nothing ?_, ?_⟩
    · rintro e ⟨⟨takes, -, -, -⟩, -⟩
      exact takes.other health
    · rw [asksHealth, decide_eq_true health, if_pos rfl, World.counts_count, World.counts_count]
      simp only [List.append_assoc, List.append_nil, List.cons_append, List.nil_append]
  · rw [asksHealth, decide_eq_false health, if_neg Bool.false_ne_true]
    cases found : s.routes.find? n.method n.uri.path with
    | none =>
      rw [Server.dispatch, answer, if_neg health, found] at e
      cases e
      refine ⟨[], .nothing ?_, ?_⟩
      · rintro e ⟨⟨takes, -, -, -⟩, -⟩
        cases found.symm.trans takes.found
      · simp only [record, World.counts_count, World.counts_log, label, found, Option.map_none,
          Option.getD_none, List.append_assoc, List.cons_append, List.nil_append]
        rfl
    | some route_params =>
      obtain ⟨route, params⟩ := route_params
      obtain ⟨told, rejected, run⟩ := acc.runInstalled ⟨health, found⟩ addr w
      rw [dispatch_of_find? health found] at e
      generalize Server.runInstalled s route { n with params := some params } addr
        (w.count .entered) = out at e run
      obtain ⟨_ | b', w'⟩ := out
      · cases e
      · cases e
        have begun : w'.counts = w.counts ++ .entered :: told := run
        refine ⟨told, rejected, ?_⟩
        simp only [record, World.counts_count, begun, label, found, Option.map_some,
          Option.getD_some, List.append_assoc, List.cons_append, List.nil_append]

/-- A request that is rejected is not the health check, and is answered as unauthorized. -/
lemma unauthorized (acc : s.Accountable v) {e : Refusal} (rejects : s.Rejects v n addr w e)
    {b : NativeResponse} {u : World} (run : s.dispatch n addr w = (some b, u)) :
    asksHealth n = false ∧ b.status = .unauthorized := by
  obtain ⟨enters, turned⟩ := rejects
  obtain ⟨route, params, f, takes, installed, bound⟩ := enters.found
  obtain ⟨bs, stages, -⟩ := acc.chains f _ _ installed bound
  refine ⟨decide_eq_false takes.other, ?_⟩
  cases turned with
  | @intro place r' p' w' at_ arrives unfired refused =>
    obtain ⟨u', refusal⟩ := halt_drop_of_refused at_ (finish (terminal _)) unfired refused
    rw [stages, ← List.map_drop] at refusal
    obtain ⟨id, sent, -⟩ := enters.dispatch_of_arrives stages arrives refusal
    rw [run] at sent
    cases sent
    have plain : Response.unauthorized.Plain := ⟨rfl, rfl, rfl⟩
    exact plain.status id

end Accountable

end

/-- A dispatch that ran to completion. -/
structure Dispatched where
  request : NativeRequest
  addr : Option SocketAddr
  before : World
  answer : NativeResponse
  after : World

/-- Dispatches one after the other, each after a pause. -/
inductive Serves (s : Server) : World → List Dispatched → World → Prop where
  | nil {w} : Serves s w [] w
  | cons {w d ds u} (pause : Nat) : d.before = { w with clock := w.clock + pause } →
    s.dispatch d.request d.addr d.before = (some d.answer, d.after) → Serves s d.after ds u →
    Serves s w (d :: ds) u

/-- A refusal for which a dispatch was rejected, if it was. -/
def Dispatched.RejectedFor (s : Server) (v : Verifier) (d : Dispatched) (reason : Option Refusal) :
    Prop :=
  ∀ e, reason = some e ↔ s.Rejects v d.request d.addr d.before e

/-- What one dispatch adds to the metrics. -/
structure Counts (s : Server) (v : Verifier) (d : Dispatched) (reason : Option Refusal) : Prop where
  rejected : d.RejectedFor s v reason
  requests : requestsOf d.after.counts = requestsOf d.before.counts ++
    if asksHealth d.request then [] else [(s.label d.request, d.answer.status.code)]
  refusals : refusalsOf d.after.counts = refusalsOf d.before.counts ++
    (reason.map Refusal.reason).toList
  inFlight : inFlightOf d.after.counts = inFlightOf d.before.counts

/-- What dispatches from one state to another add to the metrics. -/
structure Accounts (s : Server) (v : Verifier) (w : World) (ds : List Dispatched) (u : World) :
    Prop where
  /--
  One request for each but the health checks, under its chain and with the status that was sent.
  -/
  requests : requestsOf u.counts = requestsOf w.counts ++
    (ds.filter fun d => !asksHealth d.request).map fun d =>
      (s.label d.request, d.answer.status.code)
  /-- One refusal for each that a gate rejected, with its reason. -/
  refusals : ∃ reasons : List (Option Refusal),
    List.Forall₂ (Dispatched.RejectedFor s v) ds reasons ∧
    refusalsOf u.counts = refusalsOf w.counts ++ reasons.filterMap (Option.map Refusal.reason)
  unauthorized : ∀ d ∈ ds, ∀ e, s.Rejects v d.request d.addr d.before e →
    asksHealth d.request = false ∧ d.answer.status = .unauthorized
  /-- After each of them there are as many requests in flight as at first. -/
  inFlight : inFlightOf u.counts = inFlightOf w.counts ∧
    ∀ d ∈ ds, inFlightOf d.after.counts = inFlightOf w.counts

/-- One dispatch adds to the metrics what belongs to it, for a reason or none. -/
lemma Accountable.counts {s : Server} {v : Verifier} (acc : s.Accountable v) {d : Dispatched}
    (run : s.dispatch d.request d.addr d.before = (some d.answer, d.after)) :
    ∃ reason, Counts s v d reason := by
  obtain ⟨told, rejected, counted⟩ := acc.dispatch run
  rw [← List.singleton_append] at counted
  generalize served_eq : (if asksHealth d.request then [] else
    [.served (s.label d.request) d.answer.status.code, .timed (s.label d.request)] : List Metric) =
      served at counted
  have requests (told' : requestsOf told = []) :
    requestsOf d.after.counts = requestsOf d.before.counts ++
      if asksHealth d.request then [] else [(s.label d.request, d.answer.status.code)] := by
    have middle : requestsOf served =
        if asksHealth d.request then [] else [(s.label d.request, d.answer.status.code)] := by
      rw [← served_eq]
      split <;> rfl
    have around : requestsOf [.entered] = [] ∧ requestsOf [.left] = [] := ⟨rfl, rfl⟩
    simp only [counted, requestsOf_append, told', middle, around, List.append_nil]
  have refusals : refusalsOf d.after.counts = refusalsOf d.before.counts ++ refusalsOf told := by
    have middle : refusalsOf served = [] := by
      rw [← served_eq]
      split <;> rfl
    have around : refusalsOf [.entered] = [] ∧ refusalsOf [.left] = [] := ⟨rfl, rfl⟩
    simp only [counted, refusalsOf_append, middle, around, List.append_nil, List.nil_append]
  have inFlight (told' : inFlightOf told = 0) :
      inFlightOf d.after.counts = inFlightOf d.before.counts := by
    have middle : inFlightOf served = 0 := by
      rw [← served_eq]
      split <;> rfl
    have around : inFlightOf [.entered] = 1 ∧ inFlightOf [.left] = -1 := ⟨rfl, rfl⟩
    simp only [counted, inFlightOf_append, told', middle]
    omega
  cases rejected with
  | @refusal e rejects =>
    refine ⟨some e, fun e' => ⟨fun h => ?_, fun rejects' => ?_⟩, requests rfl, refusals,
      inFlight rfl⟩
    · cases h
      exact rejects
    · rw [rejects.unique rejects']
  | nothing accepted =>
    exact ⟨none, fun e => ⟨nofun, fun rejects => absurd rejects (accepted e)⟩, requests rfl,
      refusals, inFlight rfl⟩

/-- What was a health check, or was answered otherwise than a refusal is, was rejected by no gate. -/
lemma Accounts.reason_eq_none {s : Server} {v : Verifier} {w u : World} {ds : List Dispatched}
    (accounts : s.Accounts v w ds u) {d : Dispatched} (hd : d ∈ ds) {reason : Option Refusal}
    (rejected : d.RejectedFor s v reason)
    (other : asksHealth d.request = true ∨ d.answer.status ≠ .unauthorized) : reason = none := by
  cases reason with
  | none => rfl
  | some e =>
    obtain ⟨checked, status⟩ := accounts.unauthorized d hd e ((rejected e).mp rfl)
    rcases other with health | answered
    · rw [health] at checked
      cases checked
    · exact absurd status answered

/-- Nothing is counted twice and nothing is left out, however many dispatches there are. -/
lemma Accountable.accounts {s : Server} {v : Verifier} (acc : s.Accountable v) {w u : World}
    {ds : List Dispatched} (serves : s.Serves w ds u) : s.Accounts v w ds u := by
  induction serves with
  | nil =>
    constructor
    case requests => rw [List.filter_nil, List.map_nil, List.append_nil]
    case refusals => exact ⟨[], .nil, by rw [List.filterMap_nil, List.append_nil]⟩
    case unauthorized => exact fun d hd => absurd hd List.not_mem_nil
    case inFlight => exact ⟨rfl, fun d hd => absurd hd List.not_mem_nil⟩
  | @cons w d ds u pause paused run _ ih =>
    obtain ⟨reason, counts⟩ := acc.counts run
    have same : d.before.counts = w.counts := by rw [paused]; rfl
    constructor
    case requests =>
      rw [ih.requests, counts.requests, same, List.append_assoc, List.filter_cons]
      cases asksHealth d.request <;> rfl
    case refusals =>
      obtain ⟨reasons, rejected, refusals⟩ := ih.refusals
      refine ⟨reason :: reasons, .cons counts.rejected rejected, ?_⟩
      rw [refusals, counts.refusals, same, List.append_assoc, List.filterMap_cons]
      cases reason <;> rfl
    case unauthorized =>
      rw [List.forall_mem_cons]
      exact ⟨fun e rejects => acc.unauthorized rejects run, ih.unauthorized⟩
    case inFlight =>
      have first : inFlightOf d.after.counts = inFlightOf w.counts := by rw [counts.inFlight, same]
      rw [List.forall_mem_cons, ← first]
      exact ⟨ih.inFlight.1, rfl, ih.inFlight.2⟩

end Server

end Gatehouse
