import Gatehouse.Proofs.Server.Concealment
import Gatehouse.Proofs.Server.Keeping
import Gatehouse.Proofs.Server.Rejection

/-!
# One id for each request

Chains are sorted, so what gives ids comes first, then what logs, and then the gates
(`BuiltIn.arranged`).  Nothing behind the stage that gives ids touches the context
(`BuiltIn.keeps_context`), and whatever comes out from there is put under the same id.  So a request
has one id: in its context, in the request that the handler is given, in the summary of every stage
that logs, and in the answer (`Server.dispatch_identified`).
-/

namespace Gatehouse

/-- What the context says of a request. -/
def World.context (w : World) : Uuid × Option String := (w.requestId, w.chain)

/--
An answer that says nothing of cookies and of a location, as all do that a handler's outcome is
taken up as.
-/
structure Response.Unplaced (b : Response) : Prop where
  cookies : b.cookies = []
  location : b.location = none

namespace Response.Unplaced

/-- What is taken up of a result says nothing of cookies and of a location. -/
lemma ofResult (x : NativeResult) : (Response.ofResult x).Unplaced := by
  cases x with
  | ok n => exact ⟨rfl, rfl⟩
  | error e => exact ⟨(plain_ofError e).cookies, (plain_ofError e).location⟩

/-- An answer under an id is sent with its status and this id, whatever ids it had. -/
lemma sent {b : Response} (unplaced : b.Unplaced) (id : Uuid) :
    ∃ v n, HeaderValue.ofText? id.toText = some v ∧ (b.under (some id)).writeOrRender = n ∧
      n.headers.values HeaderName.requestId = [v] ∧ n.status = b.status ∧
      ∀ chain w, (Exchange.finishWith chain (b.under (some id)) w).2 = w := by
  obtain ⟨v, valid, hv⟩ := withId_eq id
  have written : (b.under (some id)).write =
      b.written (b.headers.insert HeaderName.requestId v) := by
    simp only [under, write, unplaced.cookies, unplaced.location, writeCookies, writeRequestId,
      headerValue, valid, hv]
    exact congrArg b.written (Headers.insert_insert b.headers HeaderName.requestId v v)
  refine ⟨v, _, valid, rfl, ?_⟩
  simp only [writeOrRender, Exchange.finishWith, written]
  unfold Response.written
  cases b.error with
  | none => exact ⟨(Headers.values_insert _ _ _ _).trans (if_pos rfl), rfl, fun _ _ => rfl⟩
  | some message =>
    refine ⟨?_, rfl, fun _ _ => rfl⟩
    simp only [WriteError.toFailure, HttpFailure.toResponse, Headers.values_insert, if_pos]
    exact if_neg (by decide)

end Response.Unplaced

namespace BuiltIn

/-- Whether a stage gives ids. -/
def isIdentify : BuiltIn → Bool
  | identify _ => true
  | journal _ => false
  | gate _ _ => false

/--
What a stage leaves when an answer comes out: a record, and what its observer makes of the summary.
-/
def closing (x : Summary) : BuiltIn → List Event
  | journal observer =>
    .log ⟨if x.status.isServerError then .warn else .info,
      if x.status.isServerError then "request failed" else "request completed",
      [("request_id", .text x.requestId.toText), ("chain", .text (x.chain.getD "-")),
        ("http.method", .text x.method.text), ("http.path", .text x.path),
        ("http.status_code", .number x.status.code)]⟩ :: (observer.map fun f => f x).toList
  | identify _ => []
  | gate _ _ => []

/-- What stages leave when an answer comes out of them, the innermost one first. -/
def closings (bs : List BuiltIn) (x : Summary) : List Event := bs.reverse.flatMap (closing x)

/-- A stage that logs leaves a record and what its observer makes of the summary. -/
lemma closing_journal (observer : Option (Summary → Event)) (method : Method) (path : String)
    (status : Status) (w : World) :
      Stage.observe observer method path status (Stage.logCompleted method path status w) =
      { w with trace :=
          w.trace ++ closing ⟨w.requestId, w.chain, method, path, status⟩ (journal observer) } := by
  cases observer with
  | none => rfl
  | some f => exact congrArg (fun t => { w with trace := t }) (List.append_assoc _ _ _)

/-- Stages in the order of a chain: one that gives ids, those that log, and the gates. -/
inductive Arranged (trusting : Bool) :
    List BuiltIn → List (Option (Summary → Event)) → List BuiltIn → Prop where
  | intro {os : List (Option (Summary → Event))} {gs : List BuiltIn} :
    (∀ b ∈ gs, ∃ v o, b = gate v o) →
    Arranged trusting (identify trusting :: (os.map journal ++ gs)) os gs

/-- In the order of a chain the stages that log stand in front of the gates. -/
private lemma journals_first {bs : List BuiltIn}
    (sorted : (bs.map toStage).Pairwise fun s s' => s.priority ≤ s'.priority)
    (none : bs.filter isIdentify = []) :
    ∃ (os : List (Option (Summary → Event))) (gs : List BuiltIn), bs = os.map journal ++ gs ∧
      ∀ b ∈ gs, ∃ v o, b = gate v o := by
  induction bs with
  | nil => exact ⟨[], [], rfl, fun b hb => absurd hb List.not_mem_nil⟩
  | cons b bs ih =>
    obtain ⟨first, rest⟩ := List.pairwise_cons.mp sorted
    cases b with
    | identify trusting => cases none
    | journal o =>
      obtain ⟨os, gs, rfl, gates⟩ := ih rest none
      exact ⟨o :: os, gs, rfl, gates⟩
    | gate v o =>
      -- whatever is sorted behind a gate has a priority as low as its own
      refine ⟨[], gate v o :: bs, rfl, fun b hb => ?_⟩
      rcases List.mem_cons.mp hb with rfl | hb
      · exact ⟨v, o, rfl⟩
      · have later := first _ (List.mem_map_of_mem hb)
        cases b with
        | identify trusting =>
          have low : ¬ (0 : Int) ≤ -100 := by decide
          exact absurd later low
        | journal o =>
          have low : ¬ (0 : Int) ≤ -50 := by decide
          exact absurd later low
        | gate v o => exact ⟨v, o, rfl⟩

/-- A chain with one stage that gives ids has it in front. -/
lemma arranged {bs : List BuiltIn}
    (sorted : (bs.map toStage).Pairwise fun s s' => s.priority ≤ s'.priority)
    {trusting : Bool} (one : bs.filter isIdentify = [identify trusting]) :
    ∃ os gs, Arranged trusting bs os gs := by
  have there : identify trusting ∈ bs := (List.mem_filter.mp (one ▸ List.mem_singleton_self _)).1
  cases bs with
  | nil => cases one
  | cons b bs =>
    obtain ⟨first, rest⟩ := List.pairwise_cons.mp sorted
    -- nothing else comes as early as what gives ids
    have later (low : ¬ b.toStage.priority ≤ (-100 : Int)) : b = identify trusting := by
      rcases List.mem_cons.mp there with same | there
      · exact same.symm
      · exact absurd (first _ (List.mem_map_of_mem there)) low
    cases b with
    | identify trusting' =>
      obtain ⟨same, none⟩ := List.cons.inj one
      cases same
      obtain ⟨os, gs, rfl, gates⟩ := journals_first rest none
      exact ⟨os, gs, .intro gates⟩
    | journal o =>
      have low : ¬ (-50 : Int) ≤ -100 := by decide
      cases later low
    | gate v o =>
      have low : ¬ (0 : Int) ≤ -100 := by decide
      cases later low

/--
A gate does not touch the context, and what it answers says nothing of cookies and of a location.
-/
lemma keeps_context (v : Verifier) (observer : Option (Refusal → Event)) :
    (gate v observer).toStage.enter.Keeps World.context Response.Unplaced := by
  intro r
  apply (Task.Keeps.read World.clock).bind
  intro elapsed _
  cases v.verify r.headers elapsed with
  | error e =>
    have logged : (Task.modify (Stage.logRefused e)).Keeps World.context fun _ => True :=
      .modify fun _ => by cases e <;> rfl
    have told : (Task.modify (Stage.tellRefused observer e)).Keeps World.context fun _ => True :=
      .modify fun _ => by cases observer <;> rfl
    exact logged.bind fun _ _ => told.bind fun _ _ => ⟨rfl, rfl⟩
  | ok c =>
    have logged : (Task.modify (Stage.logVerified c)).Keeps World.context fun _ => True :=
      .modify fun _ => rfl
    have stored (key : String) (x : Value) :
        (Run.store r.store key x).Keeps World.context fun _ => True :=
      .modify fun _ => rfl
    exact logged.bind fun _ _ => (stored _ _).bind fun _ _ => (stored _ _).bind fun _ _ _ hb => hb

/--
Stages that log are passed on the way in and give the answer on, each with its record and its
summary.
-/
lemma halt_journals {os : List (Option (Summary → Event))} {inner : Inside Request Response}
    {r : Request} {p p' : Plan} {w u : World} {b : Response} (unfired : w.fired = false)
    (e : (runStages ((os.map journal).map toStage) inner r).halt p w = .finished b p' u) :
    ∃ v u₁, (inner r).halt p v = .finished b p' u₁ ∧ v.context = w.context ∧
      u = { u₁ with
        trace := u₁.trace ++ closings (os.map journal) ⟨u₁.requestId, u₁.chain, r.method,
          r.uri.path, b.status⟩ } := by
  -- on the way out the innermost stage logs first, so the records of the outer ones are added
  -- behind
  induction os generalizing w u with
  | nil => exact ⟨w, u, e, rfl, by rw [List.map_nil, closings, List.reverse_nil, List.flatMap_nil,
    List.append_nil]⟩
  | cons o os ih =>
    have entered : ((journal o).toStage.enter r).halt p w = _ := rfl
    rw [List.map_cons, List.map_cons, halt_stage_of_forward unfired entered] at e
    obtain ⟨b₁, p₁, u', inside, left⟩ := Halt.finished_of_bind e
    cases left
    obtain ⟨v, u₁, halts, same, rfl⟩ :=
      ih (w := Stage.logStarted r.method r.uri.path w) unfired inside
    refine ⟨v, u₁, halts, same, ?_⟩
    rw [closing_journal, List.map_cons, closings, closings, List.reverse_cons, List.flatMap_append,
      List.flatMap_singleton, List.append_assoc]

/-- Only the stages that log leave something when an answer comes out. -/
lemma closings_arranged {trusting : Bool} {bs gs : List BuiltIn}
    {os : List (Option (Summary → Event))} (a : Arranged trusting bs os gs) (x : Summary) :
    closings bs x = closings (os.map journal) x := by
  obtain ⟨gates⟩ := a
  have silent : ∀ b ∈ gs.reverse, closing x b = [] := by
    intro b hb
    obtain ⟨v, o, rfl⟩ := gates b (List.mem_reverse.mp hb)
    rfl
  rw [closings, closings, List.reverse_cons, List.reverse_append, List.flatMap_append,
    List.flatMap_append,
    List.flatMap_eq_nil_iff.mpr silent, List.nil_append, List.flatMap_singleton]
  exact List.append_nil _

/-- A stage that gives no ids hands on the request that it was given. -/
lemma request_of_forward {b : BuiltIn} (silent : b.isIdentify = false) {r r₁ : Request}
    {p p₁ : Plan} {w w₁ : World} {after : Response → Run Response}
    (e : (b.toStage.enter r).halt p w = .finished (.forward r₁ after) p₁ w₁) :
    r₁ = r := by
  cases b with
  | identify trusting => cases silent
  | journal o =>
    obtain ⟨after', e', -⟩ := halt_journal o r p w
    cases e'.symm.trans e
    rfl
  | gate v o =>
    cases hv : v.verify r.headers w.clock with
    | error reason => cases (Stage.halt_gate_of_error hv).symm.trans e
    | ok c =>
      cases (Stage.halt_gate_of_ok hv).symm.trans e
      rfl

/-- Stages that give no ids pass the request on as it is. -/
lemma request_of_arrives {bs : List BuiltIn} (silent : ∀ b ∈ bs, b.isIdentify = false) {i : Nat}
    {r r' : Request}
    {p p' : Plan} {w w' : World} (a : Arrives (bs.map toStage) r p w i r' p' w') : r' = r := by
  induction bs generalizing i r p w with
  | nil =>
    cases a with
    | here => rfl
  | cons b bs ih =>
    cases a with
    | here => rfl
    | next _ entered a =>
      obtain ⟨own, rest⟩ := List.forall_mem_cons.mp silent
      cases request_of_forward own entered
      exact ih rest a

/-- A request that passes an arranged chain has the id that it was given. -/
lemma headers_of_arrives {trusting : Bool} {bs gs : List BuiltIn}
    {os : List (Option (Summary → Event))} (arranged : Arranged trusting bs os gs) {r r' : Request}
    {p p' : Plan} {v v' : World} (a : Arrives (bs.map toStage) r p v bs.length r' p' v') :
    r'.headers = Stage.withId r.headers (idFor trusting r v) := by
  obtain ⟨gates⟩ := arranged
  have silent : ∀ b ∈ os.map journal ++ gs, b.isIdentify = false := by
    intro b hb
    rcases List.mem_append.mp hb with hb | hb
    · obtain ⟨o, -, rfl⟩ := List.mem_map.mp hb
      rfl
    · obtain ⟨v, o, rfl⟩ := gates b hb
      rfl
  obtain ⟨drawn, entered⟩ := halt_identify_eq trusting r p v
  generalize os.map journal ++ gs = rest at a silent
  rw [List.map_cons, List.length_cons] at a
  cases a with
  | next _ entered' a =>
    cases entered.symm.trans entered'
    rw [request_of_arrives silent a]

/-- What comes out of an arranged chain is put under the id that the request was given. -/
lemma halt_arranged {trusting : Bool} {bs gs : List BuiltIn} {os : List (Option (Summary → Event))}
    (arranged : Arranged trusting bs os gs) {last : Inside Request Response}
    (blind : Inside.Keeps World.context Response.Unplaced last) {r : Request} {p p' : Plan}
    {v u : World} {a : Response} (unfired : v.fired = false) (spares : p.Spares World.context)
    (ended : (runStages (bs.map toStage) last r).halt p v = .finished a p' u) :
    ∃ (b : Response) (inside : List Event), b.Unplaced ∧ a = b.under (some (idFor trusting r v)) ∧
    u.requestId = idFor trusting r v ∧
      u.trace = inside ++ closings bs ⟨idFor trusting r v, v.chain, r.method, r.uri.path,
        b.status⟩ := by
  have told := closings_arranged arranged
  obtain ⟨gates⟩ := arranged
  obtain ⟨drawn, entered⟩ := halt_identify_eq trusting r p v
  rw [List.map_cons, toStage, halt_stage_of_forward unfired entered] at ended
  obtain ⟨b, p₁, u, halted, left⟩ := Halt.finished_of_bind ended
  cases left
  rw [List.map_append, runStages_append] at halted
  generalize began : { v with requestId := idFor trusting r v, drawn := drawn } = w at halted
  have unfired' : w.fired = false := began ▸ unfired
  obtain ⟨v₁, u₁, behind, same, rfl⟩ := halt_journals unfired' halted
  have silent : ∀ s ∈ gs.map toStage, s.enter.Keeps World.context Response.Unplaced := by
    intro s hs
    obtain ⟨b, hb, rfl⟩ := List.mem_map.mp hs
    obtain ⟨v, o, rfl⟩ := gates b hb
    exact keeps_context v o
  obtain ⟨unplaced, -, kept⟩ := (blind.runStages silent ⟨rfl, rfl⟩ _).of_finished spares behind
  have context : u₁.context = (idFor trusting r v, v.chain) := by
    rw [kept, same, ← began]
    rfl
  obtain ⟨id, chain⟩ := Prod.mk.inj context
  refine ⟨b, u₁.trace, unplaced, rfl, id, ?_⟩
  rw [told, id, chain]

end BuiltIn

namespace Server

open BuiltIn Exchange

/--
The id of a request: what its first id header writes, if callers are trusted and that is an id, or a
fresh one.
-/
def idOf (trusting : Bool) (n : NativeRequest) (fresh : Uuid) : Uuid :=
  (if trusting then (n.headers.text? HeaderName.requestId).bind Uuid.ofText? else none).getD fresh

/-- What has the id of a request that runs through some stages. -/
structure Identified (bs : List BuiltIn) (n : NativeRequest) (r : Request) (p : Plan) (v : World)
    (id : Uuid) (b : NativeResponse) (u : World) : Prop where
  /--
  The answer and the request that the handler is given, if it comes to that, have this id and no
  other one.
  -/
  headers : ∃ value : HeaderValue, value.text? = some id.toText ∧
    b.headers.values HeaderName.requestId = [value] ∧
    ∀ r' p' v', Arrives (bs.map toStage) r p v bs.length r' p' v' →
      r'.toNative.headers.values HeaderName.requestId = [value]
  context : u.requestId = id
  /--
  Every stage that logs tells of the request under this id, and after that it is only counted.
  -/
  summaries : ∃ inside, ∃ metrics : List Metric, u.trace =
    inside ++ closings bs ⟨id, v.chain, n.method, n.uri.path, b.status⟩ ++ metrics.map Event.metric

section

variable {s : Server} {n : NativeRequest} {addr : Option SocketAddr} {w : World} {c : Chain}
  {h : NativeHandler}
  {r : Request} {p : Plan} {v : World}

/-- A chain begins with the request as it came, in a context of its own. -/
lemma Enters.begins (enters : s.Enters n addr w c h r p v) :
    r.headers = n.headers ∧ r.method = n.method ∧ r.uri = n.uri ∧ v.ids = w.ids ∧
    v.drawn = w.drawn + 1 ∧
      v.fired = false ∧ p.Spares World.context := by
  obtain ⟨-, -, -, given⟩ := enters
  rw [Request.ofNative] at given
  cases hs : n.store with
  | none =>
    simp only [hs] at given
    cases given
    exact ⟨rfl, rfl, rfl, rfl, rfl, rfl, fun _ _ => rfl, fun _ => rfl, fun _ => rfl⟩
  | some i =>
    simp only [hs] at given
    cases given
    exact ⟨rfl, rfl, rfl, rfl, rfl, rfl, fun _ _ => rfl, fun _ => rfl, fun _ => rfl⟩

/--
A request that runs to its end has one id, whatever ids come from the client and from the handler.
A handler is given the request and its store, but not the context.
-/
theorem dispatch_identified {ss : List Stage} {last : Handler}
    (enters : s.Enters n addr w (.of ss last) h r p v) {bs : List BuiltIn}
    (stages : (Chain.of ss last).stages = bs.map toStage) {trusting : Bool}
    (one : bs.filter isIdentify = [identify trusting])
    (blind : Inside.Keeps World.context (fun _ => True) h) {a : Response} {p' : Plan} {v' : World}
    (ended : (runStages (bs.map toStage) (finish (terminal h)) r).halt p v = .finished a p' v') :
    ∃ b u, s.dispatch n addr w = (some b, u) ∧
      Identified bs n r p v (idOf trusting n (w.ids (w.drawn + 1))) b u := by
  obtain ⟨headers, method, uri, ids, drawn, unfired, spares⟩ := enters.begins
  obtain ⟨os, gs, arranged⟩ := arranged (stages ▸ Chain.sorted_of ss last) one
  -- the first id that was drawn went to the context of the chain, so the second one is the fresh id
  have same : idFor trusting r v = idOf trusting n (w.ids (w.drawn + 1)) := by
    rw [idFor, idOf, Stage.incomingId?, headers, ids, drawn]
  have taken_up := (blind.terminal Response.Unplaced.ofResult).finish ⟨rfl, rfl⟩
  obtain ⟨inner, inside, unplaced, rfl, id, trace⟩ :=
    halt_arranged arranged taken_up unfired spares ended
  rw [same] at ended id trace
  rw [← stages] at ended
  obtain ⟨chain, run⟩ := enters.dispatch_eq ended
  obtain ⟨value, b, valid, written, values, status, finished⟩ :=
    unplaced.sent (idOf trusting n (w.ids (w.drawn + 1)))
  rw [written, finished] at run
  refine ⟨b, _, run, ?_⟩
  constructor
  case headers =>
    obtain ⟨value', valid', text⟩ :=
      HeaderValue.ofText?_of_visible (idOf trusting n (w.ids (w.drawn + 1))).visible_toText
    cases valid.symm.trans valid'
    refine ⟨value, text, values, fun r' p' v' arrives => ?_⟩
    have given : r'.toNative.headers = r.headers.insert HeaderName.requestId value := by
      rw [Request.toNative, headers_of_arrives arranged arrives, same, Stage.withId, valid]
    rw [given, Headers.values_insert, if_pos rfl]
  case context => exact id
  case summaries =>
    have told : ((record chain b.status v').count .left).trace = v'.trace ++
        [Metric.served chain b.status.code, .timed chain, .left].map Event.metric := by
      simp only [record, World.count, World.emit, List.append_assoc, List.map_cons, List.map_nil,
        List.cons_append, List.nil_append]
    exact ⟨inside, _, told.trans (by rw [trace, status, method, uri])⟩

end

/-- Id headers with some texts. -/
def idHeaders (ts : List String) : Headers :=
  .ofList ((ts.filterMap HeaderValue.ofText?).map fun v => (HeaderName.requestId, v))

/-- A caller with an id in capitals and a second one. -/
def twiceNamed : NativeRequest :=
  { caller with headers := idHeaders ["67E55044-10B1-426F-9247-BB680E5FE0C8", "second"] }

/-- Stages that take up the id of a caller, and log. -/
def trustingStages : List BuiltIn := [.identify true, .journal none]

/-- A handler whose answer has ids of its own. -/
def selfNaming : NativeHandler := fun _ => pure (.ok ⟨.ok, idHeaders ["mine", "yours"], .empty⟩)

/-- A small server with these stages around that handler. -/
def trustingServer : Server :=
  let f : Foundry := ⟨.empty, [], [("api", .of (trustingStages.map toStage) .notFound)]⟩
  ⟨⟨"", 0, none, none⟩, [rootRoute selfNaming], ⟨.chains f, .ofChains f []⟩⟩

/-- The first id of the caller is written in small letters, and the others are gone. -/
theorem dispatch_identified_twice_named : ∃ r p v b u,
    trustingServer.dispatch twiceNamed none Stage.visitor.2 = (some b, u) ∧
    Identified trustingStages twiceNamed r p v (idOf true twiceNamed (Stage.visitor.2.ids 1)) b u ∧
    (idOf true twiceNamed (Stage.visitor.2.ids 1)).toText =
      "67e55044-10b1-426f-9247-bb680e5fe0c8" := by
  have sorted : (Chain.of (trustingStages.map toStage) .notFound).stages =
      trustingStages.map toStage := by
    apply List.mergeSort_of_pairwise
    simp [trustingStages, toStage, Stage.identify, Stage.journal]
  have takes : trustingServer.Takes twiceNamed (rootRoute selfNaming) .empty := ⟨by decide, by rfl⟩
  have blind : Inside.Keeps World.context (fun _ => True) selfNaming := fun _ => trivial
  obtain ⟨r, p, v, enters, a, p', v', ended⟩ : ∃ r p v,
    trustingServer.Enters twiceNamed none Stage.visitor.2
      (.of (trustingStages.map toStage) .notFound) selfNaming r p v ∧ ∃ a p' v',
        (runStages (trustingStages.map toStage) (finish (terminal selfNaming)) r).halt p v =
          .finished a p' v' := by
    refine ⟨_, _, _, .intro takes rfl rfl rfl, ?_⟩
    obtain ⟨drawn, entered⟩ := halt_identify_eq true _ _ _
    rw [trustingStages, List.map_cons, toStage, halt_stage_of_forward rfl entered]
    exact ⟨_, _, _, rfl⟩
  obtain ⟨b, u, run, identified⟩ := dispatch_identified enters sorted rfl blind ended
  exact ⟨r, p, v, b, u, run, identified, by decide +kernel⟩

end Server

end Gatehouse
