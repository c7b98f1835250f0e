import Mathlib.Data.List.Forall2
import Gatehouse.Proofs.Chain.Cancellation
import Gatehouse.Proofs.Http.SameBut
import Gatehouse.Proofs.Server.Migration

/-!
# Answers on their way out

Of the stages that come with the server only the one that gives ids changes an answer on its way out
(`BuiltIn.outward`).  So whatever is answered at a place of a chain of such stages is sent as it is,
under a request id if the chain gives one (`Server.Enters.dispatch_of_arrives`).
-/

namespace Gatehouse

/-- An id is a header value, and becomes the only one of its name. -/
lemma withId_eq (id : Uuid) :
    ∃ v, HeaderValue.ofText? id.toText = some v ∧
    ∀ h, Stage.withId h id = h.insert HeaderName.requestId v := by
  obtain ⟨v, hv, -⟩ := HeaderValue.ofText?_of_visible id.visible_toText
  refine ⟨v, hv, fun h => ?_⟩
  rw [Stage.withId, hv]

namespace Response

/-- An answer under a request id, if there is one. -/
def under (b : Response) : Option Uuid → Response
  | none => b
  | some id => { b with headers := Stage.withId b.headers id, requestId := some id.toText }

/-- The last id is the one that is seen. -/
lemma under_under (b : Response) (id : Option Uuid) (last : Uuid) :
    (b.under id).under (some last) = b.under (some last) := by
  cases id with
  | none => rfl
  | some id =>
    obtain ⟨v, -, hv⟩ := withId_eq id
    obtain ⟨v', -, hv'⟩ := withId_eq last
    simp only [under, hv, hv', Headers.insert_insert]

/-- An answer of which nothing is written but its status, headers, payload and error. -/
structure Plain (b : Response) : Prop where
  cookies : b.cookies = []
  location : b.location = none
  requestId : b.requestId = none

/-- A plain answer is sent with the headers that it has under its id. -/
lemma Plain.writeOrRender {b : Response} (plain : b.Plain) (id : Option Uuid) :
    (b.under id).writeOrRender = b.sent (b.under id).headers := by
  have written : (b.under id).write = b.written (b.under id).headers := by
    cases id with
    | none =>
      simp only [under, write, plain.cookies, plain.location, plain.requestId, writeCookies,
        writeRequestId]
      rfl
    | some id =>
      obtain ⟨v, valid, hv⟩ := withId_eq id
      simp only [under, write, plain.cookies, plain.location, writeCookies, writeRequestId,
        headerValue, valid, hv]
      exact congrArg b.written (Headers.insert_insert b.headers HeaderName.requestId v v)
  unfold Response.writeOrRender sent
  cases e : b.written (b.under id).headers with
  | ok n => simp only [written, e]
  | error e' => simp only [written, e]

/-- A plain answer keeps its status under an id. -/
lemma Plain.status {b : Response} (plain : b.Plain) (id : Option Uuid) :
    (b.under id).writeOrRender.status = b.status := by
  rw [plain.writeOrRender]
  unfold sent written
  cases b.error with
  | none => rfl
  | some message => rfl

/-- Answers whose headers differ in the request id differ in it alone. -/
lemma sameBut_sent (b : Response) {h h' : Headers} (s : h.SameBut HeaderName.requestId h') :
    (b.sent h).SameBut HeaderName.requestId (b.sent h') := by
  unfold sent written
  cases b.error with
  | none => exact ⟨rfl, s, rfl⟩
  | some message => exact ⟨rfl, s.insert (by decide) HeaderValue.json, rfl⟩

/-- Under two ids a plain answer differs in the request id alone. -/
lemma Plain.sameBut {b : Response} (plain : b.Plain) {id id' : Option Uuid}
    (both : id.isSome ↔ id'.isSome) :
    (b.under id).writeOrRender.SameBut HeaderName.requestId (b.under id').writeOrRender := by
  rw [plain.writeOrRender, plain.writeOrRender]
  apply b.sameBut_sent
  cases id with
  | none =>
    cases id' with
    | none => exact .refl b.headers
    | some id' => exact absurd (both.mpr rfl) Bool.false_ne_true
  | some id =>
    cases id' with
    | none => exact absurd (both.mp rfl) Bool.false_ne_true
    | some id' =>
      obtain ⟨v, -, hv⟩ := withId_eq id
      obtain ⟨v', -, hv'⟩ := withId_eq id'
      simp only [under, hv, hv']
      exact .inserted b.headers v v'

end Response

namespace BuiltIn

/-- Stages of one kind, whatever they were given when they were made. -/
inductive SameKind : BuiltIn → BuiltIn → Prop where
  | identify (trusting trusting') : SameKind (.identify trusting) (.identify trusting')
  | journal (observer observer') : SameKind (.journal observer) (.journal observer')
  | gate (v observer v' observer') : SameKind (.gate v observer) (.gate v' observer')

/-- Whether there is a stage that gives ids. -/
def Identifies (bs : List BuiltIn) : Prop := ∃ trusting, identify trusting ∈ bs

/-- The first stage gives ids, or one of the others does. -/
lemma identifies_cons {b : BuiltIn} {bs : List BuiltIn} :
    Identifies (b :: bs) ↔ (∃ trusting, b = identify trusting) ∨ Identifies bs := by
  simp only [Identifies, List.mem_cons, exists_or, eq_comm]

/-- Whether there is a stage that gives ids depends on the kinds of stages alone. -/
lemma identifies_congr {bs bs' : List BuiltIn} (kinds : List.Forall₂ SameKind bs bs') :
    Identifies bs ↔ Identifies bs' := by
  induction kinds with
  | nil => exact Iff.rfl
  | cons k _ ih =>
    rw [identifies_cons, identifies_cons, ih]
    cases k with
    | identify trusting trusting' =>
      exact iff_of_true (.inl ⟨trusting, rfl⟩) (.inl ⟨trusting', rfl⟩)
    | journal observer observer' => exact or_congr_left (iff_of_false nofun nofun)
    | gate v observer v' observer' => exact or_congr_left (iff_of_false nofun nofun)

/-- A stage that goes on leaves the answer as it is, or puts it under an id. -/
lemma outward {b : BuiltIn} {r r₁ : Request} {p p₁ : Plan} {w w₁ : World}
    {after : Response → Run Response}
    (e : (b.toStage.enter r).halt p w = .finished (.forward r₁ after) p₁ w₁) :
    ∃ id : Option Uuid, (id.isSome ↔ ∃ trusting, b = identify trusting) ∧
      ∀ a p w, ∃ w', (after a).halt p w = .finished (a.under id) p w' := by
  cases b with
  | identify trusting =>
    obtain ⟨id, w', e', -⟩ := halt_identify trusting r p w
    cases e'.symm.trans e
    exact ⟨some id, iff_of_true rfl ⟨trusting, rfl⟩, fun a p w => ⟨w, rfl⟩⟩
  | journal observer =>
    obtain ⟨after', e', left⟩ := halt_journal observer r p w
    cases e'.symm.trans e
    exact ⟨none, iff_of_false Bool.false_ne_true nofun, left⟩
  | gate v observer =>
    cases hv : v.verify r.headers w.clock with
    | error reason => cases (Stage.halt_gate_of_error hv).symm.trans e
    | ok c =>
      cases (Stage.halt_gate_of_ok hv).symm.trans e
      exact ⟨none, iff_of_false Bool.false_ne_true nofun, fun a p w => ⟨w, rfl⟩⟩

/-- The stages that give ids and that log let every request pass. -/
lemma arrives_behind (trusting : Bool) (observer : Option (Summary → Event)) (bs : List BuiltIn)
    (r : Request) (p : Plan) {w : World} (hw : w.fired = false) :
    ∃ id r' w',
    Arrives ((identify trusting :: journal observer :: bs).map toStage) r p w 2 r' p w' ∧
      r'.headers = Stage.withId r.headers id ∧ w'.fired = false := by
  obtain ⟨id, w₁, identified, fired, -⟩ := halt_identify trusting r p w
  generalize same : Stage.withId r.headers id = headers at identified
  obtain ⟨after, logged, -⟩ := halt_journal observer { r with headers := headers } p w₁
  have unfired := fired.trans hw
  exact ⟨id, _, _, .next hw identified (.next unfired logged .here), same.symm, unfired⟩

/--
What comes out at a place comes out of the chain, under an id if a stage before that place gives
one.
-/
lemma halt_of_arrives {bs : List BuiltIn} {last : Inside Request Response} {i : Nat}
    {r r' : Request} {p p' p₁ : Plan} {w w' w₁ : World} {a : Response}
    (arrives : Arrives (bs.map toStage) r p w i r' p' w')
    (e : (runStages ((bs.drop i).map toStage) last r').halt p' w' = .finished a p₁ w₁) :
    ∃ id p₂ w₂, (runStages (bs.map toStage) last r).halt p w = .finished (a.under id) p₂ w₂ ∧
      (id.isSome ↔ Identifies (bs.take i)) := by
  induction bs generalizing i r p w with
  | nil =>
    cases arrives with
    | here => exact ⟨none, p₁, w₁, e, iff_of_false Bool.false_ne_true (fun h => nomatch h)⟩
  | cons b bs ih =>
    cases arrives with
    | here =>
      refine ⟨none, p₁, w₁, e, iff_of_false Bool.false_ne_true ?_⟩
      rintro ⟨trusting, h⟩
      cases h
    | next unfired entered arrives =>
      obtain ⟨id, p₂, w₂, inner, given⟩ := ih arrives e
      obtain ⟨own, kind, out⟩ := outward entered
      obtain ⟨w₃, left⟩ := out (a.under id) p₂ w₂
      rw [List.map_cons, halt_stage_of_forward unfired entered, inner, Halt.bind_finished, left,
        List.take_succ_cons, identifies_cons, ← kind, ← given]
      cases own with
      | none => exact ⟨id, p₂, w₃, rfl, (or_iff_right Bool.false_ne_true).symm⟩
      | some own =>
        exact ⟨some own, p₂, w₃, by rw [Response.under_under], iff_of_true rfl (.inl rfl)⟩

end BuiltIn

/-- A gate that refuses a request answers for everything from its place on. -/
lemma halt_drop_of_refused {ss : List Stage} {place : Nat} {v : Verifier}
    {observer : Option (Refusal → Event)} (at_ : ss[place]? = some (.gate v observer))
    (last : Inside Request Response) {r : Request} {p : Plan} {w : World}
    (unfired : w.fired = false) {e : Refusal} (refused : v.verify r.headers w.clock = .error e) :
    ∃ u, (runStages (ss.drop place) last r).halt p w = .finished .unauthorized p u := by
  obtain ⟨lt, gate⟩ := List.getElem?_eq_some_iff.mp at_
  rw [List.drop_eq_getElem_cons lt, gate]
  exact ⟨_, halt_stage_of_reply unfired (Stage.halt_gate_of_error refused)⟩

namespace Server

open Exchange BuiltIn

/--
The chain that a request runs through, with the handler of its route and what the chain begins with.
-/
inductive Enters (s : Server) (n : NativeRequest) (addr : Option SocketAddr) (w : World) :
    Chain → NativeHandler → Request → Plan → World → Prop where
  | intro {route params f c r v} : s.Takes n route params → s.installed.pipeline = .chains f →
    f.chain? route.chain = some c → Request.ofNative { n with params := some params } addr
      { (w.count .entered).newContext with chain := some route.chain } = (r, v) →
    Enters s n addr w c route.handler r (plan s.deadline route.chain v.clock) v

namespace Enters

variable {s : Server} {n : NativeRequest} {addr : Option SocketAddr} {w : World} {c : Chain}
  {h : NativeHandler}
  {r : Request} {p : Plan} {v : World}

/-- What comes out of the chain is written, or rendered if it cannot be written, and counted. -/
lemma dispatch_eq (enters : s.Enters n addr w c h r p v) {b : Response} {p' : Plan} {v' : World}
    (e : (runStages c.stages (finish (terminal h)) r).halt p v = .finished b p' v') :
    ∃ chain, s.dispatch n addr w =
      (some b.writeOrRender,
        (record chain b.writeOrRender.status (finishWith chain b v').2).count .left) := by
  cases enters with
  | @intro route params f c r v takes chains bound given =>
    refine ⟨route.chain, ?_⟩
    rw [dispatch_of_find? takes.other takes.found, runInstalled, chains]
    simp only [bound]
    rw [runChain_eq, given, task, asStage_around, e]

/-- A request is answered with what the run of its chain ends with. -/
lemma dispatch (enters : s.Enters n addr w c h r p v) {b : Response} {p' : Plan} {v' : World}
    (e : (runStages c.stages (finish (terminal h)) r).halt p v = .finished b p' v') :
    (s.dispatch n addr w).1 = some b.writeOrRender := by
  obtain ⟨chain, run⟩ := enters.dispatch_eq e
  rw [run]

/--
What is answered at a place of a chain of stages that are there is sent under an id, if a stage
gives one.
-/
lemma dispatch_of_arrives (enters : s.Enters n addr w c h r p v) {bs : List BuiltIn}
    (stages : c.stages = bs.map toStage) {i : Nat} {r' : Request} {p' p₁ : Plan} {v' v₁ : World}
    {b : Response}
    (arrives : Arrives c.stages r p v i r' p' v')
    (e : (runStages ((bs.drop i).map toStage) (finish (terminal h)) r').halt p' v' =
    .finished b p₁ v₁) :
    ∃ id, (s.dispatch n addr w).1 = some (b.under id).writeOrRender ∧
    (id.isSome ↔ Identifies (bs.take i)) := by
  rw [stages] at arrives
  obtain ⟨id, p₂, v₂, run, given⟩ := halt_of_arrives arrives e
  rw [← stages] at run
  exact ⟨id, enters.dispatch run, given⟩

end Enters

/-- The only route of a small server. -/
def rootRoute (h : NativeHandler) : Route := ⟨.get, "/", "api", h⟩

/-- The only route of a small server takes a request for the root. -/
lemma takes_root {s : Server} {h : NativeHandler} (routes : s.routes = [rootRoute h]) :
    s.Takes caller (rootRoute h) .empty := by
  have root : Segment.matches? (Segment.ofPattern "/".toList)
      (Segment.split caller.uri.path.toList) = some [] := by
    decide
  refine ⟨by decide, ?_⟩
  have get : caller.method = .get := rfl
  simp only [routes, Routes.find?, rootRoute, get, decide_true, List.filter_cons_of_pos,
    List.filter_nil, List.findSome?_cons, Route.matchPath?, root, Option.map_some, List.map_nil]
  rfl

/-- A request for the root enters the chain of a small server, with the signal not fired. -/
lemma enters_root {s : Server} {h : NativeHandler} (routes : s.routes = [rootRoute h]) {f : Foundry}
    (chains : s.installed.pipeline = .chains f) {c : Chain} (bound : f.chain? "api" = some c) :
    ∃ r p v, s.Enters caller none Stage.visitor.2 c h r p v ∧ r.headers = .empty ∧
    v.fired = false :=
  ⟨_, _, _, .intro (takes_root routes) chains bound rfl, rfl, rfl⟩

end Server

end Gatehouse
