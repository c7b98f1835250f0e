import Gatehouse.Proofs.Stage.BuiltIn
import Gatehouse.Server.Dispatch

/-!
# What is sent for a request

A request that runs through a chain of the stages that are there gets what is settled for it,
whatever the deadline of the server is: those stages do not wait (`Server.runChain_builtIn`).
-/

namespace Gatehouse

/-- What writing a plain answer under some headers gives. -/
def Response.written (a : Response) (h : Headers) : Except WriteError NativeResponse :=
  match a.error with
  | some message => .error (.raised ⟨a.status, message.getD a.status.canonicalText, h⟩)
  | none => .ok ⟨a.status, h, Payload.toBody a.payload⟩

/-- What is sent for a plain answer under some headers. -/
def Response.sent (a : Response) (h : Headers) : NativeResponse :=
  match a.written h with
  | .ok n => n
  | .error e => e.toFailure.toResponse

/-- The request id of an answer never stands in the way of sending it. -/
lemma Dressed.write {a b : Response} (d : Dressed a b) (cookies : a.cookies = [])
    (location : a.location = none) :
    ∃ h, b.write = a.written h := by
  obtain ⟨h, id, rfl, valid⟩ := d
  cases id with
  | none =>
    refine ⟨h, ?_⟩
    simp only [Response.write, cookies, location, Response.writeCookies, Response.writeRequestId]
    rfl
  | some t =>
    obtain ⟨v, hv⟩ := valid t rfl
    refine ⟨h.insert HeaderName.requestId v, ?_⟩
    simp only [Response.write, cookies, location, Response.writeCookies, Response.writeRequestId,
      Response.headerValue, hv]
    rfl

namespace Exchange

/-- A task that finishes is served with what is written of its answer. -/
lemma serve_of_finished {d : Deadline} {s : Stage} {n : NativeRequest} {addr : Option SocketAddr}
    {h : NativeHandler} {w : World} {b : Response} {p' : Plan} {w' : World}
    (e : (task s h (Request.ofNative n addr w).1).halt
    (plan d w.chainText (Request.ofNative n addr w).2.clock)
      (Request.ofNative n addr w).2 = .finished b p' w') :
    ∃ w'', serve d s n addr h w = (some b.write, w'') := by
  simp only [serve, Task.run_eq, e, Halt.outcome, finishWith]
  cases b.write with
  | ok n => exact ⟨_, rfl⟩
  | error e => exact ⟨_, rfl⟩

end Exchange

namespace Server

open BuiltIn

/-- A request without a store gets what is settled in a fresh one. -/
lemma runChain_builtIn (s : Server) (name : String) {c : Chain} {bs : List BuiltIn}
    (stages : c.stages = bs.map toStage) {h : NativeHandler}
    {answer : StoreId → Stores Value → Response} (l : LooksUp (Exchange.terminal h) answer)
    {n : NativeRequest} (fresh : n.store = none) (addr : Option SocketAddr) (w : World)
    {a : Response}
    (settled : settle answer w.stores.create.1 n.headers w.clock bs w.stores.create.2 = a)
    (cookies : a.cookies = []) (location : a.location = none) :
    ∃ hs w', s.runChain name c n addr h w = (some (a.sent hs), w') := by
  obtain ⟨b, p', w', e, d⟩ := halt_stages l bs
    (Request.ofNative n addr { w.newContext with chain := some name }).1
    (Exchange.plan s.deadline (World.chainText { w.newContext with chain := some name })
      (Request.ofNative n addr { w.newContext with chain := some name }).2.clock)
    (Request.ofNative n addr { w.newContext with chain := some name }).2
      (by rw [Request.ofNative, fresh]; rfl)
  rw [← stages, ← asStage_around] at e
  obtain ⟨w'', served⟩ := Exchange.serve_of_finished e
  have same : Dressed a b := by
    rw [← settled]
    rw [Request.ofNative, fresh] at d
    exact d
  obtain ⟨hs, written⟩ := same.write cookies location
  refine ⟨hs, w'', ?_⟩
  rw [runChain, served, written, Response.sent]
  cases a.written hs with
  | ok n => rfl
  | error e => rfl

/-- A request with a route gets what comes out of its run, which is counted. -/
lemma dispatch_of_find? {s : Server} {n : NativeRequest} {route : Route} {params : PathParams}
    (other : ¬ (n.method = .get ∧ n.uri.path = healthPath))
    (found : s.routes.find? n.method n.uri.path = some (route, params)) (addr : Option SocketAddr)
    (w : World) :
    s.dispatch n addr w =
      match s.runInstalled route { n with params := some params } addr (w.count .entered) with
      | (some b, w) => (some b, (record route.chain b.status w).count .left)
      | (none, w) => (none, w) := by
  rw [dispatch, answer, if_neg other, found]
  simp only [runRoute]
  cases s.runInstalled route { n with params := some params } addr (w.count .entered) with
  | mk b v => cases b <;> rfl

/-- A request that is neither the health check nor without route. -/
structure Takes (s : Server) (n : NativeRequest) (route : Route) (params : PathParams) : Prop where
  other : ¬ (n.method = .get ∧ n.uri.path = healthPath)
  found : s.routes.find? n.method n.uri.path = some (route, params)

/-- The answer to a request that is taken is what its run through what is installed gives. -/
lemma Takes.dispatch {s : Server} {n : NativeRequest} {route : Route} {params : PathParams}
    (takes : s.Takes n route params) (addr : Option SocketAddr) (w : World) :
    (s.dispatch n addr w).1 =
      (s.runInstalled route { n with params := some params } addr (w.count .entered)).1 := by
  rw [dispatch_of_find? takes.other takes.found]
  cases s.runInstalled route { n with params := some params } addr (w.count .entered) with
  | mk b v => cases b <;> rfl

end Server

end Gatehouse
