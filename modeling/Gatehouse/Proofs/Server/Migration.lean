import Gatehouse.Proofs.Http.Values
import Gatehouse.Proofs.Server.Deadline

/-!
# From plain layers to chains

A handler of the server that uses nothing of the request's context runs in the same way behind an
empty chain and behind no layers at all: as long as neither is given up both runs go on side by
side, and both are given up at the same time (`Task.Blind.parted`).  `Server.dispatch_migrates` says
of whole requests that they are answered alike, but for request ids that a handler gives more than
once.
-/

namespace Gatehouse

/-- A task that knows nothing of a context: neither its id, its chain, its signal nor any store. -/
def Task.Blind {α : Type} : Run α → Prop
  | .done _ => True
  | .act change next =>
    (∃ f : Nat → List Event → List Event, ∀ w, change w = { w with trace := f w.clock w.trace }) ∧
      (∀ w w', w.clock = w'.clock → w.trace = w'.trace → next w = next w') ∧ ∀ w, (next w).Blind
  | .wait _ next => next.Blind
  | .waitOr _ _ _ => False

/-- A handler of the server that knows its request but no context. -/
structure NativeHandler.Blind (h : NativeHandler) : Prop where
  store : ∀ n i, h { n with store := i } = h n
  task : ∀ n, (h n).Blind

/-- States that differ in the context alone, with the signal not fired in the first one. -/
structure Abreast (w w' : World) : Prop where
  unfired : w.fired = false
  clock : w.clock = w'.clock
  trace : w.trace = w'.trace

namespace Plan

/-- A plan that fires the signal when another one drops the task. -/
structure Mirrors (p q : Plan) : Prop where
  same : p.alarm = q.limit
  never : q.alarm = none
  later : ∀ l, p.limit = some l → ∃ a, p.alarm = some a ∧ a ≤ l
  record : ∃ record, ∀ w, p.onAlarm w = w.emit (.log record)

/-- The ends of two waits, one of which ends with the signal. -/
inductive Mirrored (p q : Plan) : Passage → Passage → Prop where
  | woke {w w'} : Abreast w w' → Mirrored p q (.woke p w) (.woke q w')
  | gaveUp {p' w w'} : w.clock = w'.clock → (∃ record, w.trace = w'.trace ++ [.log record]) →
    Mirrored p q (.called p' w) (.dropped w')
  | endless {w w'} : Abreast w w' → Mirrored p q (.stuck w) (.stuck w')

/-- A wait under a plan that mirrors another one ends like the wait under that. -/
lemma Mirrors.mirrored {p q : Plan} (m : p.Mirrors q) {w w' : World} (a : Abreast w w')
    (ms : Option Nat) :
    Mirrored p q (p.passOr w ms) (q.pass w' ms) := by
  obtain ⟨record, logged⟩ := m.record
  have quiet : q.Quiet (ms.map (w'.clock + ·)) := fun t h => by rw [m.never] at h; cases h
  rw [pass_of_quiet quiet]
  unfold passOr
  rw [if_neg (by simp [a.unfired]), ← a.clock]
  cases ha : p.alarm with
  | none =>
    have unlimited : p.limit = none := by
      cases hl : p.limit with
      | none => rfl
      | some l =>
        obtain ⟨t, e, -⟩ := m.later l hl
        rw [ha] at e
        cases e
    simp only [sleepOn, unlimited, ← m.same, ha]
    cases ms with
    | none => exact .endless a
    | some k => exact .woke ⟨a.unfired, rfl, a.trace⟩
  | some t =>
    cases hb : isBefore t (ms.map (w.clock + ·)) with
    | true =>
      simp only [sleepOn, ← m.same, ha, hb, if_true]
      refine .gaveUp ?_ ⟨record, ?_⟩
      · rw [ring, logged, ← a.clock]
        rfl
      · rw [ring, logged, ← a.trace]
        rfl
    | false =>
      obtain ⟨u, e, le⟩ := isBefore_eq_false hb
      -- the wait is over before either plan does anything
      have still : p.StillTo u := by
        refine ⟨fun t' h => ?_, fun l h => ?_⟩
        · rw [ha] at h
          cases h
          exact le
        · obtain ⟨t', h', le'⟩ := m.later l h
          rw [ha] at h'
          cases h'
          exact Nat.le_trans le le'
      have still' : q.StillTo u := by
        refine ⟨fun t' h => ?_, fun l h => ?_⟩
        · rw [m.never] at h
          cases h
        · exact still.alarm l (m.same.trans h)
      rw [e] at hb
      simp only [e, hb, Bool.false_eq_true, if_false]
      rw [still.sleepOn, still'.sleepOn]
      exact .woke ⟨a.unfired, rfl, a.trace⟩

end Plan

/-- The ends of two runs of a task, one of which gives up with a value when the signal is fired. -/
inductive Parted {α β : Type} (f : α → β) (c : β) : Halt β → Halt α → Prop where
  | finished {a p q w w'} : Abreast w w' → Parted f c (.finished (f a) p w) (.finished a q w')
  | gaveUp {p w w'} : w.clock = w'.clock → (∃ record, w.trace = w'.trace ++ [.log record]) →
    Parted f c (.finished c p w) (.dropped w')
  | endless {w w'} : Abreast w w' → Parted f c (.stuck w) (.stuck w')

/-- A task without a context runs in two contexts side by side until the signal is fired. -/
lemma Task.Blind.parted {α β : Type} {t : Run α} (b : t.Blind) (f : α → β) (c : β) {p q : Plan}
    (m : p.Mirrors q) {w w' : World} (a : Abreast w w') :
    Parted f c ((Task.guard c (t >>= fun x => pure (f x))).halt p w) (t.halt q w') := by
  rw [Task.bind_eq]
  induction t generalizing w w' with
  | done x => exact .finished a
  | act change next ih =>
    obtain ⟨⟨g, changes⟩, same, rest⟩ := b
    have next_eq : next w' = next w := (same w w' a.clock a.trace).symm
    simp only [Task.bind, Task.guard, Task.halt, next_eq]
    apply ih w (rest w)
    rw [changes, changes]
    exact ⟨a.unfired, a.clock, by simp only [a.clock, a.trace]⟩
  | wait ms next ih =>
    simp only [Task.bind, Task.guard]
    rw [Task.halt_waitOr, Task.halt_wait]
    have mirrored := m.mirrored a ms
    generalize p.passOr w ms = x at mirrored
    generalize q.pass w' ms = y at mirrored
    cases mirrored with
    | woke a' => exact ih b a'
    | gaveUp clock trace => exact .gaveUp clock trace
    | endless a' => exact .endless a'
  | waitOr ms next c => exact b.elim

/-- The events without records. -/
def unlogged (es : List Event) : List Event :=
  es.filter fun
    | .log _ => false
    | _ => true

/-- Records are left out of both parts of a list of events. -/
lemma unlogged_append (es es' : List Event) : unlogged (es ++ es') = unlogged es ++ unlogged es' :=
  List.filter_append es es'

/-- A record at the end is left out. -/
lemma unlogged_log (es : List Event) (r : LogRecord) : unlogged (es ++ [.log r]) = unlogged es :=
  (unlogged_append es _).trans (List.append_nil _)

/--
Answers that are the same, but that the first one has only the first one of several request ids.
-/
inductive Agree : Option NativeResponse → Option NativeResponse → Prop where
  | same {b} : Agree b b
  | reduced {b v v' vs} : b.headers.values HeaderName.requestId = v :: v' :: vs →
    v.text?.isSome = true →
    Agree (some { b with headers := b.headers.insert HeaderName.requestId v }) (some b)

/-- What a chain takes up of a handler's result. -/
def Response.ofResult : NativeResult → Response
  | .ok n => .ofNative n
  | .error e => .ofError e

/-- What a chain takes up of a handler's result is sent like that result. -/
lemma agree_ofResult (x : NativeResult) : Agree (some (Response.ofResult x).writeOrRender)
    (some (Server.ofResult x)) := by
  cases x with
  | error e => exact .same
  | ok n =>
    have body : Response.Payload.toBody (if n.body.isEnd then .none else .stream n.body) =
        n.body := by
      cases n.body with
      | frames fs failure => rfl
      | buffer bs => cases bs <;> rfl
    have written (h : Headers)
      (e : Response.writeRequestId n.headers (n.headers.text? HeaderName.requestId) = .ok h) :
        (Response.ofNative n).writeOrRender = { n with headers := h } := by
      have sent : (Response.ofNative n).write = .ok { n with headers := h } := by
        simp only [Response.write, Response.ofNative, Response.bare, Response.writeCookies, body]
        exact congrArg (· >>= fun h => .ok { n with headers := h }) e
      rw [Response.writeOrRender, sent]
    rw [Response.ofResult, Server.ofResult]
    cases ht : n.headers.text? HeaderName.requestId with
    | none =>
      rw [written n.headers (by rw [ht]; rfl)]
      exact .same
    | some t =>
      obtain ⟨v, first, hv⟩ := Option.bind_eq_some_iff.mp ht
      obtain ⟨vs, values⟩ := List.head?_eq_some_iff.mp first
      have once := written (n.headers.insert HeaderName.requestId v) (by
        rw [ht, Response.writeRequestId, Response.headerValue, HeaderValue.ofText?_of_text? hv]
        rfl)
      rw [once]
      cases vs with
      | nil =>
        rw [Headers.insert_of_values values]
        exact .same
      | cons v' vs => exact .reduced values (by rw [hv]; rfl)

namespace Exchange

/-- At the end of a chain a handler of the server has its result taken up. -/
lemma terminal_eq (h : NativeHandler) (r : Request) :
    terminal h r = h r.toNative >>= fun x => pure (Response.ofResult x) := by
  unfold terminal
  congr
  funext x
  cases x <;> rfl

/-- The end of a chain writes the response and adds records alone. -/
lemma finishWith_eq (chain : String) (b : Response) (w : World) :
    (finishWith chain b w).1 = b.write ∧ unlogged (finishWith chain b w).2.trace =
      unlogged w.trace := by
  unfold finishWith
  cases b.write with
  | ok n => exact ⟨rfl, rfl⟩
  | error e =>
    refine ⟨rfl, ?_⟩
    cases e with
    | raised f => rfl
    | unwritable detail => exact unlogged_log w.trace _

/-- An empty chain is nothing but the handler, raced against the signal. -/
lemma task_of_empty {c : Chain} (empty : c.stages = []) (h : NativeHandler) (r : Request) :
    task c.asStage h r = finish (terminal h) r := by
  rw [task, asStage_around, empty, runStages]

end Exchange

/--
The handler behind a chain is given the request of the server, with a store that is not missing.
-/
lemma toNative_ofNative {n : NativeRequest} {params : PathParams} (hp : n.params = some params)
    (addr : Option SocketAddr) (w : World) :
    ∃ i, (Request.ofNative n addr w).1.toNative =
      { n with remoteAddr := addr.or n.remoteAddr, store := some i } := by
  obtain ⟨m, u, hs, b, store, ps, a⟩ := n
  cases hp
  cases store with
  | none => exact ⟨_, rfl⟩
  | some i => exact ⟨i, rfl⟩

/-- The context that a request is given for its chain changes nothing that a blind task knows. -/
lemma abreast_ofNative (n : NativeRequest) (addr : Option SocketAddr) {w : World}
    (hw : w.fired = false) {w' : World} (clock : w.clock = w'.clock) (trace : w.trace = w'.trace) :
    Abreast (Request.ofNative n addr w).2 w' := by
  unfold Request.ofNative
  cases n.store with
  | none => exact ⟨hw, clock, trace⟩
  | some i => exact ⟨hw, clock, trace⟩

namespace Server

open Exchange

/-- With one timeout the plan of a chain mirrors that of plain layers. -/
lemma mirrors_plan {s₁ s₂ : Server} (limit : s₁.limits.requestTimeout = s₂.limits.requestTimeout)
    (chain : String)
    (start : Nat) : (plan s₁.deadline chain start).Mirrors (s₂.layersPlan start) := by
  unfold plan deadline layersPlan
  rw [limit]
  cases s₂.limits.requestTimeout with
  | none => exact ⟨rfl, rfl, nofun, _, fun _ => rfl⟩
  | some t =>
    refine ⟨rfl, rfl, fun l e => ⟨start + t, rfl, ?_⟩, _, fun _ => rfl⟩
    cases e
    exact Nat.le_add_right _ _

/-- A chain runs its task and concludes it. -/
lemma runChain_eq (s : Server) (name : String) (c : Chain) (n : NativeRequest)
    (addr : Option SocketAddr) (h : NativeHandler) (w : World) :
    s.runChain name c n addr h w =
      match (task c.asStage h (Request.ofNative n addr
      { w.newContext with chain := some name }).1).halt
        (plan s.deadline name (Request.ofNative n addr
        { w.newContext with chain := some name }).2.clock)
        (Request.ofNative n addr { w.newContext with chain := some name }).2 with
      | .finished b _ v => (some b.writeOrRender, (finishWith name b v).2)
      | .dropped v => (some Response.cancelled.writeOrRender, logAbandoned name v)
      | .stuck v => (none, v) := by
  rw [runChain, serve_eq]
  dsimp only [World.chainText, Option.getD_some]
  cases (task c.asStage h (Request.ofNative n addr { w.newContext with chain := some name }).1).halt
    (plan s.deadline name (Request.ofNative n addr
    { w.newContext with chain := some name }).2.clock)
    (Request.ofNative n addr { w.newContext with chain := some name }).2 with
  | finished b p' v =>
    simp only [conclude, (finishWith_eq name b v).1, Response.writeOrRender]
    cases b.write with
    | ok n => rfl
    | error e => rfl
  | dropped v => rfl
  | stuck v => rfl

/--
What comes out of two runs that agree, at the same time and with the same events but for the log.
-/
structure RunsAgree (x y : Option NativeResponse × World) : Prop where
  answer : Agree x.1 y.1
  clock : x.2.clock = y.2.clock
  events : unlogged x.2.trace = unlogged y.2.trace

/-- A blind handler behind an empty chain does what it does without layers. -/
lemma runChain_agrees {s₁ s₂ : Server} (limit : s₁.limits.requestTimeout = s₂.limits.requestTimeout)
    (name : String) {c : Chain} (empty : c.stages = []) {n : NativeRequest} {params : PathParams}
    (hp : n.params = some params) (addr : Option SocketAddr) {h : NativeHandler} (blind : h.Blind)
    (w : World) :
    RunsAgree (s₁.runChain name c n addr h w) (s₂.runLayers [] n addr h w) := by
  have fresh : ({ w.newContext with chain := some name } : World).fired = false := rfl
  have abreast : Abreast _ w := abreast_ofNative n addr fresh rfl rfl
  obtain ⟨i, seen⟩ := toNative_ofNative hp addr { w.newContext with chain := some name }
  rw [runChain_eq, task_of_empty empty]
  generalize
    Request.ofNative n addr { w.newContext with chain := some name } = given at abreast seen ⊢
  obtain ⟨r, w₁⟩ := given
  dsimp only at abreast seen ⊢
  have mirrors := mirrors_plan limit name w₁.clock
  have parted :=
    (blind.task { n with remoteAddr := addr.or n.remoteAddr }).parted Response.ofResult .cancelled
    mirrors abreast
  rw [← blind.store _ (some i), ← seen, ← terminal_eq, abreast.clock] at parted
  rw [finish, halt_proceed, abreast.unfired, if_neg Bool.false_ne_true, abreast.clock]
  simp only [runLayers, LayerStack.run, Task.run_eq,
    ← blind.store { n with remoteAddr := addr.or n.remoteAddr } (some i), ← seen]
  generalize (Task.guard Response.cancelled (terminal h r)).halt
    (plan s₁.deadline name w.clock) w₁ = x at parted
  generalize (h r.toNative).halt (s₂.layersPlan w.clock) w = y at parted
  cases parted with
  | finished a =>
    refine ⟨agree_ofResult _, ?_, ?_⟩
    · exact (finishWith_state name _ _).1.trans a.clock
    · exact (finishWith_eq name _ _).2.trans (congrArg unlogged a.trace)
  | gaveUp clock trace =>
    obtain ⟨record, trace⟩ := trace
    refine ⟨.same, clock, (finishWith_eq name _ _).2.trans ?_⟩
    rw [trace, unlogged_log]
    exact (unlogged_log _ _).symm
  | endless a => exact ⟨.same, a.clock, congrArg unlogged a.trace⟩

/-- A request id. -/
def firstId : HeaderValue := ⟨Bytes.ofText "one", by decide +kernel⟩

/-- Another request id. -/
def secondId : HeaderValue := ⟨Bytes.ofText "two", by decide +kernel⟩

/-- A handler that takes some time, gives two request ids, and whose body fails on the way. -/
def doubling : NativeHandler := fun _ => do
  Run.mark "doubling"
  Task.sleep 5
  pure (.ok ⟨.ok,
    (Headers.empty.append HeaderName.requestId firstId).append HeaderName.requestId secondId,
    .frames [[1], [2]] (some "reset")⟩)

/-- This handler at the root. -/
def doublingRoutes : Routes := [⟨.get, "/", "api", doubling⟩]

/-- A foundry with one chain, which has no stages. -/
def oneEmptyChain : Foundry := ⟨.empty, [], [("api", ⟨[], .notFound⟩)]⟩

/-- A server with this handler behind an empty chain. -/
def migrated : Server :=
  ⟨⟨"", 0, some 100, none⟩, doublingRoutes, ⟨.chains oneEmptyChain, .ofChains oneEmptyChain []⟩⟩

/-- The same server without chains. -/
def unmigrated : Server := ⟨⟨"", 0, some 100, none⟩, doublingRoutes, .ofLayers []⟩

end Server

end Gatehouse
