import Gatehouse.Proofs.Server.Serving
import Gatehouse.Proofs.Stage.Proper

/-!
# Deadlines

What a request gets that is served under a deadline depends on when its run would finish: before the
timeout it is not disturbed, after that the signal is fired and it has the grace period to finish,
and at the end of that it is left where it waits (`Punctual`).  Plain layers have no grace period
and no signal (`PunctualLayers`).
-/

namespace Gatehouse

namespace Exchange

/-- The plan of a request that has all the time it needs once its signal is fired. -/
def unhurried (timeout : Nat) (chain : String) (start : Nat) : Plan :=
  { plan ⟨some timeout, 0⟩ chain start with limit := none }

/-- What a request gets that is served from a state on. -/
structure Punctual (timeout grace : Nat) (chain : String) (s : Stage) (h : NativeHandler)
    (r : Request) (w : World)
    (result : Option (Except WriteError NativeResponse)) (v : World) : Prop where
  bounded : result.isSome = true ∧ v.clock ≤ w.clock + timeout + grace
  /--
  A run that finishes before the timeout is the run without a deadline, whose signal nobody fires
  from outside.
  -/
  inTime : ∀ b p' u, (task s h r).halt .free w = .finished b p' u → u.clock ≤ w.clock + timeout →
    result = some (finishWith chain b u).1 ∧ v = (finishWith chain b u).2 ∧ v.fired = u.fired
  fired : (task s h r).Outlasts .free w (w.clock + timeout) → v.fired = true
  inGrace : (task s h r).Outlasts .free w (w.clock + timeout) → ∀ b p' u,
    (task s h r).halt (unhurried timeout chain w.clock) w = .finished b p' u →
    u.clock ≤ w.clock + timeout + grace →
    result = some (finishWith chain b u).1 ∧ v = (finishWith chain b u).2
  /--
  A run that takes longer is left where it waits, and nothing but records is added to its state.
  -/
  givenUp : (task s h r).Outlasts .free w (w.clock + timeout) →
    (task s h r).Outlasts (unhurried timeout chain w.clock) w (w.clock + timeout + grace) →
    result = some Response.cancelled.write ∧ ∃ t ms p' u, ∃ records : List LogRecord,
      Task.Leads (task s h r) (plan ⟨some timeout, grace⟩ chain w.clock) w t p' u ∧ t.Waits ms ∧
      v = { u with
        clock := w.clock + timeout + grace
        fired := true
        trace := u.trace ++ records.map Event.log }
  /-- A handler that waits when the timeout is over is given up at that time. -/
  handler : ∀ r' after p₁ w₁ t ms u,
    (s.enter r).halt (plan ⟨some timeout, grace⟩ chain w.clock) w =
      .finished (.forward r' after) p₁ w₁ →
    w₁.fired = false → Task.Reaches p₁ (terminal h r') w₁ t u → t.Waits ms → u.fired = false →
    u.clock ≤ w.clock + timeout → isBefore (w.clock + timeout) (ms.map (u.clock + ·)) = true →
    ∃ p₂ w₂, (finish (terminal h) r').halt p₁ w₁ = .finished .cancelled p₂ w₂ ∧
    w₂.clock = w.clock + timeout ∧
      w₂.fired = true

section

variable {timeout grace : Nat} {chain : String} {s : Stage} {h : NativeHandler} {r : Request}
  {w : World}

/-- A proper handler of the server is proper at the end of a chain. -/
lemma proper_terminal (hh : Inside.Proper h) : Inside.Proper (terminal h) := by
  intro r
  apply (hh r.toNative).bind
  intro result _
  cases result with
  | ok n => exact trivial
  | error e => exact trivial

/-- The task of a request is proper if its stages and its handler are. -/
lemma proper_task (hs : s.enter.Proper) (hh : Inside.Proper h) (r : Request) :
    (task s h r).Proper fun _ => True := hs.around (proper_terminal hh).finish r

/-- A request that has all the time it needs is under no limit. -/
lemma endless_unhurried (timeout grace : Nat) (chain : String) (start : Nat) :
    (unhurried timeout chain start).Endless (start + timeout + grace) := by
  refine ⟨rfl, fun a e => ?_, fun w => rfl⟩
  cases e
  exact Nat.le_add_right _ _

/-- How the task of a request ends under its timeout and the grace after that. -/
lemma timed_task (hs : s.enter.Proper) (hh : Inside.Proper h) (timeout grace : Nat) (chain : String)
    (r : Request) (w : World) :
    Task.Timed (task s h r) (unhurried timeout chain w.clock) w (w.clock + timeout)
      (w.clock + timeout + grace)
      ((task s h r).halt (plan ⟨some timeout, grace⟩ chain w.clock) w) :=
  (proper_task hs hh r).timed (endless_unhurried timeout grace chain w.clock) rfl
    (Nat.le_add_right _ _)

/-- The end of a chain takes no time and fires no signal. -/
lemma finishWith_state (chain : String) (b : Response) (w : World) :
    (finishWith chain b w).2.clock = w.clock ∧ (finishWith chain b w).2.fired = w.fired := by
  unfold finishWith
  cases b.write with
  | ok n => exact ⟨rfl, rfl⟩
  | error e =>
    cases e with
    | unwritable detail => exact ⟨rfl, rfl⟩
    | raised f => exact ⟨rfl, rfl⟩

/-- A task that is dropped was waiting when the grace was over. -/
lemma exists_of_dropped (hs : s.enter.Proper) (hh : Inside.Proper h) {v : World}
    (e : (task s h r).halt (plan ⟨some timeout, grace⟩ chain w.clock) w = .dropped v) :
    ∃ t ms p' u, ∃ records : List LogRecord,
      Task.Leads (task s h r) (plan ⟨some timeout, grace⟩ chain w.clock) w t p' u ∧ t.Waits ms ∧
      v = { u with
        clock := v.clock
        fired := v.fired
        trace := u.trace ++ records.map Event.log } := by
  obtain ⟨t, p', u, l, d⟩ := Task.leads_of_dropped e
  obtain ⟨⟨ms, waits⟩, left⟩ := d.waits
  rcases left with ⟨c, rfl⟩ | ⟨a, c, rfl⟩
  · exact ⟨t, ms, p', u, [], l, waits, by rw [List.map_nil, List.append_nil]⟩
  · -- the alarm has rung during the last wait, and has left its record
    have calm : (plan ⟨some timeout, grace⟩ chain w.clock).Calm := fun _ => rfl
    obtain ⟨-, -, rfl | ⟨rfl, -⟩⟩ := (proper_task hs hh r).leads l calm
    · exact ⟨t, ms, _, u, [_], l, waits, rfl⟩
    · exact ⟨t, ms, _, u, [_], l, waits, rfl⟩

/-- A handler that waits when the timeout is over is given up at that time. -/
lemma halt_finish_at_timeout (hs : s.enter.Proper) {r' : Request} {after : Response → Run Response}
    {p₁ : Plan}
    {w₁ u : World} {t : Run Response} {ms : Option Nat}
    (e : (s.enter r).halt (plan ⟨some timeout, grace⟩ chain w.clock) w =
    .finished (.forward r' after) p₁ w₁)
    (hw : w₁.fired = false) (l : Task.Reaches p₁ (terminal h r') w₁ t u) (waits : t.Waits ms)
    (hu : u.fired = false) (le : u.clock ≤ w.clock + timeout)
    (spans : isBefore (w.clock + timeout) (ms.map (u.clock + ·)) = true) :
    ∃ p₂ w₂, (finish (terminal h) r').halt p₁ w₁ = .finished .cancelled p₂ w₂ ∧
    w₂.clock = w.clock + timeout ∧
      w₂.fired = true := by
  have calm : (plan ⟨some timeout, grace⟩ chain w.clock).Calm := fun _ => rfl
  -- the alarm has not rung before the handler was started, for then the signal would be fired
  rcases ((hs r).of_finished calm e).2 with rfl | ⟨-, fired⟩
  · have hears := Plan.Hears.meanwhile (p := plan ⟨some timeout, grace⟩ chain w.clock) hu rfl spans
    have given := (l.halt_guard Response.cancelled).trans (waits.halt_guard hears .cancelled)
    rw [finish, halt_proceed, hw, if_neg Bool.false_ne_true]
    exact ⟨_, _, given, (calm.clock_ring u (w.clock + timeout)).trans (Nat.max_eq_right le), rfl⟩
  · rw [hw] at fired
    cases fired

/-- What is made of the end of a run. -/
def conclude (chain : String) : Halt Response → Option (Except WriteError NativeResponse) × World
  | .finished b _ w => (some (finishWith chain b w).1, (finishWith chain b w).2)
  | .dropped w => (some Response.cancelled.write, logAbandoned chain w)
  | .stuck w => (none, w)

/-- A request is served by running its task and concluding it. -/
lemma serve_eq (d : Deadline) (s : Stage) (n : NativeRequest) (addr : Option SocketAddr)
    (h : NativeHandler) (w : World) :
    serve d s n addr h w = conclude w.chainText ((task s h (Request.ofNative n addr w).1).halt
      (plan d w.chainText (Request.ofNative n addr w).2.clock) (Request.ofNative n addr w).2) := by
  simp only [serve, Task.run_eq]
  cases (task s h (Request.ofNative n addr w).1).halt
    (plan d w.chainText (Request.ofNative n addr w).2.clock) (Request.ofNative n addr w).2 with
  | finished b p' v => rfl
  | dropped v => rfl
  | stuck v => rfl

/-- What is concluded from a run under a timeout is punctual. -/
lemma punctual_conclude (hs : s.enter.Proper) (hh : Inside.Proper h) :
    Punctual timeout grace chain s h r w
      (conclude chain ((task s h r).halt (plan ⟨some timeout, grace⟩ chain w.clock) w)).1
      (conclude chain ((task s h r).halt (plan ⟨some timeout, grace⟩ chain w.clock) w)).2 := by
  have timed := timed_task hs hh timeout grace chain r w
  generalize e : (task s h r).halt (plan ⟨some timeout, grace⟩ chain w.clock) w = x at timed ⊢
  cases timed with
  | @inTime b v free le =>
    have early (out : (task s h r).Outlasts .free w (w.clock + timeout)) : False :=
      Nat.not_lt.mpr le (out _ _ _ free)
    refine ⟨⟨rfl, ?_⟩, fun b' p' u e' => ?_, fun out => (early out).elim,
      fun out => (early out).elim,
      fun out => (early out).elim, fun _ _ _ _ _ _ _ => halt_finish_at_timeout hs⟩
    · rw [conclude, (finishWith_state chain b v).1]
      exact Nat.le_trans le (Nat.le_add_right _ _)
    · rw [free] at e'
      cases e'
      exact fun _ => ⟨rfl, rfl, (finishWith_state chain b v).2⟩
  | @inGrace b p' v late alone fired le =>
    refine ⟨⟨rfl, ?_⟩, fun b' p' u e' le' => ?_, fun _ => ?_, fun _ b' p' u e' => ?_,
      fun _ out => ?_,
      fun _ _ _ _ _ _ _ => halt_finish_at_timeout hs⟩
    · rw [conclude, (finishWith_state chain b v).1]
      exact le
    · exact absurd (late b' p' u e') (Nat.not_lt.mpr le')
    · rw [conclude, (finishWith_state chain b v).2]
      exact fired
    · rw [alone] at e'
      cases e'
      exact fun _ => ⟨rfl, rfl⟩
    · exact absurd (out _ _ _ alone) (Nat.not_lt.mpr le)
  | @givenUp v late alone fired at_ =>
    refine ⟨⟨rfl, Nat.le_of_eq at_⟩, fun b' p' u e' le' => ?_, fun _ => fired,
      fun _ b' p' u e' le' => ?_,
      fun _ _ => ⟨rfl, ?_⟩, fun _ _ _ _ _ _ _ => halt_finish_at_timeout hs⟩
    · exact absurd (late b' p' u e') (Nat.not_lt.mpr le')
    · exact absurd (alone b' p' u e') (Nat.not_lt.mpr le')
    · obtain ⟨t, ms, p', u, records, l, waits, left⟩ := exists_of_dropped hs hh e
      obtain ⟨record, logged⟩ : ∃ record, ∀ w, logAbandoned chain w = w.emit (.log record) :=
        ⟨_, fun _ => rfl⟩
      rw [at_, fired] at left
      refine ⟨t, ms, p', u, records ++ [record], l, waits, ?_⟩
      rw [conclude, logged, left, List.map_append, ← List.append_assoc]
      rfl

end

end Exchange

namespace Server

/-- What a request gets that runs through plain layers from a state on. -/
structure PunctualLayers (timeout : Nat) (run : Inside NativeRequest NativeResult)
    (n : NativeRequest) (w : World) (answer : Option NativeResponse) (v : World) : Prop where
  bounded : answer.isSome = true ∧ v.clock ≤ w.clock + timeout
  inTime : ∀ result p' u, (run n).halt .free w = .finished result p' u →
    u.clock ≤ w.clock + timeout →
    answer = some (ofResult result)
  late : (run n).Outlasts .free w (w.clock + timeout) →
    answer = some Response.cancelled.writeOrRender

/-- Proper layers around a proper handler are proper. -/
lemma proper_layers {stack : LayerStack} (hs : ∀ l ∈ stack, l.enter.Proper) {h : NativeHandler}
    (hh : Inside.Proper h) : Inside.Proper (stack.run h) := by
  induction stack with
  | nil => exact hh
  | cons l rest ih =>
    exact (hs l List.mem_cons_self).around (ih fun l hm => hs l (List.mem_cons_of_mem _ hm))

/-- What a request gets of plain layers under a timeout is punctual. -/
lemma punctual_runLayers {sv : Server} {timeout : Nat}
    (limit : sv.limits.requestTimeout = some timeout) {stack : LayerStack} {h : NativeHandler}
    (proper : Inside.Proper (stack.run h)) (n : NativeRequest) (addr : Option SocketAddr)
    (w : World) :
    PunctualLayers timeout (stack.run h) { n with remoteAddr := addr.or n.remoteAddr } w
      (sv.runLayers stack n addr h w).1 (sv.runLayers stack n addr h w).2 := by
  have endless : Plan.free.Endless (w.clock + timeout) := ⟨rfl, nofun, Plan.calm_free⟩
  have c :=
    (proper { n with remoteAddr := addr.or n.remoteAddr }).curbed endless (Nat.le_add_right _ _)
  simp only [runLayers, Task.run_eq, layersPlan, limit]
  rw [show Plan.within (w.clock + timeout) = Plan.free.upTo (w.clock + timeout) from rfl]
  generalize e : (stack.run h { n with remoteAddr := addr.or n.remoteAddr }).halt .free w = x at c
  generalize (stack.run h { n with remoteAddr := addr.or n.remoteAddr }).halt
    (Plan.free.upTo (w.clock + timeout)) w = y at c
  cases c with
  | finished le =>
    refine ⟨⟨rfl, le⟩, fun result p' u e' _ => ?_, fun out => ?_⟩
    · rw [e] at e'
      cases e'
      rfl
    · exact absurd (out _ _ _ e) (Nat.not_lt.mpr le)
  | dropped at_ past =>
    refine ⟨⟨rfl, Nat.le_of_eq at_⟩, fun result p' u e' le => ?_, fun _ => rfl⟩
    exact absurd (past _ _ _ (e.symm.trans e')) (Nat.not_lt.mpr le)

open Exchange

/--
Every request is served by its deadline, through a chain with a grace period and through plain
layers without one.
-/
theorem punctual (timeout grace : Nat) (n : NativeRequest) (addr : Option SocketAddr)
    (h : NativeHandler) (w : World) (hh : Inside.Proper h) :
    ((Request.ofNative n addr w).2.clock = w.clock ∧
      ∀ s : Stage, s.enter.Proper →
        Punctual timeout grace w.chainText s h (Request.ofNative n addr w).1
          (Request.ofNative n addr w).2
          (serve ⟨some timeout, grace⟩ s n addr h w).1 (serve ⟨some timeout,
          grace⟩ s n addr h w).2) ∧
    ∀ (sv : Server) (stack : LayerStack) (route : Route) (params : PathParams),
      sv.installed.pipeline = .layers stack → (∀ l ∈ stack, l.enter.Proper) → route.handler = h →
      sv.limits.requestTimeout = some timeout → ¬ (n.method = .get ∧ n.uri.path = healthPath) →
      sv.routes.find? n.method n.uri.path = some (route, params) →
      PunctualLayers timeout (stack.run h)
        { n with params := some params, remoteAddr := addr.or n.remoteAddr }
        (w.count .entered) (sv.dispatch n addr w).1 (sv.dispatch n addr w).2 := by
  refine ⟨⟨?_, fun s hs => ?_⟩, fun sv stack route params layers hs hr limit other found => ?_⟩
  · rw [Request.ofNative]
    cases n.store <;> rfl
  · rw [serve_eq]
    exact punctual_conclude hs hh
  · have run := punctual_runLayers limit (proper_layers hs hh)
      { n with params := some params } addr (w.count .entered)
    rw [dispatch_of_find? other found, runInstalled, layers, hr]
    dsimp only
    generalize sv.runLayers stack { n with params := some params } addr h (w.count .entered) =
      out at run ⊢
    obtain ⟨_ | b, v⟩ := out
    · exact absurd run.bounded.1 Bool.false_ne_true
    · exact ⟨run.bounded, run.inTime, run.late⟩

/-- A stage that waits before it passes the request on, and longer on the way back. -/
def lingering : StageScript := ⟨"lingering", 0, some 10, none, [], [], none, some 20, false, []⟩

/-- A chain of this stage. -/
def lingerers : Chain := ⟨[lingering.toStage], .notFound⟩

/-- A handler that takes longer than it may. -/
def tardy : NativeScript := ⟨[], some 1000, false, .ok ⟨.ok, .empty, .empty⟩⟩

/-- A server that gives such a handler a tenth of a second. -/
def hurried : Server :=
  ⟨⟨"", 0, some 100, none⟩, [⟨.get, "/", "api", tardy.toHandler⟩], .ofLayers []⟩

/-- A request for the root. -/
def caller : NativeRequest := ⟨.get, ⟨none, [], ['/'], none⟩, .empty, .empty, none, none, none⟩

/--
The tardy handler is given up after a hundred milliseconds, and the stage in front of it still has
its say.
-/
theorem punctual_tardy :
    Punctual 100 50 "-" lingerers.asStage tardy.toHandler
      (Request.ofNative caller none Stage.visitor.2).1
      (Request.ofNative caller none Stage.visitor.2).2
      (serve ⟨some 100, 50⟩ lingerers.asStage caller none tardy.toHandler Stage.visitor.2).1
      (serve ⟨some 100, 50⟩ lingerers.asStage caller none tardy.toHandler Stage.visitor.2).2 ∧
    (serve ⟨some 100, 50⟩ lingerers.asStage caller none tardy.toHandler Stage.visitor.2).2.clock =
      120 ∧
    PunctualLayers 100 tardy.toHandler { caller with params := some .empty }
      (Stage.visitor.2.count .entered)
      (hurried.dispatch caller none Stage.visitor.2).1
      (hurried.dispatch caller none Stage.visitor.2).2 ∧
    (hurried.dispatch caller none Stage.visitor.2).1 = some Response.cancelled.writeOrRender := by
  have proper : lingerers.asStage.enter.Proper := by
    apply Chain.proper_asStage
    intro s hs
    cases List.mem_singleton.mp hs
    exact lingering.proper_toStage
  obtain ⟨⟨-, served⟩, dispatched⟩ :=
    punctual 100 50 caller none tardy.toHandler Stage.visitor.2 tardy.proper_toHandler
  have layers := dispatched hurried [] _ .empty rfl (fun l hl => absurd hl List.not_mem_nil) rfl rfl
    (by decide) rfl
  exact ⟨served _ proper, rfl, layers, rfl⟩

end Server

end Gatehouse
