import Mathlib.Data.List.Nodup
import Gatehouse.Proofs.Chain.Comparison
import Gatehouse.Proofs.Chain.Flattening
import Gatehouse.Proofs.Server.Identity

/-!
# Logging in a chain

A stage that logs may stand anywhere in a chain whose other stages only add to the log.  It changes
nothing of a run but the events, and these by its own ones: one where it is started, and the others
where it gives its answer (`Stage.journal_transparent`).  `Journals` says this of the halts of both
runs, and each stage in front of it carries that over to its own answers (`Journals.bind`).  So no
client can tell whether requests are logged (`Exchange.serve_journaled`).
-/

namespace Gatehouse

/-- The record of a completed request. -/
def Summary.record (x : Summary) : LogRecord :=
  ⟨if x.status.isServerError then .warn else .info,
    if x.status.isServerError then "request failed" else "request completed",
    [("request_id", .text x.requestId.toText), ("chain", .text (x.chain.getD "-")),
      ("http.method", .text x.method.text), ("http.path", .text x.path),
      ("http.status_code", .number x.status.code)]⟩

/-- A record warns if the server is at fault. -/
lemma Summary.warns_iff (x : Summary) :
    x.record.level = .warn ↔ 500 ≤ x.status.code ∧ x.status.code ≤ 599 := by
  have server : x.status.isServerError = true ↔ 500 ≤ x.status.code ∧ x.status.code ≤ 599 := by
    rw [Status.isServerError, Bool.and_eq_true, decide_eq_true_iff, decide_eq_true_iff]
    omega
  rw [← server, record]
  cases x.status.isServerError with
  | true => exact iff_of_true rfl rfl
  | false => exact iff_of_false (fun h => nomatch h) Bool.false_ne_true

namespace Stage

/-- The event of a request that comes in. -/
def opening (r : Request) (w : World) : Event :=
  .log ⟨.debug, "request started",
    [("request_id", .text w.requestId.toText), ("chain", .text w.chainText),
      ("http.method", .text r.method.text),
      ("http.path", .text r.uri.path)]⟩

/--
The events of a completed request: a record, and after it what the observer makes of the summary.
-/
def told (observer : Option (Summary → Event)) (x : Summary) : List Event :=
  .log x.record :: (observer.map fun f => f x).toList

/-- What is told of a request that is answered in a state. -/
def summary (r : Request) (b : Response) (w : World) : Summary :=
  ⟨w.requestId, w.chain, r.method, r.uri.path, b.status⟩

/-- The stage that logs adds an event on the way in and its other ones on the way out. -/
lemma halt_journal_eq (observer : Option (Summary → Event)) (r : Request) (p : Plan) (w : World) :
    ∃ after, ((journal observer).enter r).halt p w =
      .finished (.forward r after) p (w.emit (opening r w)) ∧
      ∀ b p v, (after b).halt p v =
        .finished b p { v with trace := v.trace ++ told observer (summary r b v) } :=
  ⟨_, rfl, fun b p v =>
    congrArg (Halt.finished b p) (BuiltIn.closing_journal observer r.method r.uri.path b.status v)⟩

end Stage

namespace Halt

variable {α β : Type}

/-- A run that is dropped or waits for ever. -/
def Unfinished (x : Halt α) : Prop := ∀ a p w, x ≠ .finished a p w

/-- A run that is dropped has no end. -/
lemma unfinished_dropped (w : World) : (dropped w : Halt α).Unfinished := nofun

/-- A run that waits for ever has no end. -/
lemma unfinished_stuck (w : World) : (stuck w : Halt α).Unfinished := nofun

/-- Nothing goes on after a run without end. -/
lemma Unfinished.bind {x : Halt α} (h : x.Unfinished) (f : α → Plan → World → Halt β) :
    (x.bind f).Unfinished := by
  cases x with
  | finished a p w => exact absurd rfl (h a p w)
  | dropped w => exact unfinished_dropped w
  | stuck w => exact unfinished_stuck w

/-- A run without end has no value. -/
lemma Unfinished.outcome {x : Halt α} (h : x.Unfinished) (a : α) : x.outcome.1 ≠ .finished a := by
  cases x with
  | finished a p w => exact absurd rfl (h a p w)
  | dropped w => exact nofun
  | stuck w => exact nofun

end Halt

open Stage

/--
How the halts of a chain without and with a stage that logs differ, with the log of the second run.
-/
inductive Journals (observer : Option (Summary → Event)) (h : Handler) (bs : List Stage) (pos : Nat)
    (log : List Moment) (x x' : Halt Response) : Prop where
  | unreached : (∀ r u, .enter pos r u ∉ log) → x' = x → Journals observer h bs pos log x x'
  /-- What is behind the stage never gives an answer. -/
  | left (r : Request) (u : World) (z : Halt Response) :
    .enter pos r u ∈ log → (∀ b v, .leave pos b v ∉ log) →
    z.Unfinished → x = z.after u.trace → x' = z.after (u.trace ++ [opening r u]) →
    Journals observer h bs pos log x x'
  | completed (r : Request) (u : World) (z : Halt Response) (p : Plan) (b : Response) (p₁ : Plan)
    (v : World)
    (inside : List Event) : .enter pos r u ∈ log →
    (runStages bs (finish h) r).halt p (u.emit (opening r u)) = .finished b p₁ v →
    v.trace = u.trace ++ opening r u :: inside →
    .leave pos b { v with trace := v.trace ++ told observer (summary r b v) } ∈ log →
    x = z.after (u.trace ++ inside) → x' = z.after (v.trace ++ told observer (summary r b v)) →
    Journals observer h bs pos log x x'

namespace Journals

variable {observer : Option (Summary → Event)} {h : Handler} {bs : List Stage} {pos : Nat}
  {log log' : List Moment}
  {x x' : Halt Response}

/-- Both runs have the same end but for their events. -/
lemma exists_after (j : Journals observer h bs pos log x x') :
    ∃ (z : Halt Response) (es es' : List Event), x = z.after es ∧ x' = z.after es' := by
  cases j with
  | unreached _ e => exact ⟨x, [], [], x.after_nil.symm, e.trans x.after_nil.symm⟩
  | left r u z _ _ _ e e' => exact ⟨z, _, _, e, e'⟩
  | completed r u z p b p₁ v inside _ _ _ _ e e' => exact ⟨z, _, _, e, e'⟩

/-- A place gives the same answer in both runs. -/
lemma alike_closing (j : Journals observer h bs pos log x x') {place : Nat} (lt : place < pos) :
    AlikeWithout pos (closing place x) (closing place x') := by
  obtain ⟨z, es, es', rfl, rfl⟩ := j.exists_after
  cases z with
  | finished b p w => exact .single lt (.leave place b _ _)
  | dropped w => exact .nil
  | stuck w => exact .nil

/-- A stage on the outside does the same with both answers. -/
lemma bind (j : Journals observer h bs pos log x x') (k : x.Appends fun _ => True)
    {after : Response → Run Response} (ha : ∀ b, (after b).Appends fun _ => True)
    (sub : ∀ m ∈ log, m ∈ log') (there : ∀ m ∈ log', m.place = pos → m ∈ log) :
    Journals observer h bs pos log' (x.bind fun b p w => (after b).halt p w)
      (x'.bind fun b p w => (after b).halt p w) := by
  cases j with
  | unreached none e =>
    refine .unreached (fun r u hm => none r u (there _ hm rfl)) ?_
    rw [e]
  | left r u z entered silent unfinished e e' =>
    subst e e'
    have k := k.of_after
    exact .left r u (z.bind fun b p w => (after b).halt p w) (sub _ entered)
      (fun b v hm => silent b v (there _ hm rfl)) (unfinished.bind _)
      (k.bind_after (fun b _ => ha b) _)
      (k.bind_after (fun b _ => ha b) _)
  | completed r u z p b p₁ v inside entered inner trace answered e e' =>
    subst e e'
    have k := k.of_after
    exact .completed r u (z.bind fun b p w => (after b).halt p w) p b p₁ v inside (sub _ entered)
      inner trace
      (sub _ answered) (k.bind_after (fun b _ => ha b) _) (k.bind_after (fun b _ => ha b) _)

end Journals

section

variable (observer : Option (Summary → Event)) {h : Handler} {as bs : List Stage}

/-- At its own place the stage that logs comes between what was before and what lies behind. -/
lemma journals_here (hs : ∀ s ∈ bs, s.enter.Appends) (hh : Inside.Appends h) {p : Plan}
    (hp : p.Appends) (place : Nat) (r : Request) (w : World) :
    Journals observer h bs place (trail h place (journal observer :: bs) r p w).log
      (trail h place bs r p w).halt
        (trail h place (journal observer :: bs) r p w).halt ∧
      AlikeWithout place (trail h place bs r p w).log
        (trail h place (journal observer :: bs) r p w).log := by
  cases hw : w.fired with
  | true =>
    rw [trail_of_fired hw, trail_of_fired hw]
    refine ⟨.unreached (fun r u hm => nomatch List.mem_singleton.mp hm) rfl, ?_⟩
    have stays : Moment.closeUp place place = place := if_pos (Nat.le_refl place)
    rw [AlikeWithout, List.filterMap_cons, Moment.without, stays]
    exact .cons (.refl _) .nil
  | false =>
    obtain ⟨after, entered, leaves⟩ := halt_journal_eq observer r p w
    obtain ⟨t, behind, plain, inner⟩ := exists_moved hs hh hp place r w (opening r w)
    have halted := halt_trail_of_forward h place bs hw entered
    have log := log_trail_around h place bs hw entered
    have ran := halt_trail h (place + 1) bs r p (w.emit (opening r w))
    rw [inner] at halted log ran
    have unanswered (b : Response) (v : World) :
        .leave place b v ∉
          .enter place r w :: ((t.moved 1 (w.trace ++ [opening r w])).log ++ []) := by
      rw [List.append_nil]
      intro hm
      rcases List.mem_cons.mp hm with e | hm
      · cases e
      · exact leave_not_mem_moved behind _ b v hm
    refine ⟨?_, ?_⟩
    · rw [plain]
      have started : .enter place r w ∈ (trail h place (journal observer :: bs) r p w).log := by
        rw [log]
        exact List.mem_cons_self
      obtain ⟨log₀, halt₀⟩ := t
      cases halt₀ with
      | finished b p₁ v₀ =>
        have halted := halted.trans (leaves b p₁ (v₀.after (w.trace ++ [opening r w])))
        have bared (es : List Event) : Halt.finished b p₁ { v₀ with trace := es } =
            (Halt.finished b p₁ { v₀ with trace := [] }).after es :=
          congrArg (fun es => Halt.finished b p₁ { v₀ with trace := es }) (List.append_nil es).symm
        refine .completed r w (.finished b p₁ { v₀ with trace := [] }) p b p₁
          (v₀.after (w.trace ++ [opening r w])) v₀.trace started ran.symm (List.append_assoc _ _ _)
            ?_ (bared _) (halted.trans (bared _))
        rw [log, halted]
        exact List.mem_cons_of_mem _ (List.mem_append_right _ (List.mem_singleton_self _))
      | dropped v₀ =>
        refine .left r w (.dropped v₀) started (fun b v hm => ?_) (Halt.unfinished_dropped v₀) rfl
          halted
        rw [log, halted] at hm
        exact unanswered b v hm
      | stuck v₀ =>
        refine .left r w (.stuck v₀) started (fun b v hm => ?_) (Halt.unfinished_stuck v₀) rfl
          halted
        rw [log, halted] at hm
        exact unanswered b v hm
    · rw [log, plain]
      exact (AlikeWithout.moved behind _ _).around r w _

/-- The runs of a chain without and with a stage that logs behind some of its stages. -/
lemma journals_trail (hs : ∀ s ∈ as ++ bs, s.enter.Appends) (hh : Inside.Appends h) {p : Plan}
    (hp : p.Appends) (place : Nat) (r : Request) (w : World) :
    Journals observer h bs (place + as.length)
      (trail h place (as ++ journal observer :: bs) r p w).log
      (trail h place (as ++ bs) r p w).halt
      (trail h place (as ++ journal observer :: bs) r p w).halt ∧
      AlikeWithout (place + as.length) (trail h place (as ++ bs) r p w).log
        (trail h place (as ++ journal observer :: bs) r p w).log := by
  -- a stage in front is the same for both runs, until it has an answer from inside
  induction as generalizing place r p w with
  | nil => exact journals_here observer hs hh hp place r w
  | cons s as ih =>
    obtain ⟨first, rest⟩ := List.forall_mem_cons.mp hs
    have lt : place < place + (s :: as).length := by
      rw [List.length_cons]
      omega
    rw [List.cons_append, List.cons_append]
    by_cases e : ∃ r₁ after p₁ w₁, w.fired = false ∧
      (s.enter r).halt p w = .finished (.forward r₁ after) p₁ w₁
    · obtain ⟨r₁, after, p₁, w₁, hw, e⟩ := e
      obtain ⟨hv, hp₁⟩ := (first r).of_finished hp e
      obtain ⟨j, alike⟩ := ih rest hp₁ (place + 1) r₁ w₁
      have length : place + 1 + as.length = place + (s :: as).length := by
        rw [List.length_cons]
        omega
      rw [length] at j alike
      have k := (hh.finish.runStages rest r₁).halt hp₁ w₁
      rw [← halt_trail h (place + 1)] at k
      have log := log_trail_around h place (as ++ journal observer :: bs) hw e
      have outer : Journals observer h bs (place + (s :: as).length)
          (trail h place (s :: (as ++ journal observer :: bs)) r p w).log
          (trail h place (s :: (as ++ bs)) r p w).halt
          (trail h place (s :: (as ++ journal observer :: bs)) r p w).halt := by
        rw [halt_trail_of_forward h place _ hw e, halt_trail_of_forward h place _ hw e]
        refine j.bind k hv (fun m hm => ?_) fun m hm at_ => ?_
        · rw [log]
          exact List.mem_cons_of_mem _ (List.mem_append_left _ hm)
        · rw [log] at hm
          rcases List.mem_cons.mp hm with rfl | hm
          · exact absurd at_ (Nat.ne_of_lt lt)
          · rcases List.mem_append.mp hm with hm | hm
            · exact hm
            · obtain ⟨b, p', w', -, rfl⟩ := mem_closing.mp hm
              exact absurd at_ (Nat.ne_of_lt lt)
      refine ⟨outer, ?_⟩
      rw [log, log_trail_around h place (as ++ bs) hw e]
      exact (AlikeWithout.single lt (.refl _)).append (alike.append (outer.alike_closing lt))
    · obtain ⟨same, here⟩ :=
        trail_of_unforwarded h e place (as ++ bs) (as ++ journal observer :: bs)
      rw [same]
      refine ⟨.unreached (fun r' u hm => ?_) rfl, .refl fun m hm => ?_⟩
      · exact absurd (here _ hm) (Nat.ne_of_gt lt)
      · rw [here m hm]
        exact lt

end

/--
What a stage that logs adds to the run of a chain at its place, in front of some stages, and what it
leaves.
-/
structure Journaled (observer : Option (Summary → Event)) (h : Handler) (bs : List Stage)
    (pos : Nat) (x x' : Traced Response) : Prop where
  outcome : x'.halt.outcome.1 = x.halt.outcome.1
  state : ∃ es, x'.halt.outcome.2 = { x.halt.outcome.2 with trace := es }
  /--
  All other stages and the handler see the same, give the same answers and are left out alike, in
  the same order.
  -/
  others : AlikeWithout pos x.log x'.log
  once : (startsOf x'.log).Nodup ∧ (answersOf x'.log).Nodup
  unstarted : (∀ r u, .enter pos r u ∉ x'.log) → x'.halt.outcome.2 = x.halt.outcome.2
  /--
  Once it is started it adds one event, and gives its answer unless the run is dropped or waits for
  ever.
  -/
  started : ∀ r u, .enter pos r u ∈ x'.log → (∀ b v, .leave pos b v ∉ x'.log) →
    (∀ b, x'.halt.outcome.1 ≠ .finished b) ∧ ∃ inside, x.halt.outcome.2.trace = u.trace ++ inside ∧
      x'.halt.outcome.2.trace = u.trace ++ opening r u :: inside
  /--
  With its answer, which is the one from inside, it tells once of the request as things stand then.
  -/
  answered : ∀ r u b v', .enter pos r u ∈ x'.log → .leave pos b v' ∈ x'.log →
    ∃ inside outside p p₁ v,
    (runStages bs (finish h) r).halt p (u.emit (opening r u)) = .finished b p₁ v ∧
    v.trace = u.trace ++ opening r u :: inside ∧
    v' = { v with trace := v.trace ++ told observer (summary r b v) } ∧
    x.halt.outcome.2.trace = u.trace ++ inside ++ outside ∧
    x'.halt.outcome.2.trace = u.trace ++ opening r u :: inside ++ told observer (summary r b v) ++
    outside

/-- What is said of both halts and both logs makes the stage one that logs at its place. -/
lemma Journals.journaled {observer : Option (Summary → Event)} {h : Handler} {as bs : List Stage}
    {r : Request} {p : Plan} {w : World} {pos : Nat} {x : Traced Response}
    (j : Journals observer h bs pos (trail h 0 (as ++ journal observer :: bs) r p w).log x.halt
      (trail h 0 (as ++ journal observer :: bs) r p w).halt)
    (alike : AlikeWithout pos x.log (trail h 0 (as ++ journal observer :: bs) r p w).log) :
    Journaled observer h bs pos x (trail h 0 (as ++ journal observer :: bs) r p w) := by
  obtain ⟨z, es, es', e, e'⟩ := j.exists_after
  constructor
  case outcome => rw [e, e', Halt.outcome_after, Halt.outcome_after]
  case state =>
    rw [e, e', Halt.outcome_after, Halt.outcome_after]
    exact ⟨_, rfl⟩
  case others => exact alike
  case once =>
    have order : InOrder 0 (trail h 0 (as ++ journal observer :: bs) r p w).log _ := inOrder_trail
    have starts : (startsOf (trail h 0 (as ++ journal observer :: bs) r p w).log).Nodup := by
      rw [order.starts]
      exact List.nodup_range'
    exact ⟨starts, (List.nodup_reverse.mpr starts).sublist order.answers.sublist⟩
  case unstarted =>
    intro none
    cases j with
    | unreached _ same => rw [same]
    | left r u _ entered => exact absurd entered (none r u)
    | completed r u _ _ _ _ _ _ entered => exact absurd entered (none r u)
  case started =>
    intro r' u entered unanswered
    cases j with
    | unreached none _ => exact absurd entered (none r' u)
    | left r₁ u₁ z entered₁ _ unfinished e e' =>
      obtain ⟨rfl, rfl⟩ := enter_unique entered entered₁
      rw [e, e', Halt.outcome_after, Halt.outcome_after]
      exact ⟨unfinished.outcome, z.outcome.2.trace, rfl, List.append_assoc _ _ _⟩
    | completed r₁ u₁ z p b p₁ v inside entered₁ _ _ leaves => exact absurd leaves (unanswered b _)
  case answered =>
    intro r' u b v' entered leaves
    cases j with
    | unreached none _ => exact absurd entered (none r' u)
    | left _ _ _ _ unanswered _ _ _ => exact absurd leaves (unanswered b v')
    | completed r₁ u₁ z p₀ b₁ p₁ v inside entered₁ inner trace leaves₁ e e' =>
      obtain ⟨rfl, rfl⟩ := enter_unique entered entered₁
      obtain ⟨rfl, rfl⟩ := leave_unique leaves leaves₁
      rw [e, e', Halt.outcome_after, Halt.outcome_after]
      refine ⟨inside, z.outcome.2.trace, p₀, p₁, v, inner, trace, rfl, rfl, ?_⟩
      rw [← trace]
      rfl

namespace Exchange

/-- What is concluded of a run does not depend on the events before it. -/
lemma conclude_after (chain : String) (x : Halt Response) (es : List Event) :
    conclude chain (x.after es) = ((conclude chain x).1, (conclude chain x).2.after es) := by
  cases x with
  | finished b p w =>
    simp only [Halt.after, conclude, finishWith]
    cases b.write with
    | ok n => rfl
    | error e =>
      cases e with
      | unwritable detail => exact congrArg (Prod.mk _) (w.after_emit _ es)
      | raised f => rfl
  | dropped w => exact congrArg (Prod.mk _) (w.after_emit _ es)
  | stuck w => rfl

/--
Through a chain with a stage that logs a request of the server gets what it gets without that stage.
-/
theorem serve_journaled (observer : Option (Summary → Event)) {as bs : List Stage}
    (stages : ∀ s ∈ as ++ bs, s.enter.Appends) {h : NativeHandler} (handler : Inside.Appends h)
    {c c' : Chain} (plain : Unfolds c.stages (as ++ bs))
    (logged : Unfolds c'.stages (as ++ journal observer :: bs)) (d : Deadline) (n : NativeRequest)
    (addr : Option SocketAddr) (w : World) :
    (serve d c'.asStage n addr h w).1 = (serve d c.asStage n addr h w).1 ∧
      ∃ es, (serve d c'.asStage n addr h w).2 =
        { (serve d c.asStage n addr h w).2 with trace := es } := by
  have last := looksFirst_finish (terminal h)
  rw [serve_eq, serve_eq, task, task, asStage_around, asStage_around, plain.alike last,
    logged.alike last, ← halt_trail _ 0, ← halt_trail _ 0]
  obtain ⟨j, -⟩ := journals_trail observer stages handler.terminal
    (appends_plan d w.chainText (Request.ofNative n addr w).2.clock) 0 (Request.ofNative n addr w).1
    (Request.ofNative n addr w).2
  obtain ⟨z, es, es', e, e'⟩ := j.exists_after
  rw [e, e', conclude_after, conclude_after]
  exact ⟨rfl, _, rfl⟩

end Exchange

/--
A stage that logs can be put anywhere into a chain, however deep its chains are nested: nothing
changes but that its own events are added to the others.
-/
theorem Stage.journal_transparent (observer : Option (Summary → Event)) {as bs : List Stage}
    (stages : ∀ s ∈ as ++ bs, s.enter.Appends) {h : Handler} (handler : Inside.Appends h) {p : Plan}
    (plan : p.Appends) {c c' : Chain} (plain : Unfolds c.stages (as ++ bs))
    (logged : Unfolds c'.stages (as ++ journal observer :: bs)) (r : Request) (w : World) :
    ((⟨c.stages, h⟩ : Chain).process r).run p w = (trail h 0 (as ++ bs) r p w).halt.outcome ∧
    ((⟨c'.stages, h⟩ : Chain).process r).run p w =
      (trail h 0 (as ++ journal observer :: bs) r p w).halt.outcome ∧
    (c.asStage.enter.around (finish h) r).run p w = (trail h 0 (as ++ bs) r p w).halt.outcome ∧
    (c'.asStage.enter.around (finish h) r).run p w =
      (trail h 0 (as ++ journal observer :: bs) r p w).halt.outcome ∧
    Journaled observer h bs as.length (trail h 0 (as ++ bs) r p w)
      (trail h 0 (as ++ journal observer :: bs) r p w) ∧
    ∀ s : Summary, s.record.level = .warn ↔ 500 ≤ s.status.code ∧ s.status.code ≤ 599 := by
  obtain ⟨j, alike⟩ := journals_trail observer stages handler plan 0 r w
  rw [Nat.zero_add] at j alike
  obtain ⟨run, runStage⟩ := plain.run_eq h r p w
  obtain ⟨run', runStage'⟩ := logged.run_eq h r p w
  exact ⟨run, run', runStage, runStage', j.journaled alike, Summary.warns_iff⟩

namespace Stage

/-- What is given ids and then waits in a chain of its own. -/
def silent : Chain := ⟨[identify false, single.asStage], .notFound⟩

/-- The same with a stage that logs in the chain inside. -/
def talking : Chain :=
  ⟨[identify false, Chain.asStage ⟨[journal (some .summary), waiting.toStage], .notFound⟩],
    .notFound⟩

/--
The slow handler is given up at the deadline, and the stage that logs tells of the cancelled
request.
-/
theorem journal_transparent_slow :
    (∀ s ∈ [identify false] ++ [waiting.toStage], s.enter.Appends) ∧ Inside.Appends slow ∧
    (Exchange.plan ⟨some 50, 20⟩ "api" 0).Appends ∧
    Unfolds silent.stages ([identify false] ++ [waiting.toStage]) ∧
    Unfolds talking.stages ([identify false] ++ journal (some .summary) :: [waiting.toStage]) ∧
    Journaled (some .summary) slow [waiting.toStage] 1
      (trail slow 0 ([identify false] ++ [waiting.toStage]) visitor.1
      (Exchange.plan ⟨some 50, 20⟩ "api" 0) visitor.2)
      (trail slow 0 ([identify false] ++ journal (some .summary) :: [waiting.toStage]) visitor.1
        (Exchange.plan ⟨some 50, 20⟩ "api" 0) visitor.2) ∧
    (logsOf (((⟨talking.stages, slow⟩ : Chain).process visitor.1).run
      (Exchange.plan ⟨some 50, 20⟩ "api" 0) visitor.2).2.trace).map LogRecord.message =
        ["request started", "Request deadline elapsed, cancelling", "request completed"] := by
  have stages : ∀ s ∈ [identify false] ++ [waiting.toStage], s.enter.Appends := by
    intro s hs
    rcases List.mem_cons.mp hs with rfl | hs
    · exact (BuiltIn.identify false).appends_toStage
    · cases List.mem_singleton.mp hs
      exact waiting.appends_toStage
  have handler : Inside.Appends slow := HandlerScript.appends_toHandler _
  have plan := Exchange.appends_plan ⟨some 50, 20⟩ "api" 0
  have plain : Unfolds silent.stages ([identify false] ++ [waiting.toStage]) :=
    unfolds_between [identify false] single.stages [] .notFound
  have logged : Unfolds talking.stages ([identify false] ++
      journal (some .summary) :: [waiting.toStage]) :=
    unfolds_between [identify false] [journal (some .summary), waiting.toStage] [] .notFound
  obtain ⟨-, -, -, -, journaled, -⟩ :=
    journal_transparent (some .summary) stages handler plan plain logged visitor.1 visitor.2
  exact ⟨stages, handler, plan, plain, logged, journaled, rfl⟩

end Stage

end Gatehouse
