import Gatehouse.Proofs.Server.Deadline
import Gatehouse.Proofs.Server.Layers
import Gatehouse.Proofs.Stage.Appending

/-!
# Logging between plain layers

The layer that logs may stand anywhere in a stack whose other layers only add to the events.  If
what lies behind its place is reached and gives a result, one record of that result is added; else
nothing is (`LayerStack.logs_run`). `Logs` says so of the halts of both runs and of what is told in
them, and each layer in front carries that outward (`LayerStack.Logs.outward`).
`LayerStack.run_layered` puts this together with the order of the layers.
-/

namespace Gatehouse

/-- The record of what came out of the layers inside. -/
def Layer.record (n : NativeRequest) : NativeResult → LogRecord
  | .ok b =>
    ⟨.info, "Request completed (legacy)",
      [("http.method", .text n.method.text), ("http.path", .text n.uri.path),
        ("http.status_code", .number b.status.code)]⟩
  | .error e =>
    ⟨.warn, "Request failed (legacy)",
      [("http.method", .text n.method.text), ("http.path", .text n.uri.path),
        ("error", .text e.display)]⟩

/-- A scripted layer reads no events. -/
lemma LayerScript.appends_toLayer (s : LayerScript) : s.toLayer.enter.Appends := by
  have leave (b : NativeResult) : (s.leave b).Appends fun _ => True := by
    cases b with
    | ok n => exact (Task.Appends.mark _).bind fun _ _ => trivial
    | error e =>
      apply (Task.Appends.mark _).bind
      intro _ _
      cases s.recover with
      | some n => exact trivial
      | none => exact trivial
  intro n
  apply (Task.Appends.mark _).bind
  intro _ _
  cases s.error with
  | some e => exact trivial
  | none => exact (Task.Appends.sleepIf s.sleep).bind fun _ _ => leave

namespace LayerStack

/-- What is told to layers and the handler: requests on the way in, and results on the way back. -/
def Turn.told : Turn → NativeRequest ⊕ NativeResult
  | start _ x => .inl x.request
  | back _ b _ _ => .inr b

/-- What layers and the handler are told in the run of an arrival. -/
def Arrival.told (h : NativeHandler) (x : Arrival) : List (NativeRequest ⊕ NativeResult) :=
  (x.turns h 0).map Turn.told

/-- What a layer is told by the result from the inside. -/
def toldBack (z : Halt NativeResult) : List (NativeRequest ⊕ NativeResult) :=
  (backs 0 z).map Turn.told

section Told

variable {h : NativeHandler} {x y : Arrival} {after : After}

/-- A result is told without its place. -/
lemma told_backs (place : Nat) (z : Halt NativeResult) :
    (backs place z).map Turn.told = toldBack z := by
  cases z with
  | finished b p w => rfl
  | dropped w => rfl
  | stuck w => rfl

/-- A result is told without its events. -/
lemma toldBack_after (z : Halt NativeResult) (es : List Event) :
    toldBack (z.after es) = toldBack z := by
  cases z with
  | finished b p w => rfl
  | dropped w => rfl
  | stuck w => rfl

/-- What is told does not depend on how places are counted. -/
lemma told_turns (h : NativeHandler) (place : Nat) (x : Arrival) :
    (x.turns h place).map Turn.told = x.told h := by
  rw [Arrival.told]
  induction x using inward generalizing place with
  | last x last =>
    rw [turns_of_not_forwards last, turns_of_not_forwards last]
    rfl
  | on x after y f ih =>
    rw [turns_of_forwards f, turns_of_forwards f, List.map_cons, List.map_cons, List.map_append,
      List.map_append, told_backs, told_backs, ih, ← ih (0 + 1)]
    rfl

/--
Behind a layer that passes the request on, the rest is told and then the layer gets its result.
-/
lemma told_of_forwards (f : Forwards x after y) :
    x.told h = .inl x.request :: (y.told h ++ toldBack (y.halt h)) := by
  rw [Arrival.told, turns_of_forwards f, List.map_cons, List.map_append, told_turns, told_backs]
  rfl

/-- A layer that passes nothing on is told the request alone. -/
lemma told_of_not_forwards (last : ∀ after y, ¬ Forwards x after y) :
    x.told h = [.inl x.request] := by
  rw [Arrival.told, turns_of_not_forwards last]
  rfl

end Told

/-- The access log passes every request on as it is, and adds a record to the result. -/
lemma forwards_accessLog (inner : LayerStack) (n : NativeRequest) (p : Plan) (w : World) :
    ∃ after, Forwards ⟨Layer.accessLog :: inner, n, p, w⟩ after ⟨inner, n, p, w⟩ ∧
      ∀ b p v, (after b).halt p v = .finished b p (v.emit (.log (Layer.record n b))) := by
  refine ⟨_, .mk rfl, fun b p v => ?_⟩
  cases b with
  | ok b => rfl
  | error e => rfl

/-- Layers that read no events around a handler that reads none read none. -/
lemma appends_run {s : LayerStack} (hs : ∀ l ∈ s, l.enter.Appends) {h : NativeHandler}
    (hh : Inside.Appends h) :
    Inside.Appends (s.run h) := by
  induction s with
  | nil => exact hh
  | cons l s ih =>
    obtain ⟨first, rest⟩ := List.forall_mem_cons.mp hs
    exact first.around (ih rest)

/-- A layer that calls nothing ends the run, whatever lies behind it. -/
lemma halt_of_not_forwards {l : Layer} {s s' : LayerStack} {n : NativeRequest} {p : Plan}
    {w : World} {h : NativeHandler}
    (last : ∀ n' after p' w', (l.enter n).halt p w ≠ .finished (.forward n' after) p' w') :
    Arrival.halt h ⟨l :: s', n, p, w⟩ = Arrival.halt h ⟨l :: s, n, p, w⟩ := by
  have around (s : LayerStack) : Arrival.halt h ⟨l :: s, n, p, w⟩ = _ :=
    halt_around l.enter (s.run h) n p w
  rw [around, around]
  cases e : (l.enter n).halt p w with
  | dropped w' => rfl
  | stuck w' => rfl
  | finished v p' w' =>
    cases v with
    | reply b => rfl
    | forward n' after => exact absurd e (last n' after p' w')

/-- How runs without and with a layer that logs differ. -/
inductive Logs (h : NativeHandler) (pos : Nat) (x x' : Arrival) : Prop
  | unreached (none : ∀ y, ¬ Reaches pos x y) (halts : x'.halt h = x.halt h)
    (told : x'.told h = x.told h) :
    Logs h pos x x'
  /-- What lies behind its place never gives a result. -/
  | hanging {y : Arrival} {front inside : List (NativeRequest ⊕ NativeResult)}
    (reached : Reaches pos x y)
    (hangs : ∀ b p v, y.halt h ≠ .finished b p v) (halts : x'.halt h = x.halt h)
    (length : front.length = pos)
    (told : x.told h = front ++ inside) (told' : x'.told h = front ++ .inl y.request :: inside) :
    Logs h pos x x'
  | line {y : Arrival} {b : NativeResult} {p : Plan} {v : World}
    {front inside behind : List (NativeRequest ⊕ NativeResult)}
    (u : Halt NativeResult) (reached : Reaches pos x y) (ends : y.halt h = .finished b p v)
    (halts : x.halt h = u.after v.trace)
    (halts' : x'.halt h = u.after (v.trace ++ [.log (Layer.record y.request b)]))
    (length : front.length = pos) (told : x.told h = front ++ (inside ++ behind))
    (told' : x'.told h = front ++ .inl y.request :: (inside ++ .inr b :: behind)) : Logs h pos x x'

section

variable {h : NativeHandler}

/-- Nothing goes on after a run without end. -/
lemma bind_of_unfinished {z : Halt NativeResult} (unfinished : ∀ b p v, z ≠ .finished b p v)
    (f : NativeResult → Plan → World → Halt NativeResult) : z.bind f = z := by
  cases z with
  | finished b p v => exact absurd rfl (unfinished b p v)
  | dropped v => rfl
  | stuck v => rfl

variable {x x' y y' : Arrival} {after : After} {pos : Nat}

/-- A layer in front that adds a record to the result logs at its place. -/
lemma logs_here (f : Forwards x' after x) (same : x'.request = x.request)
    (adds : ∀ b p v, (after b).halt p v =
    .finished b p (v.emit (.log (Layer.record x.request b)))) :
    Logs h 0 x x' := by
  have reached : Reaches 0 x x := reaches_zero_iff.mpr rfl
  have halts := halt_of_forwards (h := h) f
  have told := told_of_forwards (h := h) f
  rw [same] at told
  by_cases ends : ∃ b p v, x.halt h = .finished b p v
  · obtain ⟨b, p', v, ends⟩ := ends
    have bared (es : List Event) : Halt.finished b p' { v with trace := es } =
        (Halt.finished b p' { v with trace := [] }).after es :=
      congrArg (fun es => Halt.finished b p' { v with trace := es }) (List.append_nil es).symm
    have plain : x.halt h = (Halt.finished b p' { v with trace := [] }).after v.trace :=
      ends.trans (bared v.trace)
    have logged : x'.halt h = (Halt.finished b p' { v with trace := [] }).after
        (v.trace ++ [.log (Layer.record x.request b)]) := by
      rw [halts, ends, Halt.bind_finished, adds]
      exact bared _
    have saw : x.told h = [] ++ (x.told h ++ []) := by rw [List.append_nil, List.nil_append]
    have saw' : x'.told h = [] ++ .inl x.request :: (x.told h ++ .inr b :: []) := by
      rw [told, ends]
      rfl
    exact .line _ reached ends plain logged rfl saw saw'
  · have hangs : ∀ b p v, x.halt h ≠ .finished b p v := fun b p v e => ends ⟨b, p, v, e⟩
    have plain : x'.halt h = x.halt h := halts.trans (bind_of_unfinished hangs _)
    have saw' : x'.told h = [] ++ .inl x.request :: x.told h := by
      rw [told, toldBack, backs_of_unfinished hangs, List.map_nil, List.append_nil]
      rfl
    exact .hanging reached hangs plain rfl (List.nil_append _).symm saw'

/-- A layer on the outside does the same with both results. -/
lemma Logs.outward (logs : Logs h pos y y') (f : Forwards x after y) (f' : Forwards x' after y')
    (same : x'.request = x.request) (k : (y.halt h).Appends fun _ => True)
    (ha : ∀ b, (after b).Appends fun _ => True) : Logs h (pos + 1) x x' := by
  have halts := halt_of_forwards (h := h) f
  have halts' := halt_of_forwards (h := h) f'
  have told := told_of_forwards (h := h) f
  have told' := told_of_forwards (h := h) f'
  rw [same] at told'
  cases logs with
  | unreached none plain saw =>
    refine .unreached (fun z reached => none z ((reaches_succ_iff f).mp reached)) ?_ ?_
    · rw [halts', halts, plain]
    · rw [told', told, plain, saw]
  | @hanging z front inside reached hangs plain length saw saw' =>
    have told : x.told h = (.inl x.request :: front) ++ (inside ++ toldBack (y.halt h)) := by
      rw [told, saw, List.append_assoc]
      rfl
    have told' : x'.told h = (.inl x.request :: front) ++
        .inl z.request :: (inside ++ toldBack (y.halt h)) := by
      rw [told', plain, saw', List.append_assoc]
      rfl
    have longer : (.inl x.request :: front).length = pos + 1 := by rw [List.length_cons, length]
    refine .hanging ((reaches_succ_iff f).mpr reached) hangs ?_ longer told told'
    rw [halts', halts, plain]
  | @line z b p v front inside behind u reached ends plain logged length saw saw' =>
    rw [plain] at k halts told
    rw [logged] at halts' told'
    rw [toldBack_after, saw] at told
    rw [toldBack_after, saw'] at told'
    have told : x.told h = (.inl x.request :: front) ++ (inside ++ (behind ++ toldBack u)) := by
      rw [told, List.append_assoc, List.append_assoc]
      rfl
    have told' : x'.told h = (.inl x.request :: front) ++
        .inl z.request :: (inside ++ .inr b :: (behind ++ toldBack u)) := by
      rw [told', List.append_assoc, List.cons_append, List.append_assoc]
      rfl
    have longer : (.inl x.request :: front).length = pos + 1 := by rw [List.length_cons, length]
    have k := k.of_after
    exact .line (u.bind fun b p w => (after b).halt p w) ((reaches_succ_iff f).mpr reached) ends
      (halts.trans (k.bind_after (fun b _ => ha b) _))
      (halts'.trans (k.bind_after (fun b _ => ha b) _))
      longer told told'

/-- The access log between layers logs at its place. -/
lemma logs_run {outer inner : LayerStack} (hs : ∀ l ∈ outer ++ inner, l.enter.Appends)
    (hh : Inside.Appends h) {p : Plan} (hp : p.Appends) (n : NativeRequest) (w : World) :
    Logs h outer.length ⟨outer ++ inner, n, p, w⟩ ⟨outer ++ Layer.accessLog :: inner, n, p, w⟩ := by
  -- a layer in front is the same for both runs, until it has a result from inside
  induction outer generalizing n p w with
  | nil =>
    obtain ⟨after, f, adds⟩ := forwards_accessLog inner n p w
    exact logs_here f rfl adds
  | cons l outer ih =>
    obtain ⟨first, rest⟩ := List.forall_mem_cons.mp hs
    rw [List.cons_append, List.cons_append]
    by_cases forwards : ∃ n' after p' w', (l.enter n).halt p w = .finished (.forward n' after) p' w'
    · obtain ⟨n', after, p', w', e⟩ := forwards
      obtain ⟨ha, hp'⟩ := (first n).of_finished hp e
      exact (ih rest hp' n' w').outward (.mk e) (.mk e) rfl ((appends_run rest hh n').halt hp' w')
        ha
    · have last (s : LayerStack) : ∀ after y, ¬ Forwards ⟨l :: s, n, p, w⟩ after y := by
        rintro after y ⟨e⟩
        exact forwards ⟨_, _, _, _, e⟩
      refine .unreached (fun y => not_reaches_succ (last _)) (halt_of_not_forwards ?_) ?_
      · exact fun n' after p' w' e => forwards ⟨n', after, p', w', e⟩
      · rw [told_of_not_forwards (last _), told_of_not_forwards (last _)]

end

/-- The outcome of the run of an arrival. -/
def Arrival.run (h : NativeHandler) (x : Arrival) : Outcome NativeResult × World :=
  (x.stack.run h x.request).run x.plan x.world

/-- The outcome of a run comes from its end. -/
lemma Arrival.run_eq (h : NativeHandler) (x : Arrival) : x.run h = (x.halt h).outcome :=
  Task.run_eq _ _ _

/-- What is changed by a layer that logs at a place. -/
structure Interposed (h : NativeHandler) (pos : Nat) (x x' : Arrival) : Prop where
  /--
  One record is added if the place is reached and what lies behind it gives a result, right behind
  the events of that; all others are told the same in the same order.
  -/
  line : ∀ y b p v, Reaches pos x y → y.halt h = .finished b p v →
    (∃ es, (x.run h).2.trace = v.trace ++ es ∧ x'.run h = ((x.run h).1,
      { (x.run h).2 with trace := v.trace ++ .log (Layer.record y.request b) :: es })) ∧
    ∃ front inside behind, front.length = pos ∧ x.told h = front ++ (inside ++ behind) ∧
      x'.told h = front ++ .inl y.request :: (inside ++ .inr b :: behind)
  /-- It does so if the run ends. -/
  ends : ∀ y b p v, Reaches pos x y → x.halt h = .finished b p v →
    ∃ b₁ p₁ v₁, y.halt h = .finished b₁ p₁ v₁
  /-- Nothing is changed otherwise. -/
  silent : (∀ y, Reaches pos x y → ∀ b p v, y.halt h ≠ .finished b p v) → x'.run h = x.run h
  unreached : (∀ y, ¬ Reaches pos x y) → x'.told h = x.told h

/-- One arrival at most is reached behind a number of layers. -/
lemma Reaches.unique {k : Nat} {x y z : Arrival} (hy : Reaches k x y) (hz : Reaches k x z) :
    y = z := by
  induction k generalizing x with
  | zero => rw [reaches_zero_iff.mp hy, reaches_zero_iff.mp hz]
  | succ k ih =>
    by_cases forwards : ∃ after x', Forwards x after x'
    · obtain ⟨after, x', f⟩ := forwards
      exact ih ((reaches_succ_iff f).mp hy) ((reaches_succ_iff f).mp hz)
    · exact absurd hy (not_reaches_succ fun after x' f => forwards ⟨after, x', f⟩)

/-- A layer that logs is interposed at its place. -/
lemma Logs.interposed {h : NativeHandler} {pos : Nat} {x x' : Arrival} (logs : Logs h pos x x') :
    Interposed h pos x x' := by
  constructor
  case line =>
    intro y b p v reached ends
    cases logs with
    | unreached none => exact absurd reached (none y)
    | hanging reached' hangs =>
      cases reached.unique reached'
      exact absurd ends (hangs b p v)
    | @line y' b' p' v' front inside behind u reached' ends' halts halts' length told told' =>
      cases reached.unique reached'
      cases ends.symm.trans ends'
      refine ⟨⟨u.outcome.2.trace, ?_, ?_⟩, front, inside, behind, length, told, told'⟩
      · rw [Arrival.run_eq, halts, Halt.outcome_after]
        rfl
      · rw [Arrival.run_eq, Arrival.run_eq, halts, halts', Halt.outcome_after, Halt.outcome_after,
          World.after, List.append_assoc]
        rfl
  case ends =>
    rintro y b p v ⟨afters, passes, -⟩ ends
    obtain ⟨b₁, p₁, v₁, inner, -⟩ := Halt.finished_of_bind (passes.halt.symm.trans ends)
    exact ⟨b₁, p₁, v₁, inner⟩
  case silent =>
    intro silent
    cases logs with
    | unreached _ halts => rw [Arrival.run_eq, Arrival.run_eq, halts]
    | hanging _ _ halts => rw [Arrival.run_eq, Arrival.run_eq, halts]
    | line _ reached ends => exact absurd ends (silent _ reached _ _ _)
  case unreached =>
    intro none
    cases logs with
    | unreached _ _ told => exact told
    | hanging reached => exact absurd reached (none _)
    | line _ reached => exact absurd reached (none _)

/--
Layers run from the outside to the inside and back, errors go through them as they are, and among
them a layer that logs adds one record to a run that comes back to it.
-/
theorem run_layered (h : NativeHandler) :
    (∀ x : Arrival, x.Layered h) ∧
    (∀ (s : Server) (stack : LayerStack) (n : NativeRequest) (addr : Option SocketAddr) (w : World),
      s.Conveys h stack n addr w) ∧
    (∀ (n : NativeRequest) (b : NativeResponse), (Layer.record n (.ok b)).level = .info) ∧
    (∀ (n : NativeRequest) (e : NativeError), (Layer.record n (.error e)).level = .warn) ∧
    ∀ outer inner : LayerStack, (∀ l ∈ outer ++ inner, l.enter.Appends) → Inside.Appends h → ∀ p :
    Plan, p.Appends →
      ∀ n w, Interposed h outer.length ⟨outer ++ inner, n, p, w⟩ ⟨outer ++ Layer.accessLog :: inner,
        n, p, w⟩ := by
  refine ⟨layered h, fun s stack n addr w => s.conveys h stack n addr w, fun _ _ => rfl,
    fun _ _ => rfl, ?_⟩
  intro outer inner layers handler p plan n w
  exact (logs_run layers handler plan n w).interposed

/-- A layer that raises an error for every request. -/
def refusing : Layer :=
  LayerScript.toLayer ⟨"deny", some (.plain "forbidden: legacy rule"), [], none, none, []⟩

/-- A layer that makes an empty answer of every error. -/
def recovering : Layer :=
  LayerScript.toLayer ⟨"catch", none, [], none, some ⟨.ok, .empty, .empty⟩, []⟩

/-- A handler with an empty answer. -/
def accepting : NativeHandler := NativeScript.toHandler ⟨[], none, false, .ok ⟨.ok, .empty, .empty⟩⟩

/-- The refusal is logged where it is still an error, and the client gets what is made of it. -/
theorem run_layered_recovered :
    (∀ l ∈ [recovering] ++ [refusing], l.enter.Appends) ∧ Inside.Appends accepting ∧
    Plan.free.Appends ∧
    Arrival.Layered accepting ⟨[recovering, refusing], Server.caller, .free, Stage.visitor.2⟩ ∧
    Reaches 1 ⟨[recovering, refusing], Server.caller, .free, Stage.visitor.2⟩
      ⟨[refusing], Server.caller, .free, Stage.visitor.2.emit (.mark "catch:before")⟩ ∧
    Interposed accepting 1 ⟨[recovering, refusing], Server.caller, .free, Stage.visitor.2⟩
      ⟨[recovering, Layer.accessLog, refusing], Server.caller, .free, Stage.visitor.2⟩ ∧
    (Arrival.run accepting ⟨[recovering, Layer.accessLog, refusing], Server.caller, .free,
      Stage.visitor.2⟩).1 =
      .finished (.ok ⟨.ok, .empty, .empty⟩) ∧
    (logsOf (Arrival.run accepting ⟨[recovering, Layer.accessLog, refusing], Server.caller, .free,
      Stage.visitor.2⟩).2.trace).map LogRecord.message = ["Request failed (legacy)"] := by
  have layers : ∀ l ∈ [recovering] ++ [refusing], l.enter.Appends := by
    intro l hl
    rcases List.mem_cons.mp hl with rfl | hl
    · exact LayerScript.appends_toLayer _
    · cases List.mem_singleton.mp hl
      exact LayerScript.appends_toLayer _
  have handler : Inside.Appends accepting := NativeScript.appends_toHandler _
  have plan : Plan.free.Appends := fun _ _ => rfl
  obtain ⟨layered, -, -, -, interposed⟩ := run_layered accepting
  refine ⟨layers, handler, plan, layered _, ⟨_, .on (.mk rfl) (.here _), rfl⟩, ?_, rfl, rfl⟩
  exact interposed [recovering] [refusing] layers handler .free plan Server.caller Stage.visitor.2

/-- Behind a layer that refuses everything nothing is logged. -/
theorem accessLog_behind_refusal :
    (Arrival.run accepting ⟨[refusing] ++ [], Server.caller, .free, Stage.visitor.2⟩).1 =
      .finished (.error (.plain "forbidden: legacy rule")) ∧
    ¬ ∃ before after r,
      (Arrival.run accepting ⟨[refusing] ++ [], Server.caller, .free, Stage.visitor.2⟩).2.trace =
        before ++ after ∧
      (Arrival.run accepting ⟨[refusing] ++ Layer.accessLog :: [], Server.caller, .free,
        Stage.visitor.2⟩).2.trace =
        before ++ .log r :: after := by
  refine ⟨rfl, ?_⟩
  rintro ⟨before, after, r, plain, logged⟩
  have same : before ++ after = before ++ .log r :: after := plain.symm.trans logged
  exact List.cons_ne_self _ _ (List.append_cancel_left same).symm

end LayerStack

end Gatehouse
