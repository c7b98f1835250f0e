import Mathlib.Data.List.Forall2
import Gatehouse.Proofs.Chain.Cancellation
import Gatehouse.Proofs.Stage.Appending

/-!
# Runs of chains compared

A chain of stages that only add to the log runs alike at later places and from a state with more
events (`trail_moved`).  `AlikeWithout pos` compares the log of a chain with that of a chain that
has one more stage, at the place `pos`: with this stage taken away, what happens is the same in the
same order, but for the events.
-/

namespace Gatehouse

/-- A moment at a later place, with events before its own. -/
def Moment.moved (k : Nat) (es : List Event) : Moment → Moment
  | enter i r w => enter (i + k) r (w.after es)
  | skip i w => skip (i + k) (w.after es)
  | leave i b w => leave (i + k) b (w.after es)

/-- A moment that is moved is at the later place. -/
lemma Moment.place_moved (k : Nat) (es : List Event) (m : Moment) :
    (m.moved k es).place = m.place + k := by
  cases m <;> rfl

namespace Traced

variable {α β : Type} {k : Nat} {es : List Event}

/-- A run at later places, from a state with events before its own. -/
def moved (k : Nat) (es : List Event) (x : Traced α) : Traced α :=
  ⟨x.log.map (Moment.moved k es), x.halt.after es⟩

/-- A run without a log is moved by its events alone. -/
lemma moved_quiet (k : Nat) (es : List Event) (x : Halt α) :
    (quiet x).moved k es = quiet (x.after es) := rfl

/-- What goes on after a run that is moved is moved if it goes on alike. -/
lemma andThen_moved {x : Traced α} {f g : α → Plan → World → Traced β}
    (h : ∀ a p w, x.halt = .finished a p w → g a p (w.after es) = (f a p w).moved k es) :
    (x.moved k es).andThen g = (x.andThen f).moved k es := by
  obtain ⟨log, halt⟩ := x
  cases halt with
  | finished a p w => simp only [andThen, moved, Halt.after, h a p w rfl, List.map_append]
  | dropped w => rfl
  | stuck w => rfl

/-- An answer is moved with its run. -/
lemma answered_moved (x : Traced Response) (place : Nat) :
    (x.moved k es).answered (place + k) = (x.answered place).moved k es :=
  andThen_moved fun _ _ _ _ => rfl

end Traced

section

variable {h : Handler} {place k : Nat} {s : Stage} {ss : List Stage} {r : Request} {p : Plan}
  {w : World}
  {es : List Event}

/-- A visit is moved with what happens behind it. -/
lemma visit_moved {x y : Plan → World → Traced Response}
    (e : y p (w.after es) = (x p w).moved k es) :
    visit (place + k) r y p (w.after es) = (visit place r x p w).moved k es := by
  unfold visit
  rw [World.after_fired, e, Traced.answered_moved]
  split
  · rfl
  · rfl

/-- A chain runs alike at later places and from a state with more events. -/
lemma trail_moved (hs : ∀ s ∈ ss, s.enter.Appends) (hh : Inside.Appends h) (hp : p.Appends) :
    trail h (place + k) ss r p (w.after es) = (trail h place ss r p w).moved k es := by
  -- what a run leaves of its plan reads no events either, so the rest of the chain can be run with
  -- it
  induction ss generalizing place r p w with
  | nil =>
    rw [trail, trail]
    apply visit_moved
    rw [((hh r).guard trivial).halt_after hp, Traced.moved_quiet]
  | cons s ss ih =>
    obtain ⟨first, rest⟩ := List.forall_mem_cons.mp hs
    rw [trail, trail]
    apply visit_moved
    rw [(first r).halt_after hp, ← Traced.moved_quiet k]
    refine Traced.andThen_moved fun v p₁ w₁ e => ?_
    obtain ⟨hv, hp₁⟩ := (first r).of_finished hp e
    cases v with
    | reply b => rfl
    | forward r' after =>
      dsimp only
      rw [Nat.add_right_comm, ih rest hp₁]
      refine Traced.andThen_moved fun b p₂ w₂ e' => ?_
      rw [halt_trail] at e'
      obtain ⟨-, hp₂⟩ := (hh.finish.runStages rest r').of_finished hp₁ e'
      rw [(hv b).halt_after hp₂, Traced.moved_quiet]

/-- With an event before it and a stage in front, a chain runs as it does by itself. -/
lemma exists_moved (hs : ∀ s ∈ ss, s.enter.Appends) (hh : Inside.Appends h) (hp : p.Appends)
    (place : Nat) (r : Request) (w : World) (e : Event) :
    ∃ t : Traced Response, (∀ m ∈ t.log, place ≤ m.place) ∧
    trail h place ss r p w = t.moved 0 w.trace ∧
      trail h (place + 1) ss r p (w.emit e) = t.moved 1 (w.trace ++ [e]) := by
  -- both are runs of the chain from the state without events
  refine ⟨trail h place ss r p { w with trace := [] }, fun m hm => (place_of_mem_trail hm).1, ?_,
    ?_⟩
  · rw [← trail_moved hs hh hp, World.after_trace, Nat.add_zero]
  · rw [← trail_moved hs hh hp, World.after, List.append_nil]
    rfl

/-- Behind a place nothing is answered there. -/
lemma leave_not_mem_moved {t : Traced Response} (behind : ∀ m ∈ t.log, place ≤ m.place)
    (es : List Event) (b : Response) (v : World) : .leave place b v ∉ (t.moved 1 es).log := by
  intro hm
  obtain ⟨m, hm, e⟩ := List.mem_map.mp hm
  have further : place = m.place + 1 := (congrArg Moment.place e).symm.trans (m.place_moved 1 es)
  have := behind m hm
  omega

/--
Behind a stage that passes the request on, the rest runs and the stage goes on with its answer.
-/
lemma halt_trail_of_forward (h : Handler) (place : Nat) (ss : List Stage) (hw : w.fired = false)
    {r₁ : Request} {after : Response → Run Response} {p₁ : Plan} {w₁ : World}
    (e : (s.enter r).halt p w = .finished (.forward r₁ after) p₁ w₁) :
    (trail h place (s :: ss) r p w).halt =
      (trail h (place + 1) ss r₁ p₁ w₁).halt.bind fun b p w => (after b).halt p w := by
  rw [halt_trail, halt_trail, halt_stage_of_forward hw e]

/--
The log of a stage that passes the request on: its start, the log of the rest, and its answer.
-/
lemma log_trail_around (h : Handler) (place : Nat) (ss : List Stage) (hw : w.fired = false)
    {r₁ : Request} {after : Response → Run Response} {p₁ : Plan} {w₁ : World}
    (e : (s.enter r).halt p w = .finished (.forward r₁ after) p₁ w₁) :
    (trail h place (s :: ss) r p w).log = .enter place r w ::
      ((trail h (place + 1) ss r₁ p₁ w₁).log ++
        closing place (trail h place (s :: ss) r p w).halt) := by
  rw [log_trail_of_forward hw e, Traced.log_answered_eq, Traced.log_andThen_quiet,
    Traced.halt_andThen, halt_trail_of_forward h place ss hw e]
  rfl

/-- A stage that does not go on makes no difference between what lies behind it. -/
lemma trail_of_unforwarded (h : Handler)
    (e : ¬ ∃ r₁ after p₁ w₁, w.fired = false ∧ (s.enter r).halt p w =
    .finished (.forward r₁ after) p₁ w₁)
    (place : Nat) (ss ss' : List Stage) :
    trail h place (s :: ss') r p w = trail h place (s :: ss) r p w ∧
      ∀ m ∈ (trail h place (s :: ss) r p w).log, m.place = place := by
  cases hw : w.fired with
  | true =>
    rw [trail_of_fired hw, trail_of_fired hw]
    exact ⟨rfl, fun m hm => congrArg Moment.place (List.mem_singleton.mp hm)⟩
  | false =>
    have unfired : ¬ w.fired = true := by rw [hw]; exact Bool.false_ne_true
    rw [trail, trail, visit, visit, if_neg unfired, if_neg unfired]
    cases x : (s.enter r).halt p w with
    | finished v p₁ w₁ =>
      cases v with
      | reply b =>
        refine ⟨rfl, fun m hm => ?_⟩
        rcases List.mem_cons.mp hm with rfl | hm
        · rfl
        · exact congrArg Moment.place (List.mem_singleton.mp hm)
      | forward r₁ after => exact absurd ⟨r₁, after, p₁, w₁, hw, x⟩ e
    | dropped w₁ => exact ⟨rfl, fun m hm => congrArg Moment.place (List.mem_singleton.mp hm)⟩
    | stuck w₁ => exact ⟨rfl, fun m hm => congrArg Moment.place (List.mem_singleton.mp hm)⟩

end

namespace Moment

/-- Moments that differ in the events so far alone. -/
inductive Like : Moment → Moment → Prop where
  | enter (i r w es) : Like (.enter i r w) (.enter i r { w with trace := es })
  | skip (i w es) : Like (.skip i w) (.skip i { w with trace := es })
  | leave (i b w es) : Like (.leave i b w) (.leave i b { w with trace := es })

/-- A moment is like itself. -/
lemma Like.refl (m : Moment) : Like m m := by
  cases m with
  | enter i r w => exact .enter i r w w.trace
  | skip i w => exact .skip i w w.trace
  | leave i b w => exact .leave i b w w.trace

/-- A place in a chain from which the stage at some place is taken away. -/
def closeUp (pos i : Nat) : Nat := if i ≤ pos then i else i - 1

/-- What is left of a moment if the stage at a place is taken away. -/
def without (pos : Nat) : Moment → Option Moment
  | enter i r w => if i = pos then none else some (enter (closeUp pos i) r w)
  | skip i w => some (skip (closeUp pos i) w)
  | leave i b w => if i = pos then none else some (leave (closeUp pos i) b w)

/-- The places in front of a stage that is taken away stay. -/
lemma closeUp_of_lt {pos i : Nat} (lt : i < pos) : closeUp pos i = i := if_pos (Nat.le_of_lt lt)

/-- The places behind a stage that is taken away come one closer. -/
lemma closeUp_succ {pos i : Nat} (le : pos ≤ i) : closeUp pos (i + 1) = i := if_neg (by omega)

/-- A moment in front of a stage that is taken away stays. -/
lemma without_of_lt {pos : Nat} {m : Moment} (lt : m.place < pos) : m.without pos = some m := by
  cases m with
  | enter i r w =>
    have lt : i < pos := lt
    rw [without, if_neg (Nat.ne_of_lt lt), closeUp_of_lt lt]
  | skip i w =>
    have lt : i < pos := lt
    rw [without, closeUp_of_lt lt]
  | leave i b w =>
    have lt : i < pos := lt
    rw [without, if_neg (Nat.ne_of_lt lt), closeUp_of_lt lt]

/-- Behind the place every moment is one place further on. -/
lemma without_moved {pos : Nat} {m : Moment} (le : pos ≤ m.place) (es es' : List Event) :
    ∃ m', (m.moved 1 es').without pos = some m' ∧ Like (m.moved 0 es) m' := by
  cases m with
  | enter i r w =>
    have le : pos ≤ i := le
    rw [moved, without, if_neg (Nat.ne_of_gt (Nat.lt_succ_of_le le)), closeUp_succ le]
    exact ⟨_, rfl, .enter i r _ _⟩
  | skip i w =>
    have le : pos ≤ i := le
    rw [moved, without, closeUp_succ le]
    exact ⟨_, rfl, .skip i _ _⟩
  | leave i b w =>
    have le : pos ≤ i := le
    rw [moved, without, if_neg (Nat.ne_of_gt (Nat.lt_succ_of_le le)), closeUp_succ le]
    exact ⟨_, rfl, .leave i b _ _⟩

end Moment

/-- Logs that are alike if the stage at a place is taken away from the second one. -/
def AlikeWithout (pos : Nat) (log log' : List Moment) : Prop :=
  List.Forall₂ Moment.Like log (log'.filterMap (Moment.without pos))

namespace AlikeWithout

variable {pos : Nat} {log log' : List Moment}

/-- Logs are alike if their parts are. -/
lemma append {log₁ log₁' : List Moment} (a : AlikeWithout pos log log')
    (a₁ : AlikeWithout pos log₁ log₁') :
    AlikeWithout pos (log ++ log₁) (log' ++ log₁') := by
  unfold AlikeWithout
  rw [List.filterMap_append]
  exact List.rel_append a a₁

/-- Logs of one moment in front of the stage are alike if the moments are. -/
lemma single {m m' : Moment} (lt : m'.place < pos) (like : m.Like m') :
    AlikeWithout pos [m] [m'] := by
  rw [AlikeWithout, List.filterMap_cons, Moment.without_of_lt lt]
  exact .cons like .nil

/-- A log of earlier places is like itself. -/
lemma refl (before : ∀ m ∈ log, m.place < pos) : AlikeWithout pos log log := by
  induction log with
  | nil => exact .nil
  | cons m log ih =>
    obtain ⟨first, rest⟩ := List.forall_mem_cons.mp before
    exact (single first (.refl m)).append (ih rest)

/-- A log behind the stage and the same one place later are alike. -/
lemma moved (behind : ∀ m ∈ log, pos ≤ m.place) (es es' : List Event) :
    AlikeWithout pos (log.map (Moment.moved 0 es)) (log.map (Moment.moved 1 es')) := by
  induction log with
  | nil => exact .nil
  | cons m log ih =>
    obtain ⟨first, rest⟩ := List.forall_mem_cons.mp behind
    obtain ⟨m', e, like⟩ := Moment.without_moved first es es'
    rw [AlikeWithout, List.map_cons, List.map_cons, List.filterMap_cons, e]
    exact .cons like (ih rest)

/-- The start and the answer at the place are taken away with the stage. -/
lemma around (a : AlikeWithout pos log log') (r : Request) (w : World) (x : Halt Response) :
    AlikeWithout pos log (.enter pos r w :: (log' ++ closing pos x)) := by
  have answer : (closing pos x).filterMap (Moment.without pos) = [] := by
    cases x with
    | finished b p w =>
      rw [closing, List.filterMap_cons, Moment.without, if_pos rfl, List.filterMap_nil]
    | dropped w => rfl
    | stuck w => rfl
  rw [AlikeWithout, List.filterMap_cons, Moment.without, if_pos rfl, List.filterMap_append, answer,
    List.append_nil]
  exact a

end AlikeWithout

/-- A chain comes to a place in one way only. -/
lemma Arrives.unique {ss : List Stage} {r r₁ r₂ : Request} {p p₁ p₂ : Plan} {w w₁ w₂ : World}
    {i : Nat} (a : Arrives ss r p w i r₁ p₁ w₁) (b : Arrives ss r p w i r₂ p₂ w₂) :
    r₁ = r₂ ∧ p₁ = p₂ ∧ w₁ = w₂ := by
  induction a with
  | here =>
    cases b with
    | here => exact ⟨rfl, rfl, rfl⟩
  | next _ e _ ih =>
    cases b with
    | next _ e' b =>
      rw [e] at e'
      cases e'
      exact ih b

section

variable {h : Handler} {fs : List Stage} {r r₁ r₂ : Request} {p : Plan} {w w₁ w₂ : World} {i : Nat}

/-- A place is started once at most. -/
lemma enter_unique (hm₁ : .enter i r₁ w₁ ∈ (trail h 0 fs r p w).log)
    (hm₂ : .enter i r₂ w₂ ∈ (trail h 0 fs r p w).log) :
    r₁ = r₂ ∧ w₁ = w₂ := by
  obtain ⟨-, p₁, a⟩ := enter_mem_trail_iff.mp hm₁
  obtain ⟨-, p₂, b⟩ := enter_mem_trail_iff.mp hm₂
  obtain ⟨same, -, state⟩ := a.unique b
  exact ⟨same, state⟩

/-- A place answers once at most. -/
lemma leave_unique {b₁ b₂ : Response} (hm₁ : .leave i b₁ w₁ ∈ (trail h 0 fs r p w).log)
    (hm₂ : .leave i b₂ w₂ ∈ (trail h 0 fs r p w).log) : b₁ = b₂ ∧ w₁ = w₂ := by
  obtain ⟨r₁, p₁, v₁, q₁, a, -, e₁⟩ := leave_mem_trail_iff.mp hm₁
  obtain ⟨r₂, p₂, v₂, q₂, b, -, e₂⟩ := leave_mem_trail_iff.mp hm₂
  obtain ⟨rfl, rfl, rfl⟩ := a.unique b
  cases e₁.symm.trans e₂
  exact ⟨rfl, rfl⟩

end

/-- The run of a chain and of a stage made of it are that of its stages. -/
lemma Unfolds.run_eq {c : Chain} {fs : List Stage} (u : Unfolds c.stages fs) (h : Handler)
    (r : Request) (p : Plan)
    (w : World) : ((⟨c.stages, h⟩ : Chain).process r).run p w = (trail h 0 fs r p w).halt.outcome ∧
      (c.asStage.enter.around (finish h) r).run p w = (trail h 0 fs r p w).halt.outcome := by
  have alike := u.alike (looksFirst_finish h)
  rw [Chain.process, asStage_around, Task.run_eq, alike, halt_trail]
  exact ⟨rfl, rfl⟩

end Gatehouse
