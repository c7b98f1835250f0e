import Gatehouse.Proofs.Chain.Trail
import Gatehouse.Proofs.Stage.Proper

/-!
# What the signal does to a chain

`Arrives` is how far a chain comes: where it comes to with the signal not fired, a stage or the
handler is started, and where it comes to with the signal fired, nothing is (`mem_trail_iff`).  The
answers come in the reverse order of the starts (`inOrder_trail`).  `HeedsSignal` puts this
together; it holds of chains of any stages, nested to any depth, and for a signal that is fired at
any time by anyone.
-/

namespace Gatehouse

/-- The place to which a chain comes, with the request, plan and state that it comes there with. -/
inductive Arrives : List Stage → Request → Plan → World → Nat → Request → Plan → World → Prop where
  | here {ss r p w} : Arrives ss r p w 0 r p w
  | next {s ss r p w r₁ after p₁ w₁ i r' p' w'} :
    w.fired = false →
    (s.enter r).halt p w = .finished (.forward r₁ after) p₁ w₁ →
    Arrives ss r₁ p₁ w₁ i r' p' w' →
    Arrives (s :: ss) r p w (i + 1) r' p' w'

namespace Arrives

variable {s : Stage} {ss : List Stage} {r r' : Request} {p p' : Plan} {w w' : World} {i : Nat}

/-- After the signal a chain comes to no place but its first. -/
lemma of_fired (a : Arrives ss r p w i r' p' w') (hw : w.fired = true) : i = 0 ∧ w' = w := by
  cases a with
  | here => exact ⟨rfl, rfl⟩
  | next unfired _ _ => rw [hw] at unfired; cases unfired

/-- What is come to behind a place is come to through that place. -/
lemma through {j : Nat} {r₁ r₂ : Request} {p₁ p₂ : Plan} {w₁ w₂ : World}
    (a : Arrives ss r p w i r₁ p₁ w₁) (b : Arrives ss r p w j r₂ p₂ w₂) (lt : i < j) :
    ∃ s r' after p' w', ss[i]? = some s ∧ (s.enter r₁).halt p₁ w₁ =
      .finished (.forward r' after) p' w' ∧
      Arrives (ss.drop (i + 1)) r' p' w' (j - (i + 1)) r₂ p₂ w₂ := by
  induction a generalizing j with
  | here =>
    cases b with
    | here => exact absurd lt (Nat.lt_irrefl _)
    | next _ e b => exact ⟨_, _, _, _, _, rfl, e, b⟩
  | next _ e a ih =>
    cases b with
    | here => exact absurd lt (Nat.not_lt_zero _)
    | next _ e' b =>
      -- both come through the same stage, which runs in one way only
      rw [e] at e'
      cases e'
      obtain ⟨s, r', after, p', w', at_, e₁, b'⟩ := ih b (Nat.lt_of_succ_lt_succ lt)
      refine ⟨s, r', after, p', w', at_, e₁, ?_⟩
      rw [Nat.succ_sub_succ]
      exact b'

end Arrives

/-- What happens at a place to which a chain comes. -/
inductive Happens (h : Handler) (ss : List Stage) (place : Nat) (r : Request) (p : Plan)
    (w : World) :
    Moment → Prop where
  | skipped : w.fired = true → Happens h ss place r p w (.skip place w)
  | started : w.fired = false → Happens h ss place r p w (.enter place r w)
  | answered {b p' w'} : w.fired = false → (runStages ss (finish h) r).halt p w =
    .finished b p' w' →
    Happens h ss place r p w (.leave place b w')

/-- The answer of a place, if it gives one. -/
def closing (place : Nat) : Halt Response → List Moment
  | .finished b _ w => [.leave place b w]
  | .dropped _ => []
  | .stuck _ => []

/-- A place gives an answer if what lies from it on has one. -/
lemma mem_closing {place : Nat} {x : Halt Response} {m : Moment} :
    m ∈ closing place x ↔ ∃ b p w, x = .finished b p w ∧ m = .leave place b w := by
  constructor
  · intro hm
    cases x with
    | finished b p w => exact ⟨b, p, w, rfl, List.mem_singleton.mp hm⟩
    | dropped w => exact absurd hm List.not_mem_nil
    | stuck w => exact absurd hm List.not_mem_nil
  · rintro ⟨b, p, w, rfl, rfl⟩
    exact List.mem_singleton_self _

/-- The answer of a place stands at the end of its log. -/
lemma Traced.log_answered_eq (x : Traced Response) (place : Nat) :
    (x.answered place).log = x.log ++ closing place x.halt := by
  unfold answered andThen
  cases x.halt with
  | finished b p w => rfl
  | dropped w => exact (List.append_nil _).symm
  | stuck w => exact (List.append_nil _).symm

/-- The log of a place that is started: the start, what happens behind it, and its answer. -/
lemma log_visit {place : Nat} {r : Request} {x : Plan → World → Traced Response} {p : Plan}
    {w : World} (hw : w.fired = false) :
    (visit place r x p w).log =
      .enter place r w :: ((x p w).log ++ closing place (visit place r x p w).halt) := by
  have unfired : ¬ w.fired = true := by rw [hw]; exact Bool.false_ne_true
  rw [halt_visit, if_neg unfired, visit, if_neg unfired, Traced.log_answered_eq]

/-- How the log of a chain is made up at its first place. -/
inductive Unwinds (h : Handler) (place : Nat) :
    List Stage → Request → Plan → World → List Moment → Prop where
  | skipped {ss r p w} : w.fired = true → Unwinds h place ss r p w [.skip place w]
  /-- The chain comes to no further place. -/
  | last {ss r p w} : w.fired = false → (∀ i r' p' w', ¬ Arrives ss r p w (i + 1) r' p' w') →
    Unwinds h place ss r p w (.enter place r w :: closing place
      ((runStages ss (finish h) r).halt p w))
  /-- What lies behind the place stands between its start and its answer. -/
  | around {s ss r p w r₁ after p₁ w₁} : w.fired = false →
    (s.enter r).halt p w = .finished (.forward r₁ after) p₁ w₁ →
    Unwinds h place (s :: ss) r p w (.enter place r w :: ((trail h (place + 1) ss r₁ p₁ w₁).log ++
      closing place ((runStages (s :: ss) (finish h) r).halt p w)))

/-- Every log is made up like this at its first place. -/
lemma unwinds (h : Handler) (place : Nat) (ss : List Stage) (r : Request) (p : Plan) (w : World) :
    Unwinds h place ss r p w (trail h place ss r p w).log := by
  cases hw : w.fired with
  | true =>
    rw [trail_of_fired hw]
    exact .skipped hw
  | false =>
    have same := halt_trail h place ss r p w
    cases ss with
    | nil =>
      rw [trail] at same ⊢
      rw [log_visit hw, same]
      refine .last hw fun i r' p' w' a => ?_
      cases a
    | cons s ss =>
      rw [trail] at same ⊢
      rw [log_visit hw, same]
      cases e : (s.enter r).halt p w with
      | finished v p₁ w₁ =>
        cases v with
        | reply b =>
          refine .last hw fun i r' p' w' a => ?_
          cases a with
          | next _ e' _ => rw [e] at e'; cases e'
        | forward r₁ after =>
          have behind := Traced.log_andThen_quiet (trail h (place + 1) ss r₁ p₁ w₁) fun b p w =>
            (after b).halt p w
          have around : Unwinds h place (s :: ss) r p w _ := .around hw e
          rw [← behind] at around
          exact around
      | dropped w₁ =>
        refine .last hw fun i r' p' w' a => ?_
        cases a with
        | next _ e' _ => rw [e] at e'; cases e'
      | stuck w₁ =>
        refine .last hw fun i r' p' w' a => ?_
        cases a with
        | next _ e' _ => rw [e] at e'; cases e'

section

variable {h : Handler} {place : Nat} {ss : List Stage} {r : Request} {p : Plan} {w : World}
  {m : Moment}

/-- At the first place of a chain there is its start and its answer. -/
lemma happens_iff (hw : w.fired = false) :
    Happens h ss place r p w m ↔
      m = .enter place r w ∨ m ∈ closing place ((runStages ss (finish h) r).halt p w) := by
  rw [mem_closing]
  constructor
  · intro happens
    cases happens with
    | skipped fired => rw [hw] at fired; cases fired
    | started _ => exact .inl rfl
    | answered _ e => exact .inr ⟨_, _, _, e, rfl⟩
  · rintro (rfl | ⟨b, p', w', e, rfl⟩)
    · exact .started hw
    · exact .answered hw e

/-- What is logged behind the first place is given, so only that place is looked at. -/
private lemma Unwinds.mem {log : List Moment} (u : Unwinds h place ss r p w log)
    (rest : ∀ s ts, ss = s :: ts → ∀ r p w, m ∈ (trail h (place + 1) ts r p w).log ↔
      ∃ i r' p' w', Arrives ts r p w i r' p' w' ∧ Happens h (ts.drop i)
        (place + 1 + i) r' p' w' m) :
    m ∈ log ↔ ∃ i r' p' w', Arrives ss r p w i r' p' w' ∧ Happens h (ss.drop i)
      (place + i) r' p' w' m := by
  cases u with
  | skipped hw =>
    rw [List.mem_singleton]
    constructor
    · rintro rfl
      exact ⟨0, r, p, w, .here, .skipped hw⟩
    · rintro ⟨i, r', p', w', a, happens⟩
      obtain ⟨rfl, rfl⟩ := a.of_fired hw
      cases happens with
      | skipped _ => rfl
      | started unfired => rw [hw] at unfired; cases unfired
      | answered unfired _ => rw [hw] at unfired; cases unfired
  | last hw none =>
    rw [List.mem_cons, ← happens_iff hw]
    constructor
    · intro happens
      exact ⟨0, r, p, w, .here, happens⟩
    · rintro ⟨i, r', p', w', a, happens⟩
      cases i with
      | zero =>
        cases a with
        | here => exact happens
      | succ i => exact absurd a (none i r' p' w')
  | @around s ss _ _ _ r₁ after p₁ w₁ hw e =>
    rw [List.mem_cons, List.mem_append, or_left_comm, ← happens_iff hw, rest s ss rfl r₁ p₁ w₁]
    constructor
    · rintro (⟨i, r', p', w', a, happens⟩ | happens)
      · rw [Nat.add_assoc, Nat.add_comm 1 i] at happens
        exact ⟨i + 1, r', p', w', .next hw e a, happens⟩
      · exact ⟨0, r, p, w, .here, happens⟩
    · rintro ⟨i, r', p', w', a, happens⟩
      cases a with
      | here => exact .inr happens
      | @next _ _ _ _ _ _ _ _ _ i _ _ _ _ e' a =>
        rw [e] at e'
        cases e'
        rw [← Nat.add_assoc, Nat.add_right_comm] at happens
        exact .inl ⟨i, r', p', w', a, happens⟩

/-- The log of a chain holds what happens at the places to which the chain comes. -/
lemma mem_trail_iff :
    m ∈ (trail h place ss r p w).log ↔
      ∃ i r' p' w', Arrives ss r p w i r' p' w' ∧ Happens h (ss.drop i) (place + i) r' p' w' m := by
  induction ss generalizing place r p w with
  | nil => exact (unwinds h place [] r p w).mem nofun
  | cons s ss ih =>
    apply (unwinds h place (s :: ss) r p w).mem
    intro _ _ same r p w
    cases same
    exact ih

end

section

variable {s : Stage} {ss : List Stage} {last : Inside Request Response} {r r₁ : Request}
  {p p₁ : Plan} {w w₁ : World}

/-- A stage that answers itself ends the run of the chain. -/
lemma halt_stage_of_reply (hw : w.fired = false) {b : Response}
    (e : (s.enter r).halt p w = .finished (.reply b) p₁ w₁) :
    (runStages (s :: ss) last r).halt p w = .finished b p₁ w₁ := by
  rw [runStages, halt_proceed, hw, if_neg Bool.false_ne_true, halt_around_of_reply e]

/-- A stage that goes on does its part on the way out with the answer from inside. -/
lemma halt_stage_of_forward (hw : w.fired = false) {after : Response → Run Response}
    (e : (s.enter r).halt p w = .finished (.forward r₁ after) p₁ w₁) :
    (runStages (s :: ss) last r).halt p w =
      ((runStages ss last r₁).halt p₁ w₁).bind fun b p w => (after b).halt p w := by
  rw [runStages, halt_proceed, hw, if_neg Bool.false_ne_true, halt_around_of_forward e]

end

/-- The places that are started, in the order of their starts. -/
def startsOf (log : List Moment) : List Nat :=
  log.filterMap fun
    | .enter i _ _ => some i
    | _ => none

/-- The places that give their answers, in the order of the answers. -/
def answersOf (log : List Moment) : List Nat :=
  log.filterMap fun
    | .leave i _ _ => some i
    | _ => none

/--
The log of a run in which places are started in their order and give their answers in the reverse
order.
-/
structure InOrder (first : Nat) (log : List Moment) (x : Halt Response) : Prop where
  starts : startsOf log = List.range' first (startsOf log).length
  answers : answersOf log <+: (startsOf log).reverse
  /-- Once something has given its answer nothing more is started. -/
  parted : ∃ before after, log = before ++ after ∧ answersOf before = [] ∧ startsOf after = []
  /-- In a run that finishes everything that was started gives its answer once. -/
  unwound : ∀ b p w, x = .finished b p w → answersOf log = (startsOf log).reverse

section

variable {log log' : List Moment}

/-- The starts of two logs are those of the first and then those of the second. -/
@[simp]
lemma startsOf_append : startsOf (log ++ log') = startsOf log ++ startsOf log' :=
  List.filterMap_append

/-- The answers of two logs are those of the first and then those of the second. -/
@[simp]
lemma answersOf_append : answersOf (log ++ log') = answersOf log ++ answersOf log' :=
  List.filterMap_append

/-- A start is counted as one. -/
@[simp]
lemma startsOf_enter (i : Nat) (r : Request) (w : World) :
    startsOf (.enter i r w :: log) = i :: startsOf log := rfl

/-- A start is no answer. -/
@[simp]
lemma answersOf_enter (i : Nat) (r : Request) (w : World) :
    answersOf (.enter i r w :: log) = answersOf log := rfl

/-- An answer is no start. -/
@[simp]
lemma startsOf_closing (place : Nat) (x : Halt Response) : startsOf (closing place x) = [] := by
  cases x <;> rfl

/-- A place gives one answer or none. -/
lemma answersOf_closing (place : Nat) (x : Halt Response) :
    answersOf (closing place x) <+: [place] := by
  cases x with
  | finished b p w => exact List.prefix_rfl
  | dropped w => exact List.nil_prefix
  | stuck w => exact List.nil_prefix

variable {h : Handler} {place : Nat} {ss : List Stage} {r : Request} {p : Plan} {w : World}

/-- What lies behind the first place is taken to be in order. -/
private lemma Unwinds.inOrder (u : Unwinds h place ss r p w log)
    (rest : ∀ s ts, ss = s :: ts → ∀ r p w,
      InOrder (place + 1)
        (trail h (place + 1) ts r p w).log ((runStages ts (finish h) r).halt p w)) :
    InOrder place log ((runStages ss (finish h) r).halt p w) := by
  cases u with
  | skipped hw => exact ⟨rfl, List.nil_prefix, ⟨[.skip place w], [], rfl, rfl, rfl⟩,
    fun _ _ _ _ => rfl⟩
  | last hw none =>
    refine ⟨by simp, ?_, ⟨[.enter place r w], closing place _, rfl, rfl, startsOf_closing _ _⟩,
      fun b p' w' e => ?_⟩
    · simpa using answersOf_closing place _
    · rw [e]
      rfl
  | @around s ss _ _ _ r₁ after p₁ w₁ hw e =>
    have inner := rest s ss rfl r₁ p₁ w₁
    have through (b : Response) (p' : Plan) (w' : World)
        (e' : (runStages (s :: ss) (finish h) r).halt p w = .finished b p' w') :
        answersOf (trail h (place + 1) ss r₁ p₁ w₁).log =
          (startsOf (trail h (place + 1) ss r₁ p₁ w₁).log).reverse := by
      rw [halt_stage_of_forward hw e] at e'
      obtain ⟨b₁, p₂, w₂, finished, -⟩ := Halt.finished_of_bind e'
      exact inner.unwound b₁ p₂ w₂ finished
    refine ⟨?_, ?_, ?_, fun b p' w' e' => ?_⟩
    · simp only [startsOf_enter, startsOf_append, startsOf_closing, List.append_nil,
        List.length_cons, List.range'_succ, ← inner.starts]
    · simp only [startsOf_enter, startsOf_append, startsOf_closing, List.append_nil,
        answersOf_enter, answersOf_append, List.reverse_cons]
      cases x : (runStages (s :: ss) (finish h) r).halt p w with
      | finished b p' w' =>
        rw [through b p' w' x]
        exact List.prefix_rfl
      | dropped w' => exact (List.append_nil _).symm ▸ inner.answers.trans (List.prefix_append _ _)
      | stuck w' => exact (List.append_nil _).symm ▸ inner.answers.trans (List.prefix_append _ _)
    · obtain ⟨before, after', parts, none_before, none_after⟩ := inner.parted
      refine ⟨.enter place r w :: before,
        after' ++ closing place ((runStages (s :: ss) (finish h) r).halt p w), ?_, none_before, ?_⟩
      · rw [parts, List.cons_append, List.append_assoc]
      · simp [none_after]
    · simp only [startsOf_enter, startsOf_append, startsOf_closing, List.append_nil,
        answersOf_enter, answersOf_append, List.reverse_cons]
      rw [through b p' w' e', e']
      rfl

/-- The answers of a chain come in the reverse order of its starts. -/
lemma inOrder_trail :
    InOrder place (trail h place ss r p w).log ((runStages ss (finish h) r).halt p w) := by
  induction ss generalizing place r p w with
  | nil => exact (unwinds h place [] r p w).inOrder nofun
  | cons s ss ih =>
    apply (unwinds h place (s :: ss) r p w).inOrder
    intro _ _ same r p w
    cases same
    exact ih

end

/-- What lies behind a place of a chain, with the handler at the end. -/
def behind (h : Handler) (fs : List Stage) (i : Nat) : Inside Request Response :=
  runStages (fs.drop i) (finish h)

/-- After the signal what lies behind a place answers that the request was cancelled. -/
lemma behind_of_fired {h : Handler} {fs : List Stage} {i : Nat} {r : Request} {p : Plan} {w : World}
    (hw : w.fired = true) : (behind h fs i r).halt p w = .finished .cancelled p w := by
  obtain ⟨g, e⟩ := (looksFirst_finish h).runStages (fs.drop i)
  rw [behind, e, halt_proceed, if_pos hw]

/-- The run of a chain under a signal that may be fired at any time. -/
structure HeedsSignal (h : Handler) (fs : List Stage) (r : Request) (p : Plan) (w : World)
    (log : List Moment) (x : Halt Response) : Prop where
  order : InOrder 0 log x
  /--
  A stage or the handler is started if and only if the chain comes to it with the signal not fired.
  -/
  started : ∀ i r' w', .enter i r' w' ∈ log ↔ w'.fired = false ∧ ∃ p', Arrives fs r p w i r' p' w'
  /--
  It is left out if and only if the chain comes to it with the signal fired; the answer is then
  given at once.
  -/
  skipped : ∀ i w', .skip i w' ∈ log ↔ w'.fired = true ∧ ∃ r' p', Arrives fs r p w i r' p' w'
  atOnce : ∀ i r' p' w', Arrives fs r p w i r' p' w' → w'.fired = true →
    (behind h fs i r').halt p' w' = .finished .cancelled p' w'
  /-- Once a stage comes to a fired signal nothing behind it is started. -/
  silent : (∀ s ∈ fs, s.enter.Proper) → p.Calm → ∀ i s r' p' w' t v p₁,
    Arrives fs r p w i r' p' w' →
    w'.fired = false → fs[i]? = some s → Task.Leads (s.enter r') p' w' t p₁ v → v.fired = true →
    ∀ j r₂ w₂, .enter j r₂ w₂ ∈ log → j ≤ i
  /--
  The handler keeps its own answer unless it hears the signal at a wait, where it is given up.
  -/
  handler : ∀ r' p' w', Arrives fs r p w fs.length r' p' w' → w'.fired = false → ∀ b p₁ v,
    (behind h fs fs.length r').halt p' w' = .finished b p₁ v ↔
      (p₁ = p' ∧ Task.Reaches p' (h r') w' (.done b) v) ∨
        (b = .cancelled ∧ ∃ t ms v', Task.Reaches p' (h r') w' t v' ∧ t.Waits ms ∧
          p'.Hears v' ms p₁ v)
  /--
  A stage that is started answers by itself, or does its part on the way out once with the answer
  from inside.
  -/
  replies : ∀ i s r' p' w' b p₁ w₁, Arrives fs r p w i r' p' w' → w'.fired = false →
    fs[i]? = some s →
    (s.enter r').halt p' w' = .finished (.reply b) p₁ w₁ → (behind h fs i r').halt p' w' =
      .finished b p₁ w₁
  unwinds : ∀ i s r' p' w' r₁ after p₁ w₁, Arrives fs r p w i r' p' w' → w'.fired = false →
    fs[i]? = some s →
    (s.enter r').halt p' w' = .finished (.forward r₁ after) p₁ w₁ →
    (behind h fs i r').halt p' w' = ((behind h fs (i + 1) r₁).halt p₁ w₁).bind fun b p w =>
      (after b).halt p w
  answered : ∀ i b v, .leave i b v ∈ log ↔ ∃ r' p' w' p₁, Arrives fs r p w i r' p' w' ∧
    w'.fired = false ∧
    (behind h fs i r').halt p' w' = .finished b p₁ v

section

variable {h : Handler} {fs : List Stage} {r : Request} {p : Plan} {w : World}

/-- The places that are started are those to which the chain comes before the signal. -/
lemma enter_mem_trail_iff {i : Nat} {r' : Request} {w' : World} :
    .enter i r' w' ∈ (trail h 0 fs r p w).log ↔ w'.fired = false ∧
    ∃ p', Arrives fs r p w i r' p' w' := by
  rw [mem_trail_iff]
  constructor
  · rintro ⟨j, r₁, p₁, w₁, a, happens⟩
    rw [Nat.zero_add] at happens
    cases happens with
    | started hw => exact ⟨hw, p₁, a⟩
  · rintro ⟨hw, p', a⟩
    refine ⟨i, r', p', w', a, ?_⟩
    rw [Nat.zero_add]
    exact .started hw

/-- The places that are skipped are those to which the chain comes after the signal. -/
lemma skip_mem_trail_iff {i : Nat} {w' : World} :
    .skip i w' ∈ (trail h 0 fs r p w).log ↔ w'.fired = true ∧
    ∃ r' p', Arrives fs r p w i r' p' w' := by
  rw [mem_trail_iff]
  constructor
  · rintro ⟨j, r₁, p₁, w₁, a, happens⟩
    rw [Nat.zero_add] at happens
    cases happens with
    | skipped hw => exact ⟨hw, r₁, p₁, a⟩
  · rintro ⟨hw, r', p', a⟩
    refine ⟨i, r', p', w', a, ?_⟩
    rw [Nat.zero_add]
    exact .skipped hw

/-- The places that answer are those that are started and behind which the run ends. -/
lemma leave_mem_trail_iff {i : Nat} {b : Response} {v : World} :
    .leave i b v ∈ (trail h 0 fs r p w).log ↔ ∃ r' p' w' p₁, Arrives fs r p w i r' p' w' ∧
    w'.fired = false ∧
      (behind h fs i r').halt p' w' = .finished b p₁ v := by
  rw [mem_trail_iff]
  constructor
  · rintro ⟨j, r₁, p₁, w₁, a, happens⟩
    rw [Nat.zero_add] at happens
    cases happens with
    | answered hw e => exact ⟨r₁, p₁, w₁, _, a, hw, e⟩
  · rintro ⟨r', p', w', p₁, a, hw, e⟩
    refine ⟨i, r', p', w', a, ?_⟩
    rw [Nat.zero_add]
    exact .answered hw e

/-- A stage during which the signal is fired is the last one that is started. -/
lemma place_le_of_fired (proper : ∀ s ∈ fs, s.enter.Proper) {i j : Nat} {s : Stage}
    {r' r₂ : Request} {p' p₁ p₂ : Plan} {w' w₂ v : World} {t : Run (Verdict Request Response)}
    (a : Arrives fs r p w i r' p' w') (calm : p'.Calm) (at_ : fs[i]? = some s)
    (l : Task.Leads (s.enter r') p' w' t p₁ v) (hv : v.fired = true)
    (b : Arrives fs r p w j r₂ p₂ w₂) (hw₂ : w₂.fired = false) : j ≤ i := by
  rcases Nat.lt_or_ge i j with lt | ge
  · obtain ⟨s', r₃, after, p₃, w₃, at_', e, b'⟩ := a.through b lt
    rw [at_] at at_'
    cases at_'
    -- the run goes on from the state with the signal fired, and the signal stays fired
    have good := proper s (List.mem_of_getElem? at_)
    obtain ⟨good', -, leaves⟩ := (good r').leads l calm
    rw [l.halt] at e
    have fired := (good'.of_finished (leaves.calm calm) e).1.fired hv
    obtain ⟨-, same⟩ := b'.of_fired fired
    rw [same, fired] at hw₂
    cases hw₂
  · exact ge

/-- A plan stays calm on the way to every place. -/
lemma Arrives.calm (proper : ∀ s ∈ fs, s.enter.Proper) (calm : p.Calm) {i : Nat} {r' : Request}
    {p' : Plan} {w' : World} (a : Arrives fs r p w i r' p' w') : p'.Calm := by
  induction a with
  | here => exact calm
  | next _ e _ ih =>
    have leaves := ((proper _ List.mem_cons_self _).of_finished calm e).2
    exact ih (fun s hs => proper s (List.mem_cons_of_mem _ hs)) (leaves.calm calm)

end

/--
A chain of any stages, however deep its chains are nested, heeds a signal that is fired at any time.
-/
theorem Chain.process_heedsSignal (c : Chain) (fs : List Stage) (h : Handler) (r : Request)
    (p : Plan) (w : World) (u : Unfolds c.stages fs) :
    ((⟨c.stages, h⟩ : Chain).process r).run p w = (trail h 0 fs r p w).halt.outcome ∧
      (c.asStage.enter.around (finish h) r).run p w = (trail h 0 fs r p w).halt.outcome ∧
      HeedsSignal h fs r p w (trail h 0 fs r p w).log (trail h 0 fs r p w).halt := by
  have alike := u.alike (looksFirst_finish h)
  refine ⟨?_, ?_, ?_, fun i r' w' => enter_mem_trail_iff, fun i w' => skip_mem_trail_iff,
    fun i r' p' w' _ hw => behind_of_fired hw, ?silent, ?handler, ?replies, ?unwinds,
    fun i b v => leave_mem_trail_iff⟩
  · rw [Chain.process, Task.run_eq, alike, halt_trail]
  · rw [asStage_around, Task.run_eq, alike, halt_trail]
  · rw [halt_trail]
    exact inOrder_trail
  case silent =>
    intro proper calm i s r' p' w' t v p₁ a _ at_ l hv j r₂ w₂ hm
    obtain ⟨hw₂, p₂, b⟩ := enter_mem_trail_iff.mp hm
    exact place_le_of_fired proper a (a.calm proper calm) at_ l hv b hw₂
  case handler =>
    intro r' p' w' _ hw b p₁ v
    rw [behind, List.drop_length, runStages, finish, halt_proceed, hw, if_neg Bool.false_ne_true]
    exact Task.halt_guard_iff
  case replies =>
    intro i s r' p' w' b p₁ w₁ _ hw at_ e
    obtain ⟨lt, rfl⟩ := List.getElem?_eq_some_iff.mp at_
    rw [behind, List.drop_eq_getElem_cons lt, halt_stage_of_reply hw e]
  case unwinds =>
    intro i s r' p' w' r₁ after p₁ w₁ _ hw at_ e
    obtain ⟨lt, rfl⟩ := List.getElem?_eq_some_iff.mp at_
    rw [behind, List.drop_eq_getElem_cons lt, halt_stage_of_forward hw e, behind]

/-- A stage that waits for ten milliseconds before it passes the request on. -/
def waiting : StageScript := ⟨"waiting", 0, some 10, none, [], [], none, none, false, []⟩

/-- A chain of this stage alone. -/
def single : Chain := ⟨[waiting.toStage], .notFound⟩

/-- A chain of this stage and of the chain as a stage. -/
def layered : Chain := ⟨[waiting.toStage, single.asStage], .notFound⟩

/-- A handler that takes longer than the alarm lets it. -/
def slow : Handler := HandlerScript.toHandler ⟨false, false, some 100, .bare .ok⟩

/--
The alarm finds the slow handler behind the layered chain waiting, and all stages still give their
answers.
-/
theorem Chain.process_heedsSignal_slow :
    Unfolds layered.stages [waiting.toStage, waiting.toStage] ∧
    ((⟨layered.stages, slow⟩ : Chain).process Stage.visitor.1).run ⟨some 50, none,
      id⟩ Stage.visitor.2 =
      (trail slow 0 [waiting.toStage, waiting.toStage] Stage.visitor.1 ⟨some 50, none, id⟩
        Stage.visitor.2).halt.outcome ∧
    HeedsSignal slow [waiting.toStage, waiting.toStage] Stage.visitor.1 ⟨some 50, none,
      id⟩ Stage.visitor.2
      (trail slow 0 [waiting.toStage, waiting.toStage] Stage.visitor.1 ⟨some 50, none,
      id⟩ Stage.visitor.2).log
      (trail slow 0 [waiting.toStage, waiting.toStage] Stage.visitor.1 ⟨some 50, none,
      id⟩ Stage.visitor.2).halt ∧
    (trail slow 0 [waiting.toStage, waiting.toStage] Stage.visitor.1 ⟨some 50, none, id⟩
      Stage.visitor.2).log.map Moment.place = [0, 1, 2, 2, 1, 0] ∧
    (trail slow 0 [waiting.toStage, waiting.toStage] Stage.visitor.1 ⟨some 50, none, id⟩
      Stage.visitor.2).halt.outcome.1 = .finished .cancelled := by
  have unfolds : Unfolds layered.stages [waiting.toStage, waiting.toStage] :=
    .stage _ (.chain (.refl single.stages) .nil)
  obtain ⟨run, -, heeds⟩ :=
    Chain.process_heedsSignal layered [waiting.toStage, waiting.toStage] slow Stage.visitor.1
    ⟨some 50, none, id⟩ Stage.visitor.2 unfolds
  exact ⟨unfolds, run, heeds, rfl, rfl⟩

end Gatehouse
