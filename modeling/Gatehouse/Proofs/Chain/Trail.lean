import Gatehouse.Proofs.Chain.Nesting

/-!
# What happens while a chain runs

`trail` runs stages in front of a handler and keeps a log of what is started, what is left out
because the signal has fired, and what has given its answer.  Its halt is that of `runStages`
(`halt_trail`).  The log of a chain in two parts either stays within the first part or has the log
of the second part in it once, between the starts and the answers of the stages before it
(`trail_append`).
-/

namespace Gatehouse

/-- What happens at a place of a chain; the handler's place comes after those of the stages. -/
inductive Moment where
  /-- What stands at the place is started. -/
  | enter (place : Nat) (r : Request) (w : World)
  /-- It is not started, for the signal has fired. -/
  | skip (place : Nat) (w : World)
  /-- It gives its answer. -/
  | leave (place : Nat) (b : Response) (w : World)

/-- The place of a moment. -/
def Moment.place : Moment → Nat
  | enter i _ _ => i
  | skip i _ => i
  | leave i _ _ => i

/-- The halt of a run with a log of it. -/
structure Traced (α : Type) where
  log : List Moment
  halt : Halt α

namespace Traced

variable {α β : Type}

/-- A run without a log. -/
def quiet (x : Halt α) : Traced α := ⟨[], x⟩

/-- Goes on with the value of a run, and with its log. -/
def andThen (x : Traced α) (f : α → Plan → World → Traced β) : Traced β :=
  match x.halt with
  | .finished a p w => ⟨x.log ++ (f a p w).log, (f a p w).halt⟩
  | .dropped w => ⟨x.log, .dropped w⟩
  | .stuck w => ⟨x.log, .stuck w⟩

/-- A run at whose end the answer of a place is logged. -/
def answered (x : Traced Response) (place : Nat) : Traced Response :=
  x.andThen fun b p w => ⟨[.leave place b w], .finished b p w⟩

/-- A run goes on as it does without a log. -/
lemma halt_andThen (x : Traced α) (f : α → Plan → World → Traced β) :
    (x.andThen f).halt = x.halt.bind fun a p w => (f a p w).halt := by
  unfold andThen
  cases x.halt with
  | finished a p w => rfl
  | dropped w => rfl
  | stuck w => rfl

/-- Logging the answer changes nothing of the run. -/
lemma halt_answered (x : Traced Response) (place : Nat) : (x.answered place).halt = x.halt := by
  rw [answered, halt_andThen]
  cases x.halt with
  | finished a p w => rfl
  | dropped w => rfl
  | stuck w => rfl

/-- Nothing is added by handing on the value. -/
lemma andThen_quiet (x : Traced α) : (x.andThen fun a p w => .quiet (.finished a p w)) = x := by
  obtain ⟨log, halt⟩ := x
  unfold andThen
  cases halt with
  | finished a p w => simp only [quiet, List.append_nil]
  | dropped w => rfl
  | stuck w => rfl

/-- What goes on without a log adds nothing to it. -/
lemma log_andThen_quiet (x : Traced α) (f : α → Plan → World → Halt β) :
    (x.andThen fun a p w => .quiet (f a p w)).log = x.log := by
  unfold andThen
  cases x.halt with
  | finished a p w => exact List.append_nil _
  | dropped w => rfl
  | stuck w => rfl

/-- Before its answer the log of a run is what it was. -/
lemma log_answered (x : Traced Response) (place : Nat) :
    ∃ rest, (x.answered place).log = x.log ++ rest ∧ ∀ m ∈ rest, ∃ b w, m = .leave place b w := by
  unfold answered andThen
  cases x.halt with
  | finished b p w => exact ⟨_, rfl, fun m hm => ⟨b, w, List.mem_singleton.mp hm⟩⟩
  | dropped w => exact ⟨[], (List.append_nil _).symm, fun m hm => absurd hm List.not_mem_nil⟩
  | stuck w => exact ⟨[], (List.append_nil _).symm, fun m hm => absurd hm List.not_mem_nil⟩

end Traced

/-- Starts what stands at a place, unless the signal has fired. -/
def visit (place : Nat) (r : Request) (x : Plan → World → Traced Response) (p : Plan) (w : World) :
    Traced Response :=
  if w.fired then ⟨[.skip place w], .finished .cancelled p w⟩
  else ⟨.enter place r w :: ((x p w).answered place).log, ((x p w).answered place).halt⟩

/-- Runs stages from a place on, and then the handler. -/
def trail (h : Handler) : Nat → List Stage → Request → Plan → World → Traced Response
  | place, [], r => visit place r fun p w => .quiet (((h r).guard .cancelled).halt p w)
  | place, s :: rest, r => visit place r fun p w =>
    (Traced.quiet ((s.enter r).halt p w)).andThen fun v p w =>
      match v with
      | .reply b => .quiet (.finished b p w)
      | .forward r' after =>
        (trail h (place + 1) rest r' p w).andThen fun b p w => .quiet ((after b).halt p w)

/-- What stands at a place runs, unless the signal has fired. -/
lemma halt_visit (place : Nat) (r : Request) (x : Plan → World → Traced Response) (p : Plan)
    (w : World) :
    (visit place r x p w).halt = if w.fired then .finished .cancelled p w else (x p w).halt := by
  unfold visit
  split
  · rfl
  · exact Traced.halt_answered _ _

/-- The log does not change the run. -/
lemma halt_trail (h : Handler) (place : Nat) (ss : List Stage) (r : Request) (p : Plan)
    (w : World) :
    (trail h place ss r p w).halt = (runStages ss (finish h) r).halt p w := by
  induction ss generalizing place r p w with
  | nil => rw [trail, halt_visit, runStages, finish, halt_proceed]; rfl
  | cons s ss ih =>
    rw [trail, halt_visit, runStages, halt_proceed, halt_around, Traced.halt_andThen]
    congr
    funext v p w
    cases v with
    | reply b => rfl
    | forward r' after =>
      simp only [Traced.halt_andThen, ih]
      rfl

section

variable {h : Handler} {place : Nat} {s : Stage} {ss : List Stage} {r : Request} {p : Plan}
  {w : World}

/-- After the signal the first place is skipped, and nothing else happens. -/
lemma trail_of_fired (hw : w.fired = true) :
    trail h place ss r p w = ⟨[.skip place w], .finished .cancelled p w⟩ := by
  cases ss with
  | nil => rw [trail, visit, if_pos hw]
  | cons s ss => rw [trail, visit, if_pos hw]

/-- The log of the handler: its start and its answer. -/
lemma log_trail_nil (hw : w.fired = false) :
    (trail h place [] r p w).log =
      .enter place r w ::
        ((Traced.quiet (((h r).guard .cancelled).halt p w)).answered place).log := by
  rw [trail, visit, if_neg (by simp [hw])]

/-- A stage that replies is the last one that is started. -/
lemma trail_of_reply (hw : w.fired = false) {b : Response} {p' : Plan} {w' : World}
    (e : (s.enter r).halt p w = .finished (.reply b) p' w') :
    trail h place (s :: ss) r p w = ⟨[.enter place r w, .leave place b w'], .finished b p' w'⟩ := by
  simp [trail, visit, hw, e, Traced.quiet, Traced.andThen, Traced.answered]

/-- A stage that never gets to its verdict is the last one that is started. -/
lemma log_trail_of_unfinished (hw : w.fired = false)
    (e : ∀ v p' w', (s.enter r).halt p w ≠ .finished v p' w') :
    (trail h place (s :: ss) r p w).log = [.enter place r w] := by
  simp only [trail, visit, hw, Bool.false_eq_true, if_false, List.cons.injEq, true_and]
  cases x : (s.enter r).halt p w with
  | finished v p' w' => exact absurd x (e v p' w')
  | dropped w' => rfl
  | stuck w' => rfl

/-- A stage that forwards runs what lies behind it. -/
lemma log_trail_of_forward (hw : w.fired = false) {r' : Request} {after : Response → Run Response}
    {p' : Plan} {w' : World} (e : (s.enter r).halt p w = .finished (.forward r' after) p' w') :
    (trail h place (s :: ss) r p w).log = .enter place r w ::
      (((trail h (place + 1) ss r' p' w').andThen
        fun b p w => .quiet ((after b).halt p w)).answered place).log := by
  simp only [trail, visit, hw, Bool.false_eq_true, if_false, List.cons.injEq, true_and]
  rw [Traced.quiet, Traced.andThen, e]
  rfl

/-- The first moment of a run is the start of its first place. -/
lemma head?_trail (hw : w.fired = false) :
    (trail h place ss r p w).log.head? = some (.enter place r w) := by
  cases ss with
  | nil => simp only [trail, visit, hw, Bool.false_eq_true, if_false, List.head?_cons]
  | cons s ss => simp only [trail, visit, hw, Bool.false_eq_true, if_false, List.head?_cons]

end

/-- All that happens is that the place gives its answer. -/
def AnswersAt (place : Nat) (log : List Moment) : Prop := ∀ m ∈ log, ∃ b w, m = .leave place b w

/-- What can stand in the log of a chain that is run from a place on. -/
inductive Logged (h : Handler) (place : Nat) (r : Request) (w : World) :
    List Stage → List Moment → Prop where
  | skipped {ss} : w.fired = true → Logged h place r w ss [.skip place w]
  /-- Nothing behind the place is reached. -/
  | ended {ss rest} : w.fired = false → AnswersAt place rest →
    Logged h place r w ss (.enter place r w :: rest)
  /-- What lies behind the place runs once. -/
  | passed {s ss r' p' w' rest} : w.fired = false → AnswersAt place rest →
    Logged h place r w (s :: ss) (.enter place r w :: (trail h (place + 1) ss r' p' w').log ++ rest)

/-- Every log holds what can stand in it. -/
lemma logged (h : Handler) (place : Nat) (ss : List Stage) (r : Request) (p : Plan) (w : World) :
    Logged h place r w ss (trail h place ss r p w).log := by
  cases hw : w.fired with
  | true =>
    rw [trail_of_fired hw]
    exact .skipped hw
  | false =>
    cases ss with
    | nil =>
      obtain ⟨rest, e, answers⟩ :=
        (Traced.quiet (((h r).guard .cancelled).halt p w)).log_answered place
      rw [log_trail_nil hw, e]
      exact .ended hw answers
    | cons s ss =>
      cases e : (s.enter r).halt p w with
      | finished v p' w' =>
        cases v with
        | reply b =>
          rw [trail_of_reply hw e]
          exact .ended hw fun m hm => ⟨b, w', List.mem_singleton.mp hm⟩
        | forward r' after =>
          obtain ⟨rest, e', answers⟩ := ((trail h (place + 1) ss r' p' w').andThen
            fun b p w => .quiet ((after b).halt p w)).log_answered place
          rw [log_trail_of_forward hw e, e', Traced.log_andThen_quiet]
          exact .passed hw answers
      | dropped w' =>
        rw [log_trail_of_unfinished hw fun v p' w' f => by rw [e] at f; cases f]
        exact .ended hw fun m hm => absurd hm List.not_mem_nil
      | stuck w' =>
        rw [log_trail_of_unfinished hw fun v p' w' f => by rw [e] at f; cases f]
        exact .ended hw fun m hm => absurd hm List.not_mem_nil

section

variable {h : Handler} {place : Nat} {ss : List Stage} {r r₁ : Request} {p : Plan} {w w₁ : World}

/-- What happens does so at the first place or behind it. -/
lemma Logged.mem {log : List Moment} (l : Logged h place r w ss log) {m : Moment} (hm : m ∈ log) :
    m.place = place ∨ ∃ s rest r' p' w', ss = s :: rest ∧
    m ∈ (trail h (place + 1) rest r' p' w').log := by
  cases l with
  | skipped =>
    cases List.mem_singleton.mp hm
    exact .inl rfl
  | ended _ answers =>
    rcases List.mem_cons.mp hm with rfl | hm
    · exact .inl rfl
    · obtain ⟨b, w, rfl⟩ := answers m hm
      exact .inl rfl
  | passed _ answers =>
    rcases List.mem_append.mp hm with hm | hm
    · rcases List.mem_cons.mp hm with rfl | hm
      · exact .inl rfl
      · exact .inr ⟨_, _, _, _, _, rfl, hm⟩
    · obtain ⟨b, w, rfl⟩ := answers m hm
      exact .inl rfl

/-- Nothing happens at places before the first one or behind the handler. -/
lemma place_of_mem_trail {m : Moment} (hm : m ∈ (trail h place ss r p w).log) :
    place ≤ m.place ∧ m.place ≤ place + ss.length := by
  induction ss generalizing place r p w with
  | nil =>
    rcases (logged h place [] r p w).mem hm with e | ⟨_, _, _, _, _, e, -⟩
    · rw [e]
      exact ⟨Nat.le_refl _, Nat.le_refl _⟩
    · cases e
  | cons s ss ih =>
    rcases (logged h place (s :: ss) r p w).mem hm with e | ⟨_, _, r', p', w', e, hm⟩
    · rw [e]
      exact ⟨Nat.le_refl _, Nat.le_add_right _ _⟩
    · cases e
      obtain ⟨low, high⟩ := ih hm
      rw [List.length_cons]
      omega

/-- What is started first is started once. -/
lemma eq_of_enter_mem (hm : .enter place r₁ w₁ ∈ (trail h place ss r p w).log) :
    r₁ = r ∧ w₁ = w ∧ w.fired = false := by
  have l := logged h place ss r p w
  generalize (trail h place ss r p w).log = log at hm l
  cases l with
  | skipped => cases List.mem_singleton.mp hm
  | ended hw answers =>
    rcases List.mem_cons.mp hm with e | hm
    · cases e
      exact ⟨rfl, rfl, hw⟩
    · obtain ⟨b, w, e⟩ := answers _ hm
      cases e
  | passed hw answers =>
    rcases List.mem_append.mp hm with hm | hm
    · rcases List.mem_cons.mp hm with e | hm
      · cases e
        exact ⟨rfl, rfl, hw⟩
      · -- what lies behind runs at later places only
        obtain ⟨low, -⟩ := place_of_mem_trail hm
        exact absurd low (Nat.not_succ_le_self place)
    · obtain ⟨b, w, e⟩ := answers _ hm
      cases e

end

/-- A log with another one inside of it, between starts and answers at places before a place. -/
def Encloses (place : Nat) (inner log : List Moment) : Prop :=
  ∃ before after, log = before ++ inner ++ after ∧
    (∀ m ∈ before, ∃ i r w, m = .enter i r w ∧ i < place) ∧
    (∀ m ∈ after, ∃ i b w, m = .leave i b w ∧ i < place)

/-- What happens at or behind the place happens inside. -/
lemma Encloses.mem {place : Nat} {inner log : List Moment} (c : Encloses place inner log)
    {m : Moment} (hm : m ∈ log) (hp : place ≤ m.place) : m ∈ inner := by
  obtain ⟨before, after, rfl, starts, answers⟩ := c
  rcases List.mem_append.mp hm with hm | hm
  · rcases List.mem_append.mp hm with hm | hm
    · obtain ⟨i, r, w, rfl, lt⟩ := starts m hm
      exact absurd lt (Nat.not_lt.mpr hp)
    · exact hm
  · obtain ⟨i, b, w, rfl, lt⟩ := answers m hm
    exact absurd lt (Nat.not_lt.mpr hp)

/--
The second part of a chain is never reached, or its log is enclosed in that of the whole chain.
-/
lemma trail_append (h : Handler) (place : Nat) (ss ts : List Stage) (r : Request) (p : Plan)
    (w : World) :
    (∀ m ∈ (trail h place (ss ++ ts) r p w).log, m.place < place + ss.length) ∨
      ∃ r' p' w', Encloses (place + ss.length) (trail h (place + ss.length) ts r' p' w').log
        (trail h place (ss ++ ts) r p w).log := by
  -- each stage of the first part puts its start before the log of the rest, and its answer behind
  -- it
  induction ss generalizing place r p w with
  | nil =>
    exact .inr ⟨r, p, w, [], [], (List.append_nil _).symm, fun m hm => absurd hm List.not_mem_nil,
      fun m hm => absurd hm List.not_mem_nil⟩
  | cons s ss ih =>
    have length : place + (s :: ss).length = place + 1 + ss.length := by
      rw [List.length_cons]; omega
    have here : place < place + 1 + ss.length := by omega
    rw [length, List.cons_append]
    have l := logged h place (s :: (ss ++ ts)) r p w
    generalize (trail h place (s :: (ss ++ ts)) r p w).log = log at l
    cases l with
    | skipped => exact .inl fun m hm => by cases List.mem_singleton.mp hm; exact here
    | ended _ answers =>
      refine .inl fun m hm => ?_
      rcases List.mem_cons.mp hm with rfl | hm
      · exact here
      · obtain ⟨b, w, rfl⟩ := answers m hm
        exact here
    | passed _ answers =>
      rename_i r' p' w' rest _
      rcases ih (place + 1) r' p' w' with short | ⟨r₁, p₁, w₁, before, after, e, starts, leaves⟩
      · refine .inl fun m hm => ?_
        rcases List.mem_append.mp hm with hm | hm
        · rcases List.mem_cons.mp hm with rfl | hm
          · exact here
          · exact short m hm
        · obtain ⟨b, w, rfl⟩ := answers m hm
          exact here
      · refine .inr ⟨r₁, p₁, w₁, .enter place r w :: before, after ++ rest, ?_, ?_, ?_⟩
        · rw [e]
          simp only [List.cons_append, List.append_assoc]
        · intro m hm
          rcases List.mem_cons.mp hm with rfl | hm
          · exact ⟨place, r, w, rfl, here⟩
          · exact starts m hm
        · intro m hm
          rcases List.mem_append.mp hm with hm | hm
          · exact leaves m hm
          · obtain ⟨b, w, rfl⟩ := answers m hm
            exact ⟨place, b, w, rfl, here⟩

end Gatehouse
