import Gatehouse.Proofs.Run.Course

/-!
# Time and the signal in a run

`Task.Proper` tasks treat time and the signal as everything that runs does: they do not set the
clock, and they do not take a signal back.  Their runs only go forward (`Task.Proper.forward`).

An alarm or a limit that comes after the end of a run changes nothing of it
(`Task.Proper.halt_of_free`). A run that goes on over its alarm ends with the signal fired
(`Task.Proper.fired_or_free`), and one that would go on over its limit is dropped at the limit
(`Task.Proper.curbed`).  `Task.Proper.timed` puts this together for a plan with an alarm and a
limit.
-/

namespace Gatehouse

variable {α β : Type}

namespace Halt

/-- Whether a run goes forward and leaves what is left of a plan. -/
def Forward (p : Plan) (w : World) : Halt α → Prop
  | finished _ p' w' => Since w w' ∧ p.Leaves p' w'
  | dropped w' => Since w w'
  | stuck w' => Since w w'

/-- A run goes forward from an earlier state too. -/
lemma Forward.trans {p p' : Plan} {w w' : World} {x : Halt α} (s : Since w w') (l : p.Leaves p' w')
    (f : x.Forward p' w') : x.Forward p w := by
  cases x with
  | finished b p₁ w₁ => exact ⟨s.trans f.1, l.trans f.1 f.2⟩
  | dropped w₁ => exact s.trans f
  | stuck w₁ => exact s.trans f

/-- What a limit makes of the end of a run. -/
inductive Curbed (l : Nat) : Halt α → Halt α → Prop where
  | finished {b p w} : w.clock ≤ l → Curbed l (.finished b p w) (.finished b (p.upTo l) w)
  | dropped {x v} : v.clock = l → (∀ b p w, x = .finished b p w → l < w.clock) →
    Curbed l x (.dropped v)

/-- The state after a run that goes forward is not earlier. -/
lemma Forward.since {p : Plan} {w : World} {x : Halt α} (f : x.Forward p w) :
    Since w x.outcome.2 := by
  cases x with
  | finished b p₁ w₁ => exact f.1
  | dropped w₁ => exact f
  | stuck w₁ => exact f

end Halt

namespace Passage

/-- Goes on after a wait. -/
def resume (x : Passage) (next onCall : Plan → World → Halt α) : Halt α :=
  match x with
  | woke p w => next p w
  | called p w => onCall p w
  | dropped w => .dropped w
  | stuck w => .stuck w

/-- What goes on after a wait goes forward if both ways do. -/
lemma Forward.resume {x : Passage} {p : Plan} {w : World} {next onCall : Plan → World → Halt α}
    (f : x.Forward p w) (calm : p.Calm) (n : ∀ p w, p.Calm → (next p w).Forward p w)
    (c : ∀ p w, p.Calm → (onCall p w).Forward p w) : (x.resume next onCall).Forward p w := by
  cases x with
  | woke p' w' => exact (n p' w' (f.2.calm calm)).trans f.1 f.2
  | called p' w' => exact (c p' w' (f.2.calm calm)).trans f.1 f.2
  | dropped w' => exact f
  | stuck w' => exact f

/-- The signal stays fired after a wait. -/
lemma fired_resume {x : Passage} {p : Plan} {w : World} {next onCall : Plan → World → Halt α}
    (fired : x.state.fired = true) (f : x.Forward p w) (calm : p.Calm)
    (n : ∀ p w, p.Calm → (next p w).Forward p w) (c : ∀ p w, p.Calm → (onCall p w).Forward p w) :
    (x.resume next onCall).outcome.2.fired = true := by
  cases x with
  | woke p' w' => exact (n p' w' (f.2.calm calm)).since.fired fired
  | called p' w' => exact (c p' w' (f.2.calm calm)).since.fired fired
  | dropped w' => exact fired
  | stuck w' => exact fired

/-- A limit cuts short what goes on after a wait if it does so on both ways. -/
lemma curbed_resume {x y : Passage} {p : Plan} {w : World} {l : Nat}
    {next onCall : Plan → World → Halt α} (c : Plan.Curbs l x y) (f : x.Forward p w)
    (endless : p.Endless l) (later : ∀ p w, p.Calm → (next p w).Forward p w)
    (n : ∀ p w, p.Endless l → w.clock ≤ l → (next p w).Curbed l (next (p.upTo l) w))
    (o : ∀ p w, p.Endless l → w.clock ≤ l → (onCall p w).Curbed l (onCall (p.upTo l) w)) :
    (x.resume next onCall).Curbed l (y.resume next onCall) := by
  cases c with
  | woke le => exact n _ _ (f.2.endless endless) le
  | called le => exact o _ _ (f.2.endless endless) le
  | @late p' w' _ lt e =>
    refine .dropped e fun b p₁ w₁ e' => ?_
    have since := later p' w' (f.2.calm endless.calm)
    rw [show next p' w' = _ from e'] at since
    exact Nat.lt_of_lt_of_le lt since.1.clock
  | endless e => exact .dropped e nofun

end Passage

namespace Task

variable {good : α → Prop}

/-- A task that waits goes on with the same task, called or not. -/
lemma halt_wait (ms : Option Nat) (next : Run α) (p : Plan) (w : World) :
    (wait ms next).halt p w = (p.pass w ms).resume next.halt next.halt := by
  rw [halt]
  cases p.pass w ms <;> rfl

/-- A task that waits for the signal goes on with one task or the other. -/
lemma halt_waitOr (ms : Option Nat) (next c : Run α) (p : Plan) (w : World) :
    (waitOr ms next c).halt p w = (p.passOr w ms).resume next.halt c.halt := by
  rw [halt]
  cases p.passOr w ms <;> rfl

/-- Tasks that leave the clock alone and take no signal back, and whose values are good. -/
def Proper (good : α → Prop) : Run α → Prop
  | done a => good a
  | act change next =>
    ∀ w, (change w).clock = w.clock ∧ (w.fired = true → (change w).fired = true) ∧
      (next w).Proper good
  | wait _ next => next.Proper good
  | waitOr _ next c => next.Proper good ∧ c.Proper good

/-- A run does not finish by a time. -/
def Outlasts (t : Run α) (p : Plan) (w : World) (time : Nat) : Prop :=
  ∀ b p' v, t.halt p w = .finished b p' v → time < v.clock

/-- How a run ends under a plan whose alarm rings at a time, and that has a limit after that. -/
inductive Timed (t : Run α) (p : Plan) (w : World) (alarm limit : Nat) : Halt α → Prop where
  | inTime {b v} : t.halt .free w = .finished b .free v → v.clock ≤ alarm →
    Timed t p w alarm limit (.finished b (p.upTo limit) v)
  /-- The run goes on after the alarm, and finishes before the limit. -/
  | inGrace {b p' v} : Outlasts t .free w alarm → t.halt p w = .finished b p' v → v.fired = true →
    v.clock ≤ limit →
    Timed t p w alarm limit (.finished b (p'.upTo limit) v)
  | givenUp {v} : Outlasts t .free w alarm → Outlasts t p w limit → v.fired = true →
    v.clock = limit →
    Timed t p w alarm limit (.dropped v)

namespace Proper

variable {t : Run α} {p : Plan} {w : World}

/-- A task is proper if its parts are. -/
lemma bind {ok : β → Prop} {f : α → Run β} (h : t.Proper good)
    (hf : ∀ a, good a → (f a).Proper ok) :
    (t >>= f).Proper ok := by
  rw [bind_eq]
  induction t with
  | done a => exact hf a h
  | act change next ih => exact fun w => ⟨(h w).1, (h w).2.1, ih w (h w).2.2⟩
  | wait ms next ih => exact ih h
  | waitOr ms next c ih ihc => exact ⟨ih h.1, ihc h.2⟩

/-- A task that may be given up is proper if it is. -/
lemma guard {c : α} (h : t.Proper good) (hc : good c) : (Task.guard c t).Proper good := by
  induction t with
  | done a => exact h
  | act change next ih => exact fun w => ⟨(h w).1, (h w).2.1, ih w (h w).2.2⟩
  | wait ms next ih => exact ⟨ih h, hc⟩
  | waitOr ms next c ih _ => exact ⟨ih h.1, hc⟩

/-- A change is proper that sets no clock and takes no signal back. -/
lemma modify {f : World → World} (clock : ∀ w, (f w).clock = w.clock)
    (fired : ∀ w, w.fired = true → (f w).fired = true) : (Task.modify f).Proper fun _ => True :=
  fun w => ⟨clock w, fired w, trivial⟩

/-- A read is proper. -/
lemma read (f : World → α) : (Task.read f).Proper fun _ => True := fun _ => ⟨rfl, id, trivial⟩

/-- A proper change leads to a state that is not earlier. -/
lemma since_act {change : World → World} {next : World → Run α} (h : (act change next).Proper good)
    (w : World) :
    Since w (change w) := ⟨Nat.le_of_eq (h w).1.symm, (h w).2.1⟩

/-- Runs go forward. -/
lemma forward (h : t.Proper good) (calm : p.Calm) : (t.halt p w).Forward p w := by
  induction t generalizing p w with
  | done a => exact ⟨.refl w, .inl rfl⟩
  | act change next ih => exact (ih w (h w).2.2 calm).trans (since_act h w) (.inl rfl)
  | wait ms next ih =>
    rw [halt_wait]
    exact ((p.passing w ms).forward calm).resume calm (fun _ _ => ih h) (fun _ _ => ih h)
  | waitOr ms next c ih ihc =>
    rw [halt_waitOr]
    exact ((p.passingOr w ms).forward calm).resume calm (fun _ _ => ih h.1) (fun _ _ => ihc h.2)

/-- A proper task ends in a state that is not earlier, with what is left of its plan. -/
lemma of_finished (h : t.Proper good) (calm : p.Calm) {b : α} {p' : Plan} {v : World}
    (e : t.halt p w = .finished b p' v) : Since w v ∧ p.Leaves p' v := by
  have f := h.forward calm (w := w)
  rw [e] at f
  exact f

/-- What a run comes to on its way is proper, and not earlier. -/
lemma leads {t' : Run α} {p' : Plan} {w' : World} (l : Leads t p w t' p' w') (h : t.Proper good)
    (calm : p.Calm) : t'.Proper good ∧ Since w w' ∧ p.Leaves p' w' := by
  induction l with
  | here => exact ⟨h, .refl _, .inl rfl⟩
  | act _ ih =>
    obtain ⟨h', since, leaves⟩ := ih (h _).2.2 calm
    exact ⟨h', (since_act h _).trans since, leaves⟩
  | @woke ms next p w p₁ w₁ _ _ _ e _ ih =>
    have f : Passage.Forward p w (.woke p₁ w₁) := e ▸ (p.passing w ms).forward calm
    obtain ⟨h', since, leaves⟩ := ih h (f.2.calm calm)
    exact ⟨h', f.1.trans since, f.2.trans since leaves⟩
  | @wokeOr ms next c p w p₁ w₁ _ _ _ e _ ih =>
    have f : Passage.Forward p w (.woke p₁ w₁) := e ▸ (p.passingOr w ms).forward calm
    obtain ⟨h', since, leaves⟩ := ih h.1 (f.2.calm calm)
    exact ⟨h', f.1.trans since, f.2.trans since leaves⟩
  | @called ms next c p w p₁ w₁ _ _ _ e _ ih =>
    have f : Passage.Forward p w (.called p₁ w₁) := e ▸ (p.passingOr w ms).forward calm
    obtain ⟨h', since, leaves⟩ := ih h.2 (f.2.calm calm)
    exact ⟨h', f.1.trans since, f.2.trans since leaves⟩

/--
What a run that finishes without a plan by some time does, it does under every plan that is still up
to then.
-/
lemma halt_of_free (h : t.Proper good) {b : α} {p' : Plan} {v : World}
    (e : t.halt .free w = .finished b p' v)
    (still : p.StillTo v.clock) : t.halt p w = .finished b p v := by
  induction t generalizing w with
  | done a =>
    cases e
    rfl
  | act change next ih => exact ih w (h w).2.2 e
  | wait ms next ih =>
    cases ms with
    | none => cases e
    | some k =>
      rw [halt_wait, (Plan.stillTo_free _).pass] at e
      have inner : next.Proper good := h
      have later := (inner.of_finished Plan.calm_free e).1
      rw [halt_wait, (still.mono later.clock).pass]
      exact ih h e
  | waitOr ms next c ih ihc =>
    rw [halt_waitOr] at e ⊢
    cases hw : w.fired with
    | true =>
      -- the wait hears the signal at once, whatever the plan
      have call (p : Plan) : p.passOr w ms = .called p w :=
        Plan.passOr_eq_called_iff.mpr (.before hw)
      rw [call] at e ⊢
      exact ihc h.2 e
    | false =>
      cases ms with
      | none =>
        rw [Plan.passOr_of_quiet (Plan.quiet_free _) hw] at e
        cases e
      | some k =>
        rw [(Plan.stillTo_free _).passOr hw] at e
        have later := (of_finished h.1 Plan.calm_free e).1
        rw [(still.mono later.clock).passOr hw]
        exact ih h.1 e

/--
A run ends with the signal fired, or it is over by the alarm's time and runs as without a plan.
-/
lemma fired_or_free (h : t.Proper good) (calm : p.Calm) {time : Nat} (alarm : p.alarm = some time)
    (limit : ∀ l, p.limit = some l → time ≤ l) (le : w.clock ≤ time) :
    (t.halt p w).outcome.2.fired = true ∨
      ∃ b v, t.halt p w = .finished b p v ∧ v.clock ≤ time ∧
      t.halt .free w = .finished b .free v := by
  induction t generalizing w with
  | done a => exact .inr ⟨a, w, rfl, le, rfl⟩
  | act change next ih => exact ih w (h w).2.2 ((h w).1 ▸ le)
  | wait ms next ih =>
    rw [halt_wait]
    rcases Plan.pass_fired_or_over alarm limit w ms with fired | ⟨k, rfl, le', e⟩
    · have inner : next.Proper good := h
      exact .inl (Passage.fired_resume fired ((p.passing w ms).forward calm) calm
        (fun _ _ => inner.forward)
        (fun _ _ => inner.forward))
    · rw [halt_wait, e, (Plan.stillTo_free _).pass]
      exact ih h le'
  | waitOr ms next c ih ihc =>
    rw [halt_waitOr]
    rcases Plan.passOr_fired_or_over alarm limit w ms with fired | ⟨hw, k, rfl, le', e⟩
    · exact .inl (Passage.fired_resume fired ((p.passingOr w ms).forward calm) calm
        (fun _ _ => h.1.forward) (fun _ _ => h.2.forward))
    · rw [halt_waitOr, e, (Plan.stillTo_free _).passOr hw]
      exact ih h.1 le'

/--
A run with a limit is the run without it if that is over by then, and it is dropped at the limit
otherwise.
-/
lemma curbed (h : t.Proper good) {l : Nat} (endless : p.Endless l) (le : w.clock ≤ l) :
    (t.halt p w).Curbed l (t.halt (p.upTo l) w) := by
  induction t generalizing p w with
  | done a => exact .finished le
  | act change next ih => exact ih w (h w).2.2 endless ((h w).1 ▸ le)
  | wait ms next ih =>
    have inner : next.Proper good := h
    rw [halt_wait, halt_wait]
    exact Passage.curbed_resume (endless.pass le ms) ((p.passing w ms).forward endless.calm) endless
      (fun _ _ => inner.forward) (fun _ _ => ih h) (fun _ _ => ih h)
  | waitOr ms next c ih ihc =>
    rw [halt_waitOr, halt_waitOr]
    exact Passage.curbed_resume (endless.passOr le ms) ((p.passingOr w ms).forward endless.calm)
      endless
      (fun _ _ => h.1.forward) (fun _ _ => ih h.1) (fun _ _ => ihc h.2)

/-- How a proper task ends under an alarm and a later limit. -/
lemma timed (h : t.Proper good) {alarm limit : Nat} (endless : p.Endless limit)
    (rings : p.alarm = some alarm)
    (le : w.clock ≤ alarm) : Timed t p w alarm limit (t.halt (p.upTo limit) w) := by
  have before : alarm ≤ limit := endless.alarm alarm rings
  have still : (p.upTo limit).StillTo alarm := by
    refine ⟨fun a e => ?_, fun l e => ?_⟩
    · rw [show (p.upTo limit).alarm = some alarm from rings] at e
      cases e
      exact Nat.le_refl _
    · cases e
      exact before
  -- a run that is late ends with the signal fired, before the limit or at it
  have late (out : Outlasts t .free w alarm) :
      Timed t p w alarm limit (t.halt (p.upTo limit) w) := by
    have c := h.curbed endless (Nat.le_trans le before)
    have fired : (t.halt (p.upTo limit) w).outcome.2.fired = true := by
      rcases h.fired_or_free (p := p.upTo limit) endless.calm rings still.limit le with
        fired | ⟨b, v, -, le', e⟩
      · exact fired
      · exact absurd (out b _ v e) (Nat.not_lt.mpr le')
    generalize t.halt (p.upTo limit) w = y at c fired
    generalize e : t.halt p w = x at c
    cases c with
    | finished le' => exact .inGrace out e fired le'
    | dropped at_ past =>
      exact .givenUp out (fun b p' v e' => past b p' v (e.symm.trans e')) fired at_
  cases e : t.halt .free w with
  | finished b p' v =>
    rcases Nat.lt_or_ge alarm v.clock with lt | ge
    · refine late fun b' p'' v' e' => ?_
      rw [e] at e'
      cases e'
      exact lt
    · have free : p' = .free := by
        rcases (h.of_finished Plan.calm_free e).2 with rfl | ⟨rfl, -⟩ <;> rfl
      cases free
      rw [h.halt_of_free e (still.mono ge)]
      exact .inTime e ge
  | dropped v => exact late fun b p' v' e' => by rw [e] at e'; cases e'
  | stuck v => exact late fun b p' v' e' => by rw [e] at e'; cases e'

end Proper

end Task

end Gatehouse
