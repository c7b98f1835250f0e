import Gatehouse.Proofs.Run.Timing

/-!
# Runs that only add to the log

`World.after` puts events before those of a state.  A task that adds events and reads none
(`Task.Appends`) does the same from either state: its halt from a state with more events is its halt
with these events put before (`Task.Appends.halt_after`).  So for such a task it makes no difference
what else was logged.
-/

namespace Gatehouse

variable {α β : Type}

/-- The state with events before its own. -/
def World.after (w : World) (es : List Event) : World := { w with trace := es ++ w.trace }

namespace World

/-- No events before its own leave a state as it is. -/
@[simp]
lemma after_nil (w : World) : w.after [] = w := rfl

/-- Events before its own do not change the time of a state. -/
@[simp]
lemma after_clock (w : World) (es : List Event) : (w.after es).clock = w.clock := rfl

/-- Events before its own do not change the signal of a state. -/
@[simp]
lemma after_fired (w : World) (es : List Event) : (w.after es).fired = w.fired := rfl

/-- An event is added behind those that come before. -/
lemma after_emit (w : World) (e : Event) (es : List Event) :
    (w.after es).emit e = (w.emit e).after es :=
  congrArg (fun t => { w with trace := t }) (List.append_assoc es w.trace [e])

/-- A state has its events after none. -/
lemma after_trace (w : World) : { w with trace := [] }.after w.trace = w := by
  rw [after, List.append_nil]

end World

/-- The alarm reads no events. -/
def Plan.Appends (p : Plan) : Prop := ∀ w es, p.onAlarm (w.after es) = (p.onAlarm w).after es

namespace Passage

/-- The end of a wait with events before its own. -/
def after (es : List Event) : Passage → Passage
  | woke p w => woke p (w.after es)
  | called p w => called p (w.after es)
  | dropped w => dropped (w.after es)
  | stuck w => stuck (w.after es)

/-- What is left of the plan reads no events. -/
def Appends : Passage → Prop
  | woke p _ => p.Appends
  | called p _ => p.Appends
  | dropped _ => True
  | stuck _ => True

end Passage

namespace Halt

/-- The end of a run with events before its own. -/
def after (es : List Event) : Halt α → Halt α
  | finished a p w => finished a p (w.after es)
  | dropped w => dropped (w.after es)
  | stuck w => stuck (w.after es)

/-- The value is good, and what is left of the plan reads no events. -/
def Appends (good : α → Prop) : Halt α → Prop
  | finished a p _ => good a ∧ p.Appends
  | dropped _ => True
  | stuck _ => True

/-- No events before its own leave the end of a run as it is. -/
@[simp]
lemma after_nil (x : Halt α) : x.after [] = x := by cases x <;> rfl

/-- Events before change nothing of the outcome but its events. -/
lemma outcome_after (x : Halt α) (es : List Event) :
    (x.after es).outcome = (x.outcome.1, x.outcome.2.after es) := by
  cases x <;> rfl

/-- Whether events are read does not depend on those that come before. -/
lemma Appends.of_after {good : α → Prop} {x : Halt α} {es : List Event}
    (h : (x.after es).Appends good) :
    x.Appends good := by
  cases x with
  | finished a p w => exact h
  | dropped w => exact trivial
  | stuck w => exact trivial

end Halt

namespace Plan

variable {p : Plan} {w : World} {ms wake : Option Nat} {x : Passage} {es : List Event}

/-- A plan that reads no events reads none after its alarm. -/
lemma Appends.silent (h : p.Appends) : p.silent.Appends := h

/-- An alarm that reads no events rings in the same way behind any. -/
lemma Appends.ring_after (h : p.Appends) (time : Nat) :
    p.ring (w.after es) time = (p.ring w time).after es :=
  congrArg World.fire (h { w with clock := max w.clock time } es)

/-- A wait is the same behind any events. -/
lemma sleepOn_after : p.sleepOn (w.after es) wake = (p.sleepOn w wake).after es := by
  unfold sleepOn
  cases p.limit with
  | some l =>
    dsimp only
    split
    · rfl
    · rfl
  | none => cases wake <;> rfl

/-- A wait during which the alarm may ring is the same behind any events. -/
lemma Appends.pass_after (h : p.Appends) : p.pass (w.after es) ms = (p.pass w ms).after es := by
  unfold pass
  rw [World.after_clock]
  cases p.alarm with
  | some t =>
    dsimp only
    rw [h.ring_after, sleepOn_after, sleepOn_after]
    split
    · rfl
    · rfl
  | none => exact sleepOn_after

/-- A wait that ends with the signal is the same behind any events. -/
lemma Appends.passOr_after (h : p.Appends) :
    p.passOr (w.after es) ms = (p.passOr w ms).after es := by
  unfold passOr
  rw [World.after_clock, World.after_fired]
  dsimp only
  split
  · rfl
  · cases p.alarm with
    | some t =>
      dsimp only
      rw [h.ring_after, sleepOn_after]
      split
      · rfl
      · rfl
    | none => exact sleepOn_after

/-- A wait without signal leaves a plan that reads no events. -/
lemma Appends.sleeps (h : p.Appends) (s : Sleeps p w wake x) : x.Appends := by
  cases s with
  | cut _ _ => exact trivial
  | passed _ _ => exact h
  | endless _ _ => exact trivial

/-- A wait during which the alarm may ring leaves a plan that reads no events. -/
lemma Appends.passing (h : p.Appends) (s : Passing p w ms x) : x.Appends := by
  cases s with
  | rung _ _ slept => exact h.silent.sleeps slept
  | still _ slept => exact h.sleeps slept

/-- A wait that ends with the signal leaves a plan that reads no events. -/
lemma Appends.passingOr (h : p.Appends) (s : PassingOr p w ms x) : x.Appends := by
  cases s with
  | heard hears =>
    cases hears with
    | before _ => exact h
    | meanwhile _ _ _ => exact h.silent
  | still _ _ slept => exact h.sleeps slept

end Plan

/-- What goes on after a wait is the same behind any events if both ways are. -/
lemma Passage.Appends.resume_after {x : Passage} {es : List Event}
    {next onCall : Plan → World → Halt α} (h : x.Appends)
    (n : ∀ p w, p.Appends → next p (w.after es) = (next p w).after es)
    (c : ∀ p w, p.Appends → onCall p (w.after es) = (onCall p w).after es) :
    (x.after es).resume next onCall = (x.resume next onCall).after es := by
  cases x with
  | woke p w => exact n p w h
  | called p w => exact c p w h
  | dropped w => rfl
  | stuck w => rfl

/-- What goes on after a wait reads no events if both ways read none. -/
lemma Passage.Appends.resume {good : α → Prop} {x : Passage} {next onCall : Plan → World → Halt α}
    (h : x.Appends) (n : ∀ p w, p.Appends → (next p w).Appends good)
    (c : ∀ p w, p.Appends → (onCall p w).Appends good) :
    (x.resume next onCall).Appends good := by
  cases x with
  | woke p w => exact n p w h
  | called p w => exact c p w h
  | dropped w => exact trivial
  | stuck w => exact trivial

namespace Task

variable {good : α → Prop} {ok : β → Prop}

/-- Tasks that add events and read none, and whose values are good. -/
def Appends (good : α → Prop) : Run α → Prop
  | done a => good a
  | act change next => ∀ w,
    (∀ es, change (w.after es) = (change w).after es ∧ next (w.after es) = next w) ∧
    (next w).Appends good
  | wait _ next => next.Appends good
  | waitOr _ next c => next.Appends good ∧ c.Appends good

namespace Appends

variable {t : Run α} {p : Plan} {w : World}

/-- A task reads no events if its parts read none. -/
lemma bind {f : α → Run β} (h : t.Appends good) (hf : ∀ a, good a → (f a).Appends ok) :
    (t >>= f).Appends ok := by
  rw [bind_eq]
  induction t with
  | done a => exact hf a h
  | act change next ih =>
    exact fun w => ⟨fun es => ⟨((h w).1 es).1, congrArg (fun t => Task.bind t f) ((h w).1 es).2⟩,
      ih w (h w).2⟩
  | wait ms next ih => exact ih h
  | waitOr ms next c ih ihc => exact ⟨ih h.1, ihc h.2⟩

/-- A task that may be given up reads no events if it reads none. -/
lemma guard {c : α} (h : t.Appends good) (hc : good c) : (Task.guard c t).Appends good := by
  induction t with
  | done a => exact h
  | act change next ih =>
    exact fun w => ⟨fun es => ⟨((h w).1 es).1, congrArg (Task.guard c) ((h w).1 es).2⟩,
      ih w (h w).2⟩
  | wait ms next ih => exact ⟨ih h, hc⟩
  | waitOr ms next c ih _ => exact ⟨ih h.1, hc⟩

/-- A change reads no events if it is the same behind any. -/
lemma modify {f : World → World} (h : ∀ w es, f (w.after es) = (f w).after es) :
    (Task.modify f).Appends fun _ => True := fun w => ⟨fun es => ⟨h w es, rfl⟩, trivial⟩

/-- A read of something else than the events reads no events. -/
lemma read {f : World → α} (h : ∀ w es, f (w.after es) = f w) :
    (Task.read f).Appends fun _ => True :=
  fun w => ⟨fun es => ⟨rfl, congrArg done (h w es)⟩, trivial⟩

/-- An event that tells of everything but other events may be added. -/
lemma report {f : World → Event} (h : ∀ w es, f (w.after es) = f w) :
    (Task.modify fun w => w.emit (f w)).Appends fun _ => True := by
  refine modify fun w es => ?_
  rw [h, World.after_emit]

/-- A wait reads no events. -/
lemma sleepIf (ms : Option Nat) : (Task.sleepIf ms : Run Unit).Appends fun _ => True := by
  cases ms with
  | none => exact trivial
  | some ms =>
    cases ms with
    | zero => exact trivial
    | succ ms => exact trivial

/-- A task that may be left out reads no events if it reads none. -/
lemma bindIf {c : Prop} [Decidable c] {t : Run Unit} {f : Unit → Run α}
    (ht : t.Appends fun _ => True)
    (hf : ∀ u, (f u).Appends good) : (if c then t >>= f else f ()).Appends good := by
  split
  · exact ht.bind fun u _ => hf u
  · exact hf ()

/-- From a state with more events a run halts as it does without them. -/
lemma halt_after (h : t.Appends good) (hp : p.Appends) (es : List Event) :
    t.halt p (w.after es) = (t.halt p w).after es := by
  -- from both states the task comes to the same tasks, since none of its steps looks at the events
  induction t generalizing p w with
  | done a => rfl
  | act change next ih =>
    rw [halt, halt, ((h w).1 es).1, ((h w).1 es).2]
    exact ih w (h w).2 hp
  | wait ms next ih =>
    rw [halt_wait, halt_wait, hp.pass_after]
    refine (hp.passing (p.passing w ms)).resume_after ?_ ?_ <;>
      exact fun p w hp => ih h hp
  | waitOr ms next c ih ihc =>
    rw [halt_waitOr, halt_waitOr, hp.passOr_after]
    apply (hp.passingOr (p.passingOr w ms)).resume_after
    · exact fun p w hp => ih h.1 hp
    · exact fun p w hp => ihc h.2 hp

/-- A run of a task that reads no events leaves a plan that reads none. -/
lemma halt (h : t.Appends good) (hp : p.Appends) (w : World) : (t.halt p w).Appends good := by
  induction t generalizing p w with
  | done a => exact ⟨h, hp⟩
  | act change next ih => exact ih w (h w).2 hp (change w)
  | wait ms next ih =>
    rw [halt_wait]
    refine (hp.passing (p.passing w ms)).resume ?_ ?_ <;>
      exact fun p w hp => ih h hp w
  | waitOr ms next c ih ihc =>
    rw [halt_waitOr]
    apply (hp.passingOr (p.passingOr w ms)).resume
    · exact fun p w hp => ih h.1 hp w
    · exact fun p w hp => ihc h.2 hp w

/-- A task that reads no events ends with a good value. -/
lemma of_finished (h : t.Appends good) (hp : p.Appends) {a : α} {p' : Plan} {v : World}
    (e : t.halt p w = .finished a p' v) : good a ∧ p'.Appends := by
  have k := h.halt hp w
  rw [e] at k
  exact k

end Appends

end Task

/-- What follows a run goes on alike after more events. -/
lemma Halt.Appends.bind_after {good : α → Prop} {ok : β → Prop} {x : Halt α} {f : α → Run β}
    (h : x.Appends good) (hf : ∀ a, good a → (f a).Appends ok) (es : List Event) :
    (x.after es).bind (fun a p w => (f a).halt p w) =
      (x.bind fun a p w => (f a).halt p w).after es := by
  cases x with
  | finished a p w => exact (hf a h.1).halt_after h.2 es
  | dropped w => rfl
  | stuck w => rfl

end Gatehouse
