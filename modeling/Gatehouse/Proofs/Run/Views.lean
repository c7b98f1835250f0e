import Gatehouse.Proofs.Run.Timing

/-!
# What a run leaves alone

A view is a part of the state.  A task that keeps a view does not change what is seen through it,
and its value is good (`Task.Keeps`).  If nothing that happens from outside is seen through the view
either (`Plan.Spares`), then no run of the task changes it, however the run ends
(`Task.Keeps.halt`).
-/

namespace Gatehouse

variable {α β γ : Type}

/-- Time, the signal and the alarm are not seen through a view. -/
structure Plan.Spares (view : World → γ) (p : Plan) : Prop where
  clock : ∀ (w : World) (c : Nat), view { w with clock := c } = view w
  fire : ∀ w : World, view w.fire = view w
  alarm : ∀ w, view (p.onAlarm w) = view w

/--
Whether something is seen through a view at the end of a wait, and the rest of the plan changes
nothing of it.
-/
def Passage.Keeps (view : World → γ) (seen : γ) : Passage → Prop
  | woke p w => p.Spares view ∧ view w = seen
  | called p w => p.Spares view ∧ view w = seen
  | dropped w => view w = seen
  | stuck w => view w = seen

/--
Whether something is seen through a view at the end of a run, whose value is good if it finishes.
-/
def Halt.Keeps (view : World → γ) (good : α → Prop) (seen : γ) : Halt α → Prop
  | finished a p w => good a ∧ p.Spares view ∧ view w = seen
  | dropped w => view w = seen
  | stuck w => view w = seen

namespace Plan

variable {view : World → γ} {p : Plan} {w : World} {ms wake : Option Nat} {x : Passage}

/-- A plan that spares a view does so after its alarm. -/
lemma Spares.silent (s : p.Spares view) : p.silent.Spares view := ⟨s.clock, s.fire, s.alarm⟩

/-- An alarm that spares a view changes nothing in it. -/
lemma Spares.ring (s : p.Spares view) (w : World) (t : Nat) : view (p.ring w t) = view w := by
  rw [Plan.ring, s.fire, s.alarm, s.clock]

/-- Nothing changes in the view during a wait without signal. -/
lemma Spares.sleeps (s : p.Spares view) (h : Sleeps p w wake x) : x.Keeps view (view w) := by
  cases h with
  | cut _ _ => exact s.clock w _
  | passed _ _ => exact ⟨s, s.clock w _⟩
  | endless _ _ => exact rfl

/-- Nothing changes in the view during a wait in which the alarm may ring. -/
lemma Spares.passing (s : p.Spares view) (h : Passing p w ms x) : x.Keeps view (view w) := by
  cases h with
  | @rung t _ _ _ slept =>
    rw [← s.ring w t]
    exact s.silent.sleeps slept
  | still _ slept => exact s.sleeps slept

/-- Nothing changes in the view during a wait that ends with the signal. -/
lemma Spares.passingOr (s : p.Spares view) (h : PassingOr p w ms x) : x.Keeps view (view w) := by
  cases h with
  | heard hears =>
    cases hears with
    | before _ => exact ⟨s, rfl⟩
    | meanwhile _ _ _ => exact ⟨s.silent, s.ring w _⟩
  | still _ _ slept => exact s.sleeps slept

end Plan

/-- What goes on after a wait keeps a view if both ways do. -/
lemma Passage.Keeps.resume {view : World → γ} {good : α → Prop} {seen : γ} {x : Passage}
    {next onCall : Plan → World → Halt α} (k : x.Keeps view seen)
    (n : ∀ p w, p.Spares view → view w = seen → (next p w).Keeps view good seen)
    (c : ∀ p w, p.Spares view → view w = seen → (onCall p w).Keeps view good seen) :
    (x.resume next onCall).Keeps view good seen := by
  cases x with
  | woke p w => exact n p w k.1 k.2
  | called p w => exact c p w k.1 k.2
  | dropped w => exact k
  | stuck w => exact k

namespace Task

variable {view : World → γ} {good : α → Prop} {ok : β → Prop}

/-- Tasks that leave what is seen through a view alone, and whose values are good. -/
def Keeps (view : World → γ) (good : α → Prop) : Run α → Prop
  | done a => good a
  | act change next => ∀ w, view (change w) = view w ∧ (next w).Keeps view good
  | wait _ next => next.Keeps view good
  | waitOr _ next c => next.Keeps view good ∧ c.Keeps view good

namespace Keeps

variable {t : Run α} {p : Plan} {w : World}

/-- A task keeps a view if its parts do. -/
lemma bind {f : α → Run β} (h : t.Keeps view good) (hf : ∀ a, good a → (f a).Keeps view ok) :
    (t >>= f).Keeps view ok := by
  rw [bind_eq]
  induction t with
  | done a => exact hf a h
  | act change next ih => exact fun w => ⟨(h w).1, ih w (h w).2⟩
  | wait ms next ih => exact ih h
  | waitOr ms next c ih ihc => exact ⟨ih h.1, ihc h.2⟩

/-- A task that may be given up keeps a view if it does. -/
lemma guard {c : α} (h : t.Keeps view good) (hc : good c) : (Task.guard c t).Keeps view good := by
  induction t with
  | done a => exact h
  | act change next ih => exact fun w => ⟨(h w).1, ih w (h w).2⟩
  | wait ms next ih => exact ⟨ih h, hc⟩
  | waitOr ms next c ih _ => exact ⟨ih h.1, hc⟩

/-- A change keeps a view in which it changes nothing. -/
lemma modify {f : World → World} (h : ∀ w, view (f w) = view w) :
    (Task.modify f).Keeps view fun _ => True :=
  fun w => ⟨h w, trivial⟩

/-- A read keeps every view. -/
lemma read (f : World → α) : (Task.read f).Keeps view fun _ => True := fun _ => ⟨rfl, trivial⟩

/-- A wait keeps every view that is spared. -/
lemma sleepIf (ms : Option Nat) : (Task.sleepIf ms : Run Unit).Keeps view fun _ => True := by
  cases ms with
  | none => exact trivial
  | some ms =>
    cases ms with
    | zero => exact trivial
    | succ ms => exact trivial

/-- A run changes nothing that the task and the plan leave alone. -/
lemma halt (h : t.Keeps view good) (s : p.Spares view) : (t.halt p w).Keeps view good (view w) := by
  induction t generalizing p w with
  | done a => exact ⟨h, s, rfl⟩
  | act change next ih =>
    rw [← (h w).1]
    exact ih w (h w).2 s
  | wait ms next ih =>
    rw [halt_wait]
    refine (s.passing (p.passing w ms)).resume ?_ ?_ <;>
      exact fun p w s seen => seen ▸ ih h s
  | waitOr ms next c ih ihc =>
    rw [halt_waitOr]
    apply (s.passingOr (p.passingOr w ms)).resume
    · exact fun p w s seen => seen ▸ ih h.1 s
    · exact fun p w s seen => seen ▸ ihc h.2 s

/-- A task that keeps a view ends with a good value and the same view. -/
lemma of_finished (h : t.Keeps view good) (s : p.Spares view) {a : α} {p' : Plan} {v : World}
    (e : t.halt p w = .finished a p' v) : good a ∧ p'.Spares view ∧ view v = view w := by
  have k := h.halt s (w := w)
  rw [e] at k
  exact k

end Keeps

end Task

namespace Halt.Keeps

variable {view : World → γ} {good : α → Prop} {ok : β → Prop} {seen : γ} {x : Halt α}

/-- The view of the state after a run is the one before. -/
lemma outcome (k : x.Keeps view good seen) : view x.outcome.2 = seen := by
  cases x with
  | finished a p w => exact k.2.2
  | dropped w => exact k
  | stuck w => exact k

/-- A run that goes on keeps a view if what it goes on with does. -/
lemma bind {f : α → Run β} (k : x.Keeps view good seen) (hf : ∀ a, good a → (f a).Keeps view ok) :
    (x.bind fun a p w => (f a).halt p w).Keeps view ok seen := by
  cases x with
  | finished a p w =>
    obtain ⟨ha, s, rfl⟩ := k
    exact (hf a ha).halt s
  | dropped w => exact k
  | stuck w => exact k

end Halt.Keeps

end Gatehouse
