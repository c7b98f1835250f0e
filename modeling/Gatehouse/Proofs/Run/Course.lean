import Gatehouse.Proofs.Run.Halt
import Gatehouse.Proofs.Run.Waits

/-!
# The course of a run

`Task.Leads` is what a run comes to on its way; a run that is dropped is left at a wait that it came
to (`Task.leads_of_dropped`).  `Task.Reaches` is what a task comes to that is raced against the
signal, as long as the signal has not fired where the task waits.  A raced task ends in one of two
ways: by itself, or given up where it waits and hears the signal (`Task.halt_guard_iff`).
-/

namespace Gatehouse

variable {α β : Type}

namespace Task

/-- A task that waits, for some time or for ever. -/
inductive Waits : Run α → Option Nat → Prop where
  | wait (ms next) : Waits (.wait ms next) ms
  | waitOr (ms next c) : Waits (.waitOr ms next c) ms

/-- What the run of a task comes to on its way. -/
inductive Leads : Run α → Plan → World → Run α → Plan → World → Prop where
  | here {t p w} : Leads t p w t p w
  | act {change next p w t' p' w'} : Leads (next w) p (change w) t' p' w' →
    Leads (.act change next) p w t' p' w'
  | woke {ms next p w p₁ w₁ t' p' w'} : p.pass w ms = .woke p₁ w₁ → Leads next p₁ w₁ t' p' w' →
    Leads (.wait ms next) p w t' p' w'
  | wokeOr {ms next c p w p₁ w₁ t' p' w'} : p.passOr w ms = .woke p₁ w₁ →
    Leads next p₁ w₁ t' p' w' →
    Leads (.waitOr ms next c) p w t' p' w'
  | called {ms next c p w p₁ w₁ t' p' w'} : p.passOr w ms = .called p₁ w₁ → Leads c p₁ w₁ t' p' w' →
    Leads (.waitOr ms next c) p w t' p' w'

/-- What a task comes to that hears no signal at its waits. -/
inductive Reaches (p : Plan) : Run α → World → Run α → World → Prop where
  | here {t w} : Reaches p t w t w
  | act {change next w t' w'} : Reaches p (next w) (change w) t' w' →
    Reaches p (.act change next) w t' w'
  | woke {ms next w w₁ t' w'} : p.passOr w ms = .woke p w₁ → Reaches p next w₁ t' w' →
    Reaches p (.wait ms next) w t' w'
  | wokeOr {ms next c w w₁ t' w'} : p.passOr w ms = .woke p w₁ → Reaches p next w₁ t' w' →
    Reaches p (.waitOr ms next c) w t' w'

/-- A run goes on from what it comes to. -/
lemma Leads.halt {t t' : Run α} {p p' : Plan} {w w' : World} (l : Leads t p w t' p' w') :
    t.halt p w = t'.halt p' w' := by
  induction l with
  | here => rfl
  | act _ ih => exact ih
  | woke e _ ih => simp only [Task.halt, e, ih]
  | wokeOr e _ ih => simp only [Task.halt, e, ih]
  | called e _ ih => simp only [Task.halt, e, ih]

/-- A task that is left waiting when it is dropped, and the state in which it is dropped. -/
inductive Drops : Run α → Plan → World → World → Prop where
  | wait {ms next p w w'} : p.pass w ms = .dropped w' → Drops (.wait ms next) p w w'
  | waitOr {ms next c p w w'} : p.passOr w ms = .dropped w' → Drops (.waitOr ms next c) p w w'

/--
A run is dropped at a wait, with nothing of its state changed but the time and what the alarm does.
-/
lemma Drops.waits {t : Run α} {p : Plan} {w w' : World} (d : Drops t p w w') :
    (∃ ms, t.Waits ms) ∧
      ((∃ c, w' = { w with clock := c }) ∨ ∃ a c, w' = { p.ring w a with clock := c }) := by
  cases d with
  | @wait ms next _ _ _ e =>
    refine ⟨⟨ms, .wait ms next⟩, ?_⟩
    have c := p.passing w ms
    rw [e] at c
    cases c with
    | rung _ _ s =>
      cases s with
      | cut _ _ => exact .inr ⟨_, _, rfl⟩
    | still _ s =>
      cases s with
      | cut _ _ => exact .inl ⟨_, rfl⟩
  | @waitOr ms next c _ _ _ e =>
    refine ⟨⟨ms, .waitOr ms next c⟩, ?_⟩
    have c := p.passingOr w ms
    rw [e] at c
    cases c with
    | still _ _ s =>
      cases s with
      | cut _ _ => exact .inl ⟨_, rfl⟩

/-- A run that is dropped was waiting then. -/
lemma leads_of_dropped {t : Run α} {p : Plan} {w w' : World} (e : t.halt p w = .dropped w') :
    ∃ t₁ p₁ w₁, Leads t p w t₁ p₁ w₁ ∧ Drops t₁ p₁ w₁ w' := by
  induction t generalizing p w with
  | done a => cases e
  | act change next ih =>
    obtain ⟨t₁, p₁, w₁, l, d⟩ := ih w e
    exact ⟨t₁, p₁, w₁, .act l, d⟩
  | wait ms next ih =>
    rw [halt] at e
    cases x : p.pass w ms with
    | woke p' v =>
      simp only [x] at e
      obtain ⟨t₁, p₁, w₁, l, d⟩ := ih e
      exact ⟨t₁, p₁, w₁, .woke x l, d⟩
    | called p' v =>
      -- a wait that takes no notice of the signal is not called
      have c := p.passing w ms
      rw [x] at c
      cases c with
      | rung _ _ s => cases s
      | still _ s => cases s
    | dropped v =>
      simp only [x] at e
      cases e
      exact ⟨_, p, w, .here, .wait x⟩
    | stuck v => simp only [x] at e; cases e
  | waitOr ms next c ih ihc =>
    rw [halt] at e
    cases x : p.passOr w ms with
    | woke p' v =>
      simp only [x] at e
      obtain ⟨t₁, p₁, w₁, l, d⟩ := ih e
      exact ⟨t₁, p₁, w₁, .wokeOr x l, d⟩
    | called p' v =>
      simp only [x] at e
      obtain ⟨t₁, p₁, w₁, l, d⟩ := ihc e
      exact ⟨t₁, p₁, w₁, .called x l, d⟩
    | dropped v =>
      simp only [x] at e
      cases e
      exact ⟨_, p, w, .here, .waitOr x⟩
    | stuck v => simp only [x] at e; cases e

/-- What may be given up runs on from what it comes to. -/
lemma Reaches.halt_guard {p : Plan} {t t' : Run α} {w w' : World}
    (l : Reaches p t w t' w') (c : α) :
    (guard c t).halt p w = (guard c t').halt p w' := by
  induction l with
  | here => rfl
  | act _ ih => exact ih
  | woke e _ ih => simp only [guard, Task.halt, e, ih]
  | wokeOr e _ ih => simp only [guard, Task.halt, e, ih]

/-- A task that comes to its value goes on with what is made of it. -/
lemma Reaches.bind {p : Plan} {t : Run α} {a : α} {w w' : World} (l : Reaches p t w (.done a) w')
    (f : α → Run β) : Reaches p (t >>= f) w (f a) w' := by
  generalize e : Task.done a = t' at l
  induction l with
  | here =>
    subst e
    exact .here
  | act _ ih => exact .act (ih e)
  | woke x _ ih => exact .woke x (ih e)
  | wokeOr x _ ih => exact .wokeOr x (ih e)

/-- A task that waits is given up when its wait hears the signal. -/
lemma Waits.halt_guard {p p' : Plan} {t : Run α} {ms : Option Nat} {w w' : World} (h : t.Waits ms)
    (hears : p.Hears w ms p' w') (c : α) : (guard c t).halt p w = .finished c p' w' := by
  have e := Plan.passOr_eq_called_iff.mpr hears
  cases h with
  | wait next => simp only [guard, halt, e]
  | waitOr next c' => simp only [guard, halt, e]

/-- A wait in what may be given up is woken or hears the signal. -/
private lemma halt_guard_wait {c : α} {t next : Run α} {p p' : Plan} {w w' : World} {b : α}
    {ms : Option Nat}
    (h : t.Waits ms) (on : ∀ w₁, p.passOr w ms = .woke p w₁ → ∀ t' w',
    Reaches p next w₁ t' w' → Reaches p t w t' w')
    (ih : ∀ w₁, (guard c next).halt p w₁ = .finished b p' w' →
      (p' = p ∧ Reaches p next w₁ (.done b) w') ∨
        (b = c ∧ ∃ t₁ ms w₂, Reaches p next w₁ t₁ w₂ ∧ t₁.Waits ms ∧ p.Hears w₂ ms p' w'))
    (e : (waitOr ms (guard c next) (done c)).halt p w = .finished b p' w') :
    (p' = p ∧ Reaches p t w (.done b) w') ∨
      (b = c ∧ ∃ t₁ ms w₁, Reaches p t w t₁ w₁ ∧ t₁.Waits ms ∧ p.Hears w₁ ms p' w') := by
  rw [halt] at e
  cases x : p.passOr w ms with
  | woke p₁ w₁ =>
    cases Plan.eq_of_passOr_woke x
    simp only [x] at e
    rcases ih w₁ e with ⟨same, l⟩ | ⟨up, t₁, ms₁, w₂, l, waits, hears⟩
    · exact .inl ⟨same, on w₁ x _ _ l⟩
    · exact .inr ⟨up, t₁, ms₁, w₂, on w₁ x _ _ l, waits, hears⟩
  | called p₁ w₁ =>
    simp only [x, halt] at e
    cases e
    exact .inr ⟨rfl, t, ms, w, .here, h, Plan.passOr_eq_called_iff.mp x⟩
  | dropped v => simp only [x] at e; cases e
  | stuck v => simp only [x] at e; cases e

/-- A raced task ends by itself, or it is given up where it hears the signal at a wait. -/
lemma halt_guard_iff {c : α} {t : Run α} {p p' : Plan} {w w' : World} {b : α} :
    (guard c t).halt p w = .finished b p' w' ↔
      (p' = p ∧ Reaches p t w (.done b) w') ∨
        (b = c ∧ ∃ t₁ ms w₁, Reaches p t w t₁ w₁ ∧ t₁.Waits ms ∧ p.Hears w₁ ms p' w') := by
  constructor
  · intro e
    induction t generalizing w with
    | done a =>
      cases e
      exact .inl ⟨rfl, .here⟩
    | act change next ih =>
      rcases ih w e with ⟨same, l⟩ | ⟨up, t₁, ms, w₁, l, rest⟩
      · exact .inl ⟨same, .act l⟩
      · exact .inr ⟨up, t₁, ms, w₁, .act l, rest⟩
    | wait ms next ih =>
      exact halt_guard_wait (.wait ms next) (fun _ x _ _ l => .woke x l) (fun _ => ih) e
    | waitOr ms next c' ih _ =>
      exact halt_guard_wait (.waitOr ms next c') (fun _ x _ _ l => .wokeOr x l) (fun _ => ih) e
  · rintro (⟨rfl, l⟩ | ⟨rfl, t₁, ms, w₁, l, waits, hears⟩)
    · rw [l.halt_guard c]
      rfl
    · rw [l.halt_guard, waits.halt_guard hears]

end Task

end Gatehouse
