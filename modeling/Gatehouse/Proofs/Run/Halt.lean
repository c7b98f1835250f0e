import Mathlib.Tactic.Lemma
import Gatehouse.Run.Schedule

/-!
# How runs compose

`Task.run` forgets what is left of its plan, so that nothing can be said of it in terms of the parts
of a task.  `Task.halt` is the same run with the rest of the plan: the halt of a sequence is the
halt of its first part followed by the halt of the second one (`Task.halt_bind`), and `Task.run` is
what can be seen of it (`Task.run_eq`).
-/

namespace Gatehouse

variable {α β γ : Type}

/-- How a run ends; if it finishes, some of its plan is left for what follows. -/
inductive Halt (α : Type) where
  | finished (a : α) (p : Plan) (w : World)
  | dropped (w : World)
  | stuck (w : World)

namespace Halt

/-- Goes on with the value of a run that finishes. -/
def bind (x : Halt α) (f : α → Plan → World → Halt β) : Halt β :=
  match x with
  | finished a p w => f a p w
  | dropped w => dropped w
  | stuck w => stuck w

/-- What is seen of the end of a run. -/
def outcome : Halt α → Outcome α × World
  | finished a _ w => (.finished a, w)
  | dropped w => (.dropped, w)
  | stuck w => (.stuck, w)

/-- A run that has finished goes on with its value. -/
@[simp]
lemma bind_finished (a : α) (p : Plan) (w : World) (f : α → Plan → World → Halt β) :
    (finished a p w).bind f = f a p w := rfl

/-- A run that finishes in two parts finishes in both. -/
lemma finished_of_bind {x : Halt α} {f : α → Plan → World → Halt β} {b : β} {p : Plan} {w : World}
    (e : x.bind f = finished b p w) :
    ∃ a p' w', x = finished a p' w' ∧ f a p' w' = finished b p w := by
  cases x with
  | finished a p' w' => exact ⟨a, p', w', rfl, e⟩
  | dropped w' => cases e
  | stuck w' => cases e

end Halt

namespace Task

/-- Runs a task from a state and keeps what is left of the plan. -/
def halt : Run α → Plan → World → Halt α
  | done a, p, w => .finished a p w
  | act change next, p, w => (next w).halt p (change w)
  | wait ms next, p, w =>
    match p.pass w ms with
    | .woke p w => next.halt p w
    | .called p w => next.halt p w
    | .dropped w => .dropped w
    | .stuck w => .stuck w
  | waitOr ms next cancelled, p, w =>
    match p.passOr w ms with
    | .woke p w => next.halt p w
    | .called p w => cancelled.halt p w
    | .dropped w => .dropped w
    | .stuck w => .stuck w

/-- A run is what is seen of its halt. -/
lemma run_eq (t : Run α) (p : Plan) (w : World) : t.run p w = (t.halt p w).outcome := by
  induction t generalizing p w with
  | done a => rfl
  | act change next ih => exact ih w p (change w)
  | wait ms next ih =>
    simp only [run, halt]
    cases p.pass w ms with
    | woke p w => exact ih p w
    | called p w => exact ih p w
    | dropped w => rfl
    | stuck w => rfl
  | waitOr ms next c ih ihc =>
    simp only [run, halt]
    cases p.passOr w ms with
    | woke p w => exact ih p w
    | called p w => exact ihc p w
    | dropped w => rfl
    | stuck w => rfl

/-- The second part of a task runs with what the first one leaves. -/
lemma halt_bind (t : Run α) (f : α → Run β) (p : Plan) (w : World) :
    (t >>= f).halt p w = (t.halt p w).bind fun a p w => (f a).halt p w := by
  rw [bind_eq]
  induction t generalizing p w with
  | done a => rfl
  | act change next ih => exact ih w p (change w)
  | wait ms next ih =>
    simp only [bind, halt]
    cases p.pass w ms with
    | woke p w => exact ih p w
    | called p w => exact ih p w
    | dropped w => rfl
    | stuck w => rfl
  | waitOr ms next c ih ihc =>
    simp only [bind, halt]
    cases p.passOr w ms with
    | woke p w => exact ih p w
    | called p w => exact ihc p w
    | dropped w => rfl
    | stuck w => rfl

/-- A value is a run that has finished. -/
@[simp]
lemma halt_pure (a : α) (p : Plan) (w : World) : (pure a : Run α).halt p w = .finished a p w := rfl

/-- A read finishes at once. -/
@[simp]
lemma halt_read (f : World → α) (p : Plan) (w : World) :
    (read f : Run α).halt p w = .finished (f w) p w := rfl

/-- A read is not given up. -/
lemma guard_read_bind (c : β) (f : World → α) (k : α → Run β) :
    guard c (read f >>= k) = read f >>= fun a => guard c (k a) := rfl

end Task

end Gatehouse
