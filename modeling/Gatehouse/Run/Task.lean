/-!
# Tasks

A task is a computation that changes a state and may have to wait.  While it waits it either takes
no notice of the cancellation signal (`wait`) or is replaced by another task as soon as the signal
has fired (`waitOr`); a wait without duration never ends by itself.  Tasks are data: every run of
them is a recursion over the tree, so that running needs no bound and dropping a task is leaving its
tree.

`Task.guard c t` is `t` raced against the signal: wherever `t` waits, the signal makes it give up
with the value `c`.  A task that never waits keeps its own value, even if it fires the signal
itself.
-/

namespace Gatehouse

/-- A computation over states `σ` with a value of type `α`. -/
inductive Task (σ : Type) (α : Type) where
  | done (a : α)
  /-- Changes the state and goes on, depending on the state as it was before. -/
  | act (change : σ → σ) (next : σ → Task σ α)
  /-- Waits for the given number of milliseconds, or for ever. -/
  | wait (ms : Option Nat) (next : Task σ α)
  /-- Waits likewise, but goes on with `cancelled` once the signal has fired. -/
  | waitOr (ms : Option Nat) (next cancelled : Task σ α)

namespace Task

variable {σ α β γ : Type}

/-- Runs a task and then the task made of its value. -/
def bind : Task σ α → (α → Task σ β) → Task σ β
  | done a, f => f a
  | act change next, f => act change fun s => (next s).bind f
  | wait ms next, f => wait ms (next.bind f)
  | waitOr ms next c, f => waitOr ms (next.bind f) (c.bind f)

instance : Monad (Task σ) where
  pure := done
  bind := bind

/-- The part of the state that `f` reads. -/
def read (f : σ → α) : Task σ α := act id fun s => done (f s)

/-- Changes the state. -/
def modify (f : σ → σ) : Task σ Unit := act f fun _ => done ()

/-- Changes the state and has a value from the state as it was before. -/
def modifyGet (f : σ → α × σ) : Task σ α := act (fun s => (f s).2) fun s => done (f s).1

/-- Waits; no time at all is no wait. -/
def sleep : Nat → Task σ Unit
  | 0 => done ()
  | ms + 1 => wait (some (ms + 1)) (done ())

/-- Waits for ever. -/
def hang : Task σ Unit := wait none (done ())

/-- Waits if a duration is given. -/
def sleepIf : Option Nat → Task σ Unit
  | none => done ()
  | some ms => sleep ms

/-- A task that gives up with `c` when the signal fires while it waits. -/
def guard (c : α) : Task σ α → Task σ α
  | done a => done a
  | act change next => act change fun s => guard c (next s)
  | wait ms next => waitOr ms (guard c next) (done c)
  | waitOr ms next _ => waitOr ms (guard c next) (done c)

/-- Nothing is added by handing on the value. -/
@[simp]
theorem bind_done (t : Task σ α) : t.bind done = t := by
  induction t with
  | done a => rfl
  | act change next ih => simp only [bind, ih]
  | wait ms next ih => simp only [bind, ih]
  | waitOr ms next c ih ihc => simp only [bind, ih, ihc]

/-- Of three tasks in a row the first two or the last two may be taken together. -/
theorem bind_assoc (t : Task σ α) (f : α → Task σ β) (g : β → Task σ γ) :
    (t.bind f).bind g = t.bind fun a => (f a).bind g := by
  induction t with
  | done a => rfl
  | act change next ih => simp only [bind, ih]
  | wait ms next ih => simp only [bind, ih]
  | waitOr ms next c ih ihc => simp only [bind, ih, ihc]

/-- The arrow of tasks is their `bind`. -/
theorem bind_eq (t : Task σ α) (f : α → Task σ β) : t >>= f = t.bind f := rfl

instance : LawfulMonad (Task σ) :=
  LawfulMonad.mk' (Task σ) (fun t => bind_done t) (fun _ _ => rfl) bind_assoc

end Task

end Gatehouse
