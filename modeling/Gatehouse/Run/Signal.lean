/-!
# Signals

A signal fires once and stays fired.  It is a cell with a version that grows when the cell is
written: the cancellation signal of a request writes it each time it is fired, the shutdown signal
only the first time.  Who waits for it subscribes when it is first polled, notes the version it has
seen, and looks at the cell again only when the version has grown.  Handles of one signal share its
cell; `Signals` holds the cells.
-/

namespace Gatehouse

/-- The cell of a signal. -/
structure SignalCell where
  fired : Bool
  version : Nat
deriving DecidableEq, Repr

namespace SignalCell

/-- A signal that has not fired. -/
def fresh : SignalCell := ⟨false, 0⟩

/-- Fires, and writes the cell in any case. -/
def write (c : SignalCell) : SignalCell := ⟨true, c.version + 1⟩

/-- Fires, and writes the cell only if that changes it. -/
def writeOnce (c : SignalCell) : SignalCell := if c.fired then c else ⟨true, c.version + 1⟩

end SignalCell

/-- How far someone has come who waits for a signal. -/
inductive Waiter where
  /-- Not polled yet. -/
  | created
  /-- Subscribed, with the version last seen. -/
  | waiting (seen : Nat)
  | finished
deriving DecidableEq, Repr

/-- What a poll of a waiter gives. -/
inductive PollResult where
  | pending
  | ready
  /-- The waiter was ready before. -/
  | done
deriving DecidableEq, Repr

namespace Waiter

/-- Looks at the cell: ready if it has fired, otherwise its version is noted. -/
def look (c : SignalCell) : PollResult × Waiter :=
  if c.fired then (.ready, .finished) else (.pending, .waiting c.version)

/-- Polls a waiter. -/
def poll (c : SignalCell) : Waiter → PollResult × Waiter
  | created => look c
  | waiting seen => if c.version = seen then (.pending, .waiting seen) else look c
  | finished => (.done, .finished)

end Waiter

/-- The two ways to fire. -/
inductive FireMode where
  | always
  | once
deriving DecidableEq, Repr

/-- Fires a cell in one of the two ways. -/
def FireMode.fire : FireMode → SignalCell → SignalCell
  | always => SignalCell.write
  | once => SignalCell.writeOnce

/-- The cells of signals, the handles by name, and the waiters by name, each with its cell. -/
structure Signals where
  mode : FireMode
  cells : List SignalCell
  handles : List (String × Nat)
  waiters : List (String × Nat × Waiter)
deriving DecidableEq, Repr

namespace Signals

/-- One signal under the handle `main`. -/
def start (mode : FireMode) : Signals := ⟨mode, [.fresh], [("main", 0)], []⟩

/-- The cell of a handle. -/
def cell? (s : Signals) (handle : String) : Option Nat := s.handles.lookup handle

/-- The cell at a place. -/
def cellAt (s : Signals) (i : Nat) : SignalCell := (s.cells[i]?).getD .fresh

/-- A new signal under a handle. -/
def create (s : Signals) (handle : String) : Signals :=
  { s with cells := s.cells ++ [.fresh], handles := (handle, s.cells.length) :: s.handles }

/-- One more handle of a cell. -/
def clone (s : Signals) (i : Nat) (handle : String) : Signals :=
  { s with handles := (handle, i) :: s.handles }

/-- Fires the signal of a cell. -/
def fire (s : Signals) (i : Nat) : Signals :=
  { s with cells := s.cells.set i (s.mode.fire (s.cellAt i)) }

/-- Whether the signal of a cell has fired. -/
def isFired (s : Signals) (i : Nat) : Bool := (s.cellAt i).fired

/-- A new waiter for a cell, in place of one of the same name. -/
def await (s : Signals) (i : Nat) (waiter : String) : Signals :=
  { s with waiters := (waiter, i, .created) :: s.waiters }

/-- Polls a waiter; there is no result for a name without one. -/
def poll (s : Signals) (waiter : String) : Option PollResult × Signals :=
  match s.waiters.lookup waiter with
  | none => (none, s)
  | some (i, w) =>
    let (r, w') := w.poll (s.cellAt i)
    (some r, { s with waiters := (waiter, i, w') :: s.waiters })

/-- The diagnostic form of a cancellation signal. -/
def debug (fired : Bool) : String :=
  "Cancellation \x7b cancelled: " ++ toString fired ++ " \x7d"

end Signals

end Gatehouse
