import Gatehouse.Run.Event
import Gatehouse.Run.Task

/-!
# The state of a run

What the computations of one request share: the request's context (its id, the name of its chain,
its cancellation signal), all stores, the running time, the supply of fresh ids, and the events so
far.
-/

namespace Gatehouse

/-- The state that tasks read and change. -/
structure World where
  requestId : Uuid
  chain : Option String
  /-- Whether the cancellation signal has fired. -/
  fired : Bool
  stores : Stores Value
  /-- Milliseconds of running time. -/
  clock : Nat
  /-- The fresh ids in the order in which they are drawn. -/
  ids : Nat → Uuid
  /-- How many fresh ids were drawn. -/
  drawn : Nat
  trace : List Event

namespace World

/-- The state before anything ran, with the given supply of ids; no id is drawn yet. -/
def start (ids : Nat → Uuid) : World := ⟨ids 0, none, false, .empty, 0, ids, 0, []⟩

/-- Adds an event. -/
def emit (w : World) (e : Event) : World := { w with trace := w.trace ++ [e] }

/-- Adds a log record. -/
def log (w : World) (level : LogLevel) (message : String) (fields : List (String × LogField)) :
    World :=
  w.emit (.log ⟨level, message, fields⟩)

/-- Adds a change of a metric. -/
def count (w : World) (m : Metric) : World := w.emit (.metric m)

/-- Fires the cancellation signal. -/
def fire (w : World) : World := { w with fired := true }

/-- The next fresh id and the state after drawing it. -/
def draw (w : World) : Uuid × World := (w.ids w.drawn, { w with drawn := w.drawn + 1 })

/-- A new store and the state that holds it. -/
def newStore (w : World) : StoreId × World :=
  let (i, s) := w.stores.create
  (i, { w with stores := s })

/--
A context of its own for the next request: a fresh id, no chain, and a signal that has not fired.
-/
def newContext (w : World) : World :=
  let (id, w) := w.draw
  { w with requestId := id, chain := none, fired := false }

/-- The name of the chain as it stands in logs. -/
def chainText (w : World) : String := w.chain.getD "-"

end World

/-- A computation for a request. -/
abbrev Run := Task World

namespace Run

/-- Adds an event. -/
def emit (e : Event) : Run Unit := Task.modify fun w => w.emit e

/-- Adds a mark. -/
def mark (place : String) : Run Unit := emit (.mark place)

/-- Fires the cancellation signal. -/
def cancel : Run Unit := Task.modify World.fire

/-- Whether the cancellation signal has fired. -/
def isCancelled : Run Bool := Task.read World.fired

/-- Draws a fresh id. -/
def freshId : Run Uuid := Task.modifyGet World.draw

/-- Puts a value into a store. -/
def store (i : StoreId) (key : String) (v : Value) : Run Unit :=
  Task.modify fun w => { w with stores := w.stores.set i key v }

/-- Puts several values into a store, one after the other. -/
def storeAll (i : StoreId) (items : List (String × Value)) : Run Unit :=
  Task.modify fun w => { w with stores := w.stores.setAll i items }

end Run

end Gatehouse
