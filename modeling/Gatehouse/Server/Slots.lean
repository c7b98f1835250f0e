import Gatehouse.Run.Signal

/-!
# Connection slots

A server counts its open connections and refuses those beyond a limit.  Each slot is given back
once. Who waits for the last connection to close is woken when the count comes to zero, looks at the
count again, and waits on if a new connection was opened meanwhile.
-/

namespace Gatehouse

/-- The open connections. -/
structure Slots where
  limit : Option Nat
  /-- The number of slots that are taken. -/
  active : Nat
  /-- How often the count came to zero, which wakes everyone who waits. -/
  wakes : Nat
deriving DecidableEq, Repr

namespace Slots

/-- No connection is open. -/
def start (limit : Option Nat) : Slots := ⟨limit, 0, 0⟩

/-- Whether the limit is reached. -/
def isFull (s : Slots) : Bool :=
  match s.limit with
  | some l => l ≤ s.active
  | none => false

/-- Takes a slot unless the limit is reached. -/
def acquire? (s : Slots) : Option Slots :=
  if s.isFull then none else some { s with active := s.active + 1 }

/-- Gives a slot back. -/
def release (s : Slots) : Slots :=
  { s with active := s.active - 1, wakes := if s.active = 1 then s.wakes + 1 else s.wakes }

/-- Looks at the count: ready at zero, otherwise the number of wakes is noted. -/
def look (s : Slots) : PollResult × Waiter :=
  if s.active = 0 then (.ready, .finished) else (.pending, .waiting s.wakes)

/-- Polls someone who waits for the last connection to close. -/
def poll (s : Slots) : Waiter → PollResult × Waiter
  | .created => s.look
  | .waiting seen => if s.wakes = seen then (.pending, .waiting seen) else s.look
  | .finished => (.done, .finished)

end Slots

/-- Slots with named tokens, one for each slot that is taken, and named waiters. -/
structure SlotTable where
  slots : Slots
  tokens : List String
  waiters : List (String × Waiter)
deriving DecidableEq, Repr

namespace SlotTable

/-- No token and no waiter. -/
def start (limit : Option Nat) : SlotTable := ⟨.start limit, [], []⟩

/-- Drops the token of a name, if there is one. -/
def drop (t : SlotTable) (name : String) : Bool × SlotTable :=
  if t.tokens.contains name then
    (true, { t with slots := t.slots.release, tokens := t.tokens.erase name })
  else (false, t)

/-- Takes a slot under a name; a token that had the name is dropped afterwards. -/
def acquire (t : SlotTable) (name : String) : Bool × SlotTable :=
  match t.slots.acquire? with
  | none => (false, t)
  | some s =>
    let t := { t with slots := s }
    let t := if t.tokens.contains name then { t with slots := t.slots.release } else
      { t with tokens := name :: t.tokens }
    (true, t)

/-- A new waiter, in place of one of the same name. -/
def await (t : SlotTable) (waiter : String) : SlotTable :=
  { t with waiters := (waiter, .created) :: t.waiters }

/-- Polls a waiter; there is no result for a name without one. -/
def poll (t : SlotTable) (waiter : String) : Option PollResult × SlotTable :=
  match t.waiters.lookup waiter with
  | none => (none, t)
  | some w =>
    let (r, w') := t.slots.poll w
    (some r, { t with waiters := (waiter, w') :: t.waiters })

end SlotTable

end Gatehouse
