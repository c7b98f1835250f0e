import Gatehouse.Run.World

/-!
# Running tasks

Running moves the clock from wait to wait.  A plan says what happens from outside meanwhile: at the
alarm's time the cancellation signal is fired, and at the limit's time the task is dropped, wherever
either finds it waiting.  A wait that ends at the very time of the alarm or of the limit has ended.
`Task.run` needs no bound, for it recurses over the task.
-/

namespace Gatehouse

/-- What happens to a task from outside. -/
structure Plan where
  /-- The time at which the signal is fired. -/
  alarm : Option Nat
  /-- The time at which the task is dropped. -/
  limit : Option Nat
  /-- What else the alarm does, before the signal is fired. -/
  onAlarm : World → World

namespace Plan

/-- Nothing happens from outside. -/
def free : Plan := ⟨none, none, id⟩

/-- The task is dropped after some time, and the signal is not fired. -/
def within (limit : Nat) : Plan := ⟨none, some limit, id⟩

/-- The plan once its alarm is past. -/
def silent (p : Plan) : Plan := { p with alarm := none }

end Plan

/-- How a run ends. -/
inductive Outcome (α : Type) where
  | finished (a : α)
  /-- The task was dropped at its limit. -/
  | dropped
  /-- The task waits for ever and nothing drops it. -/
  | stuck
deriving DecidableEq

/-- How a wait ends. -/
inductive Passage where
  /-- The duration is over. -/
  | woke (p : Plan) (w : World)
  /-- The signal was fired while the task waited for it, too. -/
  | called (p : Plan) (w : World)
  | dropped (w : World)
  | stuck (w : World)

/-- Whether a time comes before the end of a wait; a wait without end is after every time. -/
def isBefore (time : Nat) : Option Nat → Bool
  | none => true
  | some wake => time < wake

namespace Plan

/-- The rest of a wait that nothing but the limit can cut off. -/
def sleepOn (p : Plan) (w : World) (wake : Option Nat) : Passage :=
  match p.limit with
  | some l => if isBefore l wake then .dropped { w with clock := max w.clock l } else
      .woke p { w with clock := wake.getD w.clock }
  | none =>
    match wake with
    | some t => .woke p { w with clock := t }
    | none => .stuck w

/-- The state at the alarm: its time has come and the signal is fired. -/
def ring (p : Plan) (w : World) (time : Nat) : World :=
  (p.onAlarm { w with clock := max w.clock time }).fire

/-- A wait that takes no notice of the signal. -/
def pass (p : Plan) (w : World) (ms : Option Nat) : Passage :=
  let wake := ms.map (w.clock + ·)
  match p.alarm with
  | some t => if isBefore t wake then p.silent.sleepOn (p.ring w t) wake else p.sleepOn w wake
  | none => p.sleepOn w wake

/-- A wait that ends with the signal. -/
def passOr (p : Plan) (w : World) (ms : Option Nat) : Passage :=
  let wake := ms.map (w.clock + ·)
  if w.fired then .called p w
  else match p.alarm with
    | some t => if isBefore t wake then .called p.silent (p.ring w t) else p.sleepOn w wake
    | none => p.sleepOn w wake

end Plan

/-- Runs a task from a state. -/
def Task.run {α : Type} : Run α → Plan → World → Outcome α × World
  | .done a, _, w => (.finished a, w)
  | .act change next, p, w => (next w).run p (change w)
  | .wait ms next, p, w =>
    match p.pass w ms with
    | .woke p w => next.run p w
    | .called p w => next.run p w
    | .dropped w => (.dropped, w)
    | .stuck w => (.stuck, w)
  | .waitOr ms next cancelled, p, w =>
    match p.passOr w ms with
    | .woke p w => next.run p w
    | .called p w => cancelled.run p w
    | .dropped w => (.dropped, w)
    | .stuck w => (.stuck, w)

end Gatehouse
