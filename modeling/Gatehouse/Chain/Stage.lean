import Gatehouse.Http.Request
import Gatehouse.Http.Response
import Gatehouse.Run.World

/-!
# Stages

A stage looks at what comes in and gives a verdict: it replies by itself, or it forwards the request
together with what it will do to the answer from inside.  So whatever lies behind a stage runs at
most once, to its end and in the same world.  Stages that do anything else with what lies behind
them are not described: one that calls it several times, races it against something else or drops it
half way, or hands it a context of its own.  `runStages` puts stages in front of an end: before each
step it asks whether the request was cancelled, and the end is given up when the signal fires while
it waits.  `enterStages` is the same composition without an end, which makes a sequence of stages
one stage.
-/

namespace Gatehouse

/--
What a stage decides: to reply, or to wait for what lies behind it and then go on with its answer.
There is no verdict for racing or dropping what lies behind, or for running it with another context.
-/
inductive Verdict (ρ β : Type) where
  | reply (b : β)
  | forward (r : ρ) (after : β → Run β)

/-- What is done to something that comes in. -/
abbrev Entry (ρ β : Type) := ρ → Run (Verdict ρ β)

/-- What lies behind a stage. -/
abbrev Inside (ρ β : Type) := ρ → Run β

/-- An entry in front of what lies inside. -/
def Entry.around {ρ β : Type} (enter : Entry ρ β) (inside : Inside ρ β) : Inside ρ β := fun r => do
  match ← enter r with
  | .reply b => pure b
  | .forward r' after => do
    let b ← inside r'
    after b

/-- An entry followed by another one. -/
def Entry.andThen {ρ β : Type} (first second : Entry ρ β) : Entry ρ β := fun r => do
  match ← first r with
  | .reply b => pure (.reply b)
  | .forward r' after => do
    match ← second r' with
    | .reply b => do
      let b ← after b
      pure (.reply b)
    | .forward r'' after' => pure (.forward r'' fun b => do
        let b ← after' b
        after b)

/-- A stage of a chain. -/
structure Stage where
  name : String
  /-- Stages of lower priority run earlier. -/
  priority : Int
  enter : Entry Request Response

/-- The end of a chain: it makes the answer. -/
abbrev Handler := Inside Request Response

namespace Handler

/-- The end of a chain that was given none. -/
def notFound : Handler := fun _ => pure (.failure .notFound none)

end Handler

/-- Goes on unless the request was cancelled. -/
def proceed (inside : Inside Request Response) : Inside Request Response := fun r => do
  if ← Run.isCancelled then pure .cancelled else inside r

/-- The end of a chain, given up when the signal fires while it waits. -/
def finish (h : Handler) : Inside Request Response := proceed fun r => (h r).guard .cancelled

/-- Stages in order and then an end. -/
def runStages (stages : List Stage) (last : Inside Request Response) : Inside Request Response :=
  match stages with
  | [] => last
  | s :: rest => proceed (s.enter.around (runStages rest last))

/-- The entry that forwards everything as it is. -/
def Entry.pass {ρ β : Type} : Entry ρ β := fun r => pure (.forward r pure)

/-- An entry that is not made once the request was cancelled. -/
def Entry.unlessCancelled (enter : Entry Request Response) : Entry Request Response := fun r => do
  if ← Run.isCancelled then pure (.reply .cancelled) else enter r

/-- Stages in order as one entry. -/
def enterStages : List Stage → Entry Request Response
  | [] => Entry.pass
  | s :: rest => Entry.unlessCancelled (s.enter.andThen (enterStages rest))

end Gatehouse
