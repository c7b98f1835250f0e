import Gatehouse.Chain.Stage

/-!
# Chains

A chain is a list of stages in order of execution and a handler at its end.  `Chain.of` sorts stages
by priority and keeps the given order among equal ones.  A chain can itself be a stage, which leaves
its handler out.
-/

namespace Gatehouse

/-- Stages in order of execution and the handler at the end. -/
structure Chain where
  stages : List Stage
  handler : Handler

namespace Chain

/-- The chain of stages sorted by priority, equal ones in the given order. -/
def of (stages : List Stage) (handler : Handler) : Chain :=
  ⟨stages.mergeSort fun a b => a.priority ≤ b.priority, handler⟩

/-- The names of the stages in order of execution. -/
def names (c : Chain) : List String := c.stages.map Stage.name

/-- Runs a request through the stages and the handler. -/
def process (c : Chain) (r : Request) : Run Response := runStages c.stages (finish c.handler) r

/-- The chain as a stage: its stages in front of what lies behind. -/
def asStage (c : Chain) : Stage := ⟨"chain", 0, enterStages c.stages⟩

/-- The diagnostic form. -/
def debug (c : Chain) : String := Quoted.record "Chain" [("middleware", Quoted.texts c.names)] true

end Chain

end Gatehouse
