import Gatehouse.Chain.Basic
import Gatehouse.Run.Schedule
import Gatehouse.Server.Bridge

/-!
# Serving a request through a stage

`Exchange.serve` runs one stage, which may be a whole chain, in front of a native handler.  When the
request's time is over the cancellation signal is fired; the run may then finish what it has to, and
is given up if that takes longer than the grace period.
-/

namespace Gatehouse

/-- A handler of the server. -/
abbrev NativeHandler := Inside NativeRequest (Except NativeError NativeResponse)

/-- How long a request may take. -/
structure Deadline where
  /-- Milliseconds until the request is cancelled. -/
  timeout : Option Nat
  /-- Milliseconds after that until it is given up. -/
  grace : Nat
deriving DecidableEq, Repr

namespace Deadline

/-- The grace period unless another one is given. -/
def standardGrace : Nat := 500

/-- No deadline. -/
def never : Deadline := ⟨none, standardGrace⟩

end Deadline

namespace Exchange

/-- A native handler as the end of a chain. -/
def terminal (h : NativeHandler) : Handler := fun r => do
  match ← h r.toNative with
  | .ok n => pure (.ofNative n)
  | .error e => pure (.ofError e)

/-- Adds the record of a deadline that has passed. -/
def logDeadline (chain : String) (timeout : Nat) (w : World) : World :=
  w.log .warn "Request deadline elapsed, cancelling"
    [("chain", .text chain), ("timeout_ms", .number timeout)]

/-- Adds the record of a run that was given up. -/
def logAbandoned (chain : String) (w : World) : World :=
  w.log .warn "Chain ignored cancellation, abandoning" [("chain", .text chain)]

/-- Adds the record of a response that could not be written. -/
def logUnwritable (chain : String) (e : WriteError) (w : World) : World :=
  match e with
  | .unwritable detail =>
    w.log .error "Failed to apply response" [("chain", .text chain), ("error", .text detail)]
  | .raised _ => w

/-- What happens from outside to a run that begins at the given time. -/
def plan (d : Deadline) (chain : String) (start : Nat) : Plan where
  alarm := d.timeout.map (start + ·)
  limit := d.timeout.map fun t => start + t + d.grace
  onAlarm := logDeadline chain (d.timeout.getD 0)

/-- Writes a response and records that it could not be written as it is. -/
def finishWith (chain : String) (r : Response) (w : World) :
    Except WriteError NativeResponse × World :=
  match r.write with
  | .ok n => (.ok n, w)
  | .error e => (.error e, logUnwritable chain e w)

/-- The run of a stage in front of a handler. -/
def task (s : Stage) (h : NativeHandler) (r : Request) : Run Response :=
  s.enter.around (finish (terminal h)) r

/-- Serves a request; there is no result if the run waits for ever. -/
def serve (d : Deadline) (s : Stage) (n : NativeRequest) (addr : Option SocketAddr)
    (h : NativeHandler) (w : World) : Option (Except WriteError NativeResponse) × World :=
  let chain := w.chainText
  let (r, w) := Request.ofNative n addr w
  match (task s h r).run (plan d chain w.clock) w with
  | (.finished b, w) =>
    let (result, w) := finishWith chain b w
    (some result, w)
  | (.dropped, w) =>
    let (result, w) := finishWith chain .cancelled (logAbandoned chain w)
    (some result, w)
  | (.stuck, w) => (none, w)

end Exchange

end Gatehouse
