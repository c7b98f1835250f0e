import Gatehouse.Http.Status

/-!
# Metrics

What the service counts: served requests by chain and status, their durations by chain, refused
assertions by reason, and the requests in flight.  `Metric.sample?` is the name under which a
counter is exported, with its labels.
-/

namespace Gatehouse

/-- One change of a metric. -/
inductive Metric where
  /-- A request was served through a chain. -/
  | served (chain : String) (status : Nat)
  /-- A duration was recorded for a chain. -/
  | timed (chain : String)
  | refused (reason : String)
  /-- A request began. -/
  | entered
  /-- A request ended. -/
  | left
deriving DecidableEq, Repr

namespace Metric

/--
The characters of a label's value: backslashes, quotes and line ends are escaped.  A backslash is
held back until it is known whether a quote or a second backslash after it makes it an escape
already.
-/
def escaped (held : Bool) : List Char → List Char
  | [] => if held then ['\\', '\\'] else []
  | c :: cs =>
    if c = '\n' then '\\' :: 'n' :: escaped held cs
    else if c = '"' then '\\' :: '"' :: escaped false cs
    else if c = '\\' then if held then '\\' :: '\\' :: escaped false cs else escaped true cs
    else if held then '\\' :: '\\' :: c :: escaped false cs
    else c :: escaped false cs

/-- The text of a label's value. -/
def label (s : String) : String := String.ofList (escaped false s.toList)

/-- A sample name with its labels. -/
def labelled (name : String) (labels : List (String × String)) : String :=
  name ++ "\x7b" ++ ",".intercalate (labels.map fun l => l.1 ++ "=\"" ++ label l.2 ++ "\"") ++
    "\x7d"

/-- The counter that the change adds one to; the requests in flight are not counted up. -/
def sample? : Metric → Option String
  | served chain status =>
    some (labelled "formwork_requests_total" [("chain", chain), ("status", toString status)])
  | timed chain => some (labelled "formwork_request_duration_seconds_count" [("chain", chain)])
  | refused reason => some (labelled "formwork_assertion_rejections_total" [("reason", reason)])
  | entered => none
  | left => none

/-- The change of the number of requests in flight. -/
def inFlight : Metric → Int
  | entered => 1
  | left => -1
  | _ => 0

end Metric

/-- The number of times that each counter occurs, in the order of first occurrence. -/
def countSamples (ms : List Metric) : List (String × Nat) :=
  let names := ms.filterMap Metric.sample?
  names.eraseDups.map fun n => (n, names.count n)

end Gatehouse
