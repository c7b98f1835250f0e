import Gatehouse.Settings.Validity
import Gatehouse.Telemetry.Filter

/-!
# Starting telemetry

A process has one receiver of log records and one of metrics, and each can be installed once.
Telemetry that is turned off is started without installing anything.
-/

namespace Gatehouse

/-- Why telemetry was not started. -/
inductive TelemetryError where
  | logs (detail : String)
  | metrics (detail : String)
  | address (detail : String)
deriving DecidableEq, Repr

/-- The displayed text. -/
def TelemetryError.message : TelemetryError → String
  | logs detail => "failed to initialize logging: " ++ detail
  | metrics detail => "failed to initialize metrics: " ++ detail
  | address detail => "invalid address: " ++ detail

/-- Which receivers a process has. -/
structure Receivers where
  logs : Bool
  metrics : Bool
deriving DecidableEq, Repr

namespace Receivers

/-- A process that has just begun. -/
def none : Receivers := ⟨false, false⟩

/-- A process in which both receivers are installed. -/
def both : Receivers := ⟨true, true⟩

end Receivers

/-- The address to export metrics at. -/
def MetricSettings.socketAddr (m : MetricSettings) : Except TelemetryError SocketAddr :=
  match SocketAddr.parse? m.address with
  | some a => .ok a
  | none => .error (.address (m.address ++ ": " ++ SocketAddr.parseMessage))

namespace Telemetry

/-- Installs the receiver of log records. -/
def startLogs (s : LogSettings) (r : Receivers) : Except TelemetryError Receivers :=
  if !s.enabled then .ok r
  else
    match LogFilter.check s.level with
    | .error e => .error (.logs ("invalid log level '" ++ s.level ++ "': " ++ e.message))
    | .ok () =>
      if r.logs then
        .error (.logs "a global default trace dispatcher has already been set")
      else .ok { r with logs := true }

/-- Installs the receiver of metrics. -/
def startMetrics (s : MetricSettings) (r : Receivers) : Except TelemetryError Receivers :=
  if !s.enabled then .ok r
  else
    match s.socketAddr with
    | .error e => .error e
    | .ok _ =>
      if r.metrics then
        .error
          (.metrics "attempted to set a recorder after the metrics system was already initialized")
      else .ok { r with metrics := true }

/-- Installs the receiver of log records and then that of metrics. -/
def start (logs : LogSettings) (metrics : MetricSettings) (r : Receivers) :
    Except TelemetryError Receivers :=
  (startLogs logs r).bind (startMetrics metrics)

end Telemetry

end Gatehouse
