import Gatehouse.Report.Refusal
import Gatehouse.Settings.Validity
import Gatehouse.Telemetry.Start

/-!
# Settings as data

The JSON forms of settings and of what is wrong with them.  Maps are lists of pairs in their order,
and a number in floating point is the sixteen hexadecimal digits of its bits.
-/

namespace Gatehouse

/-- The bits of a number as sixteen hexadecimal digits. -/
def Binary64.toHex (x : Binary64) : String :=
  String.ofList ((List.range 16).map fun i => Bytes.hexDigit (x.bits / Nat.pow 16 (15 - i) % 16))

namespace Settings

/-- The members of the five groups. -/
def members (s : Settings) : List (String × Json) :=
  [("server", .obj
      [("http_addr", .str s.listen.address),
      ("shutdown_timeout_secs", .nat s.listen.shutdownSeconds),
        ("max_connections", .nat s.listen.maxConnections),
        ("request_timeout_ms", .nat s.listen.requestMillis)]),
    ("pipeline", .obj
      [("enabled", .bool s.chains.enabled),
        ("chain_types", .arr (s.chains.kinds.map fun k => .arr [.str k.1, .texts k.2])),
        ("bindings", .pairs s.chains.bindings)]),
    ("assertion", .obj
      [("shared_secret", .str s.key.secret), ("timestamp_skew_secs", .nat s.key.skewSeconds),
        ("secret_bytes", .nat (Bytes.ofText s.key.secret).length), ("debug", .str s.key.debug)]),
    ("logging", .obj
      [("enabled", .bool s.logs.enabled), ("level", .str s.logs.level),
        ("format", .str s.logs.format.name), ("span_events", .bool s.logs.spanEvents),
        ("include_target", .bool s.logs.includeTarget)]),
    ("metrics", .obj
      [("enabled", .bool s.metrics.enabled), ("addr", .str s.metrics.address),
        ("duration_buckets", .texts (s.metrics.buckets.map Binary64.toHex))])]

end Settings

namespace SettingsError

/-- The name of the kind. -/
def name : SettingsError → String
  | fileNotFound _ => "FileNotFound"
  | unreadable _ _ => "ReadError"
  | unsupportedFormat _ => "UnsupportedFormat"
  | malformed .toml => "Toml"
  | malformed .json => "Json"
  | invalid _ _ => "InvalidValue"
  | missing _ => "MissingField"
  | environment _ _ => "EnvParse"

/-- The error with its text; for a malformed text there is none. -/
def toJson (e : SettingsError) : Json :=
  match e with
  | malformed _ => .failure e.name
  | _ => .failureWith e.name e.message

end SettingsError

/-- The result of a check. -/
def Settings.checkJson (s : Settings) : Json :=
  match s.check with
  | .ok () => .str "ok"
  | .error e => e.toJson

/-- The error with its text where that says what is wrong with the settings. -/
def TelemetryError.toJson : TelemetryError → Json
  | logs _ => .failure "LoggingInit"
  | metrics _ => .failure "MetricsInit"
  | address detail => .failureWith "InvalidAddress" (message (address detail))

/-- The result of a start. -/
def Receivers.startJson : Except TelemetryError Receivers → Json
  | .ok _ => .str "ok"
  | .error e => e.toJson

/-- What the settings say, and how each start goes where both receivers are taken already. -/
def Telemetry.restartJson (logs : LogSettings) (metrics : MetricSettings) : Json :=
  .obj [("filter_ok", .bool (LogFilter.check logs.level).isOk),
    ("socket_addr", match metrics.socketAddr with
      | .ok a => .str a.toText
      | .error e => e.toJson),
    ("init_logging", Receivers.startJson (startLogs logs .both)),
    ("init_metrics", Receivers.startJson (startMetrics metrics .both)),
    ("init_telemetry", Receivers.startJson (start logs metrics .both))]

end Gatehouse
