import Gatehouse.Chain.Foundry
import Gatehouse.Decimal.Binary64
import Gatehouse.Stage.Gate

/-!
# Settings

Everything that a deployment can set, in five groups, with the values that hold unless something
else is set: `Settings.standard`, and `Settings.development` for work on a developer's machine.
-/

namespace Gatehouse

/-- Where the server listens and how much it takes on. -/
structure ListenSettings where
  address : String
  /-- Seconds that open connections are waited for at the end. -/
  shutdownSeconds : Nat
  maxConnections : Nat
  /-- Milliseconds that a request may take; zero means no limit. -/
  requestMillis : Nat
deriving DecidableEq, Repr

/-- Which chains there are. -/
structure ChainSettings where
  enabled : Bool
  /-- Kinds of chains besides the two standard ones. -/
  kinds : Named (List String)
  /-- The kind of each chain by name. -/
  bindings : Named String
deriving DecidableEq, Repr

/-- How callers prove who they are. -/
structure KeySettings where
  secret : String
  skewSeconds : Nat
deriving DecidableEq, Repr

/-- How log records are written. -/
inductive LogFormat where
  | json
  | pretty
  | compact
deriving DecidableEq, Repr

/-- What is logged and how. -/
structure LogSettings where
  enabled : Bool
  level : String
  format : LogFormat
  spanEvents : Bool
  includeTarget : Bool
deriving DecidableEq, Repr

/-- What is exported of the metrics, and where. -/
structure MetricSettings where
  enabled : Bool
  address : String
  buckets : List Binary64
deriving DecidableEq, Repr

/-- All settings. -/
structure Settings where
  listen : ListenSettings
  chains : ChainSettings
  key : KeySettings
  logs : LogSettings
  metrics : MetricSettings
deriving DecidableEq, Repr

namespace LogFormat

/-- The formats in the order in which messages list them. -/
def all : List LogFormat := [json, pretty, compact]

/-- The name of a format. -/
def name : LogFormat → String
  | json => "json"
  | pretty => "pretty"
  | compact => "compact"

/-- The format of a name. -/
def ofName? (s : String) : Option LogFormat := all.find? fun f => f.name == s

end LogFormat

/-- Where the server listens, and its limits, unless others are given. -/
def ListenSettings.standard : ListenSettings := ⟨"0.0.0.0:8080", 30, 10000, 30000⟩

namespace ChainSettings

/-- The kinds that are there without being set. -/
def builtIn : List String := [Foundry.publicKind, Foundry.apiKind]

/-- The standard kinds, each bound to its own name. -/
def standard : ChainSettings := ⟨true, [], builtIn.map fun k => (k, k)⟩

/-- Whether a kind is a standard one or is set. -/
def knows (c : ChainSettings) (kind : String) : Bool := builtIn.contains kind || c.kinds.has kind

end ChainSettings

namespace KeySettings

/-- No secret, and a minute of drift, unless others are given. -/
def standard : KeySettings := ⟨"", 60⟩

/-- The number of characters that a secret must have. -/
def shortest : Nat := 32

/-- The diagnostic form, without the secret. -/
def debug (k : KeySettings) : String :=
  Quoted.record "AssertionSection"
    [("shared_secret", Quoted.text Stage.redacted),
    ("timestamp_skew_secs", toString k.skewSeconds)] false

end KeySettings

namespace LogSettings

/-- What is logged unless something else is said. -/
def standard : LogSettings := ⟨true, "info", .json, false, true⟩

/-- More records, in a form to be read. -/
def development : LogSettings :=
  { standard with level := "debug", format := .pretty, spanEvents := true }

end LogSettings

namespace MetricSettings

/-- The upper bounds of the buckets for durations, in thousandths of a second. -/
def standardMillis : List Nat := [1, 5, 10, 25, 50, 100, 250, 500, 1000, 2500, 5000, 10000]

/-- What is measured unless something else is said. -/
def standard : MetricSettings :=
  ⟨true, "0.0.0.0:9090", standardMillis.map fun n => ⟨false, Binary64.ofRatio n 1000⟩⟩

end MetricSettings

namespace Settings

/-- The settings unless others are given. -/
def standard : Settings := ⟨.standard, .standard, .standard, .standard, .standard⟩

/-- The settings for a developer's machine: more log records and no exported metrics. -/
def development : Settings :=
  { standard with
    logs := .development
    metrics := { MetricSettings.standard with enabled := false } }

end Settings

end Gatehouse
