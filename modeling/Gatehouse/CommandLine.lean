import Gatehouse.Server.Listener
import Gatehouse.Service.Api
import Gatehouse.Settings.Layers
import Gatehouse.Telemetry.Start

/-!
# The command line

Arguments are taken in order; help, the version and an unknown argument end the program at once.
Otherwise settings are loaded, telemetry is started and the server listens.  `CommandLine.run` says
how the program ends, unless it goes on serving.
-/

namespace Gatehouse.CommandLine

/-- What the program does. -/
inductive Result where
  | exit (code : Nat) (stdout stderr : String)
  | serve (s : Settings)

/-- What the arguments say. -/
structure Options where
  /-- The file of settings. -/
  file : Option String
  development : Bool
deriving DecidableEq, Repr

/-- The name of the program. -/
def program : String := "formwork-api"

/-- The lead of environment variables. -/
def lead : String := "FORMWORK"

/-- The text of help. -/
def help : String := "formwork-api - Formwork API service

USAGE:
    formwork-api [OPTIONS]

OPTIONS:
    -c, --config <PATH>    Configuration file (TOML or JSON)
        --dev              Start from development defaults (pretty logs, no metrics)
    -h, --help             Print help information
    -v, --version          Print version information

ENVIRONMENT VARIABLES:
    FORMWORK__SERVER__HTTP_ADDR             Bind address (default: 0.0.0.0:8080)
    FORMWORK__SERVER__REQUEST_TIMEOUT_MS    Per-request deadline, 0 disables (default: 30000)
    FORMWORK__PIPELINE__ENABLED             Use middleware chains (default: true)
    FORMWORK__ASSERTION__SHARED_SECRET      Shared HMAC key, at least 32 characters
    FORMWORK__ASSERTION__TIMESTAMP_SKEW_SECS  Accepted clock skew (default: 60)
    FORMWORK__LOGGING__LEVEL                Log level (default: info)
    FORMWORK__METRICS__ADDR                 Prometheus listener (default: 0.0.0.0:9090)

A .env file in the working directory is read before the environment.

"

/-- The end after an argument that is not known. -/
def unknown (argument : String) : Result :=
  .exit 1 "" ("Unknown argument: " ++ argument ++ "\nUse --help for usage information\n")

/-- Reads arguments in order; the last file counts. -/
def options (o : Options) : List String → Except Result Options
  | [] => .ok o
  | a :: rest =>
    if a = "--config" ∨ a = "-c" then
      match rest with
      | [] => .ok { o with file := none }
      | path :: rest => options { o with file := some path } rest
    else if a = "--dev" then options { o with development := true } rest
    else if a = "--help" ∨ a = "-h" then .error (.exit 0 help "")
    else if a = "--version" ∨ a = "-v" then
      .error (.exit 0 (program ++ " " ++ Server.version ++ "\n") "")
    else .error (unknown a)

/-- The end after an error, with what it happened in. -/
def failed (context message : String) : Result :=
  .exit 1 "" (program ++ ": " ++ context ++ ": " ++ message ++ "\n")

/-- The settings of a run. -/
def load (o : Options) (s : Surroundings) : Except Result Settings := do
  let l := { Layers.start s with surroundings := s.withVariables }
  let l := if o.development then { l with settings := .development } else l
  let l ← match o.file with
    | none => pure l
    | some path =>
      match l.step (.file path) with
      | .ok l => pure l
      | .error e => throw (failed ("failed to read " ++ path) e.fullMessage)
  match Layers.load { l with lead := some lead } with
  | .ok s => pure s
  | .error e => throw (failed "invalid configuration" e.fullMessage)

/-- Starts telemetry and finds the address to listen on. -/
def launch (s : Settings) : Result :=
  match Telemetry.start s.logs s.metrics .none with
  | .error e => failed "failed to initialise telemetry" e.message
  | .ok _ =>
    match (Service.limits s).listenAddr with
    | .error e => failed "server error" e.message
    | .ok _ => .serve s

/-- What the program does with arguments in its surroundings. -/
def run (s : Surroundings) (arguments : List String) : Result :=
  match options ⟨none, false⟩ arguments with
  | .error r => r
  | .ok o =>
    match load o s with
    | .error r => r
    | .ok settings => launch settings

end Gatehouse.CommandLine
