import Gatehouse.Settings.Validity
import Gatehouse.Text.CaseMap

/-!
# Overriding settings by environment variables

A variable `LEAD__GROUP__FIELD` overrides one field.  Variables are taken in the order of the
environment; those with another lead and those that name nothing known are left alone.
-/

namespace Gatehouse.Settings

/-- A number, or the error that names the variable. -/
def overrideWord (var value : String) : Except SettingsError Nat :=
  match Text.unsigned? Text.maxWord value.toList with
  | some n => .ok n
  | none => .error (.environment var "expected integer")

/-- The words for truth values, in lowercase. -/
def truthWords : List (String × Bool) :=
  [("true", true), ("1", true), ("yes", true), ("on", true),
    ("false", false), ("0", false), ("no", false), ("off", false)]

/-- A truth value, or the error that names the variable. -/
def overrideTruth (var value : String) : Except SettingsError Bool :=
  match truthWords.lookup (Text.lower value) with
  | some b => .ok b
  | none => .error (.environment var "expected boolean")

/-- A log format, or the error that names the variable. -/
def overrideFormat (var value : String) : Except SettingsError LogFormat :=
  match LogFormat.ofName? (Text.lower value) with
  | some f => .ok f
  | none => .error (.environment var "expected 'json', 'pretty' or 'compact'")

/-- Bindings with one changed; an empty value takes the binding away. -/
def overrideBinding (bs : Named String) (name value : String) : Named String :=
  if value = "" then bs.drop name else bs.put name value

/-- The settings with the field that a path names overridden. -/
def override (s : Settings) (var : String) (path : List String) (value : String) :
    Except SettingsError Settings :=
  match path with
  | ["SERVER", "HTTP_ADDR"] => .ok { s with listen := { s.listen with address := value } }
  | ["SERVER", "SHUTDOWN_TIMEOUT_SECS"] =>
    (overrideWord var value).map fun n =>
      { s with listen := { s.listen with shutdownSeconds := n } }
  | ["SERVER", "MAX_CONNECTIONS"] =>
    (overrideWord var value).map fun n => { s with listen := { s.listen with maxConnections := n } }
  | ["SERVER", "REQUEST_TIMEOUT_MS"] =>
    (overrideWord var value).map fun n => { s with listen := { s.listen with requestMillis := n } }
  | ["PIPELINE", "ENABLED"] =>
    (overrideTruth var value).map fun b => { s with chains := { s.chains with enabled := b } }
  | ["PIPELINE", "BINDINGS", name] =>
    .ok { s with chains := { s.chains with
      bindings := overrideBinding s.chains.bindings (Text.lower name) value } }
  | ["ASSERTION", "SHARED_SECRET"] => .ok { s with key := { s.key with secret := value } }
  | ["ASSERTION", "TIMESTAMP_SKEW_SECS"] =>
    (overrideWord var value).map fun n => { s with key := { s.key with skewSeconds := n } }
  | ["LOGGING", "ENABLED"] =>
    (overrideTruth var value).map fun b => { s with logs := { s.logs with enabled := b } }
  | ["LOGGING", "LEVEL"] => .ok { s with logs := { s.logs with level := value } }
  | ["LOGGING", "FORMAT"] =>
    (overrideFormat var value).map fun f => { s with logs := { s.logs with format := f } }
  | ["METRICS", "ENABLED"] =>
    (overrideTruth var value).map fun b => { s with metrics := { s.metrics with enabled := b } }
  | ["METRICS", "ADDR"] => .ok { s with metrics := { s.metrics with address := value } }
  | _ => .ok s

/-- The path that a variable names behind the lead. -/
def variablePath? (lead var : String) : Option (List String) := do
  let rest ← Text.stripLead? lead.toList var.toList
  let path ← Text.stripLead? ['_', '_'] rest
  pure ((Text.splitOnMany ['_', '_'] path).map String.ofList)

/-- The settings overridden by variables, one after the other, up to the first error. -/
def overrideAll (lead : String) (s : Settings) :
    List (String × String) → Except SettingsError Settings
  | [] => .ok s
  | (var, value) :: rest =>
    match variablePath? lead var with
    | none => overrideAll lead s rest
    | some path =>
      match s.override var path value with
      | .ok s => overrideAll lead s rest
      | .error e => .error e

end Gatehouse.Settings
