import Gatehouse.Net.SocketAddr
import Gatehouse.Settings.Basic

/-!
# Validity of settings

What is wrong with settings that were read.  `Settings.check` looks at them in a fixed order and
reports the first fault; a secret is only needed where chains are enabled.
-/

namespace Gatehouse

/-- The two data formats of settings. -/
inductive SettingsFormat where
  | toml
  | json
deriving DecidableEq, Repr

/-- Why a file was not read. -/
inductive ReadCause where
  | folder
  | notText
deriving DecidableEq, Repr

/-- Why there are no settings. -/
inductive SettingsError where
  | fileNotFound (path : String)
  | unreadable (path : String) (cause : ReadCause)
  | unsupportedFormat (name : String)
  /-- The text does not have the form of its format, or not that of settings. -/
  | malformed (format : SettingsFormat)
  | invalid (field reason : String)
  | missing (field : String)
  /-- An environment variable has a value that cannot be taken over. -/
  | environment (name reason : String)
deriving DecidableEq, Repr

namespace ReadCause

/-- What the system says. -/
def message : ReadCause → String
  | folder => "Is a directory (os error 21)"
  | notText => "stream did not contain valid UTF-8"

end ReadCause

namespace SettingsError

/-- The displayed text. -/
def message : SettingsError → String
  | fileNotFound p => "configuration file not found: " ++ p
  | unreadable p _ => "failed to read configuration file: " ++ p
  | unsupportedFormat n => "unsupported configuration format: " ++ n
  | malformed .toml => "failed to parse TOML configuration"
  | malformed .json => "failed to parse JSON configuration"
  | invalid f r => "invalid configuration value for " ++ f ++ ": " ++ r
  | missing f => "missing required configuration field: " ++ f
  | environment v r => "failed to parse environment variable " ++ v ++ ": " ++ r

/-- The displayed text followed by that of its cause. -/
def fullMessage : SettingsError → String
  | unreadable p c => message (unreadable p c) ++ ": " ++ c.message
  | e => e.message

end SettingsError

namespace Settings

/-- Passes an address of a socket. -/
def checkAddress (field address : String) : Except SettingsError Unit :=
  match SocketAddr.parse? address with
  | some _ => .ok ()
  | none => .error (.invalid field ("invalid socket address: " ++ address))

/-- Passes a secret that is long enough, counted in characters. -/
def checkSecret (secret : String) : Except SettingsError Unit :=
  let field := "assertion.shared_secret"
  if secret.length = 0 then .error (.missing field)
  else if secret.length < KeySettings.shortest then
    .error (.invalid field ("must be at least " ++ toString KeySettings.shortest ++ " characters"))
  else .ok ()

/-- Passes bindings to kinds that are known. -/
def checkBindings (c : ChainSettings) : Named String → Except SettingsError Unit
  | [] => .ok ()
  | (name, kind) :: rest =>
    if c.knows kind then checkBindings c rest
    else .error (.invalid ("pipeline.bindings." ++ name) ("unknown chain type: " ++ kind))

/-- Passes settings that a server can be built from. -/
def check (s : Settings) : Except SettingsError Unit := do
  checkAddress "server.http_addr" s.listen.address
  if s.chains.enabled then checkSecret s.key.secret
  if s.key.skewSeconds = 0 then
    throw (.invalid "assertion.timestamp_skew_secs" "must be greater than zero")
  checkBindings s.chains s.chains.bindings
  if s.metrics.enabled then checkAddress "metrics.addr" s.metrics.address

end Settings

end Gatehouse
