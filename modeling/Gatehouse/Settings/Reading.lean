import Gatehouse.Json.Reader
import Gatehouse.Settings.Validity
import Gatehouse.Text.CaseMap
import Gatehouse.Toml.Reader

/-!
# Reading settings

Settings are read from TOML or JSON.  A group or a field that is left out keeps its standard value,
one that is unknown is refused, and so is a value of another type.  A group may also be written as a
list of its fields in order.  The two formats differ in what they accept as a group written twice,
as a list that is too long, and as the mark of a format written as a member.
-/

namespace Gatehouse

namespace Toml

/-- The member that stands for a date where a table is expected. -/
def dateMember : String := "$__toml_private_datetime"

mutual
/-- The value as data of the other format; a date is a table with one member. -/
def toJson : Toml → Json
  | text s => .str s
  | integer (.ofNat n) => .num (.natural n)
  | integer (.negSucc n) => .num (.negative n)
  | real x => .num (.binary x)
  | truth b => .bool b
  | date s => .obj [(dateMember, .str s)]
  | array items => .arr (itemsToJson items)
  | table ms => .obj (membersToJson ms)

/-- Items as data of the other format. -/
def itemsToJson : List Toml → List Json
  | [] => []
  | v :: vs => v.toJson :: itemsToJson vs

/-- Members as data of the other format. -/
def membersToJson : List (String × Toml) → List (String × Json)
  | [] => []
  | (k, v) :: ms => (k, v.toJson) :: membersToJson ms
end

end Toml

namespace Json

/-- A text. -/
def asText? : Json → Option String
  | str s => some s
  | _ => none

/-- A truth value. -/
def asTruth? : Json → Option Bool
  | bool b => some b
  | _ => none

/-- A natural number of sixty-four bits. -/
def asWord? : Json → Option Nat
  | num (.natural n) => if n ≤ Text.maxWord then some n else none
  | _ => none

/-- Any number, in floating point. -/
def asReal? : Json → Option Binary64
  | num (.natural n) => some (.ofNat n)
  | num (.negative n) => some (.ofInt (.negSucc n))
  | num (.binary x) => some x
  | _ => none

/-- A list. -/
def asList? {α : Type} (item : Json → Option α) : Json → Option (List α)
  | arr items => items.mapM item
  | _ => none

/-- Entries under keys; the last of equal keys counts and stands in the place of the first. -/
def asNamed? {α : Type} (item : Json → Option α) : Json → Option (Named α)
  | obj ms => (ms.mapM fun m => (item m.2).map fun a => (m.1, a)).map Named.ofPairs
  | _ => none

end Json

namespace SettingsFormat

/-- Whether a group may not have a member twice, and not more items than fields. -/
def isStrict : SettingsFormat → Bool
  | toml => false
  | json => true

/-- What may stand beside the name of a log format that is written as a member. -/
def isMark (f : SettingsFormat) (j : Json) : Bool :=
  match f, j with
  | json, .null => true
  | toml, .obj [] => true
  | toml, .arr [] => true
  | _, _ => false

/-- The values of the fields of a group, in the order of their names. -/
def fields? (f : SettingsFormat) (names : List String) (j : Json) : Option (List (Option Json)) :=
  match j with
  | .obj ms =>
    let keys := ms.map Prod.fst
    if keys.all names.contains ∧ (f.isStrict → keys.Nodup) then
      some (names.map fun n => ms.lookup n)
    else none
  | .arr items =>
    if f.isStrict ∧ names.length < items.length then none
    else some ((List.range names.length).map fun i => items[i]?)
  | _ => none

end SettingsFormat

namespace Settings

/-- A field that may be left out. -/
def field {α : Type} (read : Json → Option α) (standard : α) : Option Json → Option α
  | none => some standard
  | some j => read j

/-- Reads the group of the listener. -/
def listen? (f : SettingsFormat) (j : Json) : Option ListenSettings := do
  let d := ListenSettings.standard
  match ← f.fields? ["http_addr", "shutdown_timeout_secs", "max_connections",
    "request_timeout_ms"] j with
  | [address, shutdown, connections, request] =>
    pure ⟨← field Json.asText? d.address address, ← field Json.asWord? d.shutdownSeconds shutdown,
      ← field Json.asWord? d.maxConnections connections,
      ← field Json.asWord? d.requestMillis request⟩
  | _ => none

/-- Reads the group of chains. -/
def chains? (f : SettingsFormat) (j : Json) : Option ChainSettings := do
  let d := ChainSettings.standard
  match ← f.fields? ["enabled", "chain_types", "bindings"] j with
  | [enabled, kinds, bindings] =>
    pure ⟨← field Json.asTruth? d.enabled enabled,
      ← field (Json.asNamed? (Json.asList? Json.asText?)) d.kinds kinds,
      ← field (Json.asNamed? Json.asText?) d.bindings bindings⟩
  | _ => none

/-- Reads the group of the key. -/
def key? (f : SettingsFormat) (j : Json) : Option KeySettings := do
  let d := KeySettings.standard
  match ← f.fields? ["shared_secret", "timestamp_skew_secs"] j with
  | [secret, skew] =>
    pure ⟨← field Json.asText? d.secret secret, ← field Json.asWord? d.skewSeconds skew⟩
  | _ => none

/-- Reads a log format: its name, or one member of that name with nothing in it. -/
def logFormat? (f : SettingsFormat) : Json → Option LogFormat
  | .str s => LogFormat.ofName? s
  | .obj [(s, v)] => if f.isMark v then LogFormat.ofName? s else none
  | _ => none

/-- Reads the group of logs. -/
def logs? (f : SettingsFormat) (j : Json) : Option LogSettings := do
  let d := LogSettings.standard
  match ← f.fields? ["enabled", "level", "format", "span_events", "include_target"] j with
  | [enabled, level, format, spans, target] =>
    pure ⟨← field Json.asTruth? d.enabled enabled, ← field Json.asText? d.level level,
      ← field (logFormat? f) d.format format, ← field Json.asTruth? d.spanEvents spans,
      ← field Json.asTruth? d.includeTarget target⟩
  | _ => none

/-- Reads the group of metrics. -/
def metrics? (f : SettingsFormat) (j : Json) : Option MetricSettings := do
  let d := MetricSettings.standard
  match ← f.fields? ["enabled", "addr", "duration_buckets"] j with
  | [enabled, address, buckets] =>
    pure ⟨← field Json.asTruth? d.enabled enabled, ← field Json.asText? d.address address,
      ← field (Json.asList? Json.asReal?) d.buckets buckets⟩
  | _ => none

/-- Reads all groups. -/
def ofData? (f : SettingsFormat) (j : Json) : Option Settings := do
  let d := Settings.standard
  match ← f.fields? ["server", "pipeline", "assertion", "logging", "metrics"] j with
  | [listen, chains, key, logs, metrics] =>
    pure ⟨← field (listen? f) d.listen listen, ← field (chains? f) d.chains chains,
      ← field (key? f) d.key key, ← field (logs? f) d.logs logs,
      ← field (metrics? f) d.metrics metrics⟩
  | _ => none

/-- The data of a text. -/
def dataOf? (f : SettingsFormat) (text : String) : Option Json :=
  match f with
  | .toml => (Toml.parse? text).map Toml.toJson
  | .json => Json.parse? text

/-- Reads settings from a text in a named format; the name may be in any case. -/
def ofText (text format : String) : Except SettingsError Settings :=
  let read (f : SettingsFormat) : Except SettingsError Settings :=
    match dataOf? f text >>= ofData? f with
    | some s => .ok s
    | none => .error (.malformed f)
  let name := Text.lower format
  if name = "toml" then read .toml
  else if name = "json" then read .json
  else .error (.unsupportedFormat name)

end Settings

end Gatehouse
