import Gatehouse.Settings.Dotenv
import Gatehouse.Settings.Overrides
import Gatehouse.Settings.Reading

/-!
# Layers of settings

Settings are made step by step: each file or text replaces what was there, a lead turns on the
overrides by environment variables, and a file of variables adds to the environment.  `Layers.load`
applies the overrides and checks the result.
-/

namespace Gatehouse

/-- What stands under a path. -/
inductive FileEntry where
  | file (octets : Bytes)
  | folder
deriving DecidableEq

/-- The names on the way to an entry, after an empty one if the way begins at the root. -/
abbrev Place := List String

/-- The working directory and the environment. -/
structure Surroundings where
  /-- What stands where, each place once; above them there are folders. -/
  entries : List (Place × FileEntry)
  environment : Dotenv.Environment

namespace Place

/-- Where a path begins: at the root or in the working directory. -/
def origin (path : List Char) : Place := if path.head? = some '/' then [""] else []

/-- Whether a place is the root, the working directory or above it. -/
def isOutermost (p : Place) : Bool := p == [""] || p.all (· == "..")

/-- The place one folder up. -/
def above (p : Place) : Place :=
  if p = [""] then p else if p.all (· == "..") then p ++ [".."] else p.dropLast

/-- The place that a part of a path leads to; an empty part or a dot leads nowhere else. -/
def onward (p : Place) (part : List Char) : Place :=
  if part = [] ∨ part = ['.'] then p
  else if part = ['.', '.'] then p.above
  else p ++ [String.ofList part]

end Place

namespace Surroundings

/-- What stands at a place, if anything does. -/
def at? (s : Surroundings) (p : Place) : Option FileEntry :=
  if p.isOutermost then some .folder
  else match s.entries.lookup p with
    | some e => some e
    | none => if s.entries.any fun e => p.isPrefixOf e.1 then some .folder else none

/-- Goes along the parts of a path, each of them in a folder. -/
def walk (s : Surroundings) (p : Place) : List (List Char) → Option FileEntry
  | [] => s.at? p
  | part :: rest => if s.at? p = some .folder then walk s (p.onward part) rest else none

/-- The most octets of a path. -/
def longestPath : Nat := 4095

/-- What stands under a path, if anything does. -/
def entry? (s : Surroundings) (path : String) : Option FileEntry :=
  if path = "" ∨ longestPath < path.utf8ByteSize then none
  else s.walk (Place.origin path.toList) (Text.splitOn '/' path.toList)

/-- Puts an entry at a place, instead of the one that stands there. -/
def put (s : Surroundings) (p : Place) (e : FileEntry) : Surroundings :=
  { s with entries := (p, e) :: s.entries.filter fun x => x.1 ≠ p }

/-- The folders on the way from a place along the parts of a path, and the place where it ends. -/
def wayFrom (p : Place) : List (List Char) → List Place × Place
  | [] => ([], p)
  | part :: rest =>
    let (way, last) := wayFrom (p.onward part) rest
    (p :: way, last)

/-- Writes an entry under a path; the folders on the way are made. -/
def write (s : Surroundings) (path : String) (e : FileEntry) : Surroundings :=
  let (way, last) := wayFrom (Place.origin path.toList) (Text.splitOn '/' path.toList)
  let made := way.foldl (fun s p => if (s.at? p).isNone then s.put p .folder else s) s
  if e = .folder ∧ (made.at? last).isSome then made else made.put last e

/-- Entries written one after the other, and the environment. -/
def ofEntries (entries : List (String × FileEntry)) (environment : Dotenv.Environment) :
    Surroundings :=
  entries.foldl (fun s e => s.write e.1 e.2) ⟨[], environment⟩

/-- What follows the last dot of a file's name, nothing if the name begins with it or has none. -/
def extension (path : String) : String :=
  let names := (Text.splitOn '/' path.toList).filter fun p => p ≠ [] ∧ p ≠ ['.']
  match names.getLast? with
  | none => ""
  | some name =>
    let fields := Text.splitOn '.' name
    if name = ['.', '.'] ∨ fields.length < 2 ∨ (fields.length = 2 ∧ fields.head? = some []) then ""
    else String.ofList (fields.getLast?.getD [])

/-- The name of the file of variables. -/
def variablesFile : String := ".env"

/-- The surroundings with the variables of the file in the working directory, if there is one. -/
def withVariables (s : Surroundings) : Surroundings :=
  match s.entry? variablesFile with
  | some (.file bs) => { s with environment := Dotenv.load s.environment bs }
  | _ => s

end Surroundings

/-- A step in making settings. -/
inductive SettingsStep where
  | development
  | text (content format : String)
  | file (path : String)
  /-- A file that may be missing. -/
  | optionalFile (path : String)
  | variables
  /-- Turns on overrides by variables with a lead. -/
  | lead (name : String)

/-- Settings on the way. -/
structure Layers where
  settings : Settings
  lead : Option String
  surroundings : Surroundings

namespace Layers

/-- Before the first step. -/
def start (s : Surroundings) : Layers := ⟨.standard, none, s⟩

/-- The settings of a file. -/
def readFile (s : Surroundings) (path : String) : Except SettingsError Settings :=
  match s.entry? path with
  | none => .error (.fileNotFound path)
  | some .folder => .error (.unreadable path .folder)
  | some (.file bs) =>
    match Bytes.toText? bs with
    | none => .error (.unreadable path .notText)
    | some text => Settings.ofText text (Surroundings.extension path)

/-- After a step. -/
def step (l : Layers) : SettingsStep → Except SettingsError Layers
  | .development => .ok { l with settings := .development }
  | .text content format => (Settings.ofText content format).map fun s => { l with settings := s }
  | .file path => (readFile l.surroundings path).map fun s => { l with settings := s }
  | .optionalFile path =>
    if (l.surroundings.entry? path).isNone then .ok l
    else (readFile l.surroundings path).map fun s => { l with settings := s }
  | .variables => .ok { l with surroundings := l.surroundings.withVariables }
  | .lead name => .ok { l with lead := some (Text.upper name) }

/-- After steps one after the other, up to the first error. -/
def steps (l : Layers) : List SettingsStep → Except SettingsError Layers
  | [] => .ok l
  | s :: rest =>
    match l.step s with
    | .ok l => steps l rest
    | .error e => .error e

/-- The settings with overrides, but not checked. -/
def overridden (l : Layers) : Except SettingsError Settings :=
  match l.lead with
  | some lead => l.settings.overrideAll lead l.surroundings.environment
  | none => .ok l.settings

/-- The settings with overrides, checked. -/
def load (l : Layers) : Except SettingsError Settings :=
  match l.overridden with
  | .error e => .error e
  | .ok s =>
    match s.check with
    | .ok () => .ok s
    | .error e => .error e

end Layers

end Gatehouse
