import Gatehouse.Bytes
import Gatehouse.Text.Ascii
import Gatehouse.Text.WordTable

/-!
# Files of environment variables

A file has one assignment a line, and a quoted text may go over several.  `Dotenv.load` adds the
variables of a file to an environment, in order, up to the first line that is no assignment; a
variable that is already set keeps its value.  `$name` and `$\x7bname\x7d` stand for variables of
the environment or of lines before.
-/

namespace Gatehouse.Dotenv

/-- Variables in the order in which they were set. -/
abbrev Environment := List (String × String)

/-- Where in a logical line a character stands. -/
inductive LineState where
  | plain
  | escaped
  | inLiteral
  | escapedInLiteral
  | inQuotes
  | escapedInQuotes
  /-- After white space that follows something else. -/
  | blank
deriving DecidableEq, Repr

/-- The state after a character outside of quotes. -/
def LineState.open (c : Char) : LineState :=
  if c = '\\' then escaped
  else if c = '"' then inQuotes
  else if c = '\'' then inLiteral
  else plain

/-- The state after a character, or nothing where a comment begins. -/
def LineState.next? (s : LineState) (c : Char) : Option LineState :=
  match s with
  | blank => if c = '#' then none else some (LineState.open c)
  | escaped => some plain
  | plain => if Text.isWhite c ∧ c ≠ '\n' ∧ c ≠ '\r' then some blank else some (LineState.open c)
  | inQuotes => some (if c = '\\' then escapedInQuotes else if c = '"' then plain else inQuotes)
  | escapedInQuotes => some inQuotes
  | inLiteral => some (if c = '\\' then escapedInLiteral else if c = '\'' then plain else inLiteral)
  | escapedInLiteral => some inLiteral

/-- The state at the end of a line, or what of it stands before a comment, in reverse. -/
def scan (s : LineState) (before : List Char) : List Char → LineState ⊕ List Char
  | [] => .inl s
  | c :: cs =>
    match s.next? c with
    | none => .inr before
    | some s => scan s (c :: before) cs

/-- The lines of octets, each with its line feed. -/
def octetLines (line : Bytes) : Bytes → List Bytes
  | [] => if line = [] then [] else [line.reverse]
  | b :: bs =>
    if b = 0x0A then (b :: line).reverse :: octetLines [] bs else octetLines (b :: line) bs

/-- A line without its line end. -/
def chop (cs : List Char) : List Char :=
  match cs.reverse with
  | '\n' :: '\r' :: rest => rest.reverse
  | '\n' :: rest => rest.reverse
  | _ => cs

/--
The logical lines of a file; nothing stands for a line that cannot be read, after which no more
follow. `done` is what was read of the logical line so far.
-/
def logicalLines (s : LineState) (done : List Char) : List Bytes → List (Option (List Char))
  | [] => if s = .plain then [] else [none]
  | bs :: rest =>
    match Bytes.toChars? bs with
    | none => [none]
    | some cs =>
      let line := done ++ cs
      if (line.dropWhile Text.isWhite).head? = some '#' then some [] :: logicalLines .plain [] rest
      else match scan s [] cs with
        | .inr before => some (done ++ before.reverse) :: logicalLines .plain [] rest
        | .inl .plain => some (chop line) :: logicalLines .plain [] rest
        | .inl s => logicalLines s line rest

/-- What a dollar sign began. -/
inductive Reference where
  | none
  | bare
  | braced
deriving DecidableEq, Repr

/-- How far the reading of a value has come; texts are in reverse. -/
structure ValueState where
  literal : Bool
  quoted : Bool
  escaped : Bool
  ended : Bool
  reference : Reference
  name : List Char
  shown : List Char

namespace ValueState

/-- Before the first character. -/
def start : ValueState := ⟨false, false, false, false, .none, [], []⟩

/-- The state with the value of the name that was read. -/
def resolve (look : String → String) (s : ValueState) : ValueState :=
  { s with
    reference := .none
    name := []
    shown := (look (String.ofList s.name.reverse)).toList.reverse ++ s.shown }

/-- The state with one more character of the value. -/
def push (s : ValueState) (c : Char) : ValueState := { s with shown := c :: s.shown }

/-- After a character of a name. -/
def refer (look : String → String) (s : ValueState) (c : Char) : ValueState :=
  if Text.isWordChar c then { s with name := c :: s.name }
  else if s.reference = .bare then
    if c = '\x7b' ∧ s.name = [] then { s with reference := .braced }
    else if c = '$' then { s.resolve look with reference := .bare }
    else (s.resolve look).push c
  else if c = '\x7d' then s.resolve look
  else { s with name := c :: s.name }

/-- After an escaped character; only some may be escaped. -/
def unescape? (s : ValueState) (c : Char) : Option ValueState :=
  let s := { s with escaped := false }
  if ['\\', '\'', '"', '$', ' '].contains c then some (s.push c)
  else if c = 'n' then some (s.push '\n')
  else none

/-- After a character outside of names and escapes. -/
def read (s : ValueState) (c : Char) : ValueState :=
  if c = '$' then { s with reference := .bare }
  else if c = '\\' then { s with escaped := true }
  else if s.quoted then if c = '"' then { s with quoted := false } else s.push c
  else if c = '\'' then { s with literal := true }
  else if c = '"' then { s with quoted := true }
  else if c = ' ' ∨ c = '\t' then { s with ended := true }
  else s.push c

/-- After any character before the end of the value. -/
def next? (look : String → String) (s : ValueState) (c : Char) : Option ValueState :=
  if s.escaped then s.unescape? c
  else if s.literal then some (if c = '\'' then { s with literal := false } else s.push c)
  else if s.reference ≠ .none then some (s.refer look c)
  else some (s.read c)

/-- The value at the end, unless something is still open. -/
def finish? (look : String → String) (s : ValueState) : Option String :=
  if s.reference = .braced ∨ s.literal ∨ s.quoted then none
  else some (String.ofList (s.resolve look).shown.reverse)

end ValueState

/-- The value that a text writes; only blanks and a comment may follow it. -/
def value? (look : String → String) (s : ValueState) : List Char → Option String
  | [] => s.finish? look
  | c :: cs =>
    if s.ended then
      if c = ' ' ∨ c = '\t' then value? look s cs
      else if c = '#' then s.finish? look
      else none
    else
      match s.next? look c with
      | some s => value? look s cs
      | none => none

/-- A text without leading white space. -/
def skipWhite (cs : List Char) : List Char := cs.dropWhile Text.isWhite

/-- A name of a variable and what follows its white space. -/
def name? (cs : List Char) : Option (String × List Char) :=
  match cs with
  | [] => none
  | c :: _ =>
    if ('a' ≤ c ∧ c ≤ 'z') ∨ ('A' ≤ c ∧ c ≤ 'Z') ∨ c = '_' then
      let isPart (c : Char) : Bool := Text.isAlnum c || c == '_' || c == '.'
      some (String.ofList (cs.takeWhile isPart), skipWhite (cs.dropWhile isPart))
    else none

/-- What follows an equals sign. -/
def equals? : List Char → Option (List Char)
  | '=' :: rest => some rest
  | _ => none

/--
The name that a line assigns to, and its value as written; the word `export` may stand in front.
-/
def assignment? (cs : List Char) : Option (String × List Char) := do
  let (name, rest) ← name? cs
  match equals? rest with
  | some rest => some (name, skipWhite rest)
  | none =>
    if name = "export" then do
      let (name, rest) ← name? rest
      let rest ← equals? rest
      some (name, skipWhite rest)
    else none

/--
The value of a name in an environment.  Variables stand there as a name, an equals sign and a value,
so a name that goes on after an equals sign is compared with the value too.
-/
def valueIn? (env : Environment) (name : String) : Option String :=
  env.findSome? fun v =>
    (Text.stripLead? (name.toList ++ ['=']) (v.1.toList ++ '=' :: v.2.toList)).map String.ofList

/--
The value of a name in an environment or else among earlier assignments, the last one of them.
-/
def lookUp (env assigned : Environment) (name : String) : String :=
  ((valueIn? env name).or (assigned.lookup name)).getD ""

/-- Loads lines; `assigned` holds the assignments of earlier lines, the latest first. -/
def loadLines (env assigned : Environment) : List (Option (List Char)) → Environment
  | [] => env
  | none :: _ => env
  | some line :: rest =>
    let cs := Text.trim Text.isWhite line
    if cs = [] ∨ cs.head? = some '#' then loadLines env assigned rest
    else
      match assignment? cs with
      | none => env
      | some (name, written) =>
        let value := if written = [] ∨ written.head? = some '#' then some ""
          else value? (lookUp env assigned) .start written
        match value with
        | none => env
        | some v =>
          let env' := if (env.lookup name).isSome then env else env ++ [(name, v)]
          loadLines env' ((name, v) :: assigned) rest

/-- Octets without the mark of their encoding at the beginning. -/
def skipMark (bs : Bytes) : Bytes := if [0xEF, 0xBB, 0xBF].isPrefixOf bs then bs.drop 3 else bs

/-- The environment with the variables of a file added. -/
def load (env : Environment) (file : Bytes) : Environment :=
  loadLines env [] (logicalLines .plain [] (octetLines [] (skipMark file)))

end Gatehouse.Dotenv
