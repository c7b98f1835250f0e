import Gatehouse.Toml.Scalar

/-!
# Reading TOML

`Toml.parse?` reads a whole document as one table.  Arrays may go over several lines and hold
comments, inline tables may not.  A document that states a table or a key twice is refused, and so
is one whose arrays and inline tables, or whose keys, go deeper than `deepest`.
-/

namespace Gatehouse.Toml

/-- A character of a key without quotes. -/
def isBareKey (c : Char) : Bool := Text.isAlnum c || c == '-' || c == '_'

/-- The most arrays and inline tables around a value, and the most parts of a key. -/
def deepest : Nat := 79

/-- One part of a key. -/
def keyPart? (fuel : Nat) : List Char → Option (String × List Char)
  | '"' :: rest => quotedRest? fuel [] rest
  | '\'' :: rest => literalRest? rest
  | cs =>
    let ds := cs.takeWhile isBareKey
    if ds = [] then none else some (String.ofList ds, cs.dropWhile isBareKey)

/--
The parts of a key: those before its last part, the last part, and what follows with its blanks.
-/
def keyParts? : Nat → List Char → Option ((List String × String) × List Char)
  | 0, _ => none
  | fuel + 1, cs =>
    match keyPart? (fuel + 1) (skipBlank cs) with
    | none => none
    | some (part, rest) =>
      match skipBlank rest with
      | '.' :: rest => (keyParts? fuel rest).map fun ((dots, last), r) => ((part :: dots, last), r)
      | rest => some (([], part), rest)

/-- A key of no more than the most parts, and what follows it. -/
def key? (fuel : Nat) (cs : List Char) : Option ((List String × String) × List Char) :=
  (keyParts? fuel cs).filter fun k => k.1.1.length < deepest

/-- What follows blanks, line ends and comments. -/
def skipSpace (comment : Bool) : List Char → List Char
  | [] => []
  | c :: cs =>
    if c = '\n' then skipSpace false cs
    else if c = '\r' ∧ cs.head? = some '\n' then skipSpace false cs
    else if comment then if isPlain c then skipSpace true cs else c :: cs
    else if c = '#' then skipSpace true cs
    else if isBlank c then skipSpace false cs
    else c :: cs

/-- What follows the rest of a line that holds nothing but a comment. -/
def endLine? (cs : List Char) : Option (List Char) :=
  let rest := match skipBlank cs with
    | '#' :: r => r.dropWhile isPlain
    | r => r
  if rest = [] then some [] else newline? rest

mutual
/-- A value inside a number of arrays and inline tables, and what follows it. -/
def value? (fuel : Nat) (depth : Nat) (cs : List Char) : Option (Toml × List Char) :=
  match fuel with
  | 0 => none
  | fuel + 1 =>
    match cs with
    | '[' :: rest =>
      if depth < deepest then (items? fuel (depth + 1) rest).map fun (vs, r) =>
        (.array vs, r) else none
    | '\x7b' :: rest =>
      if depth < deepest then
        match skipBlank rest with
        | '\x7d' :: rest => some (.table [], rest)
        | rest =>
          (pairs? fuel (depth + 1) [] rest).map fun (ms, r) =>
            (.table (TomlNode.memberValues ms), r)
      else none
    | 't' :: 'r' :: 'u' :: 'e' :: rest => some (.truth true, rest)
    | 'f' :: 'a' :: 'l' :: 's' :: 'e' :: rest => some (.truth false, rest)
    | c :: _ =>
      if c = '"' ∨ c = '\'' then (text? (fuel + 1) cs).map fun (s, r) => (.text s, r)
      else (date? cs).or (number? cs)
    | [] => none

/-- Items up to the closing bracket; a comma may follow the last one. -/
def items? (fuel : Nat) (depth : Nat) (cs : List Char) : Option (List Toml × List Char) :=
  match fuel with
  | 0 => none
  | fuel + 1 =>
    match skipSpace false cs with
    | ']' :: rest => some ([], rest)
    | cs =>
      match value? fuel depth cs with
      | none => none
      | some (v, rest) =>
        match skipSpace false rest with
        | ',' :: rest => (items? fuel depth rest).map fun (vs, r) => (v :: vs, r)
        | ']' :: rest => some ([v], rest)
        | _ => none

/-- Pairs of an inline table up to the closing brace, at least one. -/
def pairs? (fuel : Nat) (depth : Nat) (done : TomlMembers) (cs : List Char) :
    Option (TomlMembers × List Char) :=
  match fuel with
  | 0 => none
  | fuel + 1 =>
    match key? (fuel + 1) cs with
    | some ((dots, last), '=' :: rest) =>
      match value? fuel depth (skipBlank rest) with
      | none => none
      | some (v, rest) =>
        match TomlNode.putKey dots last v .stated done with
        | none => none
        | some done =>
          match skipBlank rest with
          | ',' :: rest => pairs? fuel depth done rest
          | '\x7d' :: rest => some (done, rest)
          | _ => none
    | _ => none
end

/-- A header after its opening brackets: its key and what follows the line. -/
def header? (fuel : Nat) (closing : List Char) (cs : List Char) :
    Option ((List String × String) × List Char) := do
  let (key, rest) ← key? fuel cs
  let rest ← Text.stripLead? closing rest
  let rest ← endLine? rest
  pure (key, rest)

/-- Lines of a document, with the path of the latest header and the members so far. -/
def lines? : Nat → List String → TomlMembers → List Char → Option TomlMembers
  | 0, _, _, _ => none
  | fuel + 1, header, root, cs =>
    match skipBlank cs with
    | [] => some root
    | '\n' :: rest => lines? fuel header root rest
    | '\r' :: '\n' :: rest => lines? fuel header root rest
    | '#' :: rest =>
      match endLine? ('#' :: rest) with
      | some rest => lines? fuel header root rest
      | none => none
    | '[' :: '[' :: rest =>
      match header? (fuel + 1) [']', ']'] rest with
      | some ((parents, key), rest) =>
        match TomlNode.addTable parents key root with
        | some root => lines? fuel (parents ++ [key]) root rest
        | none => none
      | none => none
    | '[' :: rest =>
      match header? (fuel + 1) [']'] rest with
      | some ((parents, key), rest) =>
        match TomlNode.stateTable parents key root with
        | some root => lines? fuel (parents ++ [key]) root rest
        | none => none
      | none => none
    | cs =>
      match key? (fuel + 1) cs with
      | some ((dots, key), '=' :: rest) =>
        match value? (fuel + 1) 0 (skipBlank rest) with
        | some (v, rest) =>
          match endLine? rest, TomlNode.putPair header dots key v root with
          | some rest, some root => lines? fuel header root rest
          | _, _ => none
        | none => none
      | _ => none

/-- A text without the mark of its encoding at the beginning. -/
def skipMark : List Char → List Char
  | c :: cs => if c.toNat = 0xFEFF then cs else c :: cs
  | [] => []

/-- Reads a document. -/
def parseChars? (cs : List Char) : Option Toml :=
  (lines? (2 * cs.length + 2) [] [] (skipMark cs)).map fun ms => .table (TomlNode.memberValues ms)

/-- Reads a document. -/
def parse? (s : String) : Option Toml := parseChars? s.toList

end Gatehouse.Toml
