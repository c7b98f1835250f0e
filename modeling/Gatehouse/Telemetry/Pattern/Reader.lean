import Gatehouse.Bytes
import Gatehouse.Telemetry.Pattern.Basic
import Gatehouse.Text.WordTable

/-!
# Reading patterns

`Pattern.parse?` reads a whole text as a pattern.  It knows alternatives, groups with names and
switches, sets with ranges and operations, escapes, and repetitions without a count: braces end the
fields of a filter, so nothing inside them can be closed here.  Groups that look around are refused,
and so are properties of characters.
-/

namespace Gatehouse.Pattern

/-- What follows white space and comments. -/
def skipSpace (inComment : Bool) : List Char → List Char
  | [] => []
  | c :: cs =>
    if inComment then skipSpace (c ≠ '\n') cs
    else if Text.isWhite c then skipSpace false cs
    else if c = '#' then skipSpace true cs
    else c :: cs

/-- What follows white space and comments where these do not count. -/
def skip (spaced : Bool) (cs : List Char) : List Char := if spaced then skipSpace false cs else cs

/-! ## Characters and escapes -/

/-- A number of so many hexadecimal digits. -/
def hexDigits? (spaced : Bool) (value : Nat) : Nat → List Char → Option (Nat × List Char)
  | 0, cs => some (value, cs)
  | n + 1, cs =>
    match skip spaced cs with
    | [] => none
    | c :: cs =>
      match Bytes.hexValue? c with
      | some d => hexDigits? spaced (value * 16 + d) n cs
      | none => none

/-- A character by its number. -/
def numbered? (spaced : Bool) (digits : Nat) (cs : List Char) : Option (Pattern × List Char) :=
  match hexDigits? spaced 0 digits cs with
  | some (n, rest) => if n.isValidChar then some (.char (Char.ofNat n) (digits = 2), rest) else none
  | none => none

/-- What a letter after a backslash stands for. -/
def ofLetter? : Char → Option Pattern
  | 'a' => some (.char '\x07' false)
  | 'f' => some (.char '\x0c' false)
  | 't' => some (.char '\t' false)
  | 'n' => some (.char '\n' false)
  | 'r' => some (.char '\r' false)
  | 'v' => some (.char '\x0b' false)
  | 'd' | 's' | 'w' => some (.standard false)
  | 'D' | 'S' | 'W' => some (.standard true)
  | 'A' | 'z' => some (.look false)
  | 'b' | 'B' | '<' | '>' => some (.look true)
  | _ => none

/-- What a backslash and the characters after it stand for; signs of ASCII stand for themselves. -/
def escape? (spaced : Bool) : List Char → Option (Pattern × List Char)
  | [] => none
  | c :: rest =>
    if c = 'x' then numbered? spaced 2 rest
    else if c = 'u' then numbered? spaced 4 rest
    else if c = 'U' then numbered? spaced 8 rest
    else match ofLetter? c with
      | some p => some (p, rest)
      | none => if c.toNat < 0x80 ∧ ¬Text.isAlnum c then some (.char c false, rest) else none

/-! ## Sets -/

/-- The names of classes of ASCII characters. -/
def classNames : List String :=
  ["alnum", "alpha", "ascii", "blank", "cntrl", "digit", "graph", "lower", "print", "punct",
    "space",
    "upper", "word", "xdigit"]

/-- What follows the name of a class, a colon and the closing bracket. -/
def className? (cs : List Char) : Option (List Char) :=
  match cs.dropWhile (· ≠ ':') with
  | ':' :: ']' :: rest =>
    if classNames.contains (String.ofList (cs.takeWhile (· ≠ ':'))) then some rest else none
  | _ => none

/-- A class by name after its opening bracket: whether it is negated, and what follows it. -/
def namedClass? : List Char → Option (Bool × List Char)
  | ':' :: '^' :: cs => (className? cs).map fun r => (true, r)
  | ':' :: cs => (className? cs).map fun r => (false, r)
  | _ => none

/-- The set of one member. -/
def memberSet? : Pattern → Option PatternSet
  | .char c _ => some (.char c)
  | .standard negated => some (.standard negated)
  | _ => none

/-- The range from one character to another one that does not come before it. -/
def rangeSet? : Pattern → Pattern → Option PatternSet
  | .char c _, .char d _ => if c ≤ d then some (.range c d) else none
  | _, _ => none

/-- A member of a set as written. -/
def member? (spaced : Bool) : List Char → Option (Pattern × List Char)
  | [] => none
  | '\\' :: rest => escape? spaced rest
  | c :: rest => some (.char c false, rest)

/-- The next character, or the next one that counts. -/
def peek? (spaced : Bool) (cs : List Char) : Option Char :=
  if spaced then
    let rest := match cs.dropWhile Text.isWhite with
      | '#' :: rest => rest.dropWhile Text.isWhite
      | rest => rest
    rest.head?.or cs.head?
  else cs.head?

/--
One member or a range of members; a hyphen before a hyphen or the closing bracket makes no range.
-/
def members? (spaced : Bool) (cs : List Char) : Option (PatternSet × List Char) := do
  let (first, rest) ← member? spaced cs
  match skip spaced rest with
  | [] => none
  | '-' :: after =>
    if peek? spaced after = some ']' ∨ peek? spaced after = some '-' then
      pure (← memberSet? first, '-' :: after)
    else
      let (last, rest) ← member? spaced (skip spaced after)
      pure (← rangeSet? first last, rest)
  | rest => pure (← memberSet? first, rest)

/-- The union of sets that are given in reverse. -/
def unionOf : List PatternSet → PatternSet
  | [] => .empty
  | [s] => s
  | sets => .union sets.reverse

/-- The set on the left of an operation, if there is one, with the sets on its right. -/
def combine (left : Option PatternSet) (sets : List PatternSet) : PatternSet :=
  match left with
  | none => unionOf sets
  | some l => .combined l (unionOf sets)

mutual
/-- A set after its opening bracket: whether it is negated, and what is in it. -/
def set? (spaced : Bool) (fuel : Nat) (cs : List Char) : Option ((Bool × PatternSet) × List Char) :=
  match fuel with
  | 0 => none
  | fuel + 1 =>
    match skip spaced cs with
    | '^' :: rest => (sets? spaced fuel true none [] rest).map fun (s, r) => ((true, s), r)
    | rest => (sets? spaced fuel true none [] rest).map fun (s, r) => ((false, s), r)

/--
The rest of a set up to its closing bracket.  `opening` says that only hyphens stand before it:
hyphens there are members, and so is a bracket that would close an empty set.  `left` is the set on
the left of the latest operation, and `sets` are the sets after it, in reverse.
-/
def sets? (spaced : Bool) (fuel : Nat) (opening : Bool) (left : Option PatternSet)
    (sets : List PatternSet) (cs : List Char) : Option (PatternSet × List Char) :=
  match fuel with
  | 0 => none
  | fuel + 1 =>
    match skip spaced cs with
    | [] => none
    | c :: rest =>
      if opening && c == '-' then sets? spaced fuel true left (.char '-' :: sets) rest
      else if opening && c == ']' && sets.isEmpty then sets? spaced fuel false left [.char ']'] rest
      else if c = '[' then
        match namedClass? rest with
        | some (negated, rest) => sets? spaced fuel false left (.named negated :: sets) rest
        | none =>
          match set? spaced fuel rest with
          | some ((negated, s), rest) =>
            sets? spaced fuel false left (.bracket negated s :: sets) rest
          | none => none
      else if c = ']' then some (combine left sets, rest)
      else if ['&', '-', '~'].contains c && rest.head? == some c then
        sets? spaced fuel false (some (combine left sets)) [] rest.tail
      else
        match members? spaced (c :: rest) with
        | some (s, rest) => sets? spaced fuel false left (s :: sets) rest
        | none => none
end

/-! ## Groups -/

/-- The switch of a letter. -/
def switch? : Char → Option PatternSwitch
  | 'i' => some .caseless
  | 'm' => some .lines
  | 's' => some .dotAll
  | 'U' => some .short
  | 'u' => some .unicode
  | 'R' => some .returns
  | 'x' => some .spaced
  | _ => none

/--
Switches up to a colon or the closing parenthesis.  A hyphen turns off the ones after it; it stands
at most once and not at the end.
-/
def switches? (negated dangling : Bool) (done : SwitchChange) :
    List Char → Option (SwitchChange × Char × List Char)
  | [] => none
  | c :: rest =>
    if c = ':' ∨ c = ')' then if dangling then none else some (done.reverse, c, rest)
    else if c = '-' then if negated then none else switches? true true done rest
    else match switch? c with
      | some s =>
        if done.any fun d => d.1 = s then none
          else switches? negated false ((s, !negated) :: done) rest
      | none => none

/-- Whether a text names a group. -/
def isGroupName : List Char → Bool
  | [] => false
  | c :: cs =>
    (c == '_' || Text.isLetter c)
      && cs.all fun d => Text.isWordChar d || ['_', '.', '[', ']'].contains d

/-- The name of a group after its angle bracket. -/
def groupName? (cs : List Char) : Option (String × List Char) :=
  match cs.dropWhile (· ≠ '>') with
  | '>' :: rest =>
    let name := cs.takeWhile (· ≠ '>')
    if isGroupName name then some (String.ofList name, rest) else none
  | _ => none

/-- What an opening parenthesis begins. -/
inductive Opening where
  /-- Switches for the rest of the group around it. -/
  | switches (change : SwitchChange)
  | group (name : Option String) (change : SwitchChange)

/-- What the characters after an opening parenthesis begin, and what follows them. -/
def opening? (cs : List Char) : Option (Opening × List Char) :=
  match cs with
  | '?' :: '=' :: _ | '?' :: '!' :: _ | '?' :: '<' :: '=' :: _ | '?' :: '<' :: '!' :: _ => none
  | '?' :: 'P' :: '<' :: rest | '?' :: '<' :: rest =>
    (groupName? rest).map fun (name, r) => (.group (some name) [], r)
  | '?' :: rest =>
    match switches? false false [] rest with
    | some (change, ':', rest) => some (.group none change, rest)
    | some (change, _, rest) => if change = [] then none else some (.switches change, rest)
    | none => none
  | rest => some (.group none [], rest)

/-- Whether white space does not count after switches are set. -/
def spacedAfter (spaced : Bool) (change : SwitchChange) : Bool :=
  (change.lookup .spaced).getD spaced

/-- A single character of a pattern, with its escapes. -/
def single? (spaced : Bool) : List Char → Option (Pattern × List Char)
  | [] => none
  | '\\' :: rest => escape? spaced rest
  | '.' :: rest => some (.dot, rest)
  | '^' :: rest | '$' :: rest => some (.look false, rest)
  | c :: rest => some (.char c false, rest)

/-- Patterns one after the other, given in reverse. -/
def sequenceOf : List Pattern → Pattern
  | [] => .empty
  | [p] => p
  | ps => .sequence ps.reverse

/-- Alternatives, given in reverse. -/
def choiceOf : List Pattern → Pattern
  | [p] => p
  | ps => .choice ps.reverse

/--
The patterns before a repetition sign with the last one of them repeated; they are in reverse.
-/
def repeatLast? : List Pattern → Option (List Pattern)
  | [] | .switch _ :: _ => none
  | p :: ps => some (.repeated p :: ps)

mutual
/--
An alternative up to a bar, a closing parenthesis or the end, whether white space does not count
after it, and what follows.  The patterns that were read of it are in reverse.
-/
def branch? (spaced : Bool) (fuel : Nat) (done : List Pattern) (cs : List Char) :
    Option (Pattern × Bool × List Char) :=
  match fuel with
  | 0 => none
  | fuel + 1 =>
    match skip spaced cs with
    | [] => some (sequenceOf done, spaced, [])
    | c :: rest =>
      if c = ')' ∨ c = '|' then some (sequenceOf done, spaced, c :: rest)
      else if c = '(' then
        match opening? (skip spaced rest) with
        | some (.switches change, rest) =>
          branch? (spacedAfter spaced change) fuel (.switch change :: done) rest
        | some (.group name change, rest) =>
          match choice? (spacedAfter spaced change) fuel [] rest with
          | some (p, ')' :: rest) => branch? spaced fuel (.group name change p :: done) rest
          | _ => none
        | none => none
      else if c = '[' then
        match set? spaced fuel rest with
        | some ((negated, s), rest) => branch? spaced fuel (.set negated s :: done) rest
        | none => none
      else if c = '?' ∨ c = '*' ∨ c = '+' then
        match repeatLast? done with
        | some done => branch? spaced fuel done (if rest.head? = some '?' then rest.tail else rest)
        | none => none
      else if c = '\x7b' then none
      else
        match single? spaced (c :: rest) with
        | some (p, rest) => branch? spaced fuel (p :: done) rest
        | none => none

/-- Alternatives up to a closing parenthesis or the end; those that were read are in reverse. -/
def choice? (spaced : Bool) (fuel : Nat) (done : List Pattern) (cs : List Char) :
    Option (Pattern × List Char) :=
  match fuel with
  | 0 => none
  | fuel + 1 =>
    match branch? spaced fuel [] cs with
    | some (p, spaced, '|' :: rest) => choice? spaced fuel (p :: done) rest
    | some (p, _, rest) => some (choiceOf (p :: done), rest)
    | none => none
end

/-- Reads a whole text as a pattern. -/
def parse? (cs : List Char) : Option Pattern :=
  match choice? false (2 * cs.length + 2) [] cs with
  | some (p, []) => some p
  | _ => none

end Gatehouse.Pattern
