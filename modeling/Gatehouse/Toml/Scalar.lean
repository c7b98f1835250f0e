import Gatehouse.Bytes
import Gatehouse.Text.Ascii
import Gatehouse.Time.Rfc3339
import Gatehouse.Toml.Tree

/-!
# Scalars of TOML

Readers of quoted texts, numbers and dates.  Each takes the characters where the scalar begins and
gives it together with what follows it.  Underscores may stand between two digits of a number; a
text in three quotes may go over several lines, each of which ends in a line feed whatever the file
has.
-/

namespace Gatehouse.Toml

open Text (isDigit digitsValue)

/-- White space within a line. -/
def isBlank (c : Char) : Bool := c == ' ' || c == '\t'

/-- A text without its leading blanks. -/
def skipBlank (cs : List Char) : List Char := cs.dropWhile isBlank

/-- A character that may stand in comments and, unless it means something there, in texts. -/
def isPlain (c : Char) : Bool := c == '\t' || (0x20 ≤ c.toNat && c.toNat != 0x7F)

/-- What follows a line end. -/
def newline? : List Char → Option (List Char)
  | '\n' :: rest => some rest
  | '\r' :: '\n' :: rest => some rest
  | _ => none

/-- What follows blanks and line ends. -/
def skipLines : List Char → List Char
  | '\r' :: '\n' :: rest => skipLines rest
  | c :: rest => if isBlank c || c == '\n' then skipLines rest else c :: rest
  | [] => []

/-- The character that exactly `n` hexadecimal digits write. -/
def codePoint? (n : Nat) (cs : List Char) : Option (Char × List Char) := do
  let vs ← (cs.take n).mapM Bytes.hexValue?
  let code := vs.foldl (fun m v => m * 16 + v) 0
  if vs.length = n ∧ code.isValidChar then some (Char.ofNat code, cs.drop n) else none

/-- The character that an escape writes, after the backslash. -/
def escape? : List Char → Option (Char × List Char)
  | 'b' :: rest => some ('\x08', rest)
  | 't' :: rest => some ('\t', rest)
  | 'n' :: rest => some ('\n', rest)
  | 'f' :: rest => some ('\x0c', rest)
  | 'r' :: rest => some ('\r', rest)
  | '"' :: rest => some ('"', rest)
  | '\\' :: rest => some ('\\', rest)
  | 'u' :: rest => codePoint? 4 rest
  | 'U' :: rest => codePoint? 8 rest
  | _ => none

/-- The rest of a text in double quotes, its characters so far in reverse. -/
def quotedRest? : Nat → List Char → List Char → Option (String × List Char)
  | 0, _, _ => none
  | _ + 1, _, [] => none
  | fuel + 1, done, c :: cs =>
    if c = '"' then some (String.ofList done.reverse, cs)
    else if c = '\\' then
      match escape? cs with
      | some (e, rest) => quotedRest? fuel (e :: done) rest
      | none => none
    else if isPlain c then quotedRest? fuel (c :: done) cs
    else none

/-- The rest of a text in single quotes. -/
def literalRest? (cs : List Char) : Option (String × List Char) :=
  let inside := cs.takeWhile fun c => isPlain c && c != '\''
  match cs.dropWhile fun c => isPlain c && c != '\'' with
  | '\'' :: rest => some (String.ofList inside, rest)
  | _ => none

/-- A text in three quotes without a line end at its very beginning. -/
def openLines (cs : List Char) : List Char := (newline? cs).getD cs

/-- What follows the blanks and line ends after a backslash at the end of a line. -/
def joinLines? (cs : List Char) : Option (List Char) := (newline? (skipBlank cs)).map skipLines

/--
The rest of a text in three quotes.  At its end up to two quotes more belong to the text; `escapes`
says whether a backslash means something.
-/
def linesRest? (quote : Char) (escapes : Bool) :
    Nat → List Char → List Char → Option (String × List Char)
  | 0, _, _ => none
  | _ + 1, _, [] => none
  | fuel + 1, done, c :: cs =>
    if c = quote then
      let run := 1 + (cs.takeWhile (· == quote)).length
      let kept := if run < 3 then run else min (run - 3) 2
      let done := List.replicate kept quote ++ done
      if run < 3 then linesRest? quote escapes fuel done (cs.drop (run - 1))
      else some (String.ofList done.reverse, cs.drop (kept + 2))
    else if escapes ∧ c = '\\' then
      match joinLines? cs with
      | some rest => linesRest? quote escapes fuel done rest
      | none =>
        match escape? cs with
        | some (e, rest) => linesRest? quote escapes fuel (e :: done) rest
        | none => none
    else
      match newline? (c :: cs) with
      | some rest => linesRest? quote escapes fuel ('\n' :: done) rest
      | none => if isPlain c then linesRest? quote escapes fuel (c :: done) cs else none

/-- A text in one of the four kinds of quotes. -/
def text? (fuel : Nat) : List Char → Option (String × List Char)
  | '"' :: '"' :: '"' :: rest => linesRest? '"' true fuel [] (openLines rest)
  | '"' :: rest => quotedRest? fuel [] rest
  | '\'' :: '\'' :: '\'' :: rest => linesRest? '\'' false fuel [] (openLines rest)
  | '\'' :: rest => literalRest? rest
  | _ => none

/-- Digits of a class with single underscores between them, without these, and what follows. -/
def digitRun (isD : Char → Bool) : List Char → List Char × List Char
  | c :: '_' :: d :: rest =>
    if isD c then
      if isD d then
        let (ds, after) := digitRun isD (d :: rest)
        (c :: ds, after)
      else ([c], '_' :: d :: rest)
    else ([], c :: '_' :: d :: rest)
  | c :: rest =>
    if isD c then
      let (ds, after) := digitRun isD rest
      (c :: ds, after)
    else ([], c :: rest)
  | [] => ([], [])
termination_by cs => cs.length

/-- At least one digit of a class. -/
def digits? (isD : Char → Bool) (cs : List Char) : Option (List Char × List Char) :=
  let (ds, rest) := digitRun isD cs
  if ds = [] then none else some (ds, rest)

/-- The integers of sixty-four bits with sign. -/
def isInteger (n : Int) : Bool := -9223372036854775808 ≤ n && n ≤ 9223372036854775807

/-- An integer of sixty-four bits, or nothing. -/
def integer? (n : Int) : Option Toml := if isInteger n then some (.integer n) else none

/-- An integer in a base other than ten, after its mark. -/
def based? (base : Nat) (cs : List Char) : Option (Toml × List Char) := do
  let (ds, rest) ← digits? (fun c => (Bytes.hexValue? c).any (· < base)) cs
  let v ← integer? (ds.foldl (fun n c => n * base + (Bytes.hexValue? c).getD 0) 0 : Nat)
  pure (v, rest)

/-- The power of ten after its mark. -/
def power? (cs : List Char) : Option (Int × List Char) :=
  let (negative, cs) := match cs with
    | '-' :: rest => (true, rest)
    | '+' :: rest => (false, rest)
    | _ => (false, cs)
  (digits? isDigit cs).map fun (ds, rest) =>
    (if negative then -(digitsValue ds : Int) else digitsValue ds, rest)

/-- A number in floating point; one that is too large is refused unless it is negative. -/
def real? (negative : Bool) (digits : List Char) (power : Int) : Option Toml :=
  let m := Binary64.ofDecimal (digitsValue digits) power
  if m = Binary64.infinity ∧ ¬ negative then none else some (.real ⟨negative, m⟩)

/-- What follows the whole part of a number. -/
def afterWhole? (negative : Bool) (whole cs : List Char) : Option (Toml × List Char) :=
  match cs with
  | '.' :: rest => do
    let (ds, rest) ← digits? isDigit rest
    let (e, rest) ← match rest with
      | 'e' :: r => power? r
      | 'E' :: r => power? r
      | r => some (0, r)
    let v ← real? negative (whole ++ ds) (e - ds.length)
    pure (v, rest)
  | c :: rest =>
    if c = 'e' ∨ c = 'E' then do
      let (e, rest) ← power? rest
      let v ← real? negative whole e
      pure (v, rest)
    else (integer? (if negative then -(digitsValue whole : Int) else digitsValue whole)).map
      fun v => (v, cs)
  | [] => (integer? (if negative then -(digitsValue whole : Int) else digitsValue whole)).map
      fun v => (v, cs)

/-- A number after its sign. -/
def unsigned? (negative : Bool) : List Char → Option (Toml × List Char)
  | 'i' :: 'n' :: 'f' :: rest => some (.real ⟨negative, Binary64.infinity⟩, rest)
  | 'n' :: 'a' :: 'n' :: rest => some (.real ⟨negative, Binary64.notANumber⟩, rest)
  | '0' :: rest => afterWhole? negative ['0'] rest
  | cs => do
    let (whole, rest) ← digits? isDigit cs
    afterWhole? negative whole rest

/-- A number. -/
def number? : List Char → Option (Toml × List Char)
  | '+' :: rest => unsigned? false rest
  | '-' :: rest => unsigned? true rest
  | '0' :: 'x' :: rest => based? 16 rest
  | '0' :: 'o' :: rest => based? 8 rest
  | '0' :: 'b' :: rest => based? 2 rest
  | cs => unsigned? false cs

/-- A calendar date and what follows it. -/
def calendarDate? (cs : List Char) : Option (List Char × List Char) := do
  let (y, r) ← Rfc3339.number? 4 cs
  let r ← Rfc3339.expect? '-' r
  let (m, r) ← Rfc3339.number? 2 r
  let r ← Rfc3339.expect? '-' r
  let (d, r) ← Rfc3339.number? 2 r
  let date : Calendar.Date := ⟨y, m, d⟩
  if date.isValid then some (cs.take 10, r) else none

/-- A time of day in the canonical spelling and what follows it. -/
def timeOfDay? (cs : List Char) : Option (List Char × List Char) := do
  let (h, r) ← Rfc3339.number? 2 cs
  let r ← Rfc3339.expect? ':' r
  let (m, r) ← Rfc3339.number? 2 r
  let r ← Rfc3339.expect? ':' r
  let (s, r) ← Rfc3339.number? 2 r
  let (fraction, r) ← match r with
    | '.' :: rest =>
      let ds := rest.takeWhile isDigit
      if ds = [] then none else some (ds.take 9, rest.dropWhile isDigit)
    | _ => some ([], r)
  let shown := (fraction.reverse.dropWhile (· == '0')).reverse
  if h < 24 ∧ m < 60 ∧ s ≤ 60 then
    some (cs.take 8 ++ (if shown = [] then [] else '.' :: shown), r)
  else none

/--
An offset from universal time in the canonical spelling, if there is one, and what follows it.
-/
def offset? (cs : List Char) : Option (List Char × List Char) :=
  match cs with
  | 'Z' :: rest => some (['Z'], rest)
  | 'z' :: rest => some (['Z'], rest)
  | sign :: rest =>
    if sign = '+' ∨ sign = '-' then do
      let (h, r) ← Rfc3339.number? 2 rest
      let r ← Rfc3339.expect? ':' r
      let (m, r) ← Rfc3339.number? 2 r
      if h < 24 ∧ m < 60 then
        some ((if h = 0 ∧ m = 0 then '+' else sign) :: rest.take 5, r)
      else none
    else some ([], cs)
  | [] => some ([], [])

/-- A date with a time, a date, or a time. -/
def date? (cs : List Char) : Option (Toml × List Char) :=
  match calendarDate? cs with
  | some (day, rest) =>
    match Rfc3339.timeMark? rest >>= timeOfDay? with
    | some (time, rest) => (offset? rest).map fun (east, r) =>
        (.date (String.ofList (day ++ 'T' :: time ++ east)), r)
    | none => some (.date (String.ofList day), rest)
  | none => (timeOfDay? cs).map fun (time, rest) => (.date (String.ofList time), rest)

end Gatehouse.Toml
