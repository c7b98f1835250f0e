import Gatehouse.Telemetry.Pattern.Reader

/-!
# Filters of log records

A filter is a list of directives with commas between them; an empty directive counts for nothing.  A
directive is a level, or a target with or without a level, and may name a span with a field in
brackets: `info`, `store=debug`, `[load\x7bkey=1\x7d]=warn`.  The value of a field is a number or a
pattern. `LogFilter.check` passes the filters that can be used.
-/

namespace Gatehouse

/-- Why a filter cannot be used. -/
inductive FilterError where
  | directive
  | level
  | field (flaw : Pattern.Flaw)
deriving DecidableEq, Repr

/-- The displayed text. -/
def FilterError.message : FilterError → String
  | directive => "invalid filter directive"
  | level => "error parsing level filter: expected one of \"off\", \"error\", \"warn\", " ++
      "\"info\", \"debug\", \"trace\", or a number 0-5"
  | field flaw => "invalid field filter: " ++ flaw.message

namespace LogFilter

/-- The names of levels. -/
def levelNames : List String := ["off", "error", "warn", "info", "debug", "trace"]

/-- Whether a text is a level: a name in any case, a number up to five, or nothing. -/
def isLevel (cs : List Char) : Bool :=
  cs.isEmpty || levelNames.contains (String.ofList (cs.map Text.lowerAscii))
    || (Text.unsigned? 5 cs).isSome

/-- What follows a sign. -/
def skipSign : List Char → List Char
  | '+' :: cs | '-' :: cs => cs
  | cs => cs

/-- Whether a text is the power of ten of a number, or nothing. -/
def isPower : List Char → Bool
  | [] => true
  | c :: cs => (c == 'e' || c == 'E') && skipSign cs != [] && (skipSign cs).all Text.isDigit

/--
Whether a text is a number: digits with or without a point and a power of ten, or a word for one
that is not finite.
-/
def isNumber (cs : List Char) : Bool :=
  let cs := skipSign cs
  let rest := cs.dropWhile Text.isDigit
  let (places, power) := match rest with
    | '.' :: rest => (rest.takeWhile Text.isDigit, rest.dropWhile Text.isDigit)
    | _ => ([], rest)
  ["inf", "infinity", "nan"].contains (String.ofList (cs.map Text.lowerAscii))
    || (((cs.takeWhile Text.isDigit) ++ places) != [] && isPower power)

/-- Passes the value of a field: a number, or a pattern that can be used. -/
def checkValue (cs : List Char) : Except Pattern.Flaw Unit :=
  if isNumber cs then .ok ()
  else match Pattern.parse? cs with
    | none => .error .malformed
    | some p => p.check

/-- Passes a field: a name, and a value after the first equals sign, up to the next one. -/
def checkField (cs : List Char) : Except Pattern.Flaw Unit :=
  match Text.splitOn '=' cs with
  | _ :: value :: _ => checkValue value
  | _ => .ok ()

/-- Where in a directive an octet stands. -/
inductive Place where
  | start
  /-- In a level or a target. -/
  | name
  | span
  /-- In a field that begins with the octet of this number. -/
  | field (first : Nat)
  /-- After the field of a span. -/
  | closed
  /-- After a span. -/
  | target
  /-- In a level that begins with the octet of this number. -/
  | level (first : Nat)
deriving DecidableEq, Repr

/-- Whether a directive may begin with a character. -/
def isFirst (c : Char) : Bool := c == '-' || c == ':' || c == '_' || Text.isWordChar c

/-- The characters of a text from the octet of one number up to that of another one. -/
def slice? (text : Bytes) (first last : Nat) : Option (List Char) :=
  Bytes.toChars? ((text.drop first).take (last - first))

/-- The place after a character, which begins with the octet of the given number. -/
def Place.next (text : Bytes) (i : Nat) (c : Char) : Place → Except FilterError Place
  | start => if c = '[' then .ok span else if isFirst c then .ok name else .error .directive
  | name => .ok (if c = '=' then level (i + 1) else if c = '[' then span else name)
  | span => .ok (if c = ']' then target else if c = '\x7b' then field (i + 1) else span)
  | field first =>
    if c ≠ '\x7d' then .ok (field first)
    else if i = first then .error .directive
    else
      match slice? text first i with
      | none => .error .directive
      | some cs =>
        match checkField cs with
        | .ok () => .ok closed
        | .error flaw => .error (.field flaw)
  | closed => if c = ']' then .ok target else .error .directive
  | target => if c = '=' then .ok (level (i + 1)) else .error .directive
  | level first => .ok (level first)

/-- The place after characters, the first of which begins with the octet of the given number. -/
def Place.run (text : Bytes) (i : Nat) (p : Place) : List Char → Except FilterError Place
  | [] => .ok p
  | c :: cs =>
    match p.next text i c with
    | .ok p => p.run text (i + c.utf8Size) cs
    | .error e => .error e

/--
Passes a directive.  White space around it does not count for its form, but fields and levels are
looked for by their numbers in the directive as written.
-/
def checkDirective (cs : List Char) : Except FilterError Unit :=
  let text := Bytes.ofChars cs
  match Place.start.run text 0 (Text.trim Text.isWhite cs) with
  | .ok .name | .ok .target => .ok ()
  | .ok (.level first) =>
    if (slice? text first text.length).any isLevel then .ok () else .error .level
  | .ok _ => .error .directive
  | .error e => .error e

/-- Passes directives one after the other. -/
def checkAll : List (List Char) → Except FilterError Unit
  | [] => .ok ()
  | d :: ds => do
    checkDirective d
    checkAll ds

/-- Passes a filter that can be used. -/
def check (filter : String) : Except FilterError Unit :=
  checkAll ((Text.splitOn ',' filter.toList).filter fun d => d ≠ [])

end LogFilter

end Gatehouse
