import Gatehouse.Text.Ascii

/-!
# Patterns of field values

A pattern says which texts a field of a span may show.  `Pattern.depth` is how deep its parts nest,
and `Pattern.after?` is the mode that a pattern leaves behind, if it can be used at all: there are
no tables of case, words and properties beyond ASCII, so nothing that needs one can be used where
patterns read characters, and nothing that leaves ASCII open where they read octets.
`Pattern.check` passes the patterns that an automaton can be built for.
-/

namespace Gatehouse

/-- What a pattern can turn on and off. -/
inductive PatternSwitch where
  /-- Letters stand for both of their cases. -/
  | caseless
  /-- The anchors of lines stand at line ends too. -/
  | lines
  /-- The dot stands for line ends too. -/
  | dotAll
  /-- Repetitions are as short as possible. -/
  | short
  /-- The pattern reads characters, not octets. -/
  | unicode
  /-- A line end may begin with a carriage return. -/
  | returns
  /-- White space in the pattern does not count. -/
  | spaced
deriving DecidableEq, Repr

/-- Switches in the order in which they are set, each at most once. -/
abbrev SwitchChange := List (PatternSwitch × Bool)

/-- A set of characters. -/
inductive PatternSet where
  | empty
  | char (c : Char)
  | range (first last : Char)
  /-- A class of ASCII characters by name. -/
  | named (negated : Bool)
  /-- The digits, the white space or the word characters. -/
  | standard (negated : Bool)
  | bracket (negated : Bool) (s : PatternSet)
  | union (sets : List PatternSet)
  /-- What an operation makes of two sets. -/
  | combined (left right : PatternSet)
deriving Repr

/-- A pattern. -/
inductive Pattern where
  | empty
  /-- Sets switches for the rest of the group. -/
  | switch (change : SwitchChange)
  /-- A character, or the octet of its number. -/
  | char (c : Char) (isOctet : Bool)
  | dot
  /-- A place between characters, which may be the edge of a word. -/
  | look (isWordEdge : Bool)
  /-- The digits, the white space or the word characters. -/
  | standard (negated : Bool)
  | set (negated : Bool) (s : PatternSet)
  | repeated (p : Pattern)
  | group (name : Option String) (change : SwitchChange) (p : Pattern)
  | sequence (ps : List Pattern)
  | choice (ps : List Pattern)
deriving Repr

/-- What decides whether a pattern can be used. -/
structure PatternMode where
  caseless : Bool
  unicode : Bool
  /-- Whether the edges of words beyond ASCII can be told. -/
  edges : Bool
deriving DecidableEq, Repr

namespace PatternMode

/-- The mode in which a pattern begins. -/
def start (edges : Bool) : PatternMode := ⟨false, true, edges⟩

/-- The mode after switches are set. -/
def set (m : PatternMode) (change : SwitchChange) : PatternMode :=
  change.foldl
    (fun m s =>
      if s.1 = .caseless then { m with caseless := s.2 }
      else if s.1 = .unicode then { m with unicode := s.2 }
      else m)
    m

/-- Whether a member of a set can be used in a mode. -/
def allows (m : PatternMode) (c : Char) : Bool := if m.unicode then !m.caseless else c.toNat < 0x80

end PatternMode

namespace PatternSet

mutual
/-- How deep the sets inside a set nest. -/
def depth : PatternSet → Nat
  | bracket _ s => s.depth + 1
  | union sets => depthOfAll sets + 1
  | combined left right => max left.depth right.depth + 1
  | _ => 0

/-- How deep the deepest of some sets nests. -/
def depthOfAll : List PatternSet → Nat
  | [] => 0
  | s :: ss => max s.depth (depthOfAll ss)
end

mutual
/-- Whether a set can be used in a mode. -/
def isUsable (m : PatternMode) : PatternSet → Bool
  | empty => true
  | char c => m.allows c
  | range first last => m.allows first && m.allows last
  | named negated => if m.unicode then !m.caseless else !negated
  | standard negated => !m.unicode && !negated
  | bracket negated s => s.isUsable m && (m.unicode || !negated)
  | union sets => areUsable m sets
  | combined left right => left.isUsable m && right.isUsable m

/-- Whether all of some sets can be used in a mode. -/
def areUsable (m : PatternMode) : List PatternSet → Bool
  | [] => true
  | s :: ss => s.isUsable m && areUsable m ss
end

end PatternSet

namespace Pattern

mutual
/-- How deep the parts of a pattern nest. -/
def depth : Pattern → Nat
  | set _ s => s.depth + 1
  | repeated p => p.depth + 1
  | group _ _ p => p.depth + 1
  | sequence ps => depthOfAll ps + 1
  | choice ps => depthOfAll ps + 1
  | _ => 0

/-- How deep the deepest of some patterns nests. -/
def depthOfAll : List Pattern → Nat
  | [] => 0
  | p :: ps => max p.depth (depthOfAll ps)
end

mutual
/-- The names of the groups of a pattern. -/
def names : Pattern → List String
  | repeated p => p.names
  | group name _ p => name.toList ++ p.names
  | sequence ps => namesOfAll ps
  | choice ps => namesOfAll ps
  | _ => []

/-- The names of the groups of some patterns. -/
def namesOfAll : List Pattern → List String
  | [] => []
  | p :: ps => p.names ++ namesOfAll ps
end

mutual
/-- The mode after a pattern that can be used. -/
def after? (m : PatternMode) : Pattern → Option PatternMode
  | empty => some m
  | switch change => some (m.set change)
  | char c isOctet =>
    if if m.unicode then m.caseless else isOctet && 0x80 ≤ c.toNat then none else some m
  | dot => if m.unicode then some m else none
  | look isWordEdge => if m.unicode && isWordEdge && !m.edges then none else some m
  | standard negated => if m.unicode || negated then none else some m
  | set negated s => if s.isUsable m && (m.unicode || !negated) then some m else none
  | repeated p => p.after? m
  | group _ change p => (p.after? (m.set change)).map fun _ => m
  | sequence ps => afterAll? m ps
  | choice ps => afterAll? m ps

/-- The mode after patterns that can all be used. -/
def afterAll? (m : PatternMode) : List Pattern → Option PatternMode
  | [] => some m
  | p :: ps =>
    match p.after? m with
    | some m => afterAll? m ps
    | none => none
end

/-- The most levels of nesting. -/
def deepest : Nat := 250

/-- Why there is no automaton for a pattern. -/
inductive Flaw where
  /-- It cannot be read or compiled. -/
  | malformed
  /-- It asks for the edges of words beyond ASCII. -/
  | edges
deriving DecidableEq, Repr

/-- The displayed text. -/
def Flaw.message : Flaw → String
  | malformed => "error building NFA"
  | edges =>
    "unsupported regex feature for DFAs: cannot build DFAs for regexes with Unicode word " ++
      "boundaries; switch to ASCII word boundaries, or heuristically enable Unicode word " ++
      "boundaries or use a different regex engine"

/-- Passes a pattern that an automaton can be built for. -/
def check (p : Pattern) : Except Flaw Unit :=
  if ¬(p.depth ≤ deepest ∧ p.names.Nodup) ∨ (p.after? (.start true)).isNone then .error .malformed
  else if (p.after? (.start false)).isNone then .error .edges
  else .ok ()

end Pattern

end Gatehouse
