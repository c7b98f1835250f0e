import Gatehouse.Decimal.Binary64

/-!
# TOML values and the tree of a document

A document states its tables piece by piece: by headers, by dotted keys, and by headers of tables
inside of them.  `TomlNode` keeps how each table came to be, for that decides what may still be
added to it; `TomlNode.stateTable`, `TomlNode.addTable` and `TomlNode.putPair` are the three ways to
extend the members of the root.  `TomlNode.value` forgets the bookkeeping.
-/

namespace Gatehouse

/-- A TOML value; the members of a table stand in the order written, none twice. -/
inductive Toml where
  | text (s : String)
  | integer (n : Int)
  | real (x : Binary64)
  | truth (b : Bool)
  /-- A date, a time or both, in the canonical spelling. -/
  | date (written : String)
  | array (items : List Toml)
  | table (members : List (String × Toml))
deriving Repr, Inhabited

/-- How a table came to be. -/
inductive TableOrigin where
  /-- By its own header, or as the root. -/
  | stated
  /-- By the header of a table inside of it. -/
  | implied
  /-- By a dotted key. -/
  | dotted
deriving DecidableEq, Repr

/-- A part of a document. -/
inductive TomlNode where
  /-- A value, to which nothing can be added. -/
  | leaf (v : Toml)
  | table (origin : TableOrigin) (members : List (String × TomlNode))
  /-- Tables under one name, each stated by a header of its own. -/
  | tables (items : List TomlNode)

/-- The members of a table. -/
abbrev TomlMembers := List (String × TomlNode)

namespace TomlNode

/-- Members with that of a key changed; a key that is new comes last. -/
def alterKey (key : String) (change : Option TomlNode → Option TomlNode) :
    TomlMembers → Option TomlMembers
  | [] => (change none).map fun n => [(key, n)]
  | (k, n) :: rest =>
    if k = key then (change (some n)).map fun m => (key, m) :: rest
    else (alterKey key change rest).map ((k, n) :: ·)

/-- What is done to the members of a table, whose origin is known. -/
abbrev Change := TableOrigin → TomlMembers → Option TomlMembers

/--
A change of the table at the end of a path.  Tables on the way that are missing are made.  The path
of a header goes through every table and the last of several; a dotted key goes through no table
that was stated.
-/
def along (viaDots : Bool) : List String → Change → Change
  | [], change => change
  | key :: path, change => fun _ ms =>
    alterKey key
      (fun
        | none =>
          let origin := if viaDots then TableOrigin.dotted else .implied
          (along viaDots path change origin []).map (table origin)
        | some (leaf _) => none
        | some (table origin inner) =>
          if viaDots ∧ origin = .stated then none
          else (along viaDots path change origin inner).map (table origin)
        | some (tables items) =>
          match items.getLast? with
          | some (table origin inner) =>
            (along viaDots path change origin inner).map fun inner' =>
              tables (items.dropLast ++ [table origin inner'])
          | _ => none)
      ms

/-- States a table by its header; one that was only implied so far may be stated once. -/
def stateTable (parents : List String) (key : String) (root : TomlMembers) : Option TomlMembers :=
  along false parents
    (fun _ => alterKey key fun
      | none => some (table .stated [])
      | some (table .implied ms) => some (table .stated ms)
      | _ => none)
    .stated root

/-- Adds one more table to those under a name. -/
def addTable (parents : List String) (key : String) (root : TomlMembers) : Option TomlMembers :=
  along false parents
    (fun _ => alterKey key fun
      | none => some (tables [table .stated []])
      | some (tables items) => some (tables (items ++ [table .stated []]))
      | _ => none)
    .stated root

/-- Puts a value under a key that is new, into a table that dotted keys may extend. -/
def putKey (dots : List String) (key : String) (v : Toml) : Change := fun origin ms =>
  along true dots
    (fun inner ms =>
      if dots ≠ [] ∧ inner ≠ .dotted then none
      else alterKey key
        (fun
          | none => some (leaf v)
          | some _ => none)
        ms)
    origin ms

/-- Puts a value under a dotted key, into the table of the latest header. -/
def putPair (header dots : List String) (key : String) (v : Toml) (root : TomlMembers) :
    Option TomlMembers :=
  along false header (putKey dots key v) .stated root

mutual
/-- The value of a part of a document. -/
def value : TomlNode → Toml
  | leaf v => v
  | table _ ms => .table (memberValues ms)
  | tables items => .array (itemValues items)

/-- The values of parts in a list. -/
def itemValues : List TomlNode → List Toml
  | [] => []
  | n :: ns => n.value :: itemValues ns

/-- The values of members. -/
def memberValues : TomlMembers → List (String × Toml)
  | [] => []
  | (k, n) :: ms => (k, n.value) :: memberValues ms
end

end TomlNode

end Gatehouse
