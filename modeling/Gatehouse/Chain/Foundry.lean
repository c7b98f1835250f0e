import Gatehouse.Chain.Catalog

/-!
# The foundry of chains

A foundry knows kinds of chains, each a list of stage names, and casts chains of a kind from its
catalog: every named stage once, in the order of registration, then sorted by priority.  Chains are
kept under names of their own, and a name that is taken is refused.
-/

namespace Gatehouse

/-- A catalog, the kinds of chains, and the chains that are kept. -/
structure Foundry where
  catalog : Catalog
  kinds : Named (List String)
  chains : Named Chain

namespace Foundry

/-- The kind for routes without authentication. -/
def publicKind : String := "public"

/-- The kind for routes that another service calls. -/
def apiKind : String := "api"

/-- A foundry without kinds. -/
def bare (c : Catalog) : Foundry := ⟨c, [], []⟩

/-- Defines a kind or redefines it in its place. -/
def define (f : Foundry) (kind : String) (stages : List String) : Foundry :=
  { f with kinds := Named.put kind stages f.kinds }

/-- A foundry with the two kinds that need no settings. -/
def standard (c : Catalog) : Foundry :=
  ((bare c).define publicKind ["request_id", "logging"]).define apiKind
    ["request_id", "logging", "assertion"]

/-- The place and the stage of each name, in the order of the names; a repeated name counts once. -/
def membersFrom (c : Catalog) (kind : String) (found : List (Nat × Stage)) :
    List String → Except WiringError (List (Nat × Stage))
  | [] => .ok found
  | name :: rest =>
    match c.position? name, c.find? name with
    | some i, some s =>
      if found.any fun e => e.1 == i then membersFrom c kind found rest
      else membersFrom c kind (found ++ [(i, s)]) rest
    | _, _ => .error (.missingStage kind name)

/-- Casts a chain of a kind. -/
def cast (f : Foundry) (kind : String) : Except WiringError Chain :=
  match f.kinds.find? kind with
  | none => .error (.unknownKind kind)
  | some names =>
    match membersFrom f.catalog kind [] names with
    | .error e => .error e
    | .ok found =>
      let ordered := found.mergeSort fun a b => a.1 ≤ b.1
      .ok (Chain.of (ordered.map Prod.snd) Handler.notFound)

/-- The record of a chain that was cast. -/
def castRecord (kind : String) (c : Chain) : LogRecord :=
  ⟨.debug, "assembled chain",
    [("chain_type", .text kind), ("middleware", .text (Quoted.texts c.names))]⟩

/-- Keeps a chain under a name. -/
def keep (f : Foundry) (name : String) (c : Chain) : Except WiringError Foundry :=
  if f.chains.has name then .error (.duplicateChain name)
  else .ok { f with chains := f.chains ++ [(name, c)] }

/-- The chain kept under a name. -/
def chain? (f : Foundry) (name : String) : Option Chain := f.chains.find? name

/-- The names of the chains that are kept, in order. -/
def chainNames (f : Foundry) : List String := f.chains.keys

/--
Casts and keeps a chain for each binding of a name to a kind, up to the first failure, with the
records of the chains that were cast.
-/
def keepAll (f : Foundry) : List (String × String) → Except WiringError Foundry × List LogRecord
  | [] => (.ok f, [])
  | (name, kind) :: rest =>
    match f.cast kind with
    | .error e => (.error e, [])
    | .ok c =>
      match f.keep name c with
      | .error e => (.error e, [castRecord kind c])
      | .ok f' =>
        let (result, records) := keepAll f' rest
        (result, castRecord kind c :: records)

end Foundry

end Gatehouse
