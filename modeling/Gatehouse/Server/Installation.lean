import Gatehouse.Chain.Foundry
import Gatehouse.Json.Value
import Gatehouse.Server.Layers

/-!
# Installing a pipeline

Requests run through chains or through plain layers.  An integration holds a foundry and the
bindings of chain names to kinds.  Setting it up is all or nothing: every bound chain is cast and
kept, or the plain layers are installed instead.  The status that is reported goes with what is
installed.
-/

namespace Gatehouse

/-- What requests run through. -/
inductive Pipeline where
  | chains (f : Foundry)
  | layers (s : LayerStack)

/-- The two systems. -/
inductive ActiveSystem where
  | chains
  | layers
deriving DecidableEq, Repr

namespace ActiveSystem

/-- The name in reports. -/
def name : ActiveSystem → String
  | chains => "chains"
  | layers => "legacy"

/-- The diagnostic form. -/
def debug : ActiveSystem → String
  | chains => "Chains"
  | layers => "Legacy"

end ActiveSystem

/-- Which system a pipeline is. -/
def Pipeline.active : Pipeline → ActiveSystem
  | chains _ => .chains
  | layers _ => .layers

/-- What is reported of a pipeline. -/
structure PipelineStatus where
  active : ActiveSystem
  registered : List String
  chains : List String
  layers : List String
deriving DecidableEq, Repr

namespace PipelineStatus

/-- The status of plain layers. -/
def ofLayers (s : LayerStack) : PipelineStatus := ⟨.layers, [], [], s.names⟩

/-- The status of chains with plain layers in reserve. -/
def ofChains (f : Foundry) (s : LayerStack) : PipelineStatus :=
  ⟨.chains, f.catalog.names, f.chainNames, s.names⟩

/-- The status as data. -/
def toJson (s : PipelineStatus) : Json :=
  Json.object
    [("active", .str s.active.name), ("registered_middleware", .arr (s.registered.map Json.str)),
      ("named_chains", .arr (s.chains.map Json.str)),
      ("legacy_middleware", .arr (s.layers.map Json.str))]

end PipelineStatus

/-- A pipeline with its status. -/
structure Installed where
  pipeline : Pipeline
  status : PipelineStatus

namespace Installed

/-- Plain layers with their status. -/
def ofLayers (s : LayerStack) : Installed := ⟨.layers s, .ofLayers s⟩

/-- What is installed if nothing else was. -/
def standard : Installed := ofLayers .standard

end Installed

/-- A foundry and the chains to be installed from it. -/
structure Integration where
  foundry : Foundry
  enabled : Bool
  bindings : Named String

namespace Integration

/-- An enabled integration that binds the two standard kinds under their own names. -/
def of (f : Foundry) : Integration :=
  ⟨f, true, Named.put Foundry.apiKind Foundry.apiKind
    (Named.put Foundry.publicKind Foundry.publicKind [])⟩

/-- The integration turned on or off. -/
def withEnabled (i : Integration) (b : Bool) : Integration := { i with enabled := b }

/-- The integration with other bindings, the last one of each name. -/
def withBindings (i : Integration) (bs : List (String × String)) : Integration :=
  { i with bindings := Named.ofPairs bs }

/-- Binds a chain to a kind in place of an earlier binding. -/
def bind (i : Integration) (chain kind : String) : Integration :=
  { i with bindings := Named.put chain kind i.bindings }

/-- Takes a binding away. -/
def unbind (i : Integration) (chain : String) : Integration :=
  { i with bindings := i.bindings.drop chain }

/-- The record of an integration that is turned off. -/
def disabledRecord (s : LayerStack) : LogRecord :=
  ⟨.info, "middleware chains disabled, using legacy stack",
    [("legacy_middleware", .text (Quoted.texts s.names))]⟩

/-- The record of chains that could not be built. -/
def failedRecord (e : WiringError) (s : LayerStack) : LogRecord :=
  ⟨.warn, "failed to build middleware chains, falling back to legacy stack",
    [("error", .text e.message), ("legacy_middleware", .text (Quoted.texts s.names))]⟩

/-- What is installed, and the records of installing it. -/
def setup (i : Integration) (s : LayerStack) : Installed × List LogRecord :=
  if !i.enabled then (.ofLayers s, [disabledRecord s])
  else
    match i.foundry.keepAll i.bindings with
    | (.ok f, records) => (⟨.chains f, .ofChains f s⟩, records)
    | (.error e, records) => (.ofLayers s, records ++ [failedRecord e s])

end Integration

end Gatehouse
