import Gatehouse.Server.Dispatch

/-!
# Building servers

A builder holds the limits and routes of a server to be, and at most one pipeline with its status:
what is installed later takes the place of what was installed before.  `Integration.setUpOn` sets up
an integration on a builder, and `ServerBuilder.build` makes the server.
-/

namespace Gatehouse

/-- A server that is being put together. -/
structure ServerBuilder where
  limits : Limits
  routes : Routes
  installed : Option Installed

namespace ServerBuilder

/-- Installs a pipeline in place of an earlier one. -/
def install (b : ServerBuilder) (i : Installed) : ServerBuilder := { b with installed := some i }

/-- Installs plain layers. -/
def installLayers (b : ServerBuilder) (s : LayerStack) : ServerBuilder := b.install (.ofLayers s)

/-- The status of what is installed. -/
def status? (b : ServerBuilder) : Option PipelineStatus := b.installed.map Installed.status

/-- The server, with the standard layers if nothing is installed, and the records of building it. -/
def build (b : ServerBuilder) : Server × List LogRecord :=
  let installed := b.installed.getD .standard
  (⟨b.limits, b.routes, installed⟩, Server.unbuiltRecords installed b.routes)

end ServerBuilder

/--
Sets up an integration on a builder: the status that is reported, the builder, and the records.
-/
def Integration.setUpOn (i : Integration) (b : ServerBuilder) (s : LayerStack) :
    PipelineStatus × ServerBuilder × List LogRecord :=
  let (installed, records) := i.setup s
  (installed.status, b.install installed, records)

end Gatehouse
