import Gatehouse.Server.Exchange

/-!
# Plain layers

The flat alternative to chains: layers that see the server's own messages, in the order in which
they were added, with the handler behind the last one.  A layer may fail, and it may recover from a
failure.
-/

namespace Gatehouse

/-- What comes out of a layer. -/
abbrev NativeResult := Except NativeError NativeResponse

/-- A layer. -/
structure Layer where
  name : String
  enter : Entry NativeRequest NativeResult

/-- Layers in order. -/
abbrev LayerStack := List Layer

namespace LayerStack

/-- The names of the layers in order. -/
def names (s : LayerStack) : List String := s.map Layer.name

/-- Runs a request through the layers and the handler. -/
def run (s : LayerStack) (h : NativeHandler) : Inside NativeRequest NativeResult :=
  match s with
  | [] => h
  | l :: rest => l.enter.around (LayerStack.run rest h)

/-- The diagnostic form. -/
def debug (s : LayerStack) : String :=
  Quoted.record "LegacyStack" [("layers", Quoted.texts s.names)] false

end LayerStack

namespace Layer

/-- Adds the record of what came out of the layers inside. -/
def logResult (method : Method) (path : String) (result : NativeResult) (w : World) : World :=
  match result with
  | .ok n =>
    w.log .info "Request completed (legacy)"
      [("http.method", .text method.text), ("http.path", .text path),
        ("http.status_code", .number n.status.code)]
  | .error e =>
    w.log .warn "Request failed (legacy)"
      [("http.method", .text method.text), ("http.path", .text path), ("error", .text e.display)]

/-- The layer that logs requests. -/
def accessLog : Layer where
  name := "access_log"
  enter n := do
    let path := n.uri.path
    pure (.forward n fun result => do
      Task.modify (logResult n.method path result)
      pure result)

end Layer

/-- The layers that are used when nothing else is installed. -/
def LayerStack.standard : LayerStack := [Layer.accessLog]

end Gatehouse
