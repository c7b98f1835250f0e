import Gatehouse.Server.Layers
import Gatehouse.Stage.Gate

/-!
# Scripted stages and handlers

Stages, layers and handlers described by data: what they wait for, change and answer, in a fixed
order. They report where they are and what they see, which is how the order of a run can be watched.
-/

namespace Gatehouse

/-- One change of a response. -/
inductive ResponseEdit where
  | setStatus (s : Status)
  | append (name : HeaderName) (v : HeaderValue)
  | insert (name : HeaderName) (v : HeaderValue)
  | remove (name : HeaderName)
  | cookie (c : SetCookie)
  | setBody (octets : Bytes)
  | setStream (b : Body)
  | takeBody
  | setError (message : Option String)
  | setRequestId (id : String)

/-- The response after a change. -/
def ResponseEdit.apply (r : Response) : ResponseEdit → Response
  | setStatus s => { r with status := s }
  | append n v => { r with headers := r.headers.append n v }
  | insert n v => { r with headers := r.headers.insert n v }
  | remove n => { r with headers := r.headers.remove n }
  | cookie c => { r with cookies := r.cookies ++ [c] }
  | setBody bs => { r with payload := .whole bs }
  | setStream b => { r with payload := .stream b }
  | takeBody => { r with payload := .none }
  | setError m => { r with error := some m }
  | setRequestId id => { r with requestId := some id }

/-- The response after changes one after the other. -/
def Response.edit (r : Response) (edits : List ResponseEdit) : Response :=
  edits.foldl ResponseEdit.apply r

/-- When a scripted stage cancels the request. -/
inductive CancelTime where
  | beforeNext
  | afterNext
deriving DecidableEq, Repr

/-- A stage that passes every request on and does what is written here around that. -/
structure StageScript where
  name : String
  priority : Int
  sleepBefore : Option Nat
  cancel : Option CancelTime
  values : List (String × Value)
  requestHeaders : List (HeaderName × HeaderValue)
  chainName : Option String
  sleepAfter : Option Nat
  reportStore : Bool
  edits : List ResponseEdit

namespace StageScript

/-- What the script does with the answer from inside. -/
def leave (s : StageScript) (store : StoreId) (b : Response) : Run Response := do
  Task.sleepIf s.sleepAfter
  if s.cancel = some .afterNext then Run.cancel
  if s.reportStore then Task.modify fun w => w.emit (.stored (w.stores.map store))
  let b := b.edit s.edits
  Run.mark (s.name ++ ":after:" ++ toString b.status.code)
  pure b

/-- What the script does with a request. -/
def enter (s : StageScript) : Entry Request Response := fun r => do
  Run.mark (s.name ++ ":before")
  Task.sleepIf s.sleepBefore
  if s.cancel = some .beforeNext then Run.cancel
  Run.storeAll r.store s.values
  let headers := s.requestHeaders.foldl (fun h p => h.insert p.1 p.2) r.headers
  match s.chainName with
  | some c => Task.modify fun w => { w with chain := some c }
  | none => pure ()
  pure (.forward { r with headers := headers } (s.leave r.store))

/-- The stage of the script. -/
def toStage (s : StageScript) : Stage := ⟨s.name, s.priority, s.enter⟩

end StageScript

/-- A stage that answers every request by itself. -/
def Stage.deny (name : String) (priority : Int) (b : Response) : Stage :=
  ⟨name, priority, fun _ => do
    Run.mark "denied"
    pure (.reply b)⟩

/-- A handler that answers without looking. -/
def Handler.fixed (b : Response) : Handler := fun _ => do
  Run.mark "fn_handler"
  pure b

/-- A handler that reports what it sees. -/
structure HandlerScript where
  cancel : Bool
  hang : Bool
  sleep : Option Nat
  response : Response

namespace HandlerScript

/-- What the handler sees of a request. -/
def view (r : Request) (w : World) : HandlerView :=
  let (body, r') := r.readBody
  { method := r.method, path := r.uri.path, query := r.uri.query, headers := r.headers
    params := r.params, store := w.stores.map r.store, remoteAddr := r.remoteAddr
    userId := Stage.verifiedUser (w.stores.map r.store)
    tier := Stage.verifiedTier (w.stores.map r.store)
    body := body
    secondRead := match r'.readBody.1 with
      | .ok bs => bs.length
      | .error _ => 0
    chain := w.chain, requestId := w.requestId, cancelled := w.fired }

/-- The handler of the script. -/
def toHandler (s : HandlerScript) : Handler := fun r => do
  Task.modify fun w => w.emit (.handler (view r w))
  if s.cancel then Run.cancel
  if s.hang then Task.hang
  Task.sleepIf s.sleep
  pure s.response

end HandlerScript

/-- A handler of the server that reports what it sees. -/
structure NativeScript where
  values : List (String × Value)
  sleep : Option Nat
  hang : Bool
  result : NativeResult

namespace NativeScript

/-- What the handler sees of a request. -/
def view (n : NativeRequest) (w : World) : NativeView :=
  { method := n.method, uri := n.uri, headers := n.headers, params := n.params
    remoteAddr := n.remoteAddr, store := n.store.map w.stores.map, body := n.body.drain }

/-- The handler of the script. -/
def toHandler (s : NativeScript) : NativeHandler := fun n => do
  Task.modify fun w => w.emit (.native (view n w))
  match n.store with
  | some i => Run.storeAll i s.values
  | none => pure ()
  Task.sleepIf s.sleep
  if s.hang then Task.hang
  Run.mark "native:done"
  pure s.result

end NativeScript

/--
A layer that passes every request on, or fails at once, and may recover from a failure inside.
-/
structure LayerScript where
  name : String
  error : Option NativeError
  requestHeaders : List (HeaderName × HeaderValue)
  sleep : Option Nat
  recover : Option NativeResponse
  responseHeaders : List (HeaderName × HeaderValue)

namespace LayerScript

/-- What the layer does with what comes out from inside. -/
def leave (s : LayerScript) (result : NativeResult) : Run NativeResult := do
  match result with
  | .ok n => do
    Run.mark (s.name ++ ":after:ok")
    pure (.ok { n with headers := s.responseHeaders.foldl (fun h p => h.append p.1 p.2) n.headers })
  | .error e => do
    Run.mark (s.name ++ ":after:err")
    match s.recover with
    | some n =>
      pure
        (.ok { n with headers := s.responseHeaders.foldl (fun h p => h.append p.1 p.2) n.headers })
    | none => pure (.error e)

/-- The layer of the script. -/
def toLayer (s : LayerScript) : Layer where
  name := s.name
  enter n := do
    Run.mark (s.name ++ ":before")
    match s.error with
    | some e => pure (.reply (.error e))
    | none => do
      let headers := s.requestHeaders.foldl (fun h p => h.insert p.1 p.2) n.headers
      Task.sleepIf s.sleep
      pure (.forward { n with headers := headers } s.leave)

end LayerScript

end Gatehouse
