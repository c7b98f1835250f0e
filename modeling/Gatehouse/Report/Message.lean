import Gatehouse.Http.Request
import Gatehouse.Http.Response
import Gatehouse.Server.Bridge

/-!
# Messages as data

The JSON forms in which requests, responses and their parts are reported.  Octets that are valid
UTF-8 are a text, all others an object with their hexadecimal digits; a body is what reading it to
its end gives.
-/

namespace Gatehouse

namespace Json

/-- A list of texts. -/
def texts (ss : List String) : Json := .arr (ss.map .str)

/-- A value or null. -/
def option {α : Type} (f : α → Json) : Option α → Json
  | none => .null
  | some a => f a

/-- A text or null. -/
def text? (s : Option String) : Json := option .str s

/-- A natural number or null. -/
def nat? (n : Option Nat) : Json := option .nat n

/-- An integer. -/
def int : Int → Json
  | .ofNat n => .num (.natural n)
  | .negSucc n => .num (.negative n)

/-- Pairs of texts in their order. -/
def pairs (ps : List (String × String)) : Json := .arr (ps.map fun p => texts [p.1, p.2])

/-- Octets: their text, or their hexadecimal digits. -/
def octets (bs : Bytes) : Json :=
  match Bytes.toText? bs with
  | some s => .str s
  | none => .obj [("hex", .str (Bytes.toHex bs))]

end Json

/-- The values of each name. -/
def Headers.toJson (h : Headers) : Json :=
  .obj (h.entries.map fun e => (e.1, .arr (e.2.map fun v => .octets v.octets)))

/-- What reading a body gave. -/
def Body.drainedJson : Except String Bytes → Json
  | .ok bs => .octets bs
  | .error e => .obj [("body_error", .str e)]

/-- A body read to its end. -/
def Body.toJson (b : Body) : Json := Body.drainedJson b.drain

/-- A stored value without its type. -/
def Value.toJson : Value → Json
  | text s => .str s
  | natural n => .nat n
  | integer n => .int n
  | truth b => .bool b
  | tier t => .str t.name

/-- The values under each key. -/
def TypedMap.toJson (m : TypedMap Value) : Json := .obj (m.map fun e => (e.1, e.2.toJson))

/-- An address or null. -/
def SocketAddr.toJson (a : Option SocketAddr) : Json := .text? (a.map SocketAddr.toText)

namespace Response

/-- What a response has besides its body. -/
def headMembers (r : Response) : List (String × Json) :=
  [("status", .nat r.status.code), ("headers", r.headers.toJson),
    ("cookies", .texts (r.cookies.map SetCookie.render)),
    ("error", .option (fun m => .obj [("message", .text? m)]) r.error),
    ("location", .text? r.location), ("request_id", .text? r.requestId),
    ("is_redirect", .bool r.location.isSome), ("is_error", .bool r.error.isSome)]

/-- The body of a response: null, its octets, or what the stream gives. -/
def payloadJson : Payload → Json
  | .none => .null
  | .whole bs => .obj [("bytes", .octets bs)]
  | .stream b => .obj [("stream", b.toJson)]

/-- The members of a response whose body is left where it is: a stream is not read. -/
def stateMembers (r : Response) : List (String × Json) :=
  r.headMembers ++ [("body", match r.payload with
    | .none => .str "empty"
    | .stream _ => .str "stream"
    | p => payloadJson p)]

/-- A response with its body. -/
def toJson (r : Response) : Json := .obj (r.headMembers ++ [("body", payloadJson r.payload)])

end Response

/-- A response that is sent. -/
def NativeResponse.toJson (n : NativeResponse) : Json :=
  .obj [("status", .nat n.status.code), ("headers", n.headers.toJson), ("body", n.body.toJson)]

/-- A request with its store's values. -/
def Request.toJson (r : Request) (stores : Stores Value) : Json :=
  .obj [("method", .str r.method.text), ("uri", .str r.uri.toText), ("headers", r.headers.toJson),
    ("params", .pairs r.params.pairs), ("store", (stores.map r.store).toJson),
    ("remote_addr", SocketAddr.toJson r.remoteAddr), ("body", r.bodyLeft.toJson)]

/-- The name under which a failure to write is reported. -/
def WriteError.name : WriteError → String
  | unwritable _ => "Conversion"
  | raised _ => "Http"

/-- The result of writing a response. -/
def Response.writtenJson : Except WriteError NativeResponse → Json
  | .ok n => .obj [("native", n.toJson)]
  | .error e =>
    .obj [("adapter_error", .str e.name), ("message", .str e.display),
      ("rendered", e.toFailure.toResponse.toJson)]

/-- All that is known of a failure with a status. -/
def HttpFailure.toJson (f : HttpFailure) : Json :=
  .obj [("status", .nat f.status.code), ("message", .str f.message), ("code", .str f.code),
    ("display", .str f.display), ("canonical", .str f.status.canonicalText),
    ("headers", f.headers.toJson), ("rendered", f.toResponse.toJson)]

/-- All that is known of a fault. -/
def Fault.toJson (f : Fault) : Json :=
  .obj [("display", .str f.display), ("message", .str f.message),
    ("public_message", .str f.publicMessage), ("status", .nat f.status.code),
    ("code", .str f.kind.code), ("category", .str f.kind.name), ("source", .text? f.cause),
    ("response", (Response.ofFault f).toJson)]

end Gatehouse
