import Gatehouse.Http.Request
import Gatehouse.Http.Response
import Gatehouse.Run.World

/-!
# Between the server's messages and a chain's

`Request.ofNative` and `Request.toNative` turn a request of the server into one of a chain and back,
with the same store.  `Response.ofNative` and `Response.ofError` take up what a native handler
answered or failed with, and `Response.write` makes the response that is sent.
-/

namespace Gatehouse

/-- The request that a chain is given; a store that is missing is created. -/
def Request.ofNative (n : NativeRequest) (addr : Option SocketAddr) (w : World) : Request × World :=
  let (store, w) := match n.store with
    | some s => (s, w)
    | none => w.newStore
  (⟨n.method, n.uri, n.headers, n.params.getD .empty, some n.body, store, addr.or n.remoteAddr⟩, w)

/-- The request that the native handler behind a chain is given. -/
def Request.toNative (r : Request) : NativeRequest :=
  ⟨r.method, r.uri, r.headers, r.bodyLeft, some r.store, some r.params, r.remoteAddr⟩

/--
Takes up an answer: status, headers, its printable request id, and the body unless it is empty.
-/
def Response.ofNative (n : NativeResponse) : Response :=
  { Response.bare n.status with
    headers := n.headers
    requestId := n.headers.text? HeaderName.requestId
    payload := if n.body.isEnd then .none else .stream n.body }

/-- The phrases that tell the status of an error known by its text alone, in order of precedence. -/
def errorPhrases : List (String × Status) :=
  [("not found", .notFound), ("unauthorized", .unauthorized), ("forbidden", .forbidden),
    ("bad request", .badRequest)]

/--
The status of an error known by its text alone.  Only ASCII letters are folded: no other character
has a lowercase form that could complete one of the phrases.
-/
def statusOfText (message : String) : Status :=
  let folded := message.toList.map Text.lowerAscii
  match errorPhrases.find? fun p => Text.hasInfix p.1.toList folded with
  | some p => p.2
  | none => .internalError

/-- An error response; the message of a server error is left out. -/
def Response.ofFailure (s : Status) (message : String) : Response :=
  if s.isServerError then .failure s none else .failure s (some message)

/--
Takes up a failure: the outermost error of the chain of causes that carries a status decides, and
without one the outermost text.
-/
def Response.ofError (e : NativeError) : Response :=
  match e.carrier? with
  | some (.inl f) =>
    let r := Response.ofFailure f.status f.message
    { r with headers := f.headers.toList.foldl (fun h p => h.append p.1 p.2) r.headers }
  | some (.inr f) => .ofFailure f.status f.publicMessage
  | none => .ofFailure (statusOfText e.display) e.display

/-- Why a response was not written as it is. -/
inductive WriteError where
  /-- Something is no header value. -/
  | unwritable (detail : String)
  /-- The response is an error. -/
  | raised (f : HttpFailure)
deriving DecidableEq

namespace WriteError

/-- The displayed form. -/
def display : WriteError → String
  | unwritable detail => "adapter conversion failed: " ++ detail
  | raised f => f.display

/-- The failure that the client is told of; details of writing are not for clients. -/
def toFailure : WriteError → HttpFailure
  | unwritable _ => .internal
  | raised f => f

end WriteError

namespace Response

/-- A text as a header value; `what` names it when it is none. -/
def headerValue (what text : String) : Except WriteError HeaderValue :=
  match HeaderValue.ofText? text with
  | some v => .ok v
  | none => .error (.unwritable (what ++ ": " ++ HeaderValue.parseMessage))

/-- Headers with one value added for each cookie. -/
def writeCookies (h : Headers) : List SetCookie → Except WriteError Headers
  | [] => .ok h
  | c :: cs => do
    let v ← headerValue ("cookie '" ++ c.name ++ "'") c.render
    writeCookies (h.append HeaderName.setCookie v) cs

/-- Headers with the request id as the only one, if there is one. -/
def writeRequestId (h : Headers) : Option String → Except WriteError Headers
  | none => .ok h
  | some id => do
    let v ← headerValue "request id" id
    pure (h.insert HeaderName.requestId v)

/-- The body that a payload is sent as. -/
def Payload.toBody : Payload → Body
  | .none => .empty
  | .whole bs => .buffer bs
  | .stream b => b

/--
The response that is sent: first the cookies, then the request id; after that a location leaves no
body, an error is raised, and anything else has its payload.
-/
def write (r : Response) : Except WriteError NativeResponse := do
  let h ← writeCookies r.headers r.cookies
  let h ← writeRequestId h r.requestId
  match r.location with
  | some location => do
    let v ← headerValue "location" location
    pure ⟨r.status, h.insert HeaderName.location v, .empty⟩
  | none =>
    match r.error with
    | some message => .error (.raised ⟨r.status, message.getD r.status.canonicalText, h⟩)
    | none => pure ⟨r.status, h, Payload.toBody r.payload⟩

/-- The response that is sent in any case: a failure is rendered. -/
def writeOrRender (r : Response) : NativeResponse :=
  match r.write with
  | .ok n => n
  | .error e => e.toFailure.toResponse

end Response

end Gatehouse
