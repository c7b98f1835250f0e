import Gatehouse.Http.Cookie
import Gatehouse.Http.Native

/-!
# Responses

A response as the stages of a chain see it.  Until it is written it may carry cookies, a redirect
location, an error marker and a request id beside its status, headers and body.
-/

namespace Gatehouse

/-- The body of a response. -/
inductive Payload where
  | none
  | whole (octets : Bytes)
  | stream (body : Body)
deriving DecidableEq

/-- A response on its way out of a chain. -/
structure Response where
  status : Status
  headers : Headers
  cookies : List SetCookie
  payload : Payload
  /-- The error marker, with a message if there is one. -/
  error : Option (Option String)
  location : Option String
  requestId : Option String
deriving DecidableEq

namespace Response

/-- A response with nothing but a status. -/
def bare (s : Status) : Response := ⟨s, .empty, [], .none, none, none, none⟩

/-- A response of plain text. -/
def text (s : Status) (body : String) : Response :=
  { bare s with
    headers := Headers.empty.insert HeaderName.contentType HeaderValue.plainText
    payload := .whole (Bytes.ofText body) }

/-- A response of JSON. -/
def json (s : Status) (v : Json) : Response :=
  { bare s with
    headers := Headers.empty.insert HeaderName.contentType HeaderValue.json
    payload := .whole (Bytes.ofText v.render) }

/-- A redirect to a location. -/
def redirect (s : Status) (location : String) : Response :=
  { bare s with location := some location }

/-- A response marked as an error. -/
def failure (s : Status) (message : Option String) : Response :=
  { bare s with error := some message }

/-- The only answer to a refused assertion. -/
def unauthorized : Response := json .unauthorized (Json.object [("error", .str "unauthorized")])

/-- The answer to a request that was cancelled. -/
def cancelled : Response := json .clientClosed (Json.object [("error", .str "request cancelled")])

/-- The response to a fault: its status and its public message. -/
def ofFault (f : Fault) : Response := failure f.status (some f.publicMessage)

/-- The diagnostic form of headers. -/
def debugHeaders (h : Headers) : String :=
  "\x7b" ++ ", ".intercalate (h.toList.map fun e => Quoted.text e.1 ++ ": " ++
    Quoted.octets e.2.octets)
    ++ "\x7d"

/-- The diagnostic form of a payload. -/
def debugPayload : Payload → String
  | .none => "Empty"
  | .whole bs => "Bytes(" ++ toString bs.length ++ ")"
  | .stream _ => "Stream"

/-- The diagnostic form of an error marker. -/
def debugError (message : Option String) : String :=
  Quoted.record "ResponseError" [("message", Quoted.optional Quoted.text message)] false

/-- The diagnostic form. -/
def debug (r : Response) : String :=
  Quoted.record "Response"
    [("status", toString r.status.code), ("headers", debugHeaders r.headers),
      ("cookies", Quoted.list (r.cookies.map SetCookie.debug)), ("body", debugPayload r.payload),
      ("error", Quoted.optional debugError r.error),
      ("location", Quoted.optional Quoted.text r.location),
      ("request_id", Quoted.optional Quoted.text r.requestId)] false

end Response

end Gatehouse
