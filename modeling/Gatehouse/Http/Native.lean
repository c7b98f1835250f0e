import Gatehouse.Fault
import Gatehouse.Http.Body
import Gatehouse.Http.Headers
import Gatehouse.Http.PathParams
import Gatehouse.Http.Uri
import Gatehouse.Json.Value
import Gatehouse.Net.SocketAddr
import Gatehouse.Store.Value

/-!
# Messages of the server

Requests and responses as the server has them, with what travels beside a request: a store, path
parameters and the client's address.  An `HttpFailure` is an error with a status and headers, which
is answered with a JSON body; a `NativeError` is what a handler can fail with.
-/

namespace Gatehouse

/-- A request as the server has it. -/
structure NativeRequest where
  method : Method
  uri : Uri
  headers : Headers
  body : Body
  store : Option StoreId
  params : Option PathParams
  remoteAddr : Option SocketAddr
deriving DecidableEq

/-- A response as the server sends it. -/
structure NativeResponse where
  status : Status
  headers : Headers
  body : Body
deriving DecidableEq

/-- An error with a status, a message and headers for the client. -/
structure HttpFailure where
  status : Status
  message : String
  headers : Headers
deriving DecidableEq

namespace HttpFailure

/-- The failure whose message is the status's reason phrase. -/
def ofStatus (s : Status) : HttpFailure := ⟨s, s.canonicalText, .empty⟩

/-- The plain failure of the server itself. -/
def internal : HttpFailure := ofStatus .internalError

/-- The character of a code that a character of a reason phrase becomes. -/
def codeChar (c : Char) : Option Char :=
  if c = ' ' ∨ c = '-' then some '_'
  else if Text.isAlnum c then some (Text.upperAscii c)
  else none

/-- The code for machines: the reason phrase in capitals, or the number of a status without one. -/
def code (f : HttpFailure) : String :=
  match f.status.reason? with
  | some r => String.ofList (r.toList.filterMap codeChar)
  | none => "HTTP_" ++ toString f.status.code

/-- The displayed form. -/
def display (f : HttpFailure) : String := toString f.status.code ++ ": " ++ f.message

/-- The body that states code and message. -/
def body (f : HttpFailure) : Json :=
  Json.object [("error", Json.object [("code", .str f.code), ("message", .str f.message)])]

/-- The response: the failure's status and headers, with a JSON body and its content type. -/
def toResponse (f : HttpFailure) : NativeResponse :=
  ⟨f.status, f.headers.insert HeaderName.contentType HeaderValue.json,
    .buffer (Bytes.ofText f.body.render)⟩

end HttpFailure

/-- What a handler can fail with. -/
inductive NativeError where
  | http (f : HttpFailure)
  | fault (f : Fault)
  /-- A fault with the error that caused it. -/
  | caused (f : Fault) (cause : NativeError)
  /-- An error known by its text alone. -/
  | plain (message : String)
  /-- An error known by its text and the error that caused it. -/
  | wrapped (message : String) (cause : NativeError)
deriving DecidableEq

namespace NativeError

/-- The displayed form, without causes. -/
def display : NativeError → String
  | http f => f.display
  | fault f => f.display
  | caused f _ => f.display
  | plain m => m
  | wrapped m _ => m

/-- The error itself or the outermost of its causes that carries a status. -/
def carrier? : NativeError → Option (HttpFailure ⊕ Fault)
  | http f => some (.inl f)
  | fault f => some (.inr f)
  | caused f _ => some (.inr f)
  | plain _ => none
  | wrapped _ cause => cause.carrier?

end NativeError

end Gatehouse
