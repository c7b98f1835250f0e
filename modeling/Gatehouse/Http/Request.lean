import Gatehouse.Http.Cookie
import Gatehouse.Http.Native

/-!
# Requests

A request as the stages of a chain see it.  Its body can be taken once; its store is a handle, so
that what one stage stores the next ones and the handler see.
-/

namespace Gatehouse

/-- A request on its way through a chain. -/
structure Request where
  method : Method
  uri : Uri
  headers : Headers
  params : PathParams
  /-- The body, unless it was taken. -/
  body : Option Body
  store : StoreId
  remoteAddr : Option SocketAddr
deriving DecidableEq

namespace Request

/-- A request with an empty body and nothing else. -/
def bare (method : Method) (uri : Uri) (store : StoreId) : Request :=
  ⟨method, uri, .empty, .empty, some .empty, store, none⟩

/-- The value of a query parameter. -/
def queryParam (r : Request) (name : String) : Option String :=
  r.uri.query.bind fun q => Query.get? q name

/-- The first value of a header, if it is printable ASCII; the name may be in any case. -/
def header (r : Request) (name : String) : Option String :=
  (HeaderName.of? name).bind r.headers.text?

/-- The values of a header that are printable ASCII. -/
def headerValues (r : Request) (name : String) : List String :=
  match HeaderName.of? name with
  | some n => (r.headers.values n).filterMap HeaderValue.text?
  | none => []

/-- All cookies, line by line. -/
def cookies (r : Request) : List (String × String) :=
  ((r.headers.values HeaderName.cookie).filterMap HeaderValue.text?).flatMap Cookie.ofLine

/-- The first cookie of a name. -/
def cookie (r : Request) (name : String) : Option String := r.cookies.lookup name

/-- The body, if it was not taken, and the request without it. -/
def takeBody (r : Request) : Option Body × Request := (r.body, { r with body := none })

/-- Reads the body to its end; a body that was taken is empty. -/
def readBody (r : Request) : Except String Bytes × Request :=
  (match r.body with
    | some b => b.drain
    | none => .ok [], { r with body := none })

/-- The body that is left, empty if it was taken. -/
def bodyLeft (r : Request) : Body := r.body.getD .empty

/-- The diagnostic form. -/
def debug (r : Request) (stores : Stores Value) : String :=
  Quoted.record "Request"
    [("method", r.method.text), ("uri", r.uri.toText), ("headers", toString r.headers.size),
      ("path_params", r.params.debug), ("store", (stores.map r.store).debug),
      ("remote_addr", Quoted.optional SocketAddr.toText r.remoteAddr)] true

end Request

end Gatehouse
