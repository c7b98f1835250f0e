import Gatehouse.Net.SocketAddr

/-!
# Limits of a server

Where a server listens, how long requests and its shutdown may take, and how many connections may be
open.  Spans are in milliseconds.
-/

namespace Gatehouse

/-- The settings of a listening server. -/
structure Limits where
  address : String
  shutdownTimeout : Nat
  requestTimeout : Option Nat
  maxConnections : Option Nat
deriving DecidableEq, Repr

namespace Limits

/-- The settings unless others are given. -/
def standard : Limits := ⟨"0.0.0.0:8080", 30000, some 30000, none⟩

/-- The address to listen on. -/
def socketAddr? (l : Limits) : Option SocketAddr := SocketAddr.parse? l.address

end Limits

/-- Why a server stopped working as a whole. -/
inductive ServerError where
  | bind (detail : String)
deriving DecidableEq, Repr

namespace ServerError

/-- The displayed text. -/
def message : ServerError → String
  | bind detail => "failed to bind: " ++ detail

end ServerError

/-- The address to bind, or the error of a text that is none. -/
def Limits.bindAddr (l : Limits) : Except ServerError SocketAddr :=
  match l.socketAddr? with
  | some a => .ok a
  | none => .error (.bind ("invalid address '" ++ l.address ++ "': " ++ SocketAddr.parseMessage))

end Gatehouse
