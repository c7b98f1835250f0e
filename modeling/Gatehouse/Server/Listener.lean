import Gatehouse.Server.Limits
import Gatehouse.Server.Slots

/-!
# Listening for connections

A listener takes connections as long as there is a slot for them, until the shutdown signal makes it
leave its loop.  Then it drains: it waits for the last open connection to close, and gives up
waiting when the shutdown timeout is over.  `Listener.act?` is what each thing that can happen does
to it, and `Listener.Reaches` says which states it can come to.
-/

namespace Gatehouse

/-- How far a listener has come. -/
inductive ListenerPhase where
  | accepting
  /-- Waiting since the given time for the last connection to close. -/
  | draining (since : Nat) (wait : Waiter)
  | returned
deriving DecidableEq, Repr

/-- A listener with the connections that it serves. -/
structure Listener where
  shutdownTimeout : Nat
  slots : Slots
  /-- The connections being served. -/
  served : List Nat
  /-- Whether the shutdown signal has fired. -/
  signalled : Bool
  /-- Milliseconds of running time. -/
  clock : Nat
  phase : ListenerPhase
deriving DecidableEq, Repr

/-- What can happen to a listener. -/
inductive ListenerAction where
  /-- A client connects. -/
  | connect (id : Nat)
  /-- The system fails to hand over a connection. -/
  | acceptFails
  /-- A connection ends, with or without an error. -/
  | close (id : Nat) (cleanly : Bool)
  /-- The shutdown signal fires. -/
  | signal
  /-- The loop takes notice of the signal. -/
  | leave
  | elapse (ms : Nat)
  /-- A draining listener looks whether the last connection has closed. -/
  | poll
  /-- A draining listener takes notice that its time is over. -/
  | giveUp
deriving DecidableEq, Repr

namespace Listener

/-- A listener that has just begun. -/
def start (l : Limits) : Listener :=
  ⟨l.shutdownTimeout, .start l.maxConnections, [], false, 0, .accepting⟩

/-- A client connects: it gets a slot, or is refused and changes nothing. -/
def take (l : Listener) (id : Nat) : Listener :=
  match l.slots.acquire? with
  | some s => { l with slots := s, served := id :: l.served }
  | none => l

/-- The listener after an action, if that can happen. -/
def act? (l : Listener) : ListenerAction → Option Listener
  | .connect id => if l.phase = .accepting ∧ id ∉ l.served then some (l.take id) else none
  | .acceptFails => if l.phase = .accepting then some l else none
  | .close id _ =>
    if id ∈ l.served then some { l with slots := l.slots.release, served := l.served.erase id }
      else none
  | .signal => some { l with signalled := true }
  | .leave =>
    if l.phase = .accepting ∧ l.signalled then some { l with phase := .draining l.clock .created }
      else none
  | .elapse ms => some { l with clock := l.clock + ms }
  | .poll =>
    match l.phase with
    | .draining since wait =>
      let (result, wait) := l.slots.poll wait
      some { l with phase := if result = .ready then .returned else .draining since wait }
    | _ => none
  | .giveUp =>
    match l.phase with
    | .draining since _ =>
      if since + l.shutdownTimeout ≤ l.clock then some { l with phase := .returned } else none
    | _ => none

/-- One action leads from a listener to another one. -/
def Step (l l' : Listener) : Prop := ∃ a, l.act? a = some l'

/-- The states that a listener can come to. -/
inductive Reaches (l : Listener) : Listener → Prop where
  | refl : Reaches l l
  | step {m n : Listener} : Reaches l m → m.Step n → Reaches l n

/-- The listener after actions, if they can all happen. -/
def run? (l : Listener) : List ListenerAction → Option Listener
  | [] => some l
  | a :: as =>
    match l.act? a with
    | some l => l.run? as
    | none => none

/-- A run without clients: the signal has fired before the listener begins. -/
def idle : List ListenerAction := [.signal, .leave, .poll]

end Listener

/-- Why an address cannot be listened on. -/
inductive BindFailure where
  /-- No address to listen on at all, such as one of a group of machines. -/
  | invalid
  | noDevice
  /-- The address of another machine. -/
  | notAssigned
deriving DecidableEq, Repr

/-- The displayed text. -/
def BindFailure.message : BindFailure → String
  | invalid => "Invalid argument (os error 22)"
  | noDevice => "No such device (os error 19)"
  | notAssigned => "Cannot assign requested address (os error 99)"

/-- Whether an address has four octets, also where it is written as eight groups. -/
def SocketAddr.isFourOctets : SocketAddr → Bool
  | v4 _ _ => true
  | v6 gs _ _ => gs.take 6 == [0, 0, 0, 0, 0, 0xFFFF]

/--
Why an address cannot be listened on where no network is up, if it cannot.  An address of four
octets is not compared with those of the machine; of the others it has none but the unspecified
one.  An address of the link names a device, and the first device is always there.
-/
def SocketAddr.bindFailure? (a : SocketAddr) : Option BindFailure :=
  match a with
  | v4 _ _ => none
  | v6 gs scope _ =>
    let first := gs.headD 0
    if a.isFourOctets || gs.all (· == 0) then none
    else if 0xFF00 ≤ first then some .invalid
    else if first / 0x40 = 0x3FA then
      some (if scope = 0 then .invalid else if scope = 1 then .notAssigned else .noDevice)
    else some .notAssigned

/-- The address to listen on, or why nothing can listen there. -/
def Limits.listenAddr (l : Limits) : Except ServerError SocketAddr :=
  match l.bindAddr with
  | .error e => .error e
  | .ok a =>
    match a.bindFailure? with
    | none => .ok a
    | some f => .error (.bind (a.toText ++ ": " ++ f.message))

end Gatehouse
