import Gatehouse.Proofs.Store.Handles
import Gatehouse.Server.Bridge

/-!
# Requests between a chain and the server

A request of a chain that is given to the server and taken back is the same request with the same
store (`Request.Returned`), and a request of the server that a chain hands on is the same but for
what it did not have (`NativeRequest.Passed`).  A body is handed out to the first who asks for it,
in whichever way, and nobody after that gets anything (`Request.handOut_eq`).
`Request.conversions_lossless` puts this together.
-/

namespace Gatehouse

/--
Handles of one store: what is put there through either of them is found through the other one.
-/
structure StoreId.Shares (i j : StoreId) : Prop where
  same : i = j
  forth : ∀ (s : Stores Value) key v, i.index < s.all.length →
    (s.set i key v).get? j key v.kind = some v
  back : ∀ (s : Stores Value) key v, i.index < s.all.length →
    (s.set j key v).get? i key v.kind = some v

/-- Every handle is one of its own store. -/
lemma StoreId.Shares.refl (i : StoreId) : i.Shares i :=
  ⟨rfl, fun _ key v held => Stores.get?_set held key v,
    fun _ key v held => Stores.get?_set held key v⟩

/-- A state with one more store, in which nothing is yet. -/
structure World.Opens (w : World) (i : StoreId) (w' : World) : Prop where
  fresh : ∀ j : StoreId, j.index < w.stores.all.length → i ≠ j
  held : i.index < w'.stores.all.length
  empty : w'.stores.map i = []
  others : ∀ j, w'.stores.map j = w.stores.map j
  rest : w' = { w with stores := w'.stores }

/-- A new store is one in which nothing is yet. -/
lemma World.opens_newStore (w : World) : w.Opens w.newStore.1 w.newStore.2 := by
  have length : w.stores.create.2.all.length = w.stores.all.length + 1 := List.length_append
  refine ⟨fun j held e => ?_, ?_, ?_, fun j => Stores.map_create w.stores j, rfl⟩
  · rw [← e] at held
    exact Nat.lt_irrefl _ held
  · have last : w.stores.all.length < w.stores.all.length + 1 := Nat.lt_succ_self _
    rw [← length] at last
    exact last
  · have unheld : w.stores.map w.stores.create.1 = [] := by
      rw [Stores.map, Stores.store, Stores.create, List.getElem?_eq_none (Nat.le_refl _),
        Option.getD_none]
      rfl
    exact (Stores.map_create w.stores _).trans unheld

/--
A request that was given to the server and taken back; a body that was taken from it is empty then.
-/
structure Request.Returned (r : Request) (w : World) (r' : Request) (w' : World) : Prop where
  method : r'.method = r.method
  uri : r'.uri = r.uri
  headers : r'.headers = r.headers
  params : r'.params = r.params
  remoteAddr : r'.remoteAddr = r.remoteAddr
  store : r.store.Shares r'.store
  body : ∀ b, r.body = some b → r'.body = some b
  taken : r.body = none → r'.body = some .empty
  state : w' = w

/-- Every request that is given to the server and taken back is the same. -/
lemma Request.returned (r : Request) (w : World) :
    r.Returned w (ofNative r.toNative none w).1 (ofNative r.toNative none w).2 where
  method := rfl
  uri := rfl
  headers := rfl
  params := rfl
  remoteAddr := rfl
  store := .refl r.store
  body b present := by simp only [ofNative, toNative, bodyLeft, present, Option.getD_some]
  taken gone := by simp only [ofNative, toNative, bodyLeft, gone, Option.getD_none]
  state := rfl

/-- A request that a chain was given by the server and hands on as it is. -/
structure NativeRequest.Passed (n : NativeRequest) (addr : Option SocketAddr) (w : World)
    (n' : NativeRequest) (w' : World) : Prop where
  method : n'.method = n.method
  uri : n'.uri = n.uri
  headers : n'.headers = n.headers
  body : n'.body = n.body
  params : ∀ ps, n.params = some ps → n'.params = some ps
  unrouted : n.params = none → n'.params = some .empty
  store : ∀ i, n.store = some i → n'.store = some i ∧ w' = w
  unstored : n.store = none → ∃ i, n'.store = some i ∧ w.Opens i w'
  given : ∀ a, addr = some a → n'.remoteAddr = some a
  carried : addr = none → n'.remoteAddr = n.remoteAddr

/-- Every request of the server is handed on as it is. -/
lemma NativeRequest.passed (n : NativeRequest) (addr : Option SocketAddr) (w : World) :
    n.Passed addr w (Request.ofNative n addr w).1.toNative (Request.ofNative n addr w).2 := by
  obtain ⟨method, uri, headers, body, store, params, remoteAddr⟩ := n
  cases store with
  | some i =>
    refine ⟨rfl, rfl, rfl, rfl, ?_, ?_, fun j e => ⟨e, rfl⟩, nofun, ?_, ?_⟩
    · rintro ps rfl
      rfl
    · rintro rfl
      rfl
    · rintro a rfl
      rfl
    · rintro rfl
      rfl
  | none =>
    refine ⟨rfl, rfl, rfl, rfl, ?_, ?_, nofun, fun _ => ⟨w.newStore.1, rfl, w.opens_newStore⟩, ?_,
      ?_⟩
    · rintro ps rfl
      rfl
    · rintro rfl
      rfl
    · rintro a rfl
      rfl
    · rintro rfl
      rfl

/-- The ways to get hold of the body of a request. -/
inductive BodyUse where
  | take
  | read
  /-- The request is given up for what it consists of, as when it is given to the server. -/
  | split

/-- What someone gets who asks for a body. -/
inductive Handed where
  | taken (body : Option Body)
  | octets (result : Except String Bytes)
  | left (body : Body)

namespace BodyUse

/-- What a use gives of a body that is there. -/
def ofBody (b : Body) : BodyUse → Handed
  | take => .taken (some b)
  | read => .octets b.drain
  | split => .left b

/-- What a use gives where no body is: nothing, no octets, or a body that holds none. -/
def nothing : BodyUse → Handed
  | take => .taken none
  | read => .octets (.ok [])
  | split => .left .empty

/-- The uses that can be made: none once the request is split. -/
def made : List BodyUse → List BodyUse
  | [] => []
  | take :: us => take :: made us
  | read :: us => read :: made us
  | split :: _ => [split]

/--
What uses give of a body, if there is one: the first use gets it, and the later ones get nothing.
-/
def fromBody : Option Body → List BodyUse → List Handed
  | some b, u :: us => u.ofBody b :: us.map nothing
  | some _, [] => []
  | none, us => us.map nothing

end BodyUse

namespace Request

/-- What a use of the body gives, and the request that is left, if one is. -/
def use (r : Request) : BodyUse → Handed × Option Request
  | .take => (.taken r.takeBody.1, some r.takeBody.2)
  | .read => (.octets r.readBody.1, some r.readBody.2)
  | .split => (.left r.toNative.body, none)

/-- What uses of the body give, one after the other. -/
def handOut (r : Request) : List BodyUse → List Handed
  | [] => []
  | u :: us =>
    (r.use u).1 :: match (r.use u).2 with
      | some r' => r'.handOut us
      | none => []

variable {r : Request}

/-- A use gets the body that is there. -/
lemma use_of_some {b : Body} (present : r.body = some b) (u : BodyUse) :
    (r.use u).1 = u.ofBody b := by
  cases u with
  | take => exact congrArg Handed.taken present
  | read => simp only [use, readBody, present, BodyUse.ofBody]
  | split => simp only [use, toNative, bodyLeft, present, Option.getD_some, BodyUse.ofBody]

/-- Where no body is, every use gives nothing. -/
lemma use_of_none (gone : r.body = none) (u : BodyUse) : (r.use u).1 = u.nothing := by
  cases u with
  | take => exact congrArg Handed.taken gone
  | read => simp only [use, readBody, gone, BodyUse.nothing]
  | split => simp only [use, toNative, bodyLeft, gone, Option.getD_none, BodyUse.nothing]

/-- After a use the request is split, or it has no body. -/
lemma handOut_cons (r : Request) (u : BodyUse) (us : List BodyUse) :
    ∃ vs, BodyUse.made (u :: us) = u :: vs ∧
      (vs = [] ∧ r.handOut (u :: us) = [(r.use u).1] ∨
        vs = BodyUse.made us ∧
          r.handOut (u :: us) = (r.use u).1 :: ({ r with body := none } : Request).handOut us) := by
  cases u with
  | take => exact ⟨_, rfl, .inr ⟨rfl, rfl⟩⟩
  | read => exact ⟨_, rfl, .inr ⟨rfl, rfl⟩⟩
  | split => exact ⟨_, rfl, .inl ⟨rfl, rfl⟩⟩

/-- Of a body that is gone nobody gets anything. -/
lemma handOut_of_none (gone : r.body = none) (us : List BodyUse) :
    r.handOut us = (BodyUse.made us).map BodyUse.nothing := by
  -- a use changes nothing of a request but its body, which stays gone
  induction us generalizing r with
  | nil => rfl
  | cons u us ih =>
    obtain ⟨vs, made, ⟨rfl, handed⟩ | ⟨rfl, handed⟩⟩ := r.handOut_cons u us
    · rw [handed, made, use_of_none gone]
      rfl
    · rw [handed, made, use_of_none gone, ih rfl]
      rfl

/-- A body is handed out once. -/
lemma handOut_eq (r : Request) (us : List BodyUse) :
    r.handOut us = BodyUse.fromBody r.body (BodyUse.made us) := by
  cases present : r.body with
  | none => exact handOut_of_none present us
  | some b =>
    cases us with
    | nil => rfl
    | cons u us =>
      obtain ⟨vs, made, ⟨rfl, handed⟩ | ⟨rfl, handed⟩⟩ := r.handOut_cons u us
      · rw [handed, made, use_of_some present]
        rfl
      · rw [handed, made, use_of_some present, handOut_of_none rfl]
        rfl

/-- Nothing of a request is lost between a chain and the server, and its body is handed out once. -/
theorem conversions_lossless (r : Request) (n : NativeRequest) (addr : Option SocketAddr)
    (w : World) (us : List BodyUse) :
    r.Returned w (ofNative r.toNative none w).1 (ofNative r.toNative none w).2 ∧
      n.Passed addr w (ofNative n addr w).1.toNative (ofNative n addr w).2 ∧
      r.handOut us = BodyUse.fromBody r.body (BodyUse.made us) :=
  ⟨r.returned w, n.passed addr w, r.handOut_eq us⟩

example : Request.handOut
    { bare .get ⟨none, [], ['/'], none⟩ ⟨0⟩ with body := some (.frames [[1], [2]] (some "reset")) }
    [.read, .take, .split, .read] = [.octets (.error "reset"), .taken none, .left .empty] := rfl

end Request

end Gatehouse
