import Gatehouse.Named
import Gatehouse.Text.Quoted

/-!
# Request stores

A store holds typed values under keys for the time of one request.  Values are of any sort `V` that
tells their types (`Typed`).  Handles are shared: every copy of a handle sees the same values, so
stores live in `Stores`, a list of them, and a handle is a position in it.  `Stores.map` is what
stands behind a handle; every operation is stated through it.
-/

namespace Gatehouse

/-- Values each of which has a type. -/
class Typed (V : Type) (κ : outParam Type) where
  /-- The type of a value. -/
  kind : V → κ

/-- Typed values under keys. -/
abbrev TypedMap (V : Type) := Named V

namespace TypedMap

variable {V κ : Type}

/-- The value under a key if it has the type. -/
def get? [Typed V κ] [DecidableEq κ] (m : TypedMap V) (key : String) (kind : κ) : Option V :=
  (m.find? key).filter fun v => Typed.kind v == kind

/-- Whether a value of any type is under the key. -/
def contains (m : TypedMap V) (key : String) : Bool := m.has key

/-- The diagnostic form. -/
def debug (m : TypedMap V) : String :=
  Quoted.record "ContextStore" [("keys", Quoted.texts m.keys)] false

end TypedMap

/-- A store: typed values under keys, no key twice. -/
structure Store (V : Type) where
  entries : TypedMap V
  distinct : entries.keys.Nodup
deriving DecidableEq, Repr

namespace Store

variable {V : Type}

/-- A store without values. -/
def empty : Store V := ⟨[], Named.nodup_nil⟩

/-- Puts a value under a key in place of an earlier one. -/
def set (s : Store V) (key : String) (v : V) : Store V :=
  ⟨s.entries.put key v, Named.nodup_alter s.distinct key _⟩

/-- Takes a key away. -/
def erase (s : Store V) (key : String) : Store V :=
  ⟨s.entries.drop key, Named.nodup_drop s.distinct key⟩

end Store

/-- A handle of a store. -/
structure StoreId where
  index : Nat
deriving DecidableEq, Repr

/-- All stores. -/
structure Stores (V : Type) where
  all : List (Store V)
deriving DecidableEq, Repr

namespace Stores

variable {V κ : Type}

/-- No store. -/
def empty : Stores V := ⟨[]⟩

/-- The store of a handle. -/
def store (s : Stores V) (i : StoreId) : Store V := (s.all[i.index]?).getD .empty

/-- The values behind a handle. -/
def map (s : Stores V) (i : StoreId) : TypedMap V := (s.store i).entries

/-- A new store without values, and its handle. -/
def create (s : Stores V) : StoreId × Stores V := (⟨s.all.length⟩, ⟨s.all ++ [.empty]⟩)

/-- Puts a value under a key. -/
def set (s : Stores V) (i : StoreId) (key : String) (v : V) : Stores V :=
  ⟨s.all.set i.index ((s.store i).set key v)⟩

/-- Takes a key away. -/
def erase (s : Stores V) (i : StoreId) (key : String) : Stores V :=
  ⟨s.all.set i.index ((s.store i).erase key)⟩

/-- The value under a key if it has the type. -/
def get? [Typed V κ] [DecidableEq κ] (s : Stores V) (i : StoreId) (key : String) (kind : κ) :
    Option V := (s.map i).get? key kind

/-- Puts several values, one after the other. -/
def setAll (s : Stores V) (i : StoreId) (items : List (String × V)) : Stores V :=
  items.foldl (fun s e => s.set i e.1 e.2) s

end Stores

end Gatehouse
