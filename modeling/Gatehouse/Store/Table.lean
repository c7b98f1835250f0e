import Gatehouse.Store.Basic

/-!
# Stores under names

Several stores, each with any number of named handles.  A clone is one more name for the same store;
a name that is used again leaves its earlier store.  `Store.Table.act?` is what each action does to
the table, and the rest of the operations only look.
-/

namespace Gatehouse.Store

/-- All stores, and their handles by name, the latest first. -/
structure Table (V : Type) where
  handles : List (String × StoreId)
  stores : Stores V
deriving DecidableEq, Repr

/-- What can be done to stores through named handles. -/
inductive Action (V : Type) where
  /-- A new store. -/
  | create (handle : String)
  /-- One more name for the store of a handle. -/
  | clone (handle name : String)
  | set (handle key : String) (v : V)
  | erase (handle key : String)
deriving DecidableEq, Repr

namespace Table

variable {V : Type}

/-- No store. -/
def empty : Table V := ⟨[], .empty⟩

/-- The store of a handle. -/
def id? (t : Table V) (handle : String) : Option StoreId := t.handles.lookup handle

/-- The values behind a handle. -/
def map? (t : Table V) (handle : String) : Option (TypedMap V) := (t.id? handle).map t.stores.map

/-- Whether two handles are handles of one store. -/
def same? (t : Table V) (handle other : String) : Option Bool := do
  let i ← t.id? handle
  let j ← t.id? other
  pure (i == j)

/-- The table after an action; there is none if the handle is not known. -/
def act? (t : Table V) : Action V → Option (Table V)
  | .create handle =>
    let (i, stores) := t.stores.create
    some ⟨(handle, i) :: t.handles, stores⟩
  | .clone handle name => (t.id? handle).map fun i => { t with handles := (name, i) :: t.handles }
  | .set handle key v => (t.id? handle).map fun i => { t with stores := t.stores.set i key v }
  | .erase handle key => (t.id? handle).map fun i => { t with stores := t.stores.erase i key }

end Table

end Gatehouse.Store
