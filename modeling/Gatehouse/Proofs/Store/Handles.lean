import Gatehouse.Proofs.Named
import Gatehouse.Store.Basic

/-!
# What stands behind a handle

A store that is changed is changed for its own handle alone (`Stores.map_changed`), and a store that
is made changes nothing behind the handles that there are.
-/

namespace Gatehouse.Stores

variable {V κ : Type}

/-- A store that takes the place of another one is seen through the handle of that one alone. -/
lemma map_changed (s : Stores V) {i : StoreId} (held : i.index < s.all.length) (t : Store V)
    (j : StoreId) : map ⟨s.all.set i.index t⟩ j = if j = i then t.entries else s.map j := by
  obtain ⟨i⟩ := i
  obtain ⟨j⟩ := j
  simp only [map, store, List.getElem?_set, StoreId.mk.injEq]
  by_cases same : i = j
  · rw [if_pos same, if_pos held, if_pos same.symm]
    rfl
  · rw [if_neg same, if_neg (Ne.symm same)]

/-- A value is put behind its handle and no other one. -/
lemma map_set (s : Stores V) (i j : StoreId) (key : String) (v : V)
    (held : i.index < s.all.length) : (s.set i key v).map j = if j = i then (s.map i).put key v
    else s.map j :=
  s.map_changed held _ j

/-- Setting a value makes no store. -/
lemma length_set (s : Stores V) (i : StoreId) (key : String) (v : V) :
    (s.set i key v).all.length = s.all.length := List.length_set

/-- Nothing is set through a handle of no store. -/
lemma set_of_length_le {s : Stores V} {i : StoreId} (unheld : s.all.length ≤ i.index) (key : String)
    (v : V) : s.set i key v = s := by
  rw [set, List.set_eq_of_length_le unheld]

/-- A key is taken away behind its handle and no other one. -/
lemma map_erase (s : Stores V) (i j : StoreId) (key : String) (held : i.index < s.all.length) :
    (s.erase i key).map j = if j = i then (s.map i).drop key else s.map j :=
  s.map_changed held _ j

/-- What is put into a store under a key is found there under its type. -/
lemma get?_set [Typed V κ] [DecidableEq κ] {s : Stores V} {i : StoreId}
    (held : i.index < s.all.length) (key : String) (v : V) :
    (s.set i key v).get? i key (Typed.kind v) = some v := by
  rw [get?, map_set s i i key v held, if_pos rfl, TypedMap.get?, Named.find?_put, if_pos rfl]
  exact Option.filter_some_pos (beq_self_eq_true (Typed.kind v))

/-- A new store has no values, and nothing changes behind the other handles. -/
lemma map_create (s : Stores V) (j : StoreId) : s.create.2.map j = s.map j := by
  obtain ⟨j⟩ := j
  simp only [create, map, store, List.getElem?_append]
  split
  case isTrue => rfl
  case isFalse late =>
    rw [List.getElem?_eq_none (Nat.not_lt.mp late), List.getElem?_singleton]
    split
    all_goals rfl

/-- Every store has each of its keys once. -/
lemma nodup_map (s : Stores V) (i : StoreId) : (s.map i).keys.Nodup := (s.store i).distinct

end Gatehouse.Stores
