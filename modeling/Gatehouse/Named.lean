/-!
# Entries under keys

A map by name is a list of pairs of a key and an entry, in the order in which the keys were first
added. `Named.alter` makes one entry out of an earlier one, in its place or at the end, and
`Named.drop` takes a key away.  No key stands twice in a map that is made in this way
(`Named.nodup_alter`, `Named.nodup_drop`, `Named.nodup_swapDrop`).
-/

namespace Gatehouse

/-- Entries under keys, in the order in which the keys were first added. -/
abbrev Named (α : Type) := List (String × α)

/-- The front of a list of pairs hides what stands under its name. -/
theorem lookup_cons_ite {α : Type} (name : String) (a : α) (m : List (String × α)) (key : String) :
    ((name, a) :: m).lookup key = if key = name then some a else m.lookup key := by
  by_cases same : key = name
  · rw [if_pos same, same, List.lookup_cons_self]
  · rw [if_neg same, List.lookup_cons, beq_false_of_ne same]

namespace Named

variable {α : Type}

/-- The entry of a key. -/
def find? (m : Named α) (key : String) : Option α := m.lookup key

/-- The keys in order. -/
def keys (m : Named α) : List String := m.map Prod.fst

/-- Whether the key is taken. -/
def has (m : Named α) (key : String) : Bool := m.keys.contains key

/-- Makes the entry of a key out of the earlier one, in its place or at the end. -/
def alter (key : String) (f : Option α → α) : Named α → Named α
  | [] => [(key, f none)]
  | (k, a) :: rest => if k = key then (key, f (some a)) :: rest else (k, a) :: alter key f rest

/-- Puts an entry under a key, in the place of an earlier one or at the end. -/
def put (key : String) (a : α) : Named α → Named α := alter key fun _ => a

/-- The map without a key, the others in their order. -/
def drop (m : Named α) (key : String) : Named α := m.filter fun e => e.1 != key

/-- The map without a key, the last entry in its place. -/
def swapDrop (key : String) : Named α → Named α
  | [] => []
  | (k, a) :: rest =>
    if k = key then
      match rest.getLast? with
      | none => []
      | some last => last :: rest.dropLast
    else (k, a) :: swapDrop key rest

/-- The place of a key. -/
def position? (m : Named α) (key : String) : Option Nat := m.keys.findIdx? (· == key)

/-- The map of pairs put one after the other. -/
def ofPairs (ps : List (String × α)) : Named α := ps.foldl (fun m p => put p.1 p.2 m) []

/-- The changed entry is found under its key, and every other one under its own. -/
theorem find?_alter (key : String) (f : Option α → α) (m : Named α) (k : String) :
    (alter key f m).find? k = if k = key then some (f (m.find? key)) else m.find? k := by
  induction m with
  | nil => exact lookup_cons_ite key _ [] k
  | cons e m ih =>
    obtain ⟨n, a⟩ := e
    unfold find? at ih ⊢
    by_cases hn : n = key
    · rw [alter, if_pos hn, lookup_cons_ite, lookup_cons_ite, lookup_cons_ite, hn, if_pos rfl]
      split
      all_goals rfl
    · rw [alter, if_neg hn, lookup_cons_ite, lookup_cons_ite, lookup_cons_ite, ih,
        if_neg (Ne.symm hn)]
      by_cases hk : k = n
      · rw [if_pos hk, if_pos hk, if_neg (hk ▸ hn)]
      · rw [if_neg hk, if_neg hk]

/-- A key that is new comes last, and all others stay where they are. -/
theorem keys_alter (key : String) (f : Option α → α) (m : Named α) :
    (alter key f m).keys = if key ∈ m.keys then m.keys else m.keys ++ [key] := by
  induction m with
  | nil => rfl
  | cons e m ih =>
    obtain ⟨k, a⟩ := e
    unfold keys at ih
    by_cases h : k = key
    · subst h
      rw [alter, if_pos rfl]
      exact (if_pos List.mem_cons_self).symm
    · have other : key ∈ k :: m.map Prod.fst ↔ key ∈ m.map Prod.fst := by
        rw [List.mem_cons, or_iff_right (Ne.symm h)]
      rw [alter, if_neg h, keys, keys, List.map_cons, List.map_cons, ih]
      simp only [other]
      split
      · rfl
      · rfl

/-- No key stands twice where none stands. -/
theorem nodup_nil : (keys ([] : Named α)).Nodup := List.Pairwise.nil

/-- No key stands twice after one was changed. -/
theorem nodup_alter {m : Named α} (unique : m.keys.Nodup) (key : String) (f : Option α → α) :
    (alter key f m).keys.Nodup := by
  rw [keys_alter]
  split
  case isTrue => exact unique
  case isFalse fresh =>
    rw [List.nodup_append]
    refine ⟨unique, List.nodup_cons.mpr ⟨List.not_mem_nil, .nil⟩, fun k hk l hl => ?_⟩
    rw [List.mem_singleton.mp hl]
    rintro rfl
    exact fresh hk

/-- An entry of the changed map is an earlier one or the one that was made. -/
theorem mem_alter {m : Named α} {key : String} {f : Option α → α} {e : String × α}
    (h : e ∈ alter key f m) : e ∈ m ∨ ∃ o, e = (key, f o) := by
  induction m with
  | nil => exact .inr ⟨none, List.mem_singleton.mp h⟩
  | cons x m ih =>
    obtain ⟨k, a⟩ := x
    rw [alter] at h
    split at h
    case isTrue =>
      rcases List.mem_cons.mp h with rfl | h
      · exact .inr ⟨some a, rfl⟩
      · exact .inl (List.mem_cons_of_mem _ h)
    case isFalse =>
      rcases List.mem_cons.mp h with rfl | h
      · exact .inl List.mem_cons_self
      · exact (ih h).imp_left (List.mem_cons_of_mem _)

/-- No key stands twice after one was dropped. -/
theorem nodup_drop {m : Named α} (unique : m.keys.Nodup) (key : String) : (m.drop key).keys.Nodup :=
  unique.sublist (List.filter_sublist.map Prod.fst)

/-- The last entry in the place of the first one with a key: the same entries in another order. -/
theorem swapDrop_perm (key : String) (m : Named α) :
    (swapDrop key m).Perm (m.eraseP fun e => e.1 == key) := by
  induction m with
  | nil => exact .refl []
  | cons e m ih =>
    obtain ⟨k, a⟩ := e
    by_cases same : k = key
    · rw [swapDrop, if_pos same, List.eraseP_cons_of_pos (by simpa using same)]
      cases last : m.getLast? with
      | none => rw [List.getLast?_eq_none_iff.mp last]
      | some l =>
        obtain ⟨front, rfl⟩ := List.getLast?_eq_some_iff.mp last
        rw [List.dropLast_concat]
        exact (List.perm_append_singleton l front).symm
    · rw [swapDrop, if_neg same, List.eraseP_cons_of_neg (by simpa using same)]
      exact ih.cons _

/-- No key stands twice after one has given its place to the last one. -/
theorem nodup_swapDrop {m : Named α} (unique : m.keys.Nodup) (key : String) :
    (swapDrop key m).keys.Nodup :=
  (((swapDrop_perm key m).map Prod.fst).nodup_iff).mpr
    (unique.sublist (List.eraseP_sublist.map Prod.fst))

/-- What is left when a key is dropped was there before. -/
theorem mem_of_mem_swapDrop {m : Named α} {key : String} {e : String × α}
    (h : e ∈ swapDrop key m) : e ∈ m := List.mem_of_mem_eraseP ((swapDrop_perm key m).mem_iff.mp h)

end Named

end Gatehouse
