import Mathlib.Data.List.Nodup
import Mathlib.Tactic.Lemma
import Gatehouse.Named

/-!
# Maps by name

What a map holds after an entry was put into it (`find?_put`) or a key was dropped (`find?_drop`),
and where its keys stand.  An entry that is changed twice is changed by both in turn
(`alter_alter`), and in a map that is a list followed by another one it is changed where its key
stands (`alter_append`).
-/

namespace Gatehouse

namespace Named

variable {α : Type}

/-- What was put under a key is found there, and every other entry under its own key. -/
lemma find?_put (m : Named α) (key k : String) (a : α) :
    (put key a m).find? k = if k = key then some a else m.find? k :=
  find?_alter key (fun _ => a) m k

/-- An entry that is put again where it stands changes nothing. -/
lemma put_of_find? {m : Named α} {key : String} {a : α} (found : m.find? key = some a) :
    put key a m = m := by
  induction m with
  | nil => cases found
  | cons e m ih =>
    obtain ⟨n, b⟩ := e
    unfold find? put at *
    rw [lookup_cons_ite] at found
    by_cases same : n = key
    · rw [if_pos same.symm] at found
      rw [alter, if_pos same, Option.some.inj found, same]
    · rw [if_neg (Ne.symm same)] at found
      rw [alter, if_neg same, ih found]

/-- Two changes of one entry are one change. -/
lemma alter_alter (key : String) (f g : Option α → α) (m : Named α) :
    alter key f (alter key g m) = alter key (fun o => f (some (g o))) m := by
  induction m with
  | nil => simp only [alter, if_true]
  | cons e m ih =>
    obtain ⟨n, a⟩ := e
    by_cases hn : n = key
    · simp only [alter, if_pos hn, if_true]
    · simp only [alter, if_neg hn, ih]

/-- A key that does not stand in the first part is changed in the second. -/
lemma alter_append {key : String} {m : Named α} (fresh : key ∉ m.keys) (f : Option α → α)
    (m' : Named α) : alter key f (m ++ m') = m ++ alter key f m' := by
  induction m with
  | nil => rfl
  | cons e m ih =>
    rw [keys, List.map_cons, List.mem_cons, not_or] at fresh
    rw [List.cons_append, alter, if_neg (Ne.symm fresh.1), ih fresh.2, List.cons_append]

/-- A key that does not stand in a map is added at its end. -/
lemma alter_eq_of_fresh {key : String} {m : Named α} (fresh : key ∉ m.keys) (f : Option α → α) :
    alter key f m = m ++ [(key, f none)] := by
  have added := alter_append fresh f []
  rw [List.append_nil] at added
  exact added

/-- An entry is found at the place of its key. -/
lemma position?_find? {m : Named α} {key : String} {i : Nat} {a : α} (hi : m.position? key = some i)
    (ha : m.find? key = some a) : m[i]? = some (key, a) := by
  induction m generalizing i with
  | nil => cases ha
  | cons e m ih =>
    obtain ⟨n, b⟩ := e
    by_cases hn : n = key
    · subst hn
      simp only [find?, List.lookup_cons_self, Option.some.injEq] at ha
      simp only [position?, keys, List.map_cons, List.findIdx?_cons, beq_self_eq_true, if_true,
        Option.some.injEq] at hi
      subst ha
      subst hi
      rfl
    · have hb : (key == n) = false := beq_false_of_ne (Ne.symm hn)
      have hb' : (n == key) = false := beq_false_of_ne hn
      simp only [find?, List.lookup_cons, hb] at ha
      simp only [position?, keys, List.map_cons, List.findIdx?_cons, hb', Bool.false_eq_true,
        if_false, Option.map_eq_some_iff] at hi
      obtain ⟨j, hj, rfl⟩ := hi
      exact ih hj ha

/-- An entry is found under the keys that there are. -/
lemma find?_isSome_iff {m : Named α} {key : String} : (m.find? key).isSome ↔ key ∈ m.keys := by
  simp only [find?, List.lookup_isSome_iff, beq_iff_eq, keys, List.mem_map, @eq_comm _ key]

/-- Nothing is found under a key that there is not. -/
lemma find?_eq_none {m : Named α} {key : String} (h : key ∉ m.keys) : m.find? key = none := by
  rw [← Option.not_isSome_iff_eq_none, find?_isSome_iff]
  exact h

/-- The keys that there are have a place. -/
lemma position?_isSome_iff {m : Named α} {key : String} :
    (m.position? key).isSome ↔ key ∈ m.keys := by
  simp only [position?, List.findIdx?_isSome, List.any_eq_true, beq_iff_eq, exists_eq_right]

/-- A key keeps its place when keys are added behind it. -/
lemma position?_of_prefix {m m' : Named α} {key : String} (grown : m.keys <+: m'.keys)
    (known : key ∈ m.keys) :
    m'.position? key = m.position? key := by
  obtain ⟨more, h⟩ := grown
  obtain ⟨i, hi⟩ := Option.isSome_iff_exists.mp (position?_isSome_iff.mpr known)
  unfold position? at hi ⊢
  rw [← h, List.findIdx?_append, hi, Option.some_or]

/-- A key is taken if it stands among the keys. -/
lemma has_iff {m : Named α} {key : String} : m.has key = true ↔ key ∈ m.keys := by
  rw [has, List.contains_iff_mem]

/-- A key is taken if an entry is found under it. -/
lemma has_eq (m : Named α) (key : String) : m.has key = (m.find? key).isSome := by
  rw [Bool.eq_iff_iff, has_iff, find?_isSome_iff]

/-- Where no key stands twice every entry is found under its own. -/
lemma find?_of_mem {m : Named α} (unique : m.keys.Nodup) {key : String} {a : α} (h : (key, a) ∈ m) :
    m.find? key = some a := by
  induction m with
  | nil => cases h
  | cons e m ih =>
    obtain ⟨fresh, unique⟩ := List.nodup_cons.mp unique
    rcases List.mem_cons.mp h with rfl | h
    · exact List.lookup_cons_self
    · have other : (key == e.1) = false := by
        apply beq_false_of_ne
        rintro rfl
        exact fresh (List.mem_map.mpr ⟨(e.1, a), h, rfl⟩)
      rw [find?, List.lookup_cons, other]
      exact ih unique h

/-- What is found under a key stands in the map. -/
lemma mem_of_find? {m : Named α} {key : String} {a : α} (h : m.find? key = some a) :
    (key, a) ∈ m := by
  induction m with
  | nil => cases h
  | cons e m ih =>
    rw [find?, List.lookup_cons] at h
    split at h
    case h_1 same =>
      cases h
      rw [eq_of_beq same]
      exact List.mem_cons_self
    case h_2 => exact List.mem_cons_of_mem e (ih h)

/-- A key that was dropped is gone, and all others are as before. -/
lemma find?_drop (m : Named α) (key k : String) :
    (m.drop key).find? k = if k = key then none else m.find? k := by
  induction m with
  | nil => exact (ite_self none).symm
  | cons e m ih =>
    obtain ⟨n, b⟩ := e
    unfold find? at ih ⊢
    by_cases same : n = key
    · have left : drop ((n, b) :: m) key = drop m key := by
        rw [drop, List.filter_cons_of_neg (by simpa using same)]
        rfl
      rw [left, ih, lookup_cons_ite, same]
      split
      all_goals rfl
    · have stays : drop ((n, b) :: m) key = (n, b) :: drop m key := by
        rw [drop, List.filter_cons_of_pos (by simpa using same)]
        rfl
      rw [stays, lookup_cons_ite, ih, lookup_cons_ite]
      by_cases h : k = n
      · rw [if_pos h, if_pos h, if_neg (h ▸ same)]
      · rw [if_neg h, if_neg h]

/-- A key that is new comes last, and all others stay where they are. -/
lemma keys_put (key : String) (a : α) (m : Named α) :
    (put key a m).keys = if key ∈ m.keys then m.keys else m.keys ++ [key] := keys_alter key _ m

/-- No key stands twice after an entry was put. -/
lemma nodup_put {m : Named α} (unique : m.keys.Nodup) (key : String) (a : α) :
    (put key a m).keys.Nodup := nodup_alter unique key _

/-- No key stands twice in a map of pairs. -/
lemma nodup_ofPairs (ps : List (String × α)) : (ofPairs ps).keys.Nodup := by
  suffices h : ∀ m : Named α, m.keys.Nodup → (ps.foldl (fun m p => put p.1 p.2 m) m).keys.Nodup from
    h [] List.nodup_nil
  induction ps with
  | nil => exact fun _ unique => unique
  | cons p ps ih => exact fun _ unique => ih _ (nodup_put unique p.1 p.2)

end Named

end Gatehouse
