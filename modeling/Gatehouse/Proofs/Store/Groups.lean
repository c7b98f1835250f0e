import Gatehouse.Proofs.Handles
import Gatehouse.Proofs.Store.Handles
import Gatehouse.Store.Value

/-!
# Stores that are shared

`Store.Table.call?` is all that can be done with stores through named handles, and its answers.
What was done, the latest first, tells which value every group of handles holds under a key
(`Store.Table.held`): the one that was last set through any of them, unless it was removed since.  A
table keeps one map for each group with exactly these values (`Store.Table.Kept`).  So its answers
are those of one map of typed values for each group (`Store.Table.Answers`), and nothing that is
done with one group or key is seen through another (`Store.Table.after_shared`).

All of this holds of values of any sort `V` and types of any sort `κ`; the values of a request are
the case of the last example.
-/

namespace Gatehouse.Store

/-- What can be done with stores through named handles. -/
inductive Call (V κ : Type) where
  | create (handle : String)
  | clone (handle name : String)
  | set (handle key : String) (v : V)
  | remove (handle key : String)
  | get (handle key : String) (kind : κ)
  | contains (handle key : String)
  | size (handle : String)
  | keys (handle : String)
  | same (handle other : String)
deriving DecidableEq, Repr

/-- What is answered. -/
inductive Answer (V : Type) where
  | nothing
  | value (v : Option V)
  | truth (b : Bool)
  | count (n : Nat)
  | listed (keys : List String)
deriving DecidableEq, Repr

namespace Call

variable {V κ : Type}

/-- What a call does to the names of handles. -/
def naming : Call V κ → Naming
  | .create handle => .opens handle
  | .clone handle name => .copies handle name
  | _ => .keeps

/-- The handles through which something is done. -/
def handles : Call V κ → List String
  | .create _ => []
  | .clone handle _ | .set handle _ _ | .remove handle _ | .get handle _ _ | .contains handle _
  | .size handle | .keys handle => [handle]
  | .same handle other => [handle, other]

end Call

namespace Table

variable {V κ : Type}

/-- The group, by its number, to which a handle belongs. -/
def groupOf (past : List (Call V κ)) : String → Option Nat := Naming.groupOf (past.map Call.naming)

/-- A call through a handle of the group that is about the key. -/
def Touches (past : List (Call V κ)) (g : Nat) (key : String) (c : Call V κ) : Prop :=
  ∃ handle, groupOf past handle = some g ∧ (c = .remove handle key ∨ ∃ v, c = .set handle key v)

/-- What was last set under a key through a handle of the group, unless it was removed since. -/
def held : List (Call V κ) → Nat → String → Option V
  | [], _, _ => none
  | .set handle k v :: past, g, key =>
    if groupOf past handle = some g ∧ key = k then some v else held past g key
  | .remove handle k :: past, g, key =>
    if groupOf past handle = some g ∧ key = k then none else held past g key
  | _ :: past, g, key => held past g key

/-- The keys that a group holds, each of them once. -/
structure Lists (past : List (Call V κ)) (g : Nat) (keys : List String) : Prop where
  once : keys.Nodup
  present : ∀ key, key ∈ keys ↔ (held past g key).isSome

section Kept

variable {past : List (Call V κ)} {t : Table V} {c : Call V κ}
variable {handle key : String} {g : Nat} {i : StoreId}

/-- Nothing else changes what a group holds under a key. -/
lemma held_cons (untouched : ¬ Touches past g key c) :
    held (c :: past) g key = held past g key := by
  cases c with
  | set handle k v =>
    rw [held, if_neg]
    rintro ⟨known, rfl⟩
    exact untouched ⟨handle, known, .inr ⟨v, rfl⟩⟩
  | remove handle k =>
    rw [held, if_neg]
    rintro ⟨known, rfl⟩
    exact untouched ⟨handle, known, .inl rfl⟩
  | _ => rfl

/--
What every call keeps: the table knows the groups, and each of its maps holds what the group of its
number holds.
-/
structure Kept (past : List (Call V κ)) (t : Table V) : Prop where
  tracks : Tracks (past.map Call.naming) (fun handle => (t.id? handle).map StoreId.index)
    t.stores.all.length
  holds : ∀ g key, (t.stores.map ⟨g⟩).find? key = held past g key

namespace Kept

/-- The group of a handle is the number of its store. -/
lemma groupOf_eq (k : Kept past t) (handle : String) :
    groupOf past handle = (t.id? handle).map StoreId.index := (k.tracks.known handle).symm

/-- A handle of a store belongs to the group of its number. -/
lemma groupOf_of_id? (k : Kept past t) (known : t.id? handle = some i) :
    groupOf past handle = some i.index := by
  rw [k.groupOf_eq, known]
  rfl

/-- A handle of a group is a handle of the store of its number. -/
lemma id?_eq (k : Kept past t) (known : groupOf past handle = some g) :
    t.id? handle = some ⟨g⟩ := by
  rw [k.groupOf_eq] at known
  obtain ⟨i, found, rfl⟩ := Option.map_eq_some_iff.mp known
  exact found

/-- The store of a handle is one of those that there are. -/
lemma held_of_id? (k : Kept past t) (known : t.id? handle = some i) :
    i.index < t.stores.all.length :=
  k.tracks.lt_count (by rw [known]; rfl)

/-- The empty table, before anything is done. -/
lemma nil : Kept ([] : List (Call V κ)) .empty := ⟨.nil, fun _ _ => rfl⟩

/-- A call that neither names nor changes anything leaves everything as it was. -/
lemma looked (k : Kept past t) (named : c.naming = .keeps)
    (untouched : ∀ g key, ¬ Touches past g key c) :
    Kept (c :: past) t := by
  refine ⟨?_, fun g key => ?_⟩
  · rw [List.map_cons, named]
    exact k.tracks.keeps
  · rw [k.holds, held_cons (untouched g key)]

/-- A new store has a number that no group had, and holds nothing. -/
lemma create (k : Kept past t) (handle : String) :
    Kept (.create handle :: past)
      ⟨(handle, ⟨t.stores.all.length⟩) :: t.handles, t.stores.create.2⟩ := by
  have maps (g) := t.stores.map_create ⟨g⟩
  refine ⟨?_, fun g key => ?_⟩
  · have counted : t.stores.create.2.all.length = t.stores.all.length + 1 := List.length_append
    rw [counted]
    refine k.tracks.opens fun name => ?_
    rw [id?, lookup_cons_ite, apply_ite (Option.map StoreId.index)]
    rfl
  · rw [maps]
    exact k.holds g key

/-- A clone joins the group of its handle. -/
lemma clone (k : Kept past t) (known : t.id? handle = some i) (name : String) :
    Kept (.clone handle name :: past) { t with handles := (name, i) :: t.handles } := by
  refine ⟨k.tracks.copies fun other => ?_, k.holds⟩
  rw [known, id?, lookup_cons_ite, apply_ite (Option.map StoreId.index)]
  rfl

/-- Where a handle's map is changed at one key, the maps hold what their groups do. -/
lemma changed (k : Kept past t) (known : t.id? handle = some i) {stores : Stores V}
    {m : TypedMap V} {v : Option V} (length : stores.all.length = t.stores.all.length)
    (named : c.naming = .keeps)
    (maps : ∀ j, stores.map j = if j = i then m else t.stores.map j)
    (found : ∀ k, m.find? k = if k = key then v else (t.stores.map i).find? k)
    (now : ∀ g k, held (c :: past) g k =
      if groupOf past handle = some g ∧ k = key then v else held past g k) :
    Kept (c :: past) { t with stores := stores } := by
  refine ⟨?_, fun g name => ?_⟩
  · rw [List.map_cons, named, length]
    exact k.tracks.keeps
  · rw [maps, now, k.groupOf_of_id? known]
    -- the map of another group stays, and in this one every other key
    by_cases same : (⟨g⟩ : StoreId) = i
    · rw [if_pos same, found, ← same, k.holds]
      by_cases here : name = key
      · rw [if_pos here, if_pos ⟨rfl, here⟩]
      · rw [if_neg here, if_neg fun h => here h.2]
    · rw [if_neg same, k.holds, if_neg]
      rintro ⟨other, -⟩
      exact same (congrArg StoreId.mk (Option.some.inj other)).symm

/-- A value is set for the whole group of the handle. -/
lemma set (k : Kept past t) (known : t.id? handle = some i) (key : String) (v : V) :
    Kept (.set handle key v :: past) { t with stores := t.stores.set i key v } :=
  k.changed (v := some v) known List.length_set rfl
    (fun j => t.stores.map_set i j key v (k.held_of_id? known))
    (fun name => Named.find?_put _ key name v) fun _ _ => rfl

/-- A key is removed for the whole group of the handle. -/
lemma remove (k : Kept past t) (known : t.id? handle = some i) (key : String) :
    Kept (.remove handle key :: past) { t with stores := t.stores.erase i key } :=
  k.changed (v := none) known List.length_set rfl
    (fun j => t.stores.map_erase i j key (k.held_of_id? known))
    (fun name => Named.find?_drop _ key name) fun _ _ => rfl

/-- The map of a group has the group's keys, each of them once. -/
lemma lists (k : Kept past t) (g : Nat) : Lists past g (t.stores.map ⟨g⟩).keys := by
  refine ⟨t.stores.nodup_map ⟨g⟩, fun key => ?_⟩
  rw [← Named.find?_isSome_iff, k.holds]

end Kept

end Kept

variable [Typed V κ] [DecidableEq κ]

/-- What is answered to a look at the map behind a handle. -/
def look? (t : Table V) (handle : String) (f : TypedMap V → Answer V) :
    Option (Answer V × Table V) :=
  (t.map? handle).map fun m => (f m, t)

/-- The answer to a call and the table after it; there are none if a handle is not known. -/
def call? (t : Table V) : Call V κ → Option (Answer V × Table V)
  | .create handle => (t.act? (.create handle)).map fun t' => (.nothing, t')
  | .clone handle name => (t.act? (.clone handle name)).map fun t' => (.nothing, t')
  | .set handle key v => (t.act? (.set handle key v)).map fun t' => (.nothing, t')
  | .remove handle key => do
    let m ← t.map? handle
    let t' ← t.act? (.erase handle key)
    pure (.truth (m.contains key), t')
  | .get handle key kind => t.look? handle fun m => .value (m.get? key kind)
  | .contains handle key => t.look? handle fun m => .truth (m.contains key)
  | .size handle => t.look? handle fun m => .count m.length
  | .keys handle => t.look? handle fun m => .listed m.keys
  | .same handle other => (t.same? handle other).map fun b => (.truth b, t)

/-- The table after what was done, the latest first; at first there is no store. -/
inductive After : List (Call V κ) → Table V → Prop where
  | nil : After [] .empty
  | cons {past t c a t'} : After past t → t.call? c = some (a, t') → After (c :: past) t'

/-- The answers of one map of typed values for each group. -/
inductive Answers (past : List (Call V κ)) : Call V κ → Answer V → Prop where
  | create {handle} : Answers past (.create handle) .nothing
  | clone {handle name g} : groupOf past handle = some g →
    Answers past (.clone handle name) .nothing
  | set {handle key v g} : groupOf past handle = some g → Answers past (.set handle key v) .nothing
  | remove {handle key g} : groupOf past handle = some g →
    Answers past (.remove handle key) (.truth (held past g key).isSome)
  | get {handle key kind g} : groupOf past handle = some g →
    Answers past (.get handle key kind)
      (.value ((held past g key).filter fun v => Typed.kind v == kind))
  | contains {handle key g} : groupOf past handle = some g →
    Answers past (.contains handle key) (.truth (held past g key).isSome)
  | size {handle g keys} : groupOf past handle = some g → Lists past g keys →
    Answers past (.size handle) (.count keys.length)
  | keys {handle g keys} : groupOf past handle = some g → Lists past g keys →
    Answers past (.keys handle) (.listed keys)
  | same {handle other g g'} : groupOf past handle = some g → groupOf past other = some g' →
    Answers past (.same handle other) (.truth (g == g'))

/-- What a call does to the table and what it answers, read from the store of its handle. -/
inductive Does (t : Table V) : Call V κ → Answer V → Table V → Prop where
  | create {handle} :
    Does t (.create handle) .nothing
      ⟨(handle, ⟨t.stores.all.length⟩) :: t.handles, t.stores.create.2⟩
  | clone {handle name i} : t.id? handle = some i →
    Does t (.clone handle name) .nothing { t with handles := (name, i) :: t.handles }
  | set {handle key v i} : t.id? handle = some i →
    Does t (.set handle key v) .nothing { t with stores := t.stores.set i key v }
  | remove {handle key i} : t.id? handle = some i →
    Does t (.remove handle key) (.truth ((t.stores.map i).contains key))
      { t with stores := t.stores.erase i key }
  | get {handle key kind i} : t.id? handle = some i →
    Does t (.get handle key kind) (.value ((t.stores.map i).get? key kind)) t
  | contains {handle key i} : t.id? handle = some i →
    Does t (.contains handle key) (.truth ((t.stores.map i).contains key)) t
  | size {handle i} : t.id? handle = some i →
    Does t (.size handle) (.count (t.stores.map i).length) t
  | keys {handle i} : t.id? handle = some i →
    Does t (.keys handle) (.listed (t.stores.map i).keys) t
  | same {handle other i j} : t.id? handle = some i → t.id? other = some j →
    Does t (.same handle other) (.truth (i == j)) t

variable {past : List (Call V κ)} {t t' : Table V} {c : Call V κ} {a : Answer V}
variable {handle key : String} {g : Nat} {i : StoreId}

/-- A look is answered from the map behind the handle and changes nothing. -/
lemma exists_of_look? {f : TypedMap V → Answer V} (e : t.look? handle f = some (a, t')) :
    ∃ i, t.id? handle = some i ∧ a = f (t.stores.map i) ∧ t' = t := by
  obtain ⟨m, found, e⟩ := Option.map_eq_some_iff.mp e
  obtain ⟨i, known, rfl⟩ := Option.map_eq_some_iff.mp found
  cases e
  exact ⟨i, known, rfl, rfl⟩

/-- No call does anything else. -/
lemma does_of_call? (e : t.call? c = some (a, t')) : Does t c a t' := by
  cases c with
  | create handle =>
    cases e
    exact .create
  | clone handle name =>
    obtain ⟨t', e, made⟩ := Option.map_eq_some_iff.mp e
    obtain ⟨i, known, rfl⟩ := Option.map_eq_some_iff.mp e
    cases made
    exact .clone known
  | set handle key v =>
    obtain ⟨t', e, made⟩ := Option.map_eq_some_iff.mp e
    obtain ⟨i, known, rfl⟩ := Option.map_eq_some_iff.mp e
    cases made
    exact .set known
  | remove handle key =>
    simp only [call?, act?, map?, Option.bind_eq_bind, Option.bind_eq_some_iff,
      Option.map_eq_some_iff] at e
    -- the handle is looked up twice, for the answer and for the store
    obtain ⟨_, ⟨i, known, rfl⟩, _, ⟨j, again, rfl⟩, made⟩ := e
    cases known.symm.trans again
    cases made
    exact .remove known
  | get handle key kind =>
    obtain ⟨i, known, rfl, rfl⟩ := exists_of_look? e
    exact .get known
  | contains handle key =>
    obtain ⟨i, known, rfl, rfl⟩ := exists_of_look? e
    exact .contains known
  | size handle =>
    obtain ⟨i, known, rfl, rfl⟩ := exists_of_look? e
    exact .size known
  | keys handle =>
    obtain ⟨i, known, rfl, rfl⟩ := exists_of_look? e
    exact .keys known
  | same handle other =>
    obtain ⟨b, told, made⟩ := Option.map_eq_some_iff.mp e
    simp only [same?, Option.bind_eq_bind, Option.bind_eq_some_iff] at told
    obtain ⟨i, known, j, known', compared⟩ := told
    cases made
    cases compared
    exact .same known known'

namespace Kept

/-- One step: every call keeps the table in line with what was done. -/
lemma call (k : Kept past t) (e : t.call? c = some (a, t')) : Kept (c :: past) t' := by
  cases does_of_call? e with
  | create => exact k.create _
  | clone known => exact k.clone known _
  | set known => exact k.set known _ _
  | remove known => exact k.remove known _
  | get | contains | size | keys | same => exact k.looked rfl nofun

/-- Every table that can be reached is in line with what was done. -/
lemma of_after (h : After past t) : Kept past t := by
  induction h with
  | nil => exact .nil
  | cons _ e k => exact k.call e

/-- A call is answered as one map for each group answers it. -/
lemma answers (k : Kept past t) (e : t.call? c = some (a, t')) : Answers past c a := by
  have contains (i : StoreId) (key : String) :
      (t.stores.map i).contains key = (held past i.index key).isSome := by
    rw [← k.holds, TypedMap.contains, Named.has_eq]
  cases does_of_call? e with
  | create => exact .create
  | clone known => exact .clone (k.groupOf_of_id? known)
  | set known => exact .set (k.groupOf_of_id? known)
  | remove known =>
    rw [contains]
    exact .remove (k.groupOf_of_id? known)
  | get known =>
    rw [TypedMap.get?, k.holds]
    exact .get (k.groupOf_of_id? known)
  | contains known =>
    rw [contains]
    exact .contains (k.groupOf_of_id? known)
  | @size _ i known =>
    have counted : (t.stores.map i).length = (t.stores.map i).keys.length :=
      (List.length_map _).symm
    rw [counted]
    exact .size (k.groupOf_of_id? known) (k.lists i.index)
  | @keys _ i known => exact .keys (k.groupOf_of_id? known) (k.lists i.index)
  | @same _ _ i j known known' =>
    have compared : (i == j) = (i.index == j.index) := by
      obtain ⟨i⟩ := i
      obtain ⟨j⟩ := j
      rw [Bool.eq_iff_iff, beq_iff_eq, beq_iff_eq, StoreId.mk.injEq]
    rw [compared]
    exact .same (k.groupOf_of_id? known) (k.groupOf_of_id? known')

/-- Every call has an answer, as soon as its handles are known. -/
lemma call?_isSome_iff (k : Kept past t) (c : Call V κ) :
    (t.call? c).isSome ↔ ∀ handle ∈ c.handles, (groupOf past handle).isSome := by
  have known (handle : String) :
      (∀ name ∈ [handle], (groupOf past name).isSome) ↔ (t.id? handle).isSome := by
    rw [List.forall_mem_singleton, k.groupOf_eq, Option.isSome_map]
  have look (handle : String) (f : TypedMap V → Answer V) :
      (t.look? handle f).isSome ↔ (t.id? handle).isSome := by
    rw [look?, map?, Option.isSome_map, Option.isSome_map]
  have act (handle : String) (f : StoreId → Table V) :
      (((t.id? handle).map f).map fun t' => ((.nothing : Answer V), t')).isSome ↔
        (t.id? handle).isSome := by
    rw [Option.isSome_map, Option.isSome_map]
  cases c with
  | create handle => exact iff_of_true rfl nofun
  | clone handle name => exact (act handle _).trans (known handle).symm
  | set handle key v => exact (act handle _).trans (known handle).symm
  | remove handle key =>
    refine Iff.trans ?_ (known handle).symm
    rw [call?, map?, act?]
    cases t.id? handle with
    | none => exact iff_of_false nofun nofun
    | some i => exact iff_of_true rfl rfl
  | get handle key kind => exact (look handle _).trans (known handle).symm
  | contains handle key => exact (look handle _).trans (known handle).symm
  | size handle => exact (look handle _).trans (known handle).symm
  | keys handle => exact (look handle _).trans (known handle).symm
  | same handle other =>
    have both : (∀ name ∈ [handle, other], (groupOf past name).isSome) ↔
        (t.id? handle).isSome ∧ (t.id? other).isSome := by
      rw [List.forall_mem_cons, known, k.groupOf_eq, Option.isSome_map]
    refine Iff.trans ?_ both.symm
    rw [call?, Option.isSome_map, same?]
    cases t.id? handle with
    | none => exact iff_of_false nofun nofun
    | some i =>
      cases t.id? other with
      | none => exact iff_of_false nofun nofun
      | some j => exact iff_of_true rfl ⟨rfl, rfl⟩

end Kept

/-- What a call answers. -/
def answer? (t : Table V) (c : Call V κ) : Option (Answer V) := (t.call? c).map Prod.fst

namespace Kept

/-- A key of a group is read at its own type. -/
lemma answer?_get (k : Kept past t) (known : groupOf past handle = some g) (key : String)
    (kind : κ) :
    t.answer? (.get handle key kind) =
      some (.value ((held past g key).filter fun v => Typed.kind v == kind)) := by
  rw [← k.holds, answer?, call?, look?, map?, k.id?_eq known]
  rfl

/-- A key of a group is present if the group holds a value under it. -/
lemma answer?_contains (k : Kept past t) (known : groupOf past handle = some g) (key : String) :
    t.answer? (.contains handle key : Call V κ) = some (.truth (held past g key).isSome) := by
  rw [← k.holds, ← Named.has_eq, answer?, call?, look?, map?, k.id?_eq known]
  rfl

/-- The map of a group about which nothing was said is the same. -/
lemma map_of_call (k : Kept past t) (e : t.call? c = some (a, t'))
    (untouched : ∀ key, ¬ Touches past g key c) : t'.stores.map ⟨g⟩ = t.stores.map ⟨g⟩ := by
  have other {handle : String} {i : StoreId} (known : t.id? handle = some i) (key : String)
      (touch : groupOf past handle = some g → Touches past g key c) : (⟨g⟩ : StoreId) ≠ i := by
    rintro rfl
    exact untouched key (touch (k.groupOf_of_id? known))
  cases does_of_call? e with
  | create => exact t.stores.map_create ⟨g⟩
  | @set handle key v i known =>
    rw [t.stores.map_set i ⟨g⟩ key v (k.held_of_id? known),
      if_neg (other known key fun group => ⟨handle, group, .inr ⟨v, rfl⟩⟩)]
  | @remove handle key i known =>
    rw [t.stores.map_erase i ⟨g⟩ key (k.held_of_id? known),
      if_neg (other known key fun group => ⟨handle, group, .inl rfl⟩)]
  | clone | get | contains | size | keys | same => rfl

end Kept

/-- What can be said of stores after what was done with them. -/
structure Shared (past : List (Call V κ)) (t : Table V) : Prop where
  /-- Everything can be done through handles that belong to a group. -/
  callable : ∀ c, (t.answer? c).isSome ↔ ∀ handle ∈ c.handles, (groupOf past handle).isSome
  /-- It is answered as by one map for each group. -/
  answered : ∀ c a, t.answer? c = some a → Answers past c a
  /-- A call about other keys is not seen under a key. -/
  unseen : ∀ c a t' handle key g, t.call? c = some (a, t') → ¬ Touches past g key c →
    groupOf past handle = some g → groupOf (c :: past) handle = some g →
    (∀ kind, t'.answer? (.get handle key kind) = t.answer? (.get handle key kind)) ∧
    t'.answer? (.contains handle key : Call V κ) = t.answer? (.contains handle key : Call V κ)
  /--
  A call about other groups, or one that changes nothing, leaves the whole map behind a handle as it
  was.
  -/
  apart : ∀ c a t' handle g, t.call? c = some (a, t') → (∀ key, ¬ Touches past g key c) →
    groupOf past handle = some g → groupOf (c :: past) handle = some g →
    t'.map? handle = t.map? handle

/--
Whatever is done with stores, in any order and through any handles: the handles that come from one
store by cloning share one map of typed values, which no other handle sees or changes.
-/
theorem after_shared (past : List (Call V κ)) (t : Table V) (h : After past t) : Shared past t := by
  have k := Kept.of_after h
  refine ⟨fun c => ?callable, fun c a e => ?answered,
    fun c a t' handle key g e untouched known known' => ?unseen,
    fun c a t' handle g e untouched known known' => ?apart⟩
  case callable => rw [answer?, Option.isSome_map, k.call?_isSome_iff]
  case answered =>
    obtain ⟨⟨answer, after⟩, called, rfl⟩ := Option.map_eq_some_iff.mp e
    exact k.answers called
  case unseen =>
    refine ⟨fun kind => ?_, ?_⟩
    · rw [k.answer?_get known, (k.call e).answer?_get known', held_cons untouched]
    · rw [k.answer?_contains known, (k.call e).answer?_contains known', held_cons untouched]
  case apart =>
    rw [map?, map?, k.id?_eq known, (k.call e).id?_eq known', Option.map_some, Option.map_some,
      k.map_of_call e untouched]

/-- A call of which one map for each group allows a single answer has this answer. -/
lemma Shared.answer?_eq (s : Shared past t)
    (known : ∀ handle ∈ c.handles, (groupOf past handle).isSome)
    (single : ∀ b, Answers past c b → b = a) : t.answer? c = some a := by
  obtain ⟨b, e⟩ := Option.isSome_iff_exists.mp ((s.callable c).mpr known)
  rw [e, single b (s.answered c b e)]

/--
A value that was set through a clone is read through the first handle, at its own type only, and not
in the other store.
-/
theorem after_shared_cloned : ∃ t : Table Value,
    After [.set "copy" "n" (.integer (-1)), .set "first" "n" (.text "one"), .create "other",
      .clone "first" "copy", .create "first"] t ∧
    t.answer? (.get "first" "n" .integer) = some (.value (some (.integer (-1)))) ∧
    t.answer? (.get "first" "n" .text) = some (.value none) ∧
    t.answer? (.contains "other" "n" : Call Value ValueKind) = some (.truth false) ∧
    t.answer? (.same "first" "copy" : Call Value ValueKind) = some (.truth true) := by
  have first := After.cons (V := Value) (c := .create "first") .nil rfl
  have copied := first.cons (c := .clone "first" "copy") rfl
  have other := copied.cons (c := .create "other") rfl
  have after := (other.cons (c := .set "first" "n" (.text "one")) rfl).cons
    (c := .set "copy" "n" (.integer (-1))) rfl
  have shared := after_shared _ _ after
  refine ⟨_, after, shared.answer?_eq (by decide) ?_, shared.answer?_eq (by decide) ?_,
    shared.answer?_eq (by decide) ?_, shared.answer?_eq (by decide) ?_⟩
  · intro b h
    cases h with
    | get known =>
      cases (show some 0 = some _ from known)
      rfl
  · intro b h
    cases h with
    | get known =>
      cases (show some 0 = some _ from known)
      rfl
  · intro b h
    cases h with
    | contains known =>
      cases (show some 1 = some _ from known)
      rfl
  · intro b h
    cases h with
    | same known other =>
      cases (show some 0 = some _ from known)
      cases (show some 0 = some _ from other)
      rfl

end Table

end Gatehouse.Store
