import Gatehouse.Proofs.Server.Installation

/-!
# Assembling chains

A catalog holds what was registered under distinct names, and every entry keeps its place
(`Catalog.grown_registerAll`).  A chain is assembled from the entries that some names select, each
of them once, by priority and then by place (`Catalog.Assembled`).  There is at most one such chain,
however the names are ordered or repeated and whatever is registered later (`Assembled.unique`).  A
foundry casts this chain or reports the first name that is not registered
(`Foundry.cast_canonical`).
-/

namespace Gatehouse

/-- Sorting keeps the order of what it does not tell apart. -/
lemma pairwise_mergeSort_stable {α : Type} {le : α → α → Bool}
    (trans : ∀ a b c, le a b → le b c → le a c)
    (total : ∀ a b, le a b || le b a) {S : α → α → Prop} {l : List α} (ordered : l.Pairwise S) :
    (l.mergeSort le).Pairwise fun a b => le a b ∧ (le b a → S a b) := by
  -- an entry is told apart from an equal one by its index
  have once : l.zipIdx.Nodup := by
    apply List.Nodup.of_map Prod.snd
    rw [List.zipIdx_map_snd]
    exact List.nodup_range'
  have sorted :=
    List.pairwise_mergeSort (List.zipIdxLE_trans trans) (List.zipIdxLE_total total) l.zipIdx
  rw [← List.mergeSort_zipIdx, List.pairwise_map]
  refine (sorted.and (List.nodup_mergeSort.mpr once)).imp_of_mem ?_
  rintro ⟨a, i⟩ ⟨b, j⟩ ha hb ⟨indexed, distinct⟩
  obtain ⟨hi, rfl⟩ :=
    List.getElem?_eq_some_iff.mp (List.mk_mem_zipIdx_iff_getElem?.mp (List.mem_mergeSort.mp ha))
  obtain ⟨hj, rfl⟩ :=
    List.getElem?_eq_some_iff.mp (List.mk_mem_zipIdx_iff_getElem?.mp (List.mem_mergeSort.mp hb))
  unfold List.zipIdxLE at indexed
  split at indexed
  case isTrue forth =>
    refine ⟨forth, fun back => ?_⟩
    rw [if_pos back] at indexed
    have apart : i ≠ j := by
      rintro rfl
      exact distinct rfl
    exact List.pairwise_iff_getElem.mp ordered i j hi hj
      (Nat.lt_of_le_of_ne (of_decide_eq_true indexed) apart)
  case isFalse => cases indexed

namespace Named

variable {α : Type}

/-- An entry stands at the place of its key. -/
lemma position?_of_getElem? {m : Named α} (unique : m.keys.Nodup) {key : String} {i : Nat} {a : α}
    (h : m[i]? = some (key, a)) : m.position? key = some i := by
  have at_ : m.keys[i]? = some key := by rw [keys, List.getElem?_map, h, Option.map_some]
  obtain ⟨hi, at_⟩ := List.getElem?_eq_some_iff.mp at_
  refine List.findIdx?_eq_some_iff_getElem.mpr ⟨hi, beq_iff_eq.mpr at_, fun j hj same => ?_⟩
  have : j = i := unique.getElem_inj_iff.mp ((beq_iff_eq.mp same).trans at_.symm)
  omega

end Named

namespace Catalog

/--
Registers stages under names, one after the other; what is refused leaves the catalog as it is.
-/
def registerAll (c : Catalog) : List (String × Stage) → Catalog
  | [] => c
  | (name, s) :: calls =>
    match c.register name s with
    | .ok c' => c'.registerAll calls
    | .error _ => c.registerAll calls

/-- A catalog with entries behind those of another one, and no name twice. -/
structure Grown (c c' : Catalog) : Prop where
  unique : c'.names.Nodup
  entries : ∃ more, c'.entries = c.entries ++ more

/-- A catalog that has grown twice has grown. -/
lemma Grown.trans {c c' c'' : Catalog} (g : c.Grown c') (g' : c'.Grown c'') : c.Grown c'' := by
  obtain ⟨-, more, h⟩ := g
  obtain ⟨unique, more', h'⟩ := g'
  exact ⟨unique, more ++ more', by rw [h', h, List.append_assoc]⟩

/-- A stage is registered behind all others or not at all. -/
lemma grown_register {c c' : Catalog} (unique : c.names.Nodup) {name : String} {s : Stage}
    (h : c.register name s = .ok c') : c.Grown c' := by
  unfold register at h
  by_cases taken : c.entries.has name = true
  · rw [if_pos taken] at h
    cases h
  · rw [if_neg taken] at h
    cases h
    constructor
    case unique =>
      have fresh : name ∉ c.names := fun known => taken (Named.has_iff.mpr known)
      rw [names, Named.keys, List.map_append, List.map_singleton, ← List.concat_eq_append]
      exact unique.concat fresh
    case entries => exact ⟨_, rfl⟩

/-- Whatever is registered, names stay distinct and entries stay in their places. -/
lemma grown_registerAll {c : Catalog} (unique : c.names.Nodup) (calls : List (String × Stage)) :
    c.Grown (c.registerAll calls) := by
  induction calls generalizing c with
  | nil => exact ⟨unique, [], (List.append_nil _).symm⟩
  | cons call calls ih =>
    obtain ⟨name, s⟩ := call
    unfold registerAll
    cases h : c.register name s with
    | error e => exact ih unique
    | ok c' =>
      have g := grown_register unique h
      exact g.trans (ih g.unique)

/-- Names stay known when a catalog grows. -/
lemma Grown.known {c c' : Catalog} (g : c.Grown c') {name : String} (known : name ∈ c.names) :
    name ∈ c'.names := by
  obtain ⟨more, h⟩ := g.entries
  rw [names, Named.keys, h, List.map_append]
  exact List.mem_append_left _ known

/-- Names keep their places when a catalog grows. -/
lemma Grown.position? {c c' : Catalog} (g : c.Grown c') {name : String} (known : name ∈ c.names) :
    c'.position? name = c.position? name := by
  obtain ⟨more, h⟩ := g.entries
  refine Named.position?_of_prefix ⟨Named.keys more, ?_⟩ known
  rw [h, Named.keys, Named.keys, Named.keys, List.map_append]

/-- A catalog grows by new names alone. -/
lemma Grown.mem {c c' : Catalog} (g : c.Grown c') {e : String × Stage} (known : e.1 ∈ c.names) :
    e ∈ c'.entries ↔ e ∈ c.entries := by
  obtain ⟨more, h⟩ := g.entries
  have unique : (c.names ++ more.map Prod.fst).Nodup := by
    rw [names, Named.keys, ← List.map_append, ← h]
    exact g.unique
  rw [h, List.mem_append, or_iff_left]
  intro later
  exact (List.nodup_append.mp unique).2.2 e.1 known e.1 (List.mem_map_of_mem later) rfl

/--
An entry comes before another one by its priority, or by its place where the priorities are the
same.
-/
def Precedes (c : Catalog) (e e' : String × Stage) : Prop :=
  e.2.priority < e'.2.priority ∨ e.2.priority = e'.2.priority ∧
    ∃ i j, c.position? e.1 = some i ∧ c.position? e'.1 = some j ∧ i < j

/-- Of two entries one comes first. -/
lemma Precedes.asymm {c : Catalog} {e e' : String × Stage} (h : c.Precedes e e')
    (h' : c.Precedes e' e) : False := by
  rcases h with lt | ⟨eq, i, j, hi, hj, lt⟩
  · rcases h' with lt' | ⟨eq', -⟩ <;> omega
  · rcases h' with lt' | ⟨-, j', i', hj', hi', lt'⟩
    · omega
    · cases hi.symm.trans hi'
      cases hj.symm.trans hj'
      omega

/-- The chain of the entries that have one of some names, each once and in their order. -/
structure Assembled (c : Catalog) (names : List String) (chain : Chain) : Prop where
  stages : ∃ es : List (String × Stage), chain.stages = es.map Prod.snd ∧
    (∀ e, e ∈ es ↔ e ∈ c.entries ∧ e.1 ∈ names) ∧ (Named.keys es).Nodup ∧ es.Pairwise c.Precedes
  handler : chain.handler = Handler.notFound

/-- Names select one chain at most, in any order and however often each of them is given. -/
lemma Assembled.unique {c : Catalog} {names names' : List String} {chain chain' : Chain}
    (same : ∀ name, name ∈ names ↔ name ∈ names') (a : c.Assembled names chain)
    (a' : c.Assembled names' chain') :
    chain = chain' := by
  obtain ⟨es, hes, mem, once, sorted⟩ := a.stages
  obtain ⟨es', hes', mem', once', sorted'⟩ := a'.stages
  have perm : es.Perm es' := by
    refine (List.perm_ext_iff_of_nodup (once.of_map _) (once'.of_map _)).mpr fun e => ?_
    rw [mem, mem', same]
  have eq : es = es' := by
    refine List.Perm.eq_of_pairwise ?_ sorted sorted' perm
    intro e e' _ _ h h'
    exact absurd h' fun h' => h.asymm h'
  obtain ⟨stages, handler⟩ := chain
  obtain ⟨stages', handler'⟩ := chain'
  obtain rfl : handler = _ := a.handler
  obtain rfl : handler' = _ := a'.handler
  obtain rfl : stages = _ := hes
  obtain rfl : stages' = _ := hes'
  rw [eq]

/-- What was registered later has no part in the chain of names that were known before. -/
lemma Assembled.of_grown {c c' : Catalog} (g : c.Grown c') {names : List String}
    (known : ∀ name ∈ names, name ∈ c.names) {chain : Chain} (a : c'.Assembled names chain) :
    c.Assembled names chain := by
  obtain ⟨es, hes, mem, once, sorted⟩ := a.stages
  refine ⟨⟨es, hes, fun e => ?_, once, ?_⟩, a.handler⟩
  · rw [mem]
    exact and_congr_left fun he => g.mem (known e.1 he)
  · refine sorted.imp_of_mem fun {e e'} he he' h => ?_
    have known_e : e.1 ∈ c.names := known e.1 ((mem e).mp he).2
    have known_e' : e'.1 ∈ c.names := known e'.1 ((mem e').mp he').2
    unfold Precedes at h ⊢
    rwa [g.position? known_e, g.position? known_e'] at h

end Catalog

namespace Foundry

/-- Entries of a catalog with their places, none of them twice. -/
structure Found (c : Catalog) (es : List (Nat × String × Stage)) : Prop where
  placed : ∀ e ∈ es, c.entries[e.1]? = some e.2
  once : (es.map Prod.fst).Nodup

/-- The place and the stage of an entry. -/
def unnamed (e : Nat × String × Stage) : Nat × Stage := (e.1, e.2.2)

/-- The members of a kind are the entries of its names besides those that were found before. -/
lemma membersFrom_found {c : Catalog} {kind : String} {es : List (Nat × String × Stage)}
    {names : List String} {out : List (Nat × Stage)} (found : Found c es)
    (h : membersFrom c kind (es.map unnamed) names = .ok out) :
    ∃ es', out = es'.map unnamed ∧ Found c es' ∧
      ∀ name, name ∈ es'.map (·.2.1) ↔ name ∈ es.map (·.2.1) ∨ name ∈ names := by
  -- a place is taken only by the entry that stands there, so a name is left out only if it was
  -- found before
  induction names generalizing es with
  | nil =>
    cases h
    exact ⟨es, rfl, found, fun name => (or_iff_left List.not_mem_nil).symm⟩
  | cons name rest ih =>
    cases hi : c.position? name with
    | none => rw [membersFrom, hi] at h; cases h
    | some i =>
      cases hs : c.find? name with
      | none => rw [membersFrom, hi, hs] at h; cases h
      | some s =>
        have there : c.entries[i]? = some (name, s) := Named.position?_find? hi hs
        have known : ((es.map unnamed).any fun e => e.1 == i) = true ↔ i ∈ es.map Prod.fst := by
          simp only [List.any_map, List.any_eq_true, Function.comp_apply, unnamed, beq_iff_eq,
            List.mem_map]
        simp only [membersFrom, hi, hs, known] at h
        by_cases taken : i ∈ es.map Prod.fst
        · -- the place is that of an entry with this name
          obtain ⟨e, he, rfl⟩ := List.mem_map.mp taken
          have named : name ∈ es.map (·.2.1) :=
            List.mem_map.mpr ⟨e, he,
              congrArg Prod.fst (Option.some.inj ((found.placed e he).symm.trans there))⟩
          rw [if_pos taken] at h
          obtain ⟨es', hout, found', mem⟩ := ih found h
          refine ⟨es', hout, found', fun n => ?_⟩
          rw [mem, List.mem_cons]
          constructor
          · exact Or.imp_right .inr
          · rintro (earlier | rfl | later)
            · exact .inl earlier
            · exact .inl named
            · exact .inr later
        · have appended : es.map unnamed ++ [(i, s)] = (es ++ [(i, name, s)]).map unnamed := by
            rw [List.map_append, List.map_singleton, unnamed]
          rw [if_neg taken, appended] at h
          have more : Found c (es ++ [(i, name, s)]) := by
            constructor
            case placed =>
              intro e he
              rcases List.mem_append.mp he with he | he
              · exact found.placed e he
              · cases List.mem_singleton.mp he
                exact there
            case once =>
              rw [List.map_append, List.map_singleton, ← List.concat_eq_append]
              exact found.once.concat taken
          obtain ⟨es', hout, found', mem⟩ := ih more h
          refine ⟨es', hout, found', fun n => ?_⟩
          rw [mem, List.map_append, List.mem_append, List.map_singleton, List.mem_singleton,
            List.mem_cons, or_assoc]

/-- A chain is cast from the members of its kind in the order of their places. -/
lemma cast_ok {f : Foundry} {kind : String} {chain : Chain} (h : f.cast kind = .ok chain) :
    ∃ names found, f.kinds.find? kind = some names ∧
    membersFrom f.catalog kind [] names = .ok found ∧
      chain = .of ((found.mergeSort fun a b => a.1 ≤ b.1).map Prod.snd) Handler.notFound := by
  cases hk : f.kinds.find? kind with
  | none => rw [cast, hk] at h; cases h
  | some names =>
    cases hm : membersFrom f.catalog kind [] names with
    | error e => simp only [cast, hk, hm] at h; cases h
    | ok found =>
      simp only [cast, hk, hm] at h
      cases h
      exact ⟨names, found, rfl, hm, rfl⟩

/-- Entries in the order in which a chain runs their stages. -/
def arranged (es : List (Nat × String × Stage)) : List (Nat × String × Stage) :=
  (es.mergeSort fun a b => a.1 ≤ b.1).mergeSort fun a b => a.2.2.priority ≤ b.2.2.priority

/-- Arranging entries takes none away and adds none. -/
lemma mem_arranged {es : List (Nat × String × Stage)} {e : Nat × String × Stage} :
    e ∈ arranged es ↔ e ∈ es := by
  rw [arranged, List.mem_mergeSort, List.mem_mergeSort]

/-- A chain runs its stages as they are arranged. -/
lemma stages_arranged (es : List (Nat × String × Stage)) (h : Handler) :
    (Chain.of (((es.map unnamed).mergeSort fun a b => a.1 ≤ b.1).map Prod.snd) h).stages =
      (arranged es).map (·.2.2) := by
  have places : (es.map unnamed).mergeSort (fun a b => decide (a.1 ≤ b.1)) =
      (es.mergeSort fun a b => decide (a.1 ≤ b.1)).map unnamed :=
    (List.map_mergeSort (f := unnamed) fun _ _ _ _ => rfl).symm
  rw [places, List.map_map]
  exact (List.map_mergeSort (f := Prod.snd ∘ unnamed) fun _ _ _ _ => rfl).symm

/--
The arranged entries are in the order of their priorities and, where these are the same, of their
places.
-/
lemma Found.arranged {c : Catalog} {es : List (Nat × String × Stage)} (found : Found c es) :
    (arranged es).Pairwise fun a b =>
      a.2.2.priority < b.2.2.priority ∨ a.2.2.priority = b.2.2.priority ∧ a.1 < b.1 := by
  have placed : (es.mergeSort fun a b => decide (a.1 ≤ b.1)).Pairwise fun a b => a.1 < b.1 := by
    have sorted : (es.mergeSort fun a b => decide (a.1 ≤ b.1)).Pairwise fun a b =>
        decide (a.1 ≤ b.1) := by
      apply List.pairwise_mergeSort
      · simp only [decide_eq_true_eq]
        exact fun _ _ _ => Nat.le_trans
      · intro a b
        simpa using Nat.le_total a.1 b.1
    have once : (es.mergeSort fun a b => decide (a.1 ≤ b.1)).Pairwise fun a b => a.1 ≠ b.1 := by
      rw [← List.pairwise_map]
      exact ((List.mergeSort_perm es _).map Prod.fst).nodup_iff.mpr found.once
    exact (sorted.and once).imp fun h => Nat.lt_of_le_of_ne (of_decide_eq_true h.1) h.2
  have stable : (Foundry.arranged es).Pairwise fun a b =>
      decide (a.2.2.priority ≤ b.2.2.priority) ∧
        (decide (b.2.2.priority ≤ a.2.2.priority) → a.1 < b.1) := by
    apply pairwise_mergeSort_stable _ _ placed
    · simp only [decide_eq_true_eq]
      exact fun _ _ _ => Int.le_trans
    · intro a b
      simpa using Int.le_total a.2.2.priority b.2.2.priority
  refine stable.imp fun {a b} h => ?_
  simp only [decide_eq_true_eq] at h
  rcases Int.lt_or_eq_of_le h.1 with lt | eq
  · exact .inl lt
  · exact .inr ⟨eq, h.2 (Int.le_of_eq eq.symm)⟩

/-- The chain that is cast is the one that the names of the kind select. -/
lemma cast_assembled {f : Foundry} (unique : f.catalog.names.Nodup) {kind : String} {chain : Chain}
    (h : f.cast kind = .ok chain) :
    ∃ names, f.kinds.find? kind = some names ∧ f.catalog.Assembled names chain := by
  obtain ⟨names, out, hk, hm, rfl⟩ := cast_ok h
  obtain ⟨es, rfl, found, named⟩ :=
    membersFrom_found ⟨fun e he => absurd he List.not_mem_nil, List.nodup_nil⟩ hm
  simp only [List.map_nil, List.not_mem_nil, false_or] at named
  have position {e : Nat × String × Stage} (he : e ∈ es) : f.catalog.position? e.2.1 = some e.1 :=
    Named.position?_of_getElem? unique (found.placed e he)
  have entry {e : Nat × String × Stage} (he : e ∈ es) : e.2 ∈ f.catalog.entries :=
    List.mem_of_getElem? (found.placed e he)
  refine ⟨names, hk, ⟨(arranged es).map Prod.snd, ?stages, ?members, ?once, ?sorted⟩, rfl⟩
  case stages =>
    rw [stages_arranged, List.map_map]
    rfl
  case members =>
    intro e
    constructor
    · intro he
      obtain ⟨e', he', rfl⟩ := List.mem_map.mp he
      have he' := mem_arranged.mp he'
      exact ⟨entry he', (named e'.2.1).mp (List.mem_map.mpr ⟨e', he', rfl⟩)⟩
    · rintro ⟨he, hn⟩
      obtain ⟨e', he', same⟩ := List.mem_map.mp ((named e.1).mpr hn)
      have stage : f.catalog.find? e.1 = some e.2 := Named.find?_of_mem unique he
      have stage' : f.catalog.find? e'.2.1 = some e'.2.2 := Named.find?_of_mem unique (entry he')
      have eq : e'.2 = e :=
        Prod.ext same (Option.some.inj (stage'.symm.trans ((congrArg _ same).trans stage)))
      exact List.mem_map.mpr ⟨e', mem_arranged.mpr he', eq⟩
  case once =>
    rw [Named.keys, List.map_map]
    have once : (arranged es).Nodup :=
      List.nodup_mergeSort.mpr (List.nodup_mergeSort.mpr (found.once.of_map _))
    refine once.map_on fun a ha b hb same => ?_
    have ha := mem_arranged.mp ha
    have hb := mem_arranged.mp hb
    have place : a.1 = b.1 :=
      Option.some.inj ((position ha).symm.trans ((congrArg _ same).trans (position hb)))
    have there := found.placed a ha
    rw [place, found.placed b hb] at there
    exact Prod.ext place (Option.some.inj there).symm
  case sorted =>
    rw [List.pairwise_map]
    refine found.arranged.imp_of_mem fun {a b} ha hb h => ?_
    exact h.imp_right fun h =>
      ⟨h.1, a.1, b.1, position (mem_arranged.mp ha), position (mem_arranged.mp hb), h.2⟩

/-- The first name of a kind that is not registered is reported. -/
lemma membersFrom_missing {c : Catalog} {name : String} {before : List String}
    (known : ∀ n ∈ before, n ∈ c.names)
    (unknown : name ∉ c.names) (kind : String) (found : List (Nat × Stage)) (after : List String) :
    membersFrom c kind found (before ++ name :: after) = .error (.missingStage kind name) := by
  induction before generalizing found with
  | nil => exact membersFrom_of_not_mem unknown kind found after
  | cons n before ih =>
    obtain ⟨known_n, known⟩ := List.forall_mem_cons.mp known
    obtain ⟨found', h⟩ := membersFrom_of_mem known_n kind found (before ++ name :: after)
    exact h.trans (ih known found')

/-- What is promised of casting a chain of a kind. -/
structure Canonical (f : Foundry) (kind : String) : Prop where
  undefined : f.kinds.find? kind = none → f.cast kind = .error (.unknownKind kind)
  castable : ∀ names, f.kinds.find? kind = some names →
    ((∃ chain, f.cast kind = .ok chain) ↔ ∀ name ∈ names, name ∈ f.catalog.names)
  missing : ∀ before name after, f.kinds.find? kind = some (before ++ name :: after) →
    (∀ n ∈ before, n ∈ f.catalog.names) → name ∉ f.catalog.names →
      f.cast kind = .error (.missingStage kind name)
  assembled : ∀ names chain, f.kinds.find? kind = some names → f.cast kind = .ok chain →
    f.catalog.Assembled names chain
  same : ∀ names chain, f.kinds.find? kind = some names → f.cast kind = .ok chain →
    ∀ (f' : Foundry) (later : List (String × Stage)) (kind' : String) (names' : List String),
      f'.catalog = f.catalog.registerAll later → f'.kinds.find? kind' = some names' →
        (∀ name, name ∈ names' ↔ name ∈ names) → f'.cast kind' = .ok chain

/--
Whatever was registered and defined, a kind is cast as the one chain that its names select or not at
all.
-/
theorem cast_canonical (calls : List (String × Stage)) (kinds : Named (List String))
    (chains : Named Chain)
    (kind : String) : Canonical ⟨Catalog.empty.registerAll calls, kinds, chains⟩ kind := by
  have unique := (Catalog.grown_registerAll (c := .empty) List.nodup_nil calls).unique
  generalize Catalog.empty.registerAll calls = c at unique
  constructor
  case undefined =>
    intro h
    rw [cast, h]
  case castable =>
    intro names hk
    rw [← castable_iff]
    constructor
    · rintro ⟨names', hk', known⟩
      cases hk.symm.trans hk'
      exact known
    · exact fun known => ⟨names, hk, known⟩
  case missing =>
    intro before name after hk known unknown
    simp only [cast, hk, membersFrom_missing known unknown]
  case assembled =>
    intro names chain hk h
    obtain ⟨names', hk', assembled⟩ := cast_assembled unique h
    cases hk.symm.trans hk'
    exact assembled
  case same =>
    intro names chain hk h f' later kind' names' grown hk' same
    have grown : c.Grown f'.catalog := grown ▸ Catalog.grown_registerAll unique later
    obtain ⟨names₀, hk₀, known⟩ := castable_iff.mpr ⟨chain, h⟩
    cases hk.symm.trans hk₀
    -- both chains are the one that the names select in the earlier catalog
    have known' : ∀ name ∈ names', name ∈ c.names := fun name hn => known name ((same name).mp hn)
    obtain ⟨chain', h'⟩ :=
      castable_iff.mp ⟨names', hk', fun name hn => grown.known (known' name hn)⟩
    obtain ⟨names₁, hk₁, assembled'⟩ := cast_assembled grown.unique h'
    cases hk'.symm.trans hk₁
    obtain ⟨names₂, hk₂, assembled⟩ := cast_assembled unique h
    cases hk.symm.trans hk₂
    rw [h', (assembled'.of_grown grown known').unique same assembled]

example : ((Foundry.mk
      (Catalog.empty.registerAll [("b", ⟨"ids", 0, Entry.pass⟩), ("a", ⟨"log", 0, Entry.pass⟩),
        ("early", ⟨"gate", -10, Entry.pass⟩), ("b", ⟨"other", 5, Entry.pass⟩)])
      [("custom", ["a", "early", "b", "a"])] []).cast "custom").map Chain.names =
    .ok ["gate", "ids", "log"] := by cbv

end Foundry

end Gatehouse
