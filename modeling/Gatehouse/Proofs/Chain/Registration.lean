import Gatehouse.Proofs.Chain.Assembly
import Mathlib.Data.List.Induction

/-!
# What is registered, defined and kept

While a service is wired, stages are registered in a catalog, and kinds are defined and chains are
kept in a foundry (`WiringCall`).  A name keeps the first stage or chain that it was given
(`Named.Firsts`) and a kind has the stages of its last definition (`Named.Lasts`), both in the order
in which the names first came up.  So a call is refused exactly if its name is taken, and what was
registered or kept stays in its place, whatever is called later (`Wiring.after_steady`).
-/

namespace Gatehouse

/-- A name that is new comes last. -/
lemma eraseDups_concat (names : List String) (name : String) :
    (names ++ [name]).eraseDups =
      if name ∈ names then names.eraseDups else names.eraseDups ++ [name] := by
  rw [List.eraseDups_append]
  by_cases known : name ∈ names
  · have nothing : [name].removeAll names = [] := by simp [List.removeAll, known]
    rw [if_pos known, nothing, List.eraseDups_nil, List.append_nil]
  · have all : [name].removeAll names = [name] := by simp [List.removeAll, known]
    rw [if_neg known, all]
    rfl

/-- Each name is kept once. -/
lemma nodup_eraseDups (names : List String) : names.eraseDups.Nodup := by
  induction names using List.reverseRecOn with
  | nil => exact List.nodup_nil
  | append_singleton names name ih =>
    rw [eraseDups_concat]
    split
    · exact ih
    case isFalse fresh =>
      rw [← List.concat_eq_append]
      exact ih.concat (mt List.mem_eraseDups.mp fresh)

namespace Named

variable {α : Type} {m m' : Named α} {ps qs : List (String × α)} {key : String}

/-- The names of some pairs, each of them once, in the order in which they first came up. -/
def namesOf (ps : List (String × α)) : List String := (ps.map Prod.fst).eraseDups

/-- The name of one more pair comes last if it is new. -/
lemma namesOf_concat (ps : List (String × α)) (key : String) (a : α) :
    namesOf (ps ++ [(key, a)]) = if key ∈ namesOf ps then namesOf ps else namesOf ps ++ [key] := by
  rw [namesOf, List.map_append, List.map_singleton, eraseDups_concat]
  simp only [namesOf, List.mem_eraseDups]

/-- Names that came up earlier stay in front. -/
lemma namesOf_prefix (ps qs : List (String × α)) : namesOf ps <+: namesOf (ps ++ qs) := by
  rw [namesOf, namesOf, List.map_append, List.eraseDups_append]
  exact List.prefix_append _ _

/-- The place of a key is where it stands among the keys. -/
lemma position?_eq_some_iff (unique : m.keys.Nodup) {i : Nat} :
    m.position? key = some i ↔ m.keys[i]? = some key := by
  constructor
  · intro h
    obtain ⟨hi, same, -⟩ := List.findIdx?_eq_some_iff_getElem.mp h
    exact List.getElem?_eq_some_iff.mpr ⟨hi, eq_of_beq same⟩
  · intro h
    rw [keys, List.getElem?_map, Option.map_eq_some_iff] at h
    obtain ⟨⟨k, a⟩, there, rfl⟩ := h
    exact position?_of_getElem? unique there

/-- A key that is put again stays in its place, and all other entries stay as they are. -/
lemma put_of_mem (unique : m.keys.Nodup) (known : key ∈ m.keys) (a : α) :
    put key a m = m.map fun e => if e.1 = key then (key, a) else e := by
  induction m with
  | nil => cases known
  | cons e m ih =>
    obtain ⟨k, b⟩ := e
    obtain ⟨fresh, unique⟩ := List.nodup_cons.mp unique
    rw [put, alter, List.map_cons]
    by_cases same : k = key
    · have others : ∀ e ∈ m, (if e.1 = key then (key, a) else e) = e := by
        intro e he
        refine if_neg fun again => ?_
        exact fresh (List.mem_map.mpr ⟨e, he, again.trans same.symm⟩)
      rw [if_pos same, if_pos same, List.map_congr_left others, List.map_id']
    · have known : key ∈ keys m := (List.mem_cons.mp known).resolve_left (Ne.symm same)
      rw [if_neg same, if_neg same, ← ih unique known, put]

/-- A map that has kept the first of the entries that came up under each name. -/
structure Firsts (ps : List (String × α)) (m : Named α) : Prop where
  names : m.keys = namesOf ps
  entries : ∀ name, m.find? name = ps.lookup name

/--
A map that has the last of the entries that came up under each name, in the place of the first.
-/
structure Lasts (ps : List (String × α)) (m : Named α) : Prop where
  names : m.keys = namesOf ps
  entries : ∀ name, m.find? name = ps.reverse.lookup name

namespace Firsts

/-- The empty map, before anything comes up. -/
lemma nil : Firsts ([] : List (String × α)) [] := ⟨rfl, fun _ => rfl⟩

/-- No name stands twice in such a map. -/
lemma unique (f : Firsts ps m) : m.keys.Nodup := f.names ▸ nodup_eraseDups _

/-- A name that is free gets what comes up under it. -/
lemma added (f : Firsts ps m) (free : key ∉ m.keys) (a : α) :
    Firsts (ps ++ [(key, a)]) (m ++ [(key, a)]) := by
  constructor
  case names =>
    rw [namesOf_concat, if_neg (f.names ▸ free), ← f.names, keys, List.map_append]
    rfl
  case entries =>
    intro name
    rw [List.lookup_append, ← f.entries, find?, List.lookup_append]
    rfl

/-- A name that is taken keeps what it has. -/
lemma stays (f : Firsts ps m) (taken : key ∈ m.keys) (a : α) : Firsts (ps ++ [(key, a)]) m := by
  constructor
  case names => rw [namesOf_concat, if_pos (f.names ▸ taken), f.names]
  case entries =>
    intro name
    rw [List.lookup_append, ← f.entries, lookup_cons_ite]
    by_cases same : name = key
    · rw [same, Option.or_of_isSome (find?_isSome_iff.mpr taken)]
    · rw [if_neg same, List.lookup_nil, Option.or_none]

/-- What a name has, and its place, stay the same whatever comes up later. -/
lemma lasting (f : Firsts ps m) (f' : Firsts (ps ++ qs) m') (known : key ∈ m.keys) :
    m'.find? key = m.find? key ∧ m'.position? key = m.position? key := by
  constructor
  · rw [f'.entries, List.lookup_append, ← f.entries,
      Option.or_of_isSome (find?_isSome_iff.mpr known)]
  · refine position?_of_prefix ?_ known
    rw [f.names, f'.names]
    exact namesOf_prefix ps qs

end Firsts

namespace Lasts

/-- The empty map, before anything comes up. -/
lemma nil : Lasts ([] : List (String × α)) [] := ⟨rfl, fun _ => rfl⟩

/-- No name stands twice in such a map. -/
lemma unique (l : Lasts ps m) : m.keys.Nodup := l.names ▸ nodup_eraseDups _

/-- An entry that comes up later takes the place of the earlier one. -/
lemma put (l : Lasts ps m) (key : String) (a : α) : Lasts (ps ++ [(key, a)]) (m.put key a) := by
  constructor
  case names => rw [namesOf_concat, keys_put, l.names]
  case entries =>
    intro name
    rw [find?_put, l.entries, List.reverse_append, List.reverse_singleton, List.singleton_append,
      lookup_cons_ite]

end Lasts

end Named

/-- A stage is registered under a name that is free, behind all others. -/
lemma Catalog.register_cases (c : Catalog) (name : String) (s : Stage) :
    (name ∉ c.names ∧ c.register name s = .ok ⟨c.entries ++ [(name, s)]⟩) ∨
      name ∈ c.names ∧ c.register name s = .error (.duplicateStage name) := by
  rw [register]
  by_cases taken : name ∈ c.names
  · exact .inr ⟨taken, if_pos (Named.has_iff.mpr taken)⟩
  · exact .inl ⟨taken, if_neg (mt Named.has_iff.mp taken)⟩

/-- A chain is kept under a name that is free, behind all others. -/
lemma Foundry.keep_cases (f : Foundry) (name : String) (c : Chain) :
    (name ∉ f.chainNames ∧ f.keep name c = .ok { f with chains := f.chains ++ [(name, c)] }) ∨
      name ∈ f.chainNames ∧ f.keep name c = .error (.duplicateChain name) := by
  rw [keep]
  by_cases taken : name ∈ f.chainNames
  · exact .inr ⟨taken, if_pos (Named.has_iff.mpr taken)⟩
  · exact .inl ⟨taken, if_neg (mt Named.has_iff.mp taken)⟩

/-- What is called while a service is wired. -/
inductive WiringCall where
  | register (name : String) (s : Stage)
  | registerOwn (s : Stage)
  | define (kind : String) (stages : List String)
  | keep (name : String) (c : Chain)

namespace WiringCall

/-- The name and the stage to be registered. -/
def stage? : WiringCall → Option (String × Stage)
  | register name s => some (name, s)
  | registerOwn s => some (s.name, s)
  | _ => none

/-- The kind to be defined and its stages. -/
def kind? : WiringCall → Option (String × List String)
  | define kind stages => some (kind, stages)
  | _ => none

/-- The name and the chain to be kept. -/
def chain? : WiringCall → Option (String × Chain)
  | keep name c => some (name, c)
  | _ => none

end WiringCall

/-- A catalog that is being filled and a foundry, which has a catalog of its own. -/
structure Wiring where
  catalog : Catalog
  foundry : Foundry

namespace Wiring

/-- The wiring with nothing registered. -/
def start (f : Foundry) : Wiring := ⟨.empty, f⟩

/-- What a call makes of the wiring, or why it is refused and makes nothing. -/
def call (w : Wiring) : WiringCall → Except WiringError Wiring
  | .register name s => (w.catalog.register name s).map fun c => { w with catalog := c }
  | .registerOwn s => (w.catalog.registerOwn s).map fun c => { w with catalog := c }
  | .define kind stages => .ok { w with foundry := w.foundry.define kind stages }
  | .keep name c => (w.foundry.keep name c).map fun f => { w with foundry := f }

/-- The wiring after calls one after the other; what is refused leaves it as it is. -/
def after (w : Wiring) : List WiringCall → Wiring
  | [] => w
  | c :: calls =>
    match w.call c with
    | .ok w' => w'.after calls
    | .error _ => w.after calls

/-- The calls that define the standard kinds. -/
def standardKinds : List WiringCall := (Foundry.standard .empty).kinds.map fun e => .define e.1 e.2

/-- The foundry with the standard kinds is the bare one after they were defined. -/
lemma start_standard (c : Catalog) : start (.standard c) = (start (.bare c)).after standardKinds :=
  rfl

/-- A name that is taken, and what is said of it. -/
inductive Taken (w : Wiring) : WiringCall → WiringError → Prop where
  | register {name s} : name ∈ w.catalog.names → Taken w (.register name s) (.duplicateStage name)
  | registerOwn {s} : s.name ∈ w.catalog.names → Taken w (.registerOwn s) (.duplicateStage s.name)
  | keep {name c} : name ∈ w.foundry.chainNames → Taken w (.keep name c) (.duplicateChain name)

/-- What a call does to the wiring. -/
inductive Does (w : Wiring) : WiringCall → Wiring → Prop where
  | register {name s} : name ∉ w.catalog.names →
    Does w (.register name s) { w with catalog := ⟨w.catalog.entries ++ [(name, s)]⟩ }
  | registerOwn {s} : s.name ∉ w.catalog.names →
    Does w (.registerOwn s) { w with catalog := ⟨w.catalog.entries ++ [(s.name, s)]⟩ }
  | define {kind stages} : Does w (.define kind stages)
    { w with foundry := w.foundry.define kind stages }
  | keep {name c} : name ∉ w.foundry.chainNames →
    Does w (.keep name c) { w with foundry := { w.foundry with chains := w.foundry.chains ++
      [(name, c)] } }

variable {past : List WiringCall} {w w' : Wiring} {c : WiringCall} {e : WiringError}

/-- A call does what it is for, or its name is taken. -/
lemma call_cases (w : Wiring) (c : WiringCall) :
    (∃ w', w.call c = .ok w' ∧ Does w c w') ∨ ∃ e, w.call c = .error e ∧ Taken w c e := by
  cases c with
  | register name s =>
    rw [call]
    rcases w.catalog.register_cases name s with ⟨free, h⟩ | ⟨taken, h⟩
    · exact .inl ⟨_, by rw [h]; rfl, .register free⟩
    · exact .inr ⟨_, by rw [h]; rfl, .register taken⟩
  | registerOwn s =>
    rw [call, Catalog.registerOwn]
    rcases w.catalog.register_cases s.name s with ⟨free, h⟩ | ⟨taken, h⟩
    · exact .inl ⟨_, by rw [h]; rfl, .registerOwn free⟩
    · exact .inr ⟨_, by rw [h]; rfl, .registerOwn taken⟩
  | define kind stages => exact .inl ⟨_, rfl, .define⟩
  | keep name c =>
    rw [call]
    rcases w.foundry.keep_cases name c with ⟨free, h⟩ | ⟨taken, h⟩
    · exact .inl ⟨_, by rw [h]; rfl, .keep free⟩
    · exact .inr ⟨_, by rw [h]; rfl, .keep taken⟩

/-- A call that does something finds its name free. -/
lemma Does.not_taken (d : Does w c w') : ¬ Taken w c e := by
  intro t
  cases d with
  | register free => cases t with | register taken => exact free taken
  | registerOwn free => cases t with | registerOwn taken => exact free taken
  | define => cases t
  | keep free => cases t with | keep taken => exact free taken

/-- One thing is said of a name that is taken. -/
lemma Taken.unique {e' : WiringError} (t : Taken w c e) (t' : Taken w c e') : e = e' := by
  cases t <;> cases t' <;> rfl

/-- A call is refused exactly if its name is taken. -/
lemma call_error_iff : w.call c = .error e ↔ Taken w c e := by
  rcases call_cases w c with ⟨w', h, d⟩ | ⟨e', h, t⟩
  · rw [h]
    exact iff_of_false nofun d.not_taken
  · rw [h, Except.error.injEq]
    constructor
    · rintro rfl
      exact t
    · exact t.unique

/-- What the wiring has of past calls. -/
structure Tracks (past : List WiringCall) (w : Wiring) : Prop where
  stages : Named.Firsts (past.filterMap WiringCall.stage?) w.catalog.entries
  kinds : Named.Lasts (past.filterMap WiringCall.kind?) w.foundry.kinds
  chains : Named.Firsts (past.filterMap WiringCall.chain?) w.foundry.chains

namespace Tracks

/-- The wiring with nothing registered has nothing of any call. -/
lemma start (c : Catalog) : Tracks [] (start (.bare c)) := ⟨.nil, .nil, .nil⟩

/-- A call for a free name, or for a kind, adds what it is for and nothing else. -/
lemma does (k : Tracks past w) (d : Does w c w') : Tracks (past ++ [c]) w' := by
  -- every call is about one of the three maps and leaves the other two as they are
  obtain ⟨stages, kinds, chains⟩ := k
  constructor
  all_goals rw [List.filterMap_append]
  all_goals cases d
  all_goals simp only [List.filterMap_cons, List.filterMap_nil, WiringCall.stage?, WiringCall.kind?,
    WiringCall.chain?, List.append_nil, Foundry.define]
  case stages.register free => exact stages.added free _
  case stages.registerOwn free => exact stages.added free _
  case kinds.define => exact kinds.put _ _
  case chains.keep free => exact chains.added free _
  all_goals assumption

/-- A call for a name that is taken leaves everything as it was. -/
lemma taken (k : Tracks past w) (t : Taken w c e) : Tracks (past ++ [c]) w := by
  obtain ⟨stages, kinds, chains⟩ := k
  constructor
  all_goals rw [List.filterMap_append]
  all_goals cases t
  all_goals simp only [List.filterMap_cons, List.filterMap_nil, WiringCall.stage?, WiringCall.kind?,
    WiringCall.chain?, List.append_nil]
  case stages.register taken => exact stages.stays taken _
  case stages.registerOwn taken => exact stages.stays taken _
  case chains.keep taken => exact chains.stays taken _
  all_goals assumption

/-- The run of calls: the wiring has of all of them what it is to have. -/
lemma after (k : Tracks past w) (calls : List WiringCall) :
    Tracks (past ++ calls) (w.after calls) := by
  induction calls generalizing past w with
  | nil =>
    rw [List.append_nil]
    exact k
  | cons c calls ih =>
    rw [Wiring.after, List.append_cons]
    rcases call_cases w c with ⟨w', h, d⟩ | ⟨e, h, t⟩
    · rw [h]
      exact ih (k.does d)
    · rw [h]
      exact ih (k.taken t)

end Tracks

/-- What can be said of a wiring after past calls. -/
structure Steady (past : List WiringCall) (w : Wiring) : Prop where
  unique : w.catalog.names.Nodup ∧ w.foundry.kinds.keys.Nodup ∧ w.foundry.chainNames.Nodup
  /-- Names stand in the order in which they first came up, when they were free. -/
  names : w.catalog.names = Named.namesOf (past.filterMap WiringCall.stage?)
  kind_names : w.foundry.kinds.keys = Named.namesOf (past.filterMap WiringCall.kind?)
  chain_names : w.foundry.chainNames = Named.namesOf (past.filterMap WiringCall.chain?)
  position : ∀ name i, w.catalog.position? name = some i ↔ w.catalog.names[i]? = some name
  /--
  A name has the first stage or chain that it was given, a kind the stages of its last definition.
  -/
  stage : ∀ name, w.catalog.find? name = (past.filterMap WiringCall.stage?).lookup name
  chain : ∀ name, w.foundry.chain? name = (past.filterMap WiringCall.chain?).lookup name
  members : ∀ kind, w.foundry.kinds.find? kind =
    (past.filterMap WiringCall.kind?).reverse.lookup kind
  /-- A call is refused if and only if its name is taken, and could as well not have been made. -/
  refused : ∀ c e, w.call c = .error e ↔ Taken w c e
  unchanged : ∀ c e later, w.call c = .error e → w.after (c :: later) = w.after later
  /--
  Whatever is called later, stages stay what they are and where they are, and kept chains what they
  are.
  -/
  stage_stays : ∀ later name, name ∈ w.catalog.names →
    (w.after later).catalog.find? name = w.catalog.find? name ∧
    (w.after later).catalog.position? name = w.catalog.position? name
  chain_stays : ∀ later name, name ∈ w.foundry.chainNames → (w.after later).foundry.chain? name =
    w.foundry.chain? name
  /-- A kind that is defined again has its new stages in its old place, and nothing else changes. -/
  redefined : ∀ kind stages, kind ∈ w.foundry.kinds.keys → w.call (.define kind stages) =
    .ok { w with foundry := { w.foundry with
      kinds := w.foundry.kinds.map fun e => if e.1 = kind then (kind, stages) else e } }

/-- A wiring that has of past calls what it is to have is steady. -/
lemma Tracks.steady (k : Tracks past w) : Steady past w := by
  refine ⟨⟨k.stages.unique, k.kinds.unique, k.chains.unique⟩, k.stages.names, k.kinds.names,
    k.chains.names,
    fun name i => Named.position?_eq_some_iff k.stages.unique, k.stages.entries, k.chains.entries,
    k.kinds.entries,
    fun c e => call_error_iff, fun c e later h => ?unchanged, fun later name known => ?stage_stays,
    fun later name known => ?chain_stays, fun kind stages known => ?redefined⟩
  case unchanged => rw [Wiring.after, h]
  case stage_stays =>
    have later := (k.after later).stages
    rw [List.filterMap_append] at later
    exact k.stages.lasting later known
  case chain_stays =>
    have later := (k.after later).chains
    rw [List.filterMap_append] at later
    exact (k.chains.lasting later known).1
  case redefined => rw [call, Foundry.define, Named.put_of_mem k.kinds.unique known]

/--
However stages are registered, kinds defined and chains kept, from a foundry with or without the
standard kinds: no stage and no kept chain is overwritten, and everything keeps its place.
-/
theorem after_steady (c : Catalog) (calls : List WiringCall) :
    Steady calls ((start (.bare c)).after calls) ∧
      Steady (standardKinds ++ calls) ((start (.standard c)).after calls) := by
  constructor
  · exact ((Tracks.start c).after calls).steady
  · rw [start_standard]
    exact (((Tracks.start c).after standardKinds).after calls).steady

/-- A name is registered twice, and a standard kind is defined again behind a new one. -/
example :
    let w := (start (.standard .empty)).after [.register "b" ⟨"ids", 0, Entry.pass⟩,
      .registerOwn ⟨"a", 5, Entry.pass⟩,
      .register "b" ⟨"log", 0, Entry.pass⟩, .define "quiet" ["a"], .define "public" ["b", "a"]]
    w.catalog.names = ["b", "a"] ∧ (w.catalog.find? "b").map Stage.name = some "ids" ∧
      w.foundry.kinds =
      [("public", ["b", "a"]), ("api", ["request_id", "logging", "assertion"]), ("quiet", ["a"])] :=
      ⟨rfl, rfl, rfl⟩

end Wiring

end Gatehouse
