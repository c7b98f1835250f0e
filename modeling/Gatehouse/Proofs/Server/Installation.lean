import Mathlib.Data.List.Nodup
import Gatehouse.Proofs.Chain.Casting
import Gatehouse.Proofs.Server.Serving
import Gatehouse.Server.Builder
import Gatehouse.Service.Api

/-!
# Setting up an integration

A chain of a kind can be cast exactly if the kind is defined with registered stages
(`Foundry.castable_iff`), and chains can be kept for bindings exactly if all of them can be cast and
no name is taken (`Foundry.keepsAll_iff`).  From this, an integration installs the chains of all its
bindings or, as if it had never been there, the plain layers (`Integration.setUpOn_wholly`).
-/

namespace Gatehouse

namespace Foundry

/-- A kind that is defined with registered stages and no others. -/
def Castable (f : Foundry) (kind : String) : Prop :=
  ∃ names, f.kinds.find? kind = some names ∧ ∀ name ∈ names, name ∈ f.catalog.names

/-- A registered name adds its stage, unless the stage is there. -/
lemma membersFrom_of_mem {c : Catalog} {name : String} (known : name ∈ c.names) (kind : String)
    (found : List (Nat × Stage)) (rest : List String) :
    ∃ found', membersFrom c kind found (name :: rest) = membersFrom c kind found' rest := by
  obtain ⟨i, hi⟩ := Option.isSome_iff_exists.mp (Named.position?_isSome_iff.mpr known)
  obtain ⟨s, hs⟩ := Option.isSome_iff_exists.mp (Named.find?_isSome_iff.mpr known)
  have hi : c.position? name = some i := hi
  have hs : c.find? name = some s := hs
  simp only [membersFrom, hi, hs]
  split
  · exact ⟨found, rfl⟩
  · exact ⟨found ++ [(i, s)], rfl⟩

/-- A stage that is not registered is missing. -/
lemma membersFrom_of_not_mem {c : Catalog} {name : String} (unknown : name ∉ c.names)
    (kind : String) (found : List (Nat × Stage)) (rest : List String) :
    membersFrom c kind found (name :: rest) = .error (.missingStage kind name) := by
  have nowhere : c.position? name = none := by
    rw [← Option.not_isSome_iff_eq_none]
    exact fun h => unknown (Named.position?_isSome_iff.mp h)
  simp only [membersFrom, nowhere]

/-- Members are found if all their names are registered. -/
lemma membersFrom_ok_iff {c : Catalog} {kind : String} {found : List (Nat × Stage)}
    {names : List String} :
    (∃ out, membersFrom c kind found names = .ok out) ↔ ∀ name ∈ names, name ∈ c.names := by
  induction names generalizing found with
  | nil => exact ⟨fun _ _ h => absurd h List.not_mem_nil, fun _ => ⟨found, rfl⟩⟩
  | cons name rest ih =>
    rw [List.forall_mem_cons]
    by_cases known : name ∈ c.names
    · obtain ⟨found', e⟩ := membersFrom_of_mem known kind found rest
      rw [e, ih]
      exact (and_iff_right known).symm
    · rw [membersFrom_of_not_mem known]
      constructor
      · rintro ⟨out, h⟩
        cases h
      · rintro ⟨h, -⟩
        exact absurd h known

/-- The members of a kind are refused for a name that is not registered. -/
lemma membersFrom_error {c : Catalog} {kind : String} {found : List (Nat × Stage)}
    {names : List String} {e : WiringError} (h : membersFrom c kind found names = .error e) :
    ∃ name ∈ names, name ∉ c.names ∧ e = .missingStage kind name := by
  induction names generalizing found with
  | nil => cases h
  | cons name rest ih =>
    by_cases known : name ∈ c.names
    · obtain ⟨found', e'⟩ := membersFrom_of_mem known kind found rest
      rw [e'] at h
      obtain ⟨n, hn, missing⟩ := ih h
      exact ⟨n, List.mem_cons_of_mem _ hn, missing⟩
    · rw [membersFrom_of_not_mem known] at h
      cases h
      exact ⟨name, List.mem_cons_self, known, rfl⟩

/-- A chain is refused because its kind is not defined or for a stage that is not registered. -/
lemma cast_error {f : Foundry} {kind : String} {e : WiringError} (h : f.cast kind = .error e) :
    (f.kinds.find? kind = none ∧ e = .unknownKind kind) ∨ ∃ names, f.kinds.find? kind = some names ∧
      ∃ name ∈ names, name ∉ f.catalog.names ∧ e = .missingStage kind name := by
  cases hk : f.kinds.find? kind with
  | none =>
    rw [cast, hk] at h
    cases h
    exact .inl ⟨rfl, rfl⟩
  | some names =>
    cases hm : membersFrom f.catalog kind [] names with
    | error e' =>
      simp only [cast, hk, hm] at h
      cases h
      exact .inr ⟨names, rfl, membersFrom_error hm⟩
    | ok found => simp only [cast, hk, hm] at h; cases h

/-- A kind is castable if it can be cast. -/
lemma castable_iff {f : Foundry} {kind : String} : f.Castable kind ↔ ∃ c, f.cast kind = .ok c := by
  cases hk : f.kinds.find? kind with
  | none =>
    constructor
    · rintro ⟨names, h, -⟩
      rw [hk] at h
      cases h
    · rintro ⟨c, h⟩
      rw [cast, hk] at h
      cases h
  | some names =>
    have members := @membersFrom_ok_iff f.catalog kind [] names
    constructor
    · rintro ⟨names', h, registered⟩
      cases hk.symm.trans h
      obtain ⟨out, hout⟩ := members.mpr registered
      simp only [cast, hk, hout]
      exact ⟨_, rfl⟩
    · rintro ⟨c, h⟩
      cases hm : membersFrom f.catalog kind [] names with
      | error e => simp only [cast, hk, hm] at h; cases h
      | ok out => exact ⟨names, hk, members.mp ⟨out, hm⟩⟩

/-- Every binding is kept. -/
def KeepsAll (f : Foundry) (bs : List (String × String)) : Prop :=
  ∃ f' records, f.keepAll bs = (.ok f', records)

/-- All bindings are kept if the first one is, and the others after it. -/
lemma keepsAll_cons {f : Foundry} {name kind : String} {bs : List (String × String)} :
    f.KeepsAll ((name, kind) :: bs) ↔ name ∉ f.chainNames ∧
      ∃ c, f.cast kind = .ok c ∧ KeepsAll { f with chains := f.chains ++ [(name, c)] } bs := by
  unfold KeepsAll
  cases hc : f.cast kind with
  | error e =>
    simp only [keepAll, hc]
    constructor
    · rintro ⟨f', records, h⟩
      cases h
    · rintro ⟨-, c, h, -⟩
      cases h
  | ok c =>
    simp only [keepAll, hc]
    unfold keep
    by_cases taken : f.chains.has name = true
    · rw [if_pos taken]
      constructor
      · rintro ⟨f', records, h⟩
        cases h
      · rintro ⟨free, -⟩
        exact absurd (Named.has_iff.mp taken) free
    · rw [if_neg taken]
      constructor
      · rintro ⟨f', records, h⟩
        exact ⟨fun h => taken (Named.has_iff.mpr h), c, rfl, f', _, Prod.ext (Prod.mk.inj h).1 rfl⟩
      · rintro ⟨-, c', hc', f', records, h⟩
        cases hc'
        simp only [h]
        exact ⟨f', _, rfl⟩

/--
Chains are kept for all bindings exactly if each can be cast, no name is taken and none is bound
twice.
-/
lemma keepsAll_iff {f : Foundry} {bs : List (String × String)} :
    f.KeepsAll bs ↔ (∀ b ∈ bs, f.Castable b.2) ∧ (∀ b ∈ bs, b.1 ∉ f.chainNames) ∧
    (Named.keys bs).Nodup := by
  induction bs generalizing f with
  | nil => exact ⟨fun _ => ⟨nofun, nofun, List.nodup_nil⟩, fun _ => ⟨f, [], rfl⟩⟩
  | cons b bs ih =>
    obtain ⟨name, kind⟩ := b
    -- a name that is kept is taken from then on, so the names of the rest differ from it
    have names (c : Chain) (k : String) :
        k ∈ ({ f with chains := f.chains ++ [(name, c)] } : Foundry).chainNames ↔ k ∈ f.chainNames ∨
        k = name := by
      simp only [chainNames, Named.keys, List.map_append, List.mem_append, List.map_cons,
        List.map_nil, List.mem_singleton]
    have keys : Named.keys ((name, kind) :: bs) = name :: Named.keys bs := rfl
    rw [keepsAll_cons, keys, List.nodup_cons, List.forall_mem_cons, List.forall_mem_cons]
    constructor
    · rintro ⟨free, c, hc, rest⟩
      obtain ⟨castable, frees, unique⟩ := ih.mp rest
      refine ⟨⟨castable_iff.mpr ⟨c, hc⟩, castable⟩, ⟨free, ?_⟩, ?_, unique⟩
      · intro b hb h
        exact frees b hb ((names c b.1).mpr (.inl h))
      · intro h
        obtain ⟨b, hb, rfl⟩ := List.mem_map.mp h
        exact frees b hb ((names c b.1).mpr (.inr rfl))
    · rintro ⟨⟨castable, castables⟩, ⟨free, frees⟩, fresh, unique⟩
      obtain ⟨c, hc⟩ := castable_iff.mp castable
      refine ⟨free, c, hc, ih.mpr ⟨castables, ?_, unique⟩⟩
      intro b hb h
      rcases (names c b.1).mp h with h | rfl
      · exact frees b hb h
      · exact fresh (List.mem_map_of_mem hb)

/--
Where no name is taken and none is bound twice, keeping chains fails on one that cannot be cast.
-/
lemma keepAll_error {f : Foundry} {bs : List (String × String)} {e : WiringError}
    {records : List LogRecord}
    (free : ∀ b ∈ bs, b.1 ∉ f.chainNames) (unique : (Named.keys bs).Nodup)
    (h : f.keepAll bs = (.error e, records)) : ∃ b ∈ bs, f.cast b.2 = .error e := by
  induction bs generalizing f records with
  | nil => cases h
  | cons b bs ih =>
    obtain ⟨name, kind⟩ := b
    obtain ⟨fresh, unique⟩ := List.nodup_cons.mp unique
    obtain ⟨untaken, free⟩ := List.forall_mem_cons.mp free
    cases hc : f.cast kind with
    | error e' =>
      simp only [keepAll, hc] at h
      cases h
      exact ⟨(name, kind), List.mem_cons_self, hc⟩
    | ok c =>
      have untaken : ¬ f.chains.has name = true := fun taken => untaken (Named.has_iff.mp taken)
      simp only [keepAll, hc, keep, if_neg untaken] at h
      -- only the name that is kept is taken from then on, and no other binding has it
      have free' :
          ∀ b ∈ bs, b.1 ∉ ({ f with chains := f.chains ++ [(name, c)] } : Foundry).chainNames := by
        intro b hb taken
        rw [chainNames, Named.keys, List.map_append] at taken
        have member : b.1 ∈ Named.keys bs := List.mem_map_of_mem hb
        rcases List.mem_append.mp taken with taken | same
        · exact free b hb taken
        · rw [List.mem_singleton.mp same] at member
          exact fresh member
      obtain ⟨b, hb, failed⟩ := ih free' unique (Prod.ext (Prod.mk.inj h).1 rfl)
      exact ⟨b, List.mem_cons_of_mem _ hb, failed⟩

/-- The chains that are cast stand under the names of their bindings. -/
lemma Casts.keys {f : Foundry} {bs : List (String × String)} {es : List (String × Chain)}
    (k : Casts f bs es) : Named.keys es = Named.keys bs := by
  induction k with
  | nil => rfl
  | cons _ _ ih => exact congrArg (List.cons _) ih

end Foundry

namespace Integration

/-- The integrations that can be put together. -/
inductive Made : Integration → Prop where
  | of (f : Foundry) : Made (of f)
  | withEnabled {i : Integration} (on : Bool) : Made i → Made (i.withEnabled on)
  | withBindings {i : Integration} (bs : List (String × String)) : Made i → Made (i.withBindings bs)
  | bind {i : Integration} (chain kind : String) : Made i → Made (i.bind chain kind)
  | unbind {i : Integration} (chain : String) : Made i → Made (i.unbind chain)

/-- An integration binds no name twice. -/
lemma Made.unique {i : Integration} (made : i.Made) : i.bindings.keys.Nodup := by
  induction made with
  | of f => exact Named.nodup_ofPairs [(Foundry.publicKind, Foundry.publicKind),
    (Foundry.apiKind, Foundry.apiKind)]
  | withEnabled on _ ih => exact ih
  | withBindings bs _ _ => exact Named.nodup_ofPairs bs
  | bind chain kind _ ih => exact Named.nodup_put ih chain kind
  | unbind chain _ ih => exact Named.nodup_drop ih chain

/-- What it takes for the chains of an integration to be installed. -/
structure Buildable (i : Integration) : Prop where
  enabled : i.enabled = true
  castable : ∀ b ∈ i.bindings, i.foundry.Castable b.2
  free : ∀ b ∈ i.bindings, b.1 ∉ i.foundry.chainNames

/-- A foundry with the chains of all bindings besides those that were kept before. -/
structure Delivered (i : Integration) (f : Foundry) : Prop where
  bound : ∀ name kind, (name, kind) ∈ i.bindings →
    ∃ c, i.foundry.cast kind = .ok c ∧ f.chain? name = some c
  others : ∀ name, name ∉ i.bindings.keys → f.chain? name = i.foundry.chain? name
  earlier : ∀ name c, i.foundry.chain? name = some c → f.chain? name = some c
  names : f.chainNames = i.foundry.chainNames ++ i.bindings.keys
  catalog : f.catalog = i.foundry.catalog

end Integration

namespace Server

/--
A status that is true of a pipeline, and a server that runs its requests through this pipeline.
-/
inductive Runs (s : Server) : Pipeline → PipelineStatus → Prop where
  | chains {f t} : t.active = .chains → t.registered = f.catalog.names → t.chains = f.chainNames →
    (∀ n r params c addr w, s.Takes n r params → f.chain? r.chain = some c →
      (s.dispatch n addr w).1 =
      (s.runChain r.chain c { n with params := some params } addr r.handler (w.count .entered)).1) →
    (∀ n r params addr w, s.Takes n r params → r.chain ∉ t.chains →
      (s.dispatch n addr w).1 = some HttpFailure.internal.toResponse) →
    Runs s (.chains f) t
  | layers {stack t} : t.active = .layers → t.registered = [] → t.chains = [] →
    (∀ n r params addr w, s.Takes n r params → (s.dispatch n addr w).1 =
      (s.runLayers stack { n with params := some params } addr r.handler (w.count .entered)).1) →
    Runs s (.layers stack) t

/-- A server whose pipeline is layers runs its requests through them. -/
lemma runs_layers {s : Server} {stack : LayerStack} (h : s.installed.pipeline = .layers stack) :
    s.Runs (.layers stack) (.ofLayers stack) := by
  refine .layers rfl rfl rfl ?_
  intro n r params addr w takes
  rw [takes.dispatch, runInstalled, h]

/-- A server whose pipeline is chains runs its requests through them. -/
lemma runs_chains {s : Server} {f : Foundry} (h : s.installed.pipeline = .chains f)
    (stack : LayerStack) :
    s.Runs (.chains f) (.ofChains f stack) := by
  refine .chains rfl rfl rfl ?_ ?_
  · intro n r params c addr w takes hc
    rw [takes.dispatch, runInstalled, h]
    simp only [hc]
  · intro n r params addr w takes unlisted
    have none_kept : f.chain? r.chain = none := Named.find?_eq_none unlisted
    rw [takes.dispatch, runInstalled, h]
    simp only [none_kept]

end Server

namespace Integration

variable {i : Integration}

/-- A foundry that has kept all bindings has delivered them. -/
lemma delivered_of_keepAll {f : Foundry} {records : List LogRecord} (unique : i.bindings.keys.Nodup)
    (h : i.foundry.keepAll i.bindings = (.ok f, records)) : i.Delivered f := by
  obtain ⟨es, rfl, casts⟩ := Foundry.keepAll_ok h
  obtain ⟨-, free, -⟩ := Foundry.keepsAll_iff.mp ⟨_, records, h⟩
  have chain? (name : String) :
      ({ i.foundry with chains := i.foundry.chains ++ es } : Foundry).chain? name =
        (i.foundry.chain? name).or (es.lookup name) := List.lookup_append
  constructor
  case bound =>
    intro name kind hb
    have bound : i.bindings.lookup name = some kind := Named.find?_of_mem unique hb
    rcases casts.lookup name with ⟨unbound, -⟩ | ⟨kind', c, hk, hc, cast⟩
    · cases bound.symm.trans unbound
    · cases bound.symm.trans hk
      have before : i.foundry.chain? name = none := Named.find?_eq_none (free _ hb)
      refine ⟨c, cast, ?_⟩
      rw [chain?, before, hc]
      rfl
  case others =>
    intro name unbound
    rw [← casts.keys] at unbound
    have uncast : es.lookup name = none := Named.find?_eq_none unbound
    rw [chain?, uncast, Option.or_none]
  case earlier =>
    intro name c h
    rw [chain?, h]
    rfl
  case names =>
    rw [← casts.keys]
    exact List.map_append
  case catalog => rfl

/--
Setting up installs every chain exactly if the integration is buildable, and the layers otherwise.
-/
lemma setup_decides (unique : i.bindings.keys.Nodup) (s : LayerStack) :
    (i.Buildable ∧ ∃ f, i.Delivered f ∧ (i.setup s).1 = ⟨.chains f, .ofChains f s⟩) ∨
      ¬ i.Buildable ∧ (i.setup s).1 = .ofLayers s := by
  rcases i.setup_cases s with ⟨f, records, on, kept, installed⟩ | ⟨failed, installed⟩
  · obtain ⟨castable, free, -⟩ := Foundry.keepsAll_iff.mp ⟨f, records, kept⟩
    exact .inl ⟨⟨on, castable, free⟩, f, delivered_of_keepAll unique kept, installed⟩
  · refine .inr ⟨fun buildable => ?_, installed⟩
    rcases failed with off | ⟨e, records, failed⟩
    · exact absurd (off.symm.trans buildable.enabled) Bool.false_ne_true
    · obtain ⟨f, records', kept⟩ :=
        Foundry.keepsAll_iff.mpr ⟨buildable.castable, buildable.free, unique⟩
      cases failed.symm.trans kept

/--
What is promised of setting up an integration on a builder: the status, and the builder that comes
out.
-/
structure SetUp (i : Integration) (b : ServerBuilder) (s : LayerStack) (t : PipelineStatus)
    (b' : ServerBuilder) : Prop where
  chains_iff : b'.build.1.installed.pipeline.active = .chains ↔ i.Buildable
  wholly : i.Buildable → ∃ f, b'.build.1.Runs (.chains f) t ∧ i.Delivered f
  notAtAll : ¬ i.Buildable → b'.build.1.Runs (.layers s) t ∧ b' = b.installLayers s
  frame : b'.limits = b.limits ∧ b'.routes = b.routes
  builder : b'.status? = some t
  server : b'.build.1.installed.status = t
  active : t.active = b'.build.1.installed.pipeline.active
  layers : t.layers = s.names

/-- All chains of an integration are installed or none, and the status tells which. -/
theorem setUpOn_wholly (i : Integration) (made : i.Made) (b : ServerBuilder) (s : LayerStack) :
    i.SetUp b s (i.setUpOn b s).1 (i.setUpOn b s).2.1 := by
  have builder : (i.setUpOn b s).2.1 = b.install (i.setup s).1 := rfl
  have status : (i.setUpOn b s).1 = (i.setup s).1.status := rfl
  rw [builder, status]
  rcases setup_decides made.unique s with
    ⟨buildable, f, delivered, installed⟩ | ⟨unbuildable, installed⟩
  · rw [installed]
    exact {
      chains_iff := iff_of_true rfl buildable
      wholly := fun _ => ⟨f, Server.runs_chains rfl s, delivered⟩
      notAtAll := fun h => absurd buildable h
      frame := ⟨rfl, rfl⟩
      builder := rfl
      server := rfl
      active := rfl
      layers := rfl }
  · rw [installed]
    exact {
      chains_iff := iff_of_false (fun h => nomatch h) unbuildable
      wholly := fun h => absurd h unbuildable
      notAtAll := fun _ => ⟨Server.runs_layers rfl, rfl⟩
      frame := ⟨rfl, rfl⟩
      builder := rfl
      server := rfl
      active := rfl
      layers := rfl }

/-- A catalog with the stage alone that gives ids. -/
def identifying : Catalog := ⟨[("request_id", .identify false)]⟩

/--
An integration whose first chain can be built and whose second one is of a kind that is not defined.
-/
def half : Integration :=
  ((of ((Foundry.bare identifying).define "public" ["request_id"])).withBindings
    [("public", "public")]).bind "admin" "operators"

/-- A builder with one route and without an integration. -/
def oneRoute : ServerBuilder :=
  ⟨⟨"", 0, none, none⟩, [⟨.get, "/", "public", fun _ => pure (.ok ⟨.ok, .empty, .buffer []⟩)⟩],
  none⟩

/-- The chain that could be built is not installed. -/
theorem setUpOn_wholly_half : half.Made ∧ half.foundry.Castable "public" ∧ ¬ half.Buildable ∧
    half.SetUp oneRoute [] (half.setUpOn oneRoute []).1 (half.setUpOn oneRoute []).2.1 ∧
    (half.setUpOn oneRoute []).1 = ⟨.layers, [], [], []⟩ := by
  have made : half.Made := .bind "admin" "operators" (.withBindings _ (.of _))
  have setUp := setUpOn_wholly half made oneRoute []
  have unbuildable : ¬ half.Buildable := by
    intro buildable
    obtain ⟨names, h, -⟩ := buildable.castable ("admin", "operators") (.tail _ (.head _))
    have undefined : half.foundry.kinds.find? "operators" = none := by decide
    cases undefined.symm.trans h
  refine ⟨made, ⟨["request_id"], by decide, by decide⟩, unbuildable, setUp, ?_⟩
  rw [← setUp.server, (setUp.notAtAll unbuildable).2]
  rfl

end Integration

end Gatehouse
