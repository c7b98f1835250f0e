import Gatehouse.Proofs.Named
import Gatehouse.Server.Installation

/-!
# What a foundry casts

A chain that is cast has the registered stages of its kind's names and no others
(`Foundry.mem_cast`). Keeping chains for bindings casts each of them once, in their order (`Casts`),
so that a name is kept exactly if it is bound (`Casts.lookup`).  Setting up an integration installs
all of these chains or none (`Integration.setup_cases`).
-/

namespace Gatehouse

namespace Foundry

/-- Stages with their places in a catalog. -/
def Placed (c : Catalog) (found : List (Nat × Stage)) : Prop :=
  ∀ e ∈ found, ∃ name, c.entries[e.1]? = some (name, e.2)

/-- The members of a kind are those that were there and the stages of its names. -/
lemma mem_membersFrom {c : Catalog} {kind : String} {found out : List (Nat × Stage)}
    {names : List String}
    (h : membersFrom c kind found names = .ok out) (placed : Placed c found) (s : Stage) :
    s ∈ out.map Prod.snd ↔ s ∈ found.map Prod.snd ∨ ∃ name ∈ names, c.find? name = some s := by
  -- the stages found so far stand at their places, so a place that is taken is taken by the same
  -- stage
  induction names generalizing found with
  | nil =>
    cases h
    refine ⟨.inl, fun h => ?_⟩
    rcases h with h | ⟨name, hn, -⟩
    · exact h
    · exact absurd hn List.not_mem_nil
  | cons name rest ih =>
    cases hi : c.position? name with
    | none => rw [membersFrom, hi] at h; cases h
    | some i =>
      cases hs : c.find? name with
      | none => rw [membersFrom, hi, hs] at h; cases h
      | some t =>
        have there : c.entries[i]? = some (name, t) := Named.position?_find? hi hs
        simp only [membersFrom, hi, hs] at h
        have others : (∃ n ∈ name :: rest, c.find? n = some s) ↔
            t = s ∨ ∃ n ∈ rest, c.find? n = some s := by
          simp only [List.mem_cons, exists_eq_or_imp, hs, Option.some.injEq]
        rw [others]
        by_cases known : (found.any fun e => e.1 == i) = true
        · obtain ⟨e, he, hei⟩ := List.any_eq_true.mp known
          obtain ⟨n, hn⟩ := placed e he
          rw [beq_iff_eq.mp hei, there] at hn
          cases hn
          rw [if_pos known] at h
          rw [ih h placed]
          constructor
          · rintro (hm | hm)
            · exact .inl hm
            · exact .inr (.inr hm)
          · rintro (hm | rfl | hm)
            · exact .inl hm
            · exact .inl (List.mem_map_of_mem he)
            · exact .inr hm
        · rw [if_neg known] at h
          have placed' : Placed c (found ++ [(i, t)]) := by
            intro e he
            rcases List.mem_append.mp he with he | he
            · exact placed e he
            · cases List.mem_singleton.mp he
              exact ⟨name, there⟩
          rw [ih h placed', List.map_append, List.mem_append, or_assoc]
          simp only [List.map_cons, List.map_nil, List.mem_singleton, eq_comm]

/-- A chain that is cast has the stages that its kind names. -/
lemma mem_cast {f : Foundry} {kind : String} {c : Chain} (h : f.cast kind = .ok c) :
    ∃ names, f.kinds.find? kind = some names ∧
      ∀ s, s ∈ c.stages ↔ ∃ name ∈ names, f.catalog.find? name = some s := by
  cases hk : f.kinds.find? kind with
  | none => rw [cast, hk] at h; cases h
  | some names =>
    cases hm : membersFrom f.catalog kind [] names with
    | error e => simp only [cast, hk, hm] at h; cases h
    | ok found =>
      simp only [cast, hk, hm] at h
      cases h
      refine ⟨names, rfl, fun s => ?_⟩
      have members := mem_membersFrom hm (fun e he => absurd he List.not_mem_nil) s
      simp only [List.map_nil, List.not_mem_nil, false_or] at members
      rw [← members, Chain.of, List.mem_mergeSort, List.mem_map, List.mem_map]
      simp only [List.mem_mergeSort]

/-- Chains cast for bindings, each under its name. -/
inductive Casts (f : Foundry) : List (String × String) → List (String × Chain) → Prop where
  | nil : Casts f [] []
  | cons {name kind c bs es} : f.cast kind = .ok c → Casts f bs es →
    Casts f ((name, kind) :: bs) ((name, c) :: es)

/-- A name is cast exactly if it is bound, as a chain of the kind it is bound to first. -/
lemma Casts.lookup {f : Foundry} {bs : List (String × String)} {es : List (String × Chain)}
    (k : Casts f bs es) (name : String) :
    (bs.lookup name = none ∧ es.lookup name = none) ∨
      ∃ kind c, bs.lookup name = some kind ∧ es.lookup name = some c ∧ f.cast kind = .ok c := by
  induction k with
  | nil => exact .inl ⟨rfl, rfl⟩
  | @cons n kind c bs es hc _ ih =>
    by_cases hn : name = n
    · subst hn
      exact .inr ⟨kind, c, List.lookup_cons_self, List.lookup_cons_self, hc⟩
    · have hb : (name == n) = false := beq_false_of_ne hn
      simp only [List.lookup_cons, hb]
      exact ih

/-- Which chains were kept before does not matter to what is cast. -/
lemma Casts.of_chains {f : Foundry} {kept : Named Chain} {bs : List (String × String)}
    {es : List (String × Chain)} (k : Casts { f with chains := kept } bs es) : Casts f bs es := by
  induction k with
  | nil => exact .nil
  | cons hc _ ih => exact .cons hc ih

/-- Bindings that are kept add the chains that are cast for them. -/
lemma keepAll_ok {f f' : Foundry} {bs : List (String × String)} {records : List LogRecord}
    (h : f.keepAll bs = (.ok f', records)) :
    ∃ es, f' = { f with chains := f.chains ++ es } ∧ Casts f bs es := by
  induction bs generalizing f records with
  | nil =>
    cases h
    exact ⟨[], by rw [List.append_nil], .nil⟩
  | cons b bs ih =>
    obtain ⟨name, kind⟩ := b
    cases hc : f.cast kind with
    | error e => simp only [keepAll, hc] at h; cases h
    | ok c =>
      simp only [keepAll, hc] at h
      unfold keep at h
      by_cases taken : f.chains.has name = true
      · rw [if_pos taken] at h
        cases h
      · rw [if_neg taken] at h
        obtain ⟨kept, -⟩ := Prod.mk.inj h
        obtain ⟨es, rfl, k⟩ := ih (Prod.ext kept rfl)
        exact ⟨(name, c) :: es, by simp only [List.append_assoc, List.singleton_append],
          .cons hc k.of_chains⟩

/-- From a foundry without chains exactly the bound names are kept. -/
lemma chain?_of_keepAll {f f' : Foundry} {bs : List (String × String)} {records : List LogRecord}
    (h : f.keepAll bs = (.ok f', records)) (none_kept : f.chains = []) (name : String) :
    (bs.lookup name = none ∧ f'.chain? name = none) ∨
      ∃ kind c, bs.lookup name = some kind ∧ f'.chain? name = some c ∧ f.cast kind = .ok c := by
  obtain ⟨es, rfl, k⟩ := keepAll_ok h
  rw [none_kept, List.nil_append]
  exact k.lookup name

end Foundry

/--
Setting up installs the chains of all bindings if it is enabled and none fails, and the layers
otherwise.
-/
lemma Integration.setup_cases (i : Integration) (s : LayerStack) :
    (∃ f records, i.enabled = true ∧ i.foundry.keepAll i.bindings = (.ok f, records) ∧
        (i.setup s).1 = ⟨.chains f, .ofChains f s⟩) ∨
      ((i.enabled = false ∨ ∃ e records, i.foundry.keepAll i.bindings = (.error e, records)) ∧
        (i.setup s).1 = .ofLayers s) := by
  unfold setup
  cases i.enabled with
  | false => exact .inr ⟨.inl rfl, rfl⟩
  | true =>
    cases i.foundry.keepAll i.bindings with
    | mk kept records =>
      cases kept with
      | error e => exact .inr ⟨.inr ⟨e, records, rfl⟩, rfl⟩
      | ok f => exact .inl ⟨f, records, rfl, rfl, rfl⟩

end Gatehouse
