import Gatehouse.Proofs.Assertion.Admission
import Gatehouse.Proofs.Service.Accounts
import Gatehouse.Proofs.Settings.Loaded

/-!
# What loaded settings are wired to

The check of settings knows exactly the kinds that the foundry defines (`Service.knows_iff`), and it
asks for a secret where chains are enabled.  So a server is built from whatever is loaded, its
chains are missing only if they are turned off or list a stage that the service does not have, and
no gate refuses for want of a key (`Service.build_wired`).
-/

namespace Gatehouse.Service

/-- The names of the stages of the service. -/
def stageNames : List String := ["request_id", "logging", "assertion"]

/-- The catalog of the service has the names of its stages. -/
lemma names_registered (s : Settings) (clock : Clock) : (registered s clock).names = stageNames :=
  rfl

/-- The kinds that the check of settings knows are those that the foundry defines. -/
lemma knows_iff (s : Settings) (c : Catalog) (kind : String) :
    s.chains.knows kind = true ↔ (foundry s c).kinds.has kind = true := by
  obtain ⟨-, -, kinds⟩ := foundry_spec s c
  have standard : ((Foundry.standard .empty).kinds.find? kind).isSome ↔
      kind ∈ ChainSettings.builtIn :=
    Named.find?_isSome_iff
  have chosen : (s.chains.kinds.reverse.lookup kind).isSome ↔ kind ∈ s.chains.kinds.keys := by
    have found : (s.chains.kinds.reverse.lookup kind).isSome ↔
        kind ∈ Named.keys s.chains.kinds.reverse :=
      Named.find?_isSome_iff
    rw [found, Named.keys, List.map_reverse, List.mem_reverse]
    rfl
  rw [Named.has_iff, ← Named.find?_isSome_iff, kinds, stagesOf, Option.isSome_or, Bool.or_eq_true,
    chosen, standard,
    ChainSettings.knows, Bool.or_eq_true, List.contains_iff_mem, Named.has_iff, or_comm]

/-- The settings of a kind list stages of the service and nothing else. -/
def Served (s : Settings) (kind : String) : Prop :=
  ∃ names, stagesOf s kind = some names ∧ ∀ name ∈ names, name ∈ stageNames

/-- A kind can be cast for the service if its settings list stages of it alone. -/
lemma castable_iff_served {s : Settings} {clock : Clock} {kind : String} :
    (foundry s (registered s clock)).Castable kind ↔ Served s kind := by
  obtain ⟨catalog, -, kinds⟩ := foundry_spec s (registered s clock)
  rw [Foundry.Castable, kinds, catalog, names_registered, Served]

/-- The foundry of the service has no chains at first. -/
lemma chainNames_foundry (s : Settings) (c : Catalog) : (foundry s c).chainNames = [] := by
  obtain ⟨-, none_kept, -⟩ := foundry_spec s c
  rw [Foundry.chainNames, none_kept]
  rfl

/--
The chains of the settings are buildable exactly if they are enabled and the service has all of
their stages.
-/
lemma buildable_iff {s : Settings} {clock : Clock} :
    (integration s (registered s clock)).Buildable ↔
    s.chains.enabled = true ∧ ∀ b ∈ s.chains.bindings, Served s b.2 := by
  constructor
  · intro buildable
    exact ⟨buildable.enabled, fun b hb => castable_iff_served.mp (buildable.castable b hb)⟩
  · rintro ⟨on, served⟩
    refine ⟨on, fun b hb => castable_iff_served.mpr (served b hb), fun b _ taken => ?_⟩
    rw [integration, chainNames_foundry] at taken
    cases taken

/-- What a server is whose settings were loaded. -/
structure Wired (s : Settings) (clock : Clock) (server : Server) : Prop where
  known : ∀ kind, s.chains.knows kind = true ↔
    (foundry s (registered s clock)).kinds.has kind = true
  /-- No chain fails but for a stage that its kind lists and the service does not have. -/
  failures : ∀ e records, (foundry s (registered s clock)).keepAll s.chains.bindings =
    (.error e, records) →
    ∃ b ∈ s.chains.bindings, ∃ names, stagesOf s b.2 = some names ∧
      ∃ name ∈ names, name ∉ stageNames ∧ e = .missingStage b.2 name
  chains_iff : server.installed.pipeline.active = .chains ↔
    s.chains.enabled = true ∧ ∀ b ∈ s.chains.bindings, Served s b.2
  status : server.installed.status.active = server.installed.pipeline.active
  chains : server.installed.pipeline.active = .chains → server.installed.status.chains =
    s.chains.bindings.keys
  /-- Nobody is rejected for want of a key, and no such rejection is counted. -/
  keyed : server.installed.pipeline.active = .chains →
    (∀ n addr w, ¬ server.Rejects (verifier s clock) n addr w .emptyKey) ∧
    ∀ n addr w b u, server.dispatch n addr w = (some b, u) → ∃ told,
      refusalsOf u.counts = refusalsOf w.counts ++ told ∧ Refusal.emptyKey.reason ∉ told

/-- What goes wrong under valid settings is that a kind lists an unknown stage. -/
lemma failures_of_valid {s : Settings} {clock : Clock} (valid : s.Valid) (once : s.BindsOnce)
    {e : WiringError} {records : List LogRecord}
    (h : (foundry s (registered s clock)).keepAll s.chains.bindings = (.error e, records)) :
    ∃ b ∈ s.chains.bindings, ∃ names, stagesOf s b.2 = some names ∧
      ∃ name ∈ names, name ∉ stageNames ∧ e = .missingStage b.2 name := by
  obtain ⟨catalog, -, kinds⟩ := foundry_spec s (registered s clock)
  have free : ∀ b ∈ s.chains.bindings, b.1 ∉ (foundry s (registered s clock)).chainNames := by
    rw [chainNames_foundry]
    exact fun _ _ => List.not_mem_nil
  obtain ⟨b, hb, failed⟩ := Foundry.keepAll_error free once h
  refine ⟨b, hb, ?_⟩
  rcases Foundry.cast_error failed with ⟨undefined, -⟩ | ⟨names, named, name, hn, missing, rfl⟩
  · have defined := Named.has_iff.mp ((knows_iff s (registered s clock) b.2).mp (valid.known b hb))
    rw [← Named.find?_isSome_iff, undefined] at defined
    cases defined
  · rw [kinds] at named
    rw [catalog, names_registered] at missing
    exact ⟨names, named, name, hn, missing, rfl⟩

/-- A secret that is long enough gives a key. -/
lemma key_verifier_ne_nil {s : Settings} (long : KeySettings.shortest ≤ s.key.secret.length)
    (clock : Clock) :
    (verifier s clock).key ≠ [] := by
  intro empty
  have blank : ∀ c ∈ s.key.secret.toList, String.utf8EncodeChar c = [] :=
    List.flatMap_eq_nil_iff.mp empty
  have positive : 0 < s.key.secret.toList.length := by
    rw [String.length_toList]
    exact Nat.lt_of_lt_of_le (by decide) long
  exact String.utf8EncodeChar_ne_nil (blank _ (List.getElem_mem positive))

/-- A verifier with a key rejects nothing for want of one. -/
lemma not_rejects_emptyKey {s : Settings} {clock : Clock} (keyed : (verifier s clock).key ≠ [])
    (server : Server) (n : NativeRequest) (addr : Option SocketAddr) (w : World) :
    ¬ server.Rejects (verifier s clock) n addr w .emptyKey := by
  rintro ⟨-, -, -, -, refused⟩
  exact Verifier.verifyAt_ne_emptyKey keyed _ _ refused

/-- A service with a key counts no refusal for want of one. -/
lemma uncounted_emptyKey {s : Settings} {clock : Clock} (keyed : (verifier s clock).key ≠ [])
    {server : Server} {records : List LogRecord} (built : build s clock = .ok (server, records))
    {n : NativeRequest} {addr : Option SocketAddr} {w u : World} {b : NativeResponse}
    (run : server.dispatch n addr w = (some b, u)) :
    ∃ told, refusalsOf u.counts = refusalsOf w.counts ++ told ∧ Refusal.emptyKey.reason ∉ told := by
  have acc : (withRoutes server []).Accountable (verifier s clock) :=
    accountable built fun _ h => absurd h List.not_mem_nil
  rw [withRoutes_nil] at acc
  obtain ⟨reason, counts⟩ := acc.counts (d := ⟨n, addr, w, b, u⟩) run
  refine ⟨_, counts.refusals, ?_⟩
  cases reason with
  | none => exact List.not_mem_nil
  | some e =>
    have other : e ≠ .emptyKey := by
      rintro rfl
      exact not_rejects_emptyKey keyed server n addr w ((counts.rejected _).mp rfl)
    intro told
    have same : Refusal.emptyKey.reason = e.reason := List.mem_singleton.mp told
    cases e with
    | emptyKey => exact other rfl
    | _ => exact absurd same (by simp only [Refusal.reason]; decide)

/-- A server is built from whatever settings are loaded, and it is wired as they say. -/
theorem build_wired (sur : Surroundings) (sts : List SettingsStep) (l : Layers) (s : Settings)
    (clock : Clock) (made : (Layers.start sur).steps sts = .ok l) (loaded : l.load = .ok s) :
    ∃ server records, build s clock = .ok (server, records) ∧ Wired s clock server := by
  obtain ⟨valid, once⟩ := Layers.of_load made loaded
  obtain ⟨records, built⟩ : ∃ records, build s clock = .ok
    (⟨limits s, routes, ((integration s (registered s clock)).setup .standard).1⟩, records) :=
    ⟨_, rfl⟩
  refine ⟨_, records, built, ?_⟩
  rcases Integration.setup_decides (i := integration s (registered s clock)) once .standard with
    ⟨buildable, f, delivered, installed⟩ | ⟨unbuildable, installed⟩
  -- chains are active only where they are enabled, and there the check asked for a secret
  · rw [installed] at built ⊢
    have keyed := key_verifier_ne_nil (valid.secret buildable.enabled) clock
    have names : f.chainNames = s.chains.bindings.keys := by
      rw [delivered.names, integration, chainNames_foundry, List.nil_append]
    exact {
      known := knows_iff s _
      failures := fun _ _ => failures_of_valid valid once
      chains_iff := iff_of_true rfl (buildable_iff.mp buildable)
      status := rfl
      chains := fun _ => names
      keyed :=
      fun _ => ⟨not_rejects_emptyKey keyed _, fun _ _ _ _ _ => uncounted_emptyKey keyed built⟩ }
  · rw [installed] at built ⊢
    exact {
      known := knows_iff s _
      failures := fun _ _ => failures_of_valid valid once
      chains_iff := iff_of_false nofun fun served => unbuildable (buildable_iff.mpr served)
      status := rfl
      chains := nofun
      keyed := nofun }

/-- Variables that set a secret and bind one chain more. -/
def administered (kind : String) : Surroundings :=
  ⟨[], [("GATE__ASSERTION__SHARED_SECRET", "0123456789abcdef0123456789abcdef"),
    ("GATE__PIPELINE__BINDINGS__ADMIN", kind)]⟩

/-- A text that redefines a standard kind and sets two more, and the lead of the variables. -/
def redefining : List SettingsStep :=
  [.text ("\x7b\"pipeline\": \x7b\"chain_types\": \x7b\"api\": [\"assertion\"], " ++
    "\"quiet\": [\"logging\"], \"traced\": [\"tracing\"]\x7d\x7d\x7d") "json", .lead "gate"]

/-- The chains of these settings, with a kind for one more binding. -/
def redefined (kind : String) : ChainSettings where
  enabled := true
  kinds := [("api", ["assertion"]), ("quiet", ["logging"]), ("traced", ["tracing"])]
  bindings := [("public", "public"), ("api", "api"), ("admin", kind)]

/-- The settings that some steps lead to, if there are any. -/
def loaded? (sur : Surroundings) (sts : List SettingsStep) : Option Settings :=
  ((Layers.start sur).steps sts >>= Layers.load).toOption

/-- Settings that steps lead to are loaded from layers. -/
lemma exists_loaded {sur : Surroundings} {sts : List SettingsStep} {c : ChainSettings}
    (h : (loaded? sur sts).map Settings.chains = some c) :
    ∃ l s, (Layers.start sur).steps sts = .ok l ∧ l.load = .ok s ∧ s.chains = c := by
  unfold loaded? at h
  cases made : (Layers.start sur).steps sts with
  | error e => rw [made] at h; cases h
  | ok l =>
    rw [made] at h
    cases loaded : l.load with
    | error e => simp only [bind, Except.bind, loaded] at h; cases h
    | ok s =>
      simp only [bind, Except.bind, loaded] at h
      exact ⟨l, s, rfl, loaded, Option.some.inj h⟩

/--
With a known stage in the additional kind all chains are installed, and with an unknown one none is.
-/
theorem build_wired_redefined :
    (∃ l s server records, (Layers.start (administered "quiet")).steps redefining = .ok l ∧
      l.load = .ok s ∧
      build s (.fixed ⟨0, 0⟩) = .ok (server, records) ∧ Wired s (.fixed ⟨0, 0⟩) server ∧
      server.installed.pipeline.active = .chains ∧ server.installed.status.chains =
        ["public", "api", "admin"]) ∧
    ∃ l s server records, (Layers.start (administered "traced")).steps redefining = .ok l ∧
    l.load = .ok s ∧
      build s (.fixed ⟨0, 0⟩) = .ok (server, records) ∧ Wired s (.fixed ⟨0, 0⟩) server ∧
      s.chains.enabled = true ∧
      server.installed.pipeline.active ≠ .chains := by
  have listed {s : Settings} {kind : String} (chains : s.chains = redefined kind) (k : String) :
      stagesOf s k = ((redefined kind).kinds.reverse.lookup k).or
        ((Foundry.standard .empty).kinds.find? k) := by
    rw [stagesOf, chains]
  constructor
  · obtain ⟨l, s, made, loaded, chains⟩ :=
      exists_loaded (show (loaded? (administered "quiet") redefining).map Settings.chains =
        some (redefined "quiet") by
        decide +kernel)
    obtain ⟨server, records, built, wired⟩ := build_wired _ _ _ _ (.fixed ⟨0, 0⟩) made loaded
    have served : ∀ b ∈ s.chains.bindings, Served s b.2 := by
      rw [chains]
      intro b hb
      rcases List.mem_cons.mp hb with rfl | hb
      · exact ⟨_, listed chains _, by decide⟩
      rcases List.mem_cons.mp hb with rfl | hb
      · exact ⟨_, listed chains _, by decide⟩
      cases List.mem_singleton.mp hb
      exact ⟨_, listed chains _, by decide⟩
    have active := wired.chains_iff.mpr ⟨by rw [chains]; rfl, served⟩
    refine ⟨l, s, server, records, made, loaded, built, wired, active, ?_⟩
    rw [wired.chains active, chains]
    rfl
  · obtain ⟨l, s, made, loaded, chains⟩ :=
      exists_loaded (show (loaded? (administered "traced") redefining).map Settings.chains =
        some (redefined "traced") by
        decide +kernel)
    obtain ⟨server, records, built, wired⟩ := build_wired _ _ _ _ (.fixed ⟨0, 0⟩) made loaded
    refine ⟨l, s, server, records, made, loaded, built, wired, by rw [chains]; rfl,
      fun active => ?_⟩
    have bound : ("admin", "traced") ∈ s.chains.bindings := by
      rw [chains]
      decide
    obtain ⟨names, named, known⟩ := (wired.chains_iff.mp active).2 _ bound
    cases (listed chains "traced").symm.trans named
    exact absurd (known "tracing" (by decide)) (by decide)

end Gatehouse.Service
