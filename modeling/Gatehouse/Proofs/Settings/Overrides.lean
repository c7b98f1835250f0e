import Gatehouse.Proofs.Settings.Slots

/-!
# Overrides in any order

Settings after overrides are described slot by slot, by the set of variables alone: a slot that is
named holds what its variable says, and any other what it held (`Settings.Overridden`).  As this
determines the settings up to the order of their bindings, the order of the variables is of no
account (`Settings.overrideAll_perm`).  Overrides stop at the first value that cannot be read
(`Settings.Run.stopped`), and so does loading (`Layers.overridden_framed`).
-/

namespace Gatehouse

namespace Settings

/-- A variable that names a number, a truth value or a format, with a value that is none. -/
structure Refused (lead : String) (f : Field) (v : String × String) : Prop where
  named : (Slot.field f).NamedBy lead v.1
  typed : f.form ≠ .text
  unread : f.form.read? v.2 = none

/--
Settings after overrides: each slot that is named holds what its variable says, and the others what
they held.
-/
structure Overridden (lead : String) (vars : List (String × String)) (s s' : Settings) : Prop where
  named : ∀ v ∈ vars, ∀ slot : Slot, slot.NamedBy lead v.1 → slot.read? v.2 = some (slot.held s')
  unnamed : ∀ slot : Slot, (∀ v ∈ vars, ¬ slot.NamedBy lead v.1) → slot.held s' = slot.held s
  lasting : s'.lasting = s.lasting

/-- Overrides of which both succeed, with settings that are alike, or neither does. -/
inductive Agree : Except SettingsError Settings → Except SettingsError Settings → Prop
  | passed {s s' : Settings} (alike : s.Alike s') : Agree (.ok s) (.ok s')
  | stopped {var var' reason reason' : String} :
    Agree (.error (.environment var reason)) (.error (.environment var' reason'))

/-- Overrides that agree with some that succeed do so too. -/
lemma Agree.passes {s : Settings} {x : Except SettingsError Settings} (agree : Agree (.ok s) x) :
    ∃ s', x = .ok s' ∧ s.Alike s' := by
  cases agree with
  | passed alike => exact ⟨_, rfl, alike⟩

/-- A value that is refused is not read by any slot of the name. -/
lemma Refused.not_read {lead : String} {f : Field} {v : String × String}
    (refused : Refused lead f v) {slot : Slot}
    {held : Option Held} (named : slot.NamedBy lead v.1) (read : slot.read? v.2 = some held) :
    False := by
  cases named.unique refused.named
  rw [Slot.read?, refused.unread] at read
  cases read

/-- Variables taken one after the other, and what comes of them. -/
inductive Run (lead : String) :
    Settings → List (String × String) → Except SettingsError Settings → Prop
  | done (s : Settings) : Run lead s [] (.ok s)
  | skip {s : Settings} {v : String × String} {vars : List (String × String)}
    {x : Except SettingsError Settings}
    (unknown : ∀ slot : Slot, ¬ slot.NamedBy lead v.1) (later : Run lead s vars x) :
    Run lead s (v :: vars) x
  | set {s s' : Settings} {slot : Slot} {held : Option Held} {v : String × String}
    {vars : List (String × String)}
    {x : Except SettingsError Settings} (named : slot.NamedBy lead v.1)
    (read : slot.read? v.2 = some held)
    (sets : s.Sets slot held s') (later : Run lead s' vars x) : Run lead s (v :: vars) x
  | refuse {s : Settings} {f : Field} {v : String × String} {vars : List (String × String)}
    (refused : Refused lead f v) :
    Run lead s (v :: vars) (.error (.environment v.1 f.form.expected))

section Run

variable {lead : String} {s s' : Settings} {vars : List (String × String)}

/-- A variable that names no slot is passed over. -/
lemma overrideAll_of_not_named {v : String × String}
    (unknown : ∀ slot : Slot, ¬ slot.NamedBy lead v.1) :
    s.overrideAll lead (v :: vars) = s.overrideAll lead vars := by
  rw [overrideAll]
  cases h : variablePath? lead v.1 with
  | none => rfl
  | some path =>
    have nowhere : ∀ slot : Slot, ¬ slot.At path := fun slot there =>
      unknown slot (Slot.namedBy_iff.mpr ⟨path, h, there⟩)
    simp only [override_of_not_at nowhere]

/-- Overrides take the variables one after the other. -/
lemma run_overrideAll (lead : String) (s : Settings) (vars : List (String × String)) :
    Run lead s vars (s.overrideAll lead vars) := by
  induction vars generalizing s with
  | nil => exact .done s
  | cons v vars ih =>
    by_cases known : ∃ slot : Slot, slot.NamedBy lead v.1
    · obtain ⟨slot, named⟩ := known
      obtain ⟨path, behind, there⟩ := Slot.namedBy_iff.mp named
      have step : s.Overrides v.1 slot v.2 (s.override v.1 path v.2) := overrides_override there
      simp only [overrideAll, behind]
      cases h : s.override v.1 path v.2 with
      | ok s₁ =>
        rw [h] at step
        cases step with
        | set read sets => exact .set named read sets (ih s₁)
      | error e =>
        rw [h] at step
        cases step with
        | refused unread =>
          cases slot with
          | field f =>
            have unread := Option.map_eq_none_iff.mp unread
            exact .refuse ⟨named, Form.ne_text_of_unread unread, unread⟩
          | binding name => cases unread
    · have unknown : ∀ slot : Slot, ¬ slot.NamedBy lead v.1 := fun slot named => known ⟨slot, named⟩
      rw [overrideAll_of_not_named unknown]
      exact .skip unknown (ih s)

/-- Variables of which no two name one slot. -/
def Apart (lead : String) (vars : List (String × String)) : Prop :=
  vars.Pairwise fun v w => ∀ slot : Slot, slot.NamedBy lead v.1 → ¬ slot.NamedBy lead w.1

/-- Variables with names of their own are apart if no two name one binding. -/
lemma apart_of_distinct (distinct : (vars.map Prod.fst).Nodup)
    (bindings : vars.Pairwise fun v w => ∀ name, (Slot.binding name).NamedBy lead v.1 →
      ¬ (Slot.binding name).NamedBy lead w.1) : Apart lead vars := by
  have names : vars.Pairwise fun v w => v.1 ≠ w.1 := List.pairwise_map.mp distinct
  refine (names.and bindings).imp ?_
  rintro ⟨var, value⟩ ⟨var', value'⟩ ⟨other, apart⟩ slot here there
  cases slot with
  | field f =>
    cases here with
    | field =>
      generalize e : var' = name at there
      cases there with
      | field => exact other e.symm
  | binding name => exact apart name here there

/-- After a run that ends well, each slot holds what its variable says or what it held. -/
lemma Run.overridden {x : Except SettingsError Settings} (run : Run lead s vars x)
    (apart : Apart lead vars) (ends : x = .ok s') : s.Overridden lead vars s' := by
  induction run with
  | done s =>
    cases ends
    exact ⟨nofun, fun _ _ => rfl, rfl⟩
  | skip unknown later ih =>
    have later := ih (List.pairwise_cons.mp apart).2 ends
    refine ⟨?_, ?_, later.lasting⟩
    · intro w there slot named
      rcases List.mem_cons.mp there with rfl | there
      · exact absurd named (unknown slot)
      · exact later.named w there slot named
    · intro slot unnamed
      exact later.unnamed slot fun w there => unnamed w (List.mem_cons_of_mem _ there)
  | @set s s₁ slot held v vars x named read sets later ih =>
    obtain ⟨first, apart⟩ := List.pairwise_cons.mp apart
    have later := ih apart ends
    refine ⟨?_, ?_, later.lasting.trans sets.lasting⟩
    · intro w there slot' named'
      rcases List.mem_cons.mp there with rfl | there
      · -- no later variable names the slot again
        cases named.unique named'
        rw [later.unnamed slot fun w there => first w there slot named, sets.here]
        exact read
      · exact later.named w there slot' named'
    · intro slot' unnamed
      have other : slot' ≠ slot := by
        rintro rfl
        exact unnamed v List.mem_cons_self named
      rw [later.unnamed slot' fun w there => unnamed w (List.mem_cons_of_mem _ there),
        sets.elsewhere slot' other]
  | refuse refused => cases ends

/-- Variables that are all taken have no value that is refused. -/
lemma Run.readable {x : Except SettingsError Settings} (run : Run lead s vars x) (ends : x = .ok s')
    {v : String × String} (there : v ∈ vars) (f : Field) : ¬ Refused lead f v := by
  intro refused
  induction run with
  | done s => cases there
  | skip unknown later ih =>
    rcases List.mem_cons.mp there with rfl | there
    · exact unknown _ refused.named
    · exact ih ends there
  | set named read sets later ih =>
    rcases List.mem_cons.mp there with rfl | there
    · exact refused.not_read named read
    · exact ih ends there
  | refuse => cases ends

/--
A run that stops does so at the first variable that cannot be read, whatever the settings are.
-/
lemma Run.stopped {x : Except SettingsError Settings} {e : SettingsError} (run : Run lead s vars x)
    (ends : x = .error e) : ∃ before v after f, vars = before ++ v :: after ∧ Refused lead f v ∧
      (∀ w ∈ before, ∀ f, ¬ Refused lead f w) ∧ e = .environment v.1 f.form.expected := by
  induction run with
  | done s => cases ends
  | @skip s w vars x unknown later ih =>
    obtain ⟨before, v, after, f, rfl, refused, readable, he⟩ := ih ends
    refine ⟨w :: before, v, after, f, rfl, refused, ?_, he⟩
    exact List.forall_mem_cons.mpr ⟨fun f refused => unknown _ refused.named, readable⟩
  | @set s s' slot held w vars x named read sets later ih =>
    obtain ⟨before, v, after, f, rfl, refused, readable, he⟩ := ih ends
    refine ⟨w :: before, v, after, f, rfl, refused, ?_, he⟩
    refine List.forall_mem_cons.mpr ⟨fun f refused => ?_, readable⟩
    exact refused.not_read named read
  | @refuse s f v vars refused =>
    cases ends
    exact ⟨[], v, vars, f, rfl, refused, nofun, rfl⟩

/-- Where one run stops, every run stops in the same way. -/
lemma Run.stopped_alike {s₀ : Settings} {x x₀ : Except SettingsError Settings} {e : SettingsError}
    (run : Run lead s vars x) (ends : x = .error e) (run₀ : Run lead s₀ vars x₀) :
    x₀ = .error e := by
  induction run generalizing s₀ with
  | done s => cases ends
  | skip unknown later ih =>
    cases run₀ with
    | skip _ later₀ => exact ih ends later₀
    | set named => exact absurd named (unknown _)
    | refuse refused => exact absurd refused.named (unknown _)
  | set named read sets later ih =>
    cases run₀ with
    | skip unknown => exact absurd named (unknown _)
    | set _ _ _ later₀ => exact ih ends later₀
    | refuse refused => exact (refused.not_read named read).elim
  | refuse refused =>
    cases run₀ with
    | skip unknown => exact absurd refused.named (unknown _)
    | set named read => exact (refused.not_read named read).elim
    | refuse refused₀ =>
      cases refused₀.named.unique refused.named
      exact ends

/-- Variables may be taken in two parts. -/
lemma overrideAll_append (s : Settings) (before after : List (String × String)) :
    s.overrideAll lead (before ++ after) = (s.overrideAll lead before).bind fun s =>
      s.overrideAll lead after := by
  induction before generalizing s with
  | nil => rfl
  | cons v before ih =>
    rw [List.cons_append, overrideAll, overrideAll]
    cases variablePath? lead v.1 with
    | none => exact ih s
    | some path =>
      simp only
      cases s.override v.1 path v.2 with
      | ok s => exact ih s
      | error e => rfl

/-- A variable that names no slot may be left out, wherever it stands. -/
lemma overrideAll_without {before after : List (String × String)} {v : String × String}
    (unknown : ∀ slot : Slot, ¬ slot.NamedBy lead v.1) :
    s.overrideAll lead (before ++ v :: after) = s.overrideAll lead (before ++ after) := by
  rw [overrideAll_append, overrideAll_append]
  congr
  funext s
  exact overrideAll_of_not_named unknown

/-- Overrides succeed exactly if no value is refused. -/
lemma overrideAll_ok_iff :
    (∃ s', s.overrideAll lead vars = .ok s') ↔ ∀ v ∈ vars, ∀ f, ¬ Refused lead f v := by
  have run := run_overrideAll lead s vars
  constructor
  · rintro ⟨s', h⟩ v there f
    exact run.readable h there f
  · intro readable
    cases h : s.overrideAll lead vars with
    | ok s' => exact ⟨s', rfl⟩
    | error e =>
      obtain ⟨before, v, after, f, rfl, refused, -⟩ := run.stopped h
      exact absurd refused (readable v (List.mem_append_right before List.mem_cons_self) f)

end Run

section Order

variable {lead : String} {s a b : Settings} {vars vars' : List (String × String)}

/-- The description of settings after overrides determines them up to the order of the bindings. -/
lemma Overridden.alike (ha : s.Overridden lead vars a) (hb : s.Overridden lead vars b) :
    a.Alike b := by
  refine alike_of_held (fun slot => ?_) (ha.lasting.trans hb.lasting.symm)
  by_cases named : ∃ v ∈ vars, slot.NamedBy lead v.1
  · obtain ⟨v, there, named⟩ := named
    exact Option.some.inj ((ha.named v there slot named).symm.trans (hb.named v there slot named))
  · have unnamed : ∀ v ∈ vars, ¬ slot.NamedBy lead v.1 := fun v there h => named ⟨v, there, h⟩
    rw [ha.unnamed slot unnamed, hb.unnamed slot unnamed]

/-- What slots hold after overrides does not depend on the order of the variables. -/
lemma Overridden.perm (h : s.Overridden lead vars a) (perm : vars.Perm vars') :
    s.Overridden lead vars' a where
  named v there := h.named v (perm.mem_iff.mpr there)
  unnamed slot unnamed := h.unnamed slot fun v there => unnamed v (perm.mem_iff.mp there)
  lasting := h.lasting

/-- Whether variables are apart does not depend on their order. -/
lemma Apart.perm (apart : Apart lead vars) (perm : vars.Perm vars') : Apart lead vars' :=
  List.Perm.pairwise perm apart fun apart slot there here => apart slot here there

/-- The order of variables is of no account. -/
lemma overrideAll_perm (apart : Apart lead vars) (perm : vars.Perm vars') :
    Agree (s.overrideAll lead vars) (s.overrideAll lead vars') := by
  have run := run_overrideAll lead s vars
  have run' := run_overrideAll lead s vars'
  have readable : (∃ a, s.overrideAll lead vars = .ok a) ↔
      ∃ b, s.overrideAll lead vars' = .ok b := by
    rw [overrideAll_ok_iff, overrideAll_ok_iff]
    exact forall_congr' fun v => by rw [perm.mem_iff]
  cases h : s.overrideAll lead vars with
  | ok a =>
    obtain ⟨b, h'⟩ := readable.mp ⟨a, h⟩
    rw [h']
    exact .passed ((run.overridden apart h).alike
      ((run'.overridden (apart.perm perm) h').perm perm.symm))
  | error e =>
    cases h' : s.overrideAll lead vars' with
    | ok b =>
      obtain ⟨a, ok⟩ := readable.mpr ⟨b, h'⟩
      cases h.symm.trans ok
    | error e' =>
      obtain ⟨-, v, -, f, -, -, -, rfl⟩ := run.stopped h
      obtain ⟨-, v', -, f', -, -, -, rfl⟩ := run'.stopped h'
      exact .stopped

/-- Settings like valid ones are valid. -/
lemma Alike.valid (alike : a.Alike b) (once : b.BindsOnce) (valid : a.Valid) : b.Valid := by
  obtain ⟨bindings, rest⟩ := alike
  obtain ⟨_, ⟨_, _, as⟩, _, _, _⟩ := a
  obtain ⟨_, ⟨_, _, bs⟩, _, _, _⟩ := b
  cases rest
  refine ⟨valid.address, valid.secret, valid.skew, fun e there => ?_, valid.metrics⟩
  have bound : Named.find? as e.1 = some e.2 := (bindings e.1).trans (Named.find?_of_mem once there)
  exact valid.known _ (Named.mem_of_find? bound)

end Order

section Check

/-- An error is not about a variable. -/
def Inward (x : Except SettingsError Unit) : Prop :=
  ∀ var reason, x ≠ .error (.environment var reason)

/-- Checks one after the other have no error about a variable if both have none. -/
private lemma Inward.bind {x y : Except SettingsError Unit} (hx : Inward x) (hy : Inward y) :
    Inward (x >>= fun _ => y) := by
  cases x with
  | ok u => exact hy
  | error e => exact fun var reason h => hx var reason h

/-- A check that may be left out has no error about a variable if it has none. -/
private lemma Inward.ite_bind {c : Prop} [Decidable c] {x y : Except SettingsError Unit}
    (hx : Inward x) (hy : Inward y) : Inward (if c then x >>= fun _ => y else y) := by
  split
  · exact hx.bind hy
  · exact hy

/-- A check that passes has no error. -/
lemma inward_ok (u : Unit) : Inward (.ok u) := nofun

/-- A bad address is no error about a variable. -/
lemma inward_checkAddress (field address : String) : Inward (checkAddress field address) := by
  unfold checkAddress
  split
  · exact inward_ok ()
  · exact nofun

/-- A bad secret is no error about a variable. -/
lemma inward_checkSecret (secret : String) : Inward (checkSecret secret) := by
  unfold checkSecret
  dsimp only
  split
  · exact nofun
  · split
    · exact nofun
    · exact inward_ok ()

/-- A bad binding is no error about a variable. -/
lemma inward_checkBindings (c : ChainSettings) (bs : Named String) :
    Inward (checkBindings c bs) := by
  induction bs with
  | nil => exact inward_ok ()
  | cons b bs ih =>
    rw [checkBindings]
    split
    · exact ih
    · intro var reason e
      cases e

/-- What is wrong with settings is never said of a variable. -/
lemma inward_check (s : Settings) : Inward s.check := by
  have metrics : Inward (if s.metrics.enabled = true then
      checkAddress "metrics.addr" s.metrics.address else pure ()) := by
    split
    · exact inward_checkAddress _ _
    · exact inward_ok ()
  have bindings := (inward_checkBindings s.chains s.chains.bindings).bind metrics
  exact (inward_checkAddress _ _).bind ((inward_checkSecret _).ite_bind (.ite_bind nofun bindings))

end Check

end Settings

namespace Layers

open Settings

/-- The same settings and lead among other variables. -/
def among (l : Layers) (vars : Dotenv.Environment) : Layers :=
  { l with surroundings := { l.surroundings with environment := vars } }

/-- What variables do to settings that are loaded. -/
structure Framed (l : Layers) (lead : String) (vars : Dotenv.Environment) : Prop where
  /-- A value that cannot be read is all that stops overrides, -/
  stops_iff : (∃ var reason, l.load = .error (.environment var reason)) ↔
    ∃ v ∈ vars, ∃ f, Refused lead f v
  /--
  and it changes nothing: the settings are then those of the variables before it, and the error
  tells only which variable it is and what was expected, whatever the settings are.
  -/
  stop : ∀ e, l.overridden = .error e → l.load = .error e ∧
    (∀ s : Settings, s.overrideAll lead vars = .error e) ∧
    ∃ before v after f s, vars = before ++ v :: after ∧ Refused lead f v ∧
    e = .environment v.1 f.form.expected ∧
      l.settings.overrideAll lead before = .ok s ∧ l.settings.Overridden lead before s
  /-- Else each variable sets what it names and nothing else, and what comes of it is checked. -/
  pass : ∀ s, l.overridden = .ok s → l.load = s.check.map (fun _ => s) ∧
    l.settings.Overridden lead vars s
  /-- The order of the variables is of no account, -/
  ordered : ∀ vars', vars.Perm vars' → Agree l.overridden (l.among vars').overridden
  /-- and neither is it for what is loaded. -/
  loaded : l.settings.BindsOnce → ∀ vars', vars.Perm vars' → ∀ s, l.load = .ok s →
    ∃ s', (l.among vars').load = .ok s' ∧ s.Alike s'
  /-- A variable that names nothing might as well not be there. -/
  ignored : ∀ before v after, vars = before ++ v :: after →
    (∀ slot : Slot, ¬ slot.NamedBy lead v.1) →
    (l.among (before ++ after)).overridden = l.overridden ∧
    (l.among (before ++ after)).load = l.load

section

variable {l : Layers} {lead : String}

/-- With a lead the settings of the file are overridden by the environment. -/
lemma overridden_of_lead (leads : l.lead = some lead) :
    l.overridden = l.settings.overrideAll lead l.surroundings.environment := by
  rw [overridden, leads]

/-- Overrides that fail make loading fail. -/
lemma load_of_error {e : SettingsError} (h : l.overridden = .error e) : l.load = .error e := by
  rw [load, h]

/-- After overrides that succeed the settings are checked. -/
lemma load_of_ok {s : Settings} (h : l.overridden = .ok s) : l.load = s.check.map fun _ => s := by
  simp only [load, h]
  cases s.check with
  | ok u => rfl
  | error e => rfl

/-- An error about a variable comes from the overrides. -/
lemma load_error_iff {var reason : String} :
    l.load = .error (.environment var reason) ↔ l.overridden =
      .error (.environment var reason) := by
  refine ⟨fun h => ?_, load_of_error⟩
  cases ho : l.overridden with
  | error e => rw [← load_of_error ho, h]
  | ok s =>
    rw [load_of_ok ho] at h
    cases hc : s.check with
    | ok u =>
      rw [hc] at h
      cases h
    | error e =>
      rw [hc] at h
      cases h
      exact absurd hc (inward_check s _ _)

/-- Loading succeeds if the overrides do and the settings are valid. -/
lemma load_ok_iff {s : Settings} : l.load = .ok s ↔ l.overridden = .ok s ∧ s.Valid := by
  cases ho : l.overridden with
  | error e =>
    rw [load_of_error ho]
    exact iff_of_false nofun fun h => nomatch h.1
  | ok s' =>
    rw [load_of_ok ho, ← check_ok_iff]
    constructor
    · intro h
      cases hc : s'.check with
      | ok u =>
        rw [hc] at h
        cases h
        exact ⟨rfl, hc⟩
      | error e =>
        rw [hc] at h
        cases h
    · rintro ⟨h, hc⟩
      cases h
      rw [hc]
      rfl

/-- The order of the environment does not matter for what is loaded. -/
lemma load_perm {vars : Dotenv.Environment} {s : Settings} (leads : l.lead = some lead)
    (apart : Apart lead l.surroundings.environment) (once : l.settings.BindsOnce)
    (perm : l.surroundings.environment.Perm vars) (h : l.load = .ok s) :
    ∃ s', (l.among vars).load = .ok s' ∧ s.Alike s' := by
  obtain ⟨passes, valid⟩ := load_ok_iff.mp h
  have agree := overrideAll_perm (s := l.settings) apart perm
  rw [← overridden_of_lead leads, passes] at agree
  obtain ⟨s', passes', alike⟩ := agree.passes
  have overridden' : (l.among vars).overridden = .ok s' := by
    rw [overridden_of_lead (l := l.among vars) leads]
    exact passes'
  have once' : s'.BindsOnce := bindsOnce_overrideAll once passes'
  exact ⟨s', load_ok_iff.mpr ⟨overridden', alike.valid once' valid⟩, alike⟩

/-- Variables of which no two name one binding override settings slot by slot, in any order. -/
theorem overridden_framed (leads : l.lead = some lead)
    (distinct : (l.surroundings.environment.map Prod.fst).Nodup)
    (bindings : l.surroundings.environment.Pairwise fun v w => ∀ name,
    (Slot.binding name).NamedBy lead v.1 →
      ¬ (Slot.binding name).NamedBy lead w.1) : l.Framed lead l.surroundings.environment := by
  have apart := apart_of_distinct distinct bindings
  have start := overridden_of_lead leads
  have run := run_overrideAll lead l.settings l.surroundings.environment
  constructor
  case stops_iff =>
    constructor
    · rintro ⟨var, reason, h⟩
      rw [load_error_iff, start] at h
      obtain ⟨before, v, after, f, e, refused, -⟩ := run.stopped h
      exact ⟨v, e ▸ List.mem_append_right before List.mem_cons_self, f, refused⟩
    · rintro ⟨v, there, f, refused⟩
      cases h : l.overridden with
      | ok s => exact absurd refused (run.readable (start.symm.trans h) there f)
      | error e =>
        obtain ⟨-, w, -, g, -, -, -, rfl⟩ := run.stopped (start.symm.trans h)
        exact ⟨_, _, load_of_error h⟩
  case stop =>
    intro e h
    have stops := start.symm.trans h
    obtain ⟨before, v, after, f, split, refused, readable, he⟩ := run.stopped stops
    obtain ⟨s, hs⟩ := (overrideAll_ok_iff (s := l.settings)).mpr readable
    refine ⟨load_of_error h, fun s => run.stopped_alike stops (run_overrideAll lead s _), ?_⟩
    refine ⟨before, v, after, f, s, split, refused, he, hs, ?_⟩
    rw [split] at apart
    exact (run_overrideAll lead l.settings before).overridden (List.pairwise_append.mp apart).1 hs
  case pass =>
    intro s h
    exact ⟨load_of_ok h, run.overridden apart (start.symm.trans h)⟩
  case ordered =>
    intro vars perm
    rw [start, overridden_of_lead (l := l.among vars) leads]
    exact overrideAll_perm apart perm
  case loaded =>
    intro once vars perm s h
    exact load_perm leads apart once perm h
  case ignored =>
    intro before v after split unknown
    have same : (l.among (before ++ after)).overridden = l.overridden := by
      rw [start, overridden_of_lead (l := l.among (before ++ after)) leads, split]
      exact (overrideAll_without unknown).symm
    exact ⟨same, by rw [load, same, load]⟩

end

/-- The binding that a variable names. -/
def bindingOf? (lead var : String) : Option String :=
  match variablePath? lead var with
  | some ["PIPELINE", "BINDINGS", raw] => some (Text.lower raw)
  | _ => none

/-- The binding that a variable names is found in its name. -/
lemma bindingOf?_of_named {lead var name : String} (named : (Slot.binding name).NamedBy lead var) :
    bindingOf? lead var = some name := by
  obtain ⟨path, behind, there⟩ := Slot.namedBy_iff.mp named
  cases there
  rw [bindingOf?, behind]
  rfl

/-- Variables of which some set fields, two set bindings and two name nothing. -/
def outfitted : Layers where
  settings := .standard
  lead := some "TEST"
  surroundings :=
    ⟨[], [("TEST__PIPELINE__BINDINGS__PUBLIC", ""), ("TEST__SERVER__MAX_CONNECTIONS", "50"),
    ("HOME", "/root"), ("TEST__PIPELINE__BINDINGS__Admin", "api"),
    ("TEST__SERVER___HTTP_ADDR", "127.0.0.1:9000"),
    ("TEST__LOGGING__FORMAT", "Compact")]⟩

/-- Of these variables those that name a slot set it, and nothing else is set. -/
theorem overridden_framed_outfitted :
    outfitted.lead = some "TEST" ∧ (outfitted.surroundings.environment.map Prod.fst).Nodup ∧
      outfitted.Framed "TEST" outfitted.surroundings.environment := by
  have leads : outfitted.lead = some "TEST" := rfl
  have distinct : (outfitted.surroundings.environment.map Prod.fst).Nodup := by decide
  have apart : outfitted.surroundings.environment.Pairwise fun v w =>
      bindingOf? "TEST" v.1 = none ∨ bindingOf? "TEST" v.1 ≠ bindingOf? "TEST" w.1 := by
        decide +kernel
  refine ⟨leads, distinct, overridden_framed leads distinct (apart.imp ?_)⟩
  intro v w other name here there
  rw [bindingOf?_of_named here, bindingOf?_of_named there] at other
  exact other.elim nofun fun h => h rfl

end Layers

end Gatehouse
