import Gatehouse.Proofs.Server.Installation
import Gatehouse.Settings.Layers

/-!
# Settings that are loaded

Settings pass their check exactly if they are valid (`Settings.check_ok_iff`).  Texts, files and
variables bind each name once, so whatever is loaded is valid and binds each name to one kind
(`Layers.of_load`).
-/

namespace Gatehouse

namespace Settings

/-- Settings that a server can be built from. -/
structure Valid (s : Settings) : Prop where
  address : (SocketAddr.parse? s.listen.address).isSome
  secret : s.chains.enabled = true → KeySettings.shortest ≤ s.key.secret.length
  skew : s.key.skewSeconds ≠ 0
  known : ∀ b ∈ s.chains.bindings, s.chains.knows b.2 = true
  metrics : s.metrics.enabled = true → (SocketAddr.parse? s.metrics.address).isSome

/-- An address passes if it can be read. -/
lemma checkAddress_ok_iff {field address : String} :
    checkAddress field address = .ok () ↔ (SocketAddr.parse? address).isSome := by
  unfold checkAddress
  cases SocketAddr.parse? address with
  | none => exact iff_of_false nofun nofun
  | some a => exact iff_of_true rfl rfl

/-- A secret passes if it is long enough. -/
lemma checkSecret_ok_iff {secret : String} :
    checkSecret secret = .ok () ↔ KeySettings.shortest ≤ secret.length := by
  have positive : 0 < KeySettings.shortest := by decide
  unfold checkSecret
  split
  case isTrue empty => exact iff_of_false nofun (by omega)
  case isFalse =>
    split
    case isTrue short => exact iff_of_false nofun (by omega)
    case isFalse long => exact iff_of_true rfl (by omega)

/-- Bindings pass if all their kinds are known. -/
lemma checkBindings_ok_iff {c : ChainSettings} {bs : Named String} :
    checkBindings c bs = .ok () ↔ ∀ b ∈ bs, c.knows b.2 = true := by
  induction bs with
  | nil => exact iff_of_true rfl nofun
  | cons b bs ih =>
    rw [checkBindings, List.forall_mem_cons]
    by_cases known : c.knows b.2 = true
    · rw [if_pos known, ih, and_iff_right known]
    · rw [if_neg known]
      exact iff_of_false nofun fun h => known h.1

/-- Two checks pass if both do. -/
private lemma bind_ok_iff {x y : Except SettingsError Unit} :
    (x >>= fun _ => y) = .ok () ↔ x = .ok () ∧ y = .ok () := by
  cases x with
  | error e => exact iff_of_false nofun (fun h => nomatch h.1)
  | ok u => exact (and_iff_right rfl).symm

/-- Two checks of which the first may be left out pass if those that are made do. -/
private lemma ite_bind_ok_iff {c : Prop} [Decidable c] {x y : Except SettingsError Unit} :
    (if c then x >>= fun _ => y else y) = .ok () ↔ (c → x = .ok ()) ∧ y = .ok () := by
  by_cases hc : c
  · rw [if_pos hc, bind_ok_iff, forall_prop_of_true hc]
  · rw [if_neg hc, and_iff_right fun h => absurd h hc]

/-- Settings pass their check exactly if they are valid. -/
lemma check_ok_iff {s : Settings} : s.check = .ok () ↔ s.Valid := by
  have metrics :
      (if s.metrics.enabled = true then checkAddress "metrics.addr" s.metrics.address else pure ())
        = .ok () ↔ (s.metrics.enabled = true → (SocketAddr.parse? s.metrics.address).isSome) := by
    split
    case isTrue on => rw [checkAddress_ok_iff, forall_prop_of_true on]
    case isFalse off => exact iff_of_true rfl fun on => absurd on off
  have skew : (s.key.skewSeconds = 0 →
    (throw (.invalid "assertion.timestamp_skew_secs" "must be greater than zero") :
    Except SettingsError Unit) = .ok ()) ↔ s.key.skewSeconds ≠ 0 :=
    ⟨fun h zero => (nomatch h zero), fun h zero => absurd zero h⟩
  simp only [check, bind_ok_iff, ite_bind_ok_iff, checkAddress_ok_iff, checkSecret_ok_iff,
    checkBindings_ok_iff, skew, metrics]
  exact ⟨fun ⟨address, secret, skew, known, metrics⟩ => ⟨address, secret, skew, known, metrics⟩,
    fun ⟨address, secret, skew, known, metrics⟩ => ⟨address, secret, skew, known, metrics⟩⟩

/-- Settings that bind each name once. -/
def BindsOnce (s : Settings) : Prop := s.chains.bindings.keys.Nodup

/-- The standard settings bind each name once. -/
lemma bindsOnce_standard : standard.BindsOnce := by
  have distinct : standard.chains.bindings.keys.Nodup := by decide
  exact distinct

/-- The settings for development bind each name once. -/
lemma bindsOnce_development : development.BindsOnce := bindsOnce_standard

/-- Entries that are read have each key once. -/
lemma unique_field {α : Type} {item : Json → Option α} {standard m : Named α}
    (unique : standard.keys.Nodup)
    {j : Option Json} (read : field (Json.asNamed? item) standard j = some m) : m.keys.Nodup := by
  cases j with
  | none =>
    cases read
    exact unique
  | some j =>
    cases j with
    | obj ms =>
      obtain ⟨ps, -, rfl⟩ := Option.map_eq_some_iff.mp read
      exact Named.nodup_ofPairs ps
    | _ => cases read

/-- No name is bound twice by what is read of chains. -/
lemma unique_chains? {f : SettingsFormat} {j : Json} {c : ChainSettings}
    (read : chains? f j = some c) :
    c.bindings.keys.Nodup := by
  obtain ⟨fields, -, read⟩ := Option.bind_eq_some_iff.mp read
  match fields with
  | [enabled, kinds, bindings] =>
    obtain ⟨_, -, read⟩ := Option.bind_eq_some_iff.mp read
    obtain ⟨_, -, read⟩ := Option.bind_eq_some_iff.mp read
    obtain ⟨_, bound, read⟩ := Option.bind_eq_some_iff.mp read
    cases read
    exact unique_field bindsOnce_standard bound

/-- Settings that are read from data bind each name once. -/
lemma bindsOnce_ofData? {f : SettingsFormat} {j : Json} {s : Settings}
    (read : ofData? f j = some s) :
    s.BindsOnce := by
  obtain ⟨groups, -, read⟩ := Option.bind_eq_some_iff.mp read
  match groups with
  | [listen, chains, key, logs, metrics] =>
    obtain ⟨_, -, read⟩ := Option.bind_eq_some_iff.mp read
    obtain ⟨c, chosen, read⟩ := Option.bind_eq_some_iff.mp read
    obtain ⟨_, -, read⟩ := Option.bind_eq_some_iff.mp read
    obtain ⟨_, -, read⟩ := Option.bind_eq_some_iff.mp read
    obtain ⟨_, -, read⟩ := Option.bind_eq_some_iff.mp read
    cases read
    cases chains with
    | none =>
      cases chosen
      exact bindsOnce_standard
    | some j => exact unique_chains? chosen

/-- Settings that are read from the data of a text bind each name once. -/
lemma bindsOnce_data {f : SettingsFormat} {text : String} {s : Settings}
    (read : dataOf? f text >>= ofData? f = some s) : s.BindsOnce := by
  obtain ⟨j, -, read⟩ := Option.bind_eq_some_iff.mp read
  exact bindsOnce_ofData? read

/-- Settings that are read from a text bind each name once. -/
lemma bindsOnce_ofText {text format : String} {s : Settings} (read : ofText text format = .ok s) :
    s.BindsOnce := by
  simp only [ofText] at read
  split at read
  case isTrue toml =>
    split at read
    case h_1 s' data =>
      cases read
      exact bindsOnce_data data
    case h_2 => cases read
  case isFalse =>
    split at read
    case isTrue json =>
      split at read
      case h_1 s' data =>
        cases read
        exact bindsOnce_data data
      case h_2 => cases read
    case isFalse => cases read

/-- Bindings that no change touches are as before. -/
lemma bindings_of_map {α : Type} {x : Except SettingsError α} {f : α → Settings} {bs : Named String}
    {s : Settings}
    (h : x.map f = .ok s) (same : ∀ a, (f a).chains.bindings = bs) : s.chains.bindings = bs := by
  cases x with
  | error e => cases h
  | ok a =>
    cases h
    exact same a

/-- Overriding one field leaves the bindings as they are or changes one of them. -/
lemma bindings_override {s s' : Settings} {var value : String} {path : List String}
    (h : s.override var path value = .ok s') : s'.chains.bindings = s.chains.bindings ∨
      ∃ name, s'.chains.bindings = overrideBinding s.chains.bindings name value := by
  -- one path names a binding; the others set a field beside the bindings, or nothing
  unfold override at h
  split at h
  case h_6 name =>
    cases h
    exact .inr ⟨Text.lower name, rfl⟩
  all_goals first
    | exact .inl (bindings_of_map h fun _ => rfl)
    | cases h; exact .inl rfl

/-- An override leaves each name bound once. -/
lemma bindsOnce_override {s s' : Settings} {var value : String} {path : List String}
    (once : s.BindsOnce) (h : s.override var path value = .ok s') : s'.BindsOnce := by
  unfold BindsOnce
  rcases bindings_override h with same | ⟨name, bound⟩
  · rw [same]
    exact once
  · rw [bound, overrideBinding]
    split
    case isTrue => exact Named.nodup_drop once name
    case isFalse => exact Named.nodup_put once name value

/-- Overrides leave each name bound once. -/
lemma bindsOnce_overrideAll {lead : String} {vars : List (String × String)} {s s' : Settings}
    (once : s.BindsOnce) (h : overrideAll lead s vars = .ok s') : s'.BindsOnce := by
  induction vars generalizing s with
  | nil =>
    cases h
    exact once
  | cons var vars ih =>
    obtain ⟨var, value⟩ := var
    rw [overrideAll] at h
    cases hp : variablePath? lead var with
    | none =>
      rw [hp] at h
      exact ih once h
    | some path =>
      simp only [hp] at h
      cases ho : s.override var path value with
      | error e => rw [ho] at h; cases h
      | ok s₁ =>
        rw [ho] at h
        exact ih (bindsOnce_override once ho) h

end Settings

namespace Layers

/-- Settings that are read from a file bind each name once. -/
lemma bindsOnce_readFile {sur : Surroundings} {path : String} {s : Settings}
    (read : readFile sur path = .ok s) :
    s.BindsOnce := by
  unfold readFile at read
  split at read
  case h_1 => cases read
  case h_2 => cases read
  case h_3 octets found =>
    split at read
    case h_1 => cases read
    case h_2 text decoded => exact Settings.bindsOnce_ofText read

/-- Layers with settings that are read bind each name once. -/
lemma bindsOnce_of_map {l l' : Layers} {x : Except SettingsError Settings}
    (read : ∀ s, x = .ok s → s.BindsOnce) (h : (x.map fun s => { l with settings := s }) = .ok l') :
    l'.settings.BindsOnce := by
  cases x with
  | error e => cases h
  | ok s =>
    cases h
    exact read s rfl

/-- A step leaves settings that bind each name once. -/
lemma bindsOnce_step {l l' : Layers} {st : SettingsStep} (once : l.settings.BindsOnce)
    (h : l.step st = .ok l') :
    l'.settings.BindsOnce := by
  match st, h with
  | .development, h =>
    cases h
    exact Settings.bindsOnce_development
  | .text content format, h => exact bindsOnce_of_map (fun s => Settings.bindsOnce_ofText) h
  | .file path, h => exact bindsOnce_of_map (fun s => bindsOnce_readFile) h
  | .optionalFile path, h =>
    rw [step] at h
    split at h
    case isTrue missing =>
      cases h
      exact once
    case isFalse => exact bindsOnce_of_map (fun s => bindsOnce_readFile) h
  | .variables, h =>
    cases h
    exact once
  | .lead name, h =>
    cases h
    exact once

/-- Steps of loading leave each name bound once. -/
lemma bindsOnce_steps {l l' : Layers} {sts : List SettingsStep} (once : l.settings.BindsOnce)
    (h : l.steps sts = .ok l') : l'.settings.BindsOnce := by
  induction sts generalizing l with
  | nil =>
    cases h
    exact once
  | cons st sts ih =>
    rw [steps] at h
    cases hs : l.step st with
    | error e => rw [hs] at h; cases h
    | ok l₁ =>
      rw [hs] at h
      exact ih (bindsOnce_step once hs) h

/-- What is loaded is valid and binds each name once. -/
lemma of_load {sur : Surroundings} {sts : List SettingsStep} {l : Layers} {s : Settings}
    (made : (start sur).steps sts = .ok l) (loaded : l.load = .ok s) : s.Valid ∧ s.BindsOnce := by
  have once := bindsOnce_steps (l := start sur) Settings.bindsOnce_standard made
  unfold load at loaded
  cases ho : l.overridden with
  | error e => rw [ho] at loaded; cases loaded
  | ok s₁ =>
    simp only [ho] at loaded
    cases hc : s₁.check with
    | error e => rw [hc] at loaded; cases loaded
    | ok u =>
      rw [hc] at loaded
      cases loaded
      refine ⟨Settings.check_ok_iff.mp hc, ?_⟩
      unfold overridden at ho
      cases hl : l.lead with
      | none =>
        rw [hl] at ho
        cases ho
        exact once
      | some lead =>
        rw [hl] at ho
        exact Settings.bindsOnce_overrideAll once ho

end Layers

end Gatehouse
