import Gatehouse.Proofs.Settings.Loaded
import Gatehouse.Proofs.Text.Fields

/-!
# What variables can set

What variables can set are the slots of settings: the fields with a fixed name, and the bindings,
named by the variable.  What the slots hold determines settings up to the order of their bindings
(`Settings.alike_of_held`).  A variable names a slot exactly if the path in it is that of the slot
(`Settings.Slot.namedBy_iff`), and it sets this slot to what its value says and leaves the others as
they are (`Settings.overrides_override`).
-/

namespace Gatehouse

namespace Settings

/-- The fields that variables can override. -/
inductive Field where
  | address
  | shutdownSeconds
  | maxConnections
  | requestMillis
  | chainsEnabled
  | secret
  | skewSeconds
  | logsEnabled
  | logLevel
  | logFormat
  | metricsEnabled
  | metricsAddress

/-- How the value of a variable is read. -/
inductive Form where
  | text
  | word
  | truth
  | format

/-- What is read. -/
inductive Held where
  | text (s : String)
  | word (n : Nat)
  | truth (b : Bool)
  | format (f : LogFormat)

namespace Form

/-- What a value says, if it has the form. -/
def read? : Form → String → Option Held
  | text, value => some (.text value)
  | word, value => (Text.unsigned? Text.maxWord value.toList).map .word
  | truth, value => (truthWords.lookup (Text.lower value)).map .truth
  | format, value => (LogFormat.ofName? (Text.lower value)).map .format

/-- What is said about a value without the form; every text has the form of a text. -/
def expected : Form → String
  | text => ""
  | word => "expected integer"
  | truth => "expected boolean"
  | format => "expected 'json', 'pretty' or 'compact'"

/-- Every text has the form of a text. -/
lemma ne_text_of_unread {f : Form} {value : String} (unread : f.read? value = none) : f ≠ text := by
  rintro rfl
  cases unread

end Form

namespace Field

/-- The fields in the order of their groups. -/
def all : List Field :=
  [address, shutdownSeconds, maxConnections, requestMillis, chainsEnabled, secret, skewSeconds,
    logsEnabled, logLevel,
    logFormat, metricsEnabled, metricsAddress]

/-- The group and the name of a field in variables. -/
def place : Field → String × String
  | address => ("SERVER", "HTTP_ADDR")
  | shutdownSeconds => ("SERVER", "SHUTDOWN_TIMEOUT_SECS")
  | maxConnections => ("SERVER", "MAX_CONNECTIONS")
  | requestMillis => ("SERVER", "REQUEST_TIMEOUT_MS")
  | chainsEnabled => ("PIPELINE", "ENABLED")
  | secret => ("ASSERTION", "SHARED_SECRET")
  | skewSeconds => ("ASSERTION", "TIMESTAMP_SKEW_SECS")
  | logsEnabled => ("LOGGING", "ENABLED")
  | logLevel => ("LOGGING", "LEVEL")
  | logFormat => ("LOGGING", "FORMAT")
  | metricsEnabled => ("METRICS", "ENABLED")
  | metricsAddress => ("METRICS", "ADDR")

/-- The form of the values of a field. -/
def form : Field → Form
  | address | secret | logLevel | metricsAddress => .text
  | shutdownSeconds | maxConnections | requestMillis | skewSeconds => .word
  | chainsEnabled | logsEnabled | metricsEnabled => .truth
  | logFormat => .format

/-- What a field holds. -/
def held (s : Settings) : Field → Held
  | address => .text s.listen.address
  | shutdownSeconds => .word s.listen.shutdownSeconds
  | maxConnections => .word s.listen.maxConnections
  | requestMillis => .word s.listen.requestMillis
  | chainsEnabled => .truth s.chains.enabled
  | secret => .text s.key.secret
  | skewSeconds => .word s.key.skewSeconds
  | logsEnabled => .truth s.logs.enabled
  | logLevel => .text s.logs.level
  | logFormat => .format s.logs.format
  | metricsEnabled => .truth s.metrics.enabled
  | metricsAddress => .text s.metrics.address

/-- No two fields stand in one place. -/
lemma place_inj {f g : Field} (h : f.place = g.place) : f = g := by
  have distinct : (all.map place).Nodup := by decide
  have mem_all : ∀ f, f ∈ all := by
    intro f
    cases f <;> simp [all]
  exact List.inj_on_of_nodup_map distinct (mem_all f) (mem_all g) h

end Field

/-- What a variable can set. -/
inductive Slot where
  | field (f : Field)
  | binding (name : String)

namespace Slot

/-- The form of the values of a slot. -/
def form : Slot → Form
  | field f => f.form
  | binding _ => .text

/-- What a value makes of a slot, if it can be read; an empty value empties a binding. -/
def read? : Slot → String → Option (Option Held)
  | field f, value => (f.form.read? value).map some
  | binding _, value => some (if value = "" then none else some (.text value))

/-- What a slot holds; a name that is not bound holds nothing. -/
def held (s : Settings) : Slot → Option Held
  | field f => some (f.held s)
  | binding name => (s.chains.bindings.find? name).map .text

/-- The variables that name a slot behind a lead. -/
inductive NamedBy (lead : String) : Slot → String → Prop
  | field (f : Field) : NamedBy lead (.field f) (lead ++ "__" ++ (f.place.1 ++ "__" ++ f.place.2))
  | binding (raw : String) (whole : ¬ ['_', '_'] <:+: raw.toList) :
    NamedBy lead (.binding (Text.lower raw)) (lead ++ "__" ++ ("PIPELINE__BINDINGS__" ++ raw))

/-- The path of a slot. -/
inductive At : Slot → List String → Prop
  | field (f : Field) : At (.field f) [f.place.1, f.place.2]
  | binding (raw : String) : At (.binding (Text.lower raw)) ["PIPELINE", "BINDINGS", raw]

/-- One slot at most stands at a path. -/
lemma At.unique {a b : Slot} {path : List String} (ha : a.At path) (hb : b.At path) : a = b := by
  generalize e : path = path' at hb
  cases ha with
  | field f =>
    cases hb with
    | field g =>
      injection e with group e
      injection e with name _
      rw [Field.place_inj (Prod.ext group name)]
    | binding raw => exact nomatch (congrArg List.length e : 2 = 3)
  | binding raw =>
    cases hb with
    | field g => exact nomatch (congrArg List.length e : 3 = 2)
    | binding raw' =>
      cases e
      rfl

end Slot

/-- What no variable can set. -/
def lasting (s : Settings) : Named (List String) × Bool × Bool × List Binary64 :=
  (s.chains.kinds, s.logs.spanEvents, s.logs.includeTarget, s.metrics.buckets)

/-- Settings that differ in nothing but the order of their bindings. -/
structure Alike (s s' : Settings) : Prop where
  bindings : ∀ name, s.chains.bindings.find? name = s'.chains.bindings.find? name
  rest : { s with chains := { s.chains with bindings := [] } } =
    { s' with chains := { s'.chains with bindings := [] } }

section

variable {a b : Settings}

/-- Settings are determined by what their slots hold, up to the order of the bindings. -/
lemma alike_of_held (held : ∀ slot : Slot, slot.held a = slot.held b)
    (lasting : a.lasting = b.lasting) : a.Alike b := by
  refine ⟨fun name => ?_, ?_⟩
  · exact Option.map_injective (fun _ _ => Held.text.inj) (held (.binding name))
  · have fields : ∀ f : Field, f.held a = f.held b := fun f => Option.some.inj (held (.field f))
    obtain ⟨⟨_, _, _, _⟩, ⟨_, _, _⟩, ⟨_, _⟩, ⟨_, _, _, _, _⟩, ⟨_, _, _⟩⟩ := a
    obtain ⟨⟨_, _, _, _⟩, ⟨_, _, _⟩, ⟨_, _⟩, ⟨_, _, _, _, _⟩, ⟨_, _, _⟩⟩ := b
    cases lasting
    cases fields .address
    cases fields .shutdownSeconds
    cases fields .maxConnections
    cases fields .requestMillis
    cases fields .chainsEnabled
    cases fields .secret
    cases fields .skewSeconds
    cases fields .logsEnabled
    cases fields .logLevel
    cases fields .logFormat
    cases fields .metricsEnabled
    cases fields .metricsAddress
    rfl

end

/-- The path that stands in a variable behind its lead. -/
def keyPath (key : String) : List String :=
  (Text.splitOnMany ['_', '_'] key.toList).map String.ofList

/-- A variable has a path if it begins with the lead and two underscores. -/
lemma variablePath?_eq_some_iff {lead var : String} {path : List String} :
    variablePath? lead var = some path ↔ ∃ key, var = lead ++ "__" ++ key ∧ path = keyPath key := by
  unfold variablePath?
  simp only [Option.bind_eq_bind, Option.bind_eq_some_iff, Text.stripLead?_eq_some_iff,
    Option.pure_def, Option.some_inj]
  constructor
  · rintro ⟨rest, behind, cs, rfl, rfl⟩
    refine ⟨String.ofList cs, ?_, by rw [keyPath, String.toList_ofList]⟩
    apply String.toList_injective
    rw [behind, String.toList_append, String.toList_append, String.toList_ofList (l := cs),
      List.append_assoc]
    rfl
  · rintro ⟨key, rfl, rfl⟩
    refine ⟨'_' :: '_' :: key.toList, ?_, key.toList, rfl, rfl⟩
    rw [String.toList_append, String.toList_append, List.append_assoc]
    rfl

/-- A key is its path again, with separators between. -/
lemma toList_of_keyPath {key : String} {path : List String} (h : keyPath key = path) :
    key.toList = List.intercalate ['_', '_'] (path.map String.toList) := by
  rw [← h, keyPath, List.map_map, Function.comp_def]
  simp only [String.toList_ofList, List.map_id']
  exact (Text.intercalate_splitOnMany _ _).symm

/-- The path of a field is its group and its name. -/
lemma keyPath_field (f : Field) :
    keyPath (f.place.1 ++ "__" ++ f.place.2) = [f.place.1, f.place.2] := by
  cases f <;> rfl

/-- The path of a binding ends with that of its name. -/
lemma keyPath_binding (raw : String) :
    keyPath ("PIPELINE__BINDINGS__" ++ raw) = "PIPELINE" :: "BINDINGS" :: keyPath raw := by
  rw [keyPath, String.toList_append]
  rfl

/-- A name is a path of one part if no two underscores stand in it. -/
lemma keyPath_eq_self_iff {raw : String} : keyPath raw = [raw] ↔ ¬ ['_', '_'] <:+: raw.toList := by
  rw [← Text.splitOnMany_eq_self_iff (List.cons_ne_nil _ _), keyPath]
  constructor
  · intro h
    have whole := congrArg (List.map String.toList) h
    simpa [List.map_map, Function.comp_def, String.toList_ofList] using whole
  · intro h
    rw [h, List.map_singleton, String.ofList_toList]

/-- The variables that name a slot are those with its path. -/
lemma Slot.namedBy_iff {lead var : String} {slot : Slot} :
    slot.NamedBy lead var ↔ ∃ path, variablePath? lead var = some path ∧ slot.At path := by
  constructor
  · intro named
    cases named with
    | field f => exact ⟨_, variablePath?_eq_some_iff.mpr ⟨_, rfl, (keyPath_field f).symm⟩, .field f⟩
    | binding raw whole =>
      refine ⟨_, variablePath?_eq_some_iff.mpr ⟨_, rfl, ?_⟩, .binding raw⟩
      rw [keyPath_binding, keyPath_eq_self_iff.mpr whole]
  · rintro ⟨path, behind, there⟩
    obtain ⟨key, rfl, h⟩ := variablePath?_eq_some_iff.mp behind
    have chars := toList_of_keyPath h.symm
    cases there with
    | field f =>
      have same : key = f.place.1 ++ "__" ++ f.place.2 := by
        apply String.toList_injective
        rw [chars, String.toList_append, String.toList_append]
        simp [List.intercalate_cons_cons]
      subst same
      exact .field f
    | binding raw =>
      have same : key = "PIPELINE__BINDINGS__" ++ raw := by
        apply String.toList_injective
        rw [chars, String.toList_append]
        simp [List.intercalate_cons_cons]
      subst same
      rw [keyPath_binding, List.cons.injEq, List.cons.injEq] at h
      exact .binding raw (keyPath_eq_self_iff.mp h.2.2.symm)

/-- A variable names one slot at most. -/
lemma Slot.NamedBy.unique {lead var : String} {a b : Slot} (ha : a.NamedBy lead var)
    (hb : b.NamedBy lead var) :
    a = b := by
  obtain ⟨path, behind, there⟩ := Slot.namedBy_iff.mp ha
  obtain ⟨path', behind', there'⟩ := Slot.namedBy_iff.mp hb
  cases behind.symm.trans behind'
  exact there.unique there'

/-- Settings of which one slot was set. -/
structure Sets (slot : Slot) (held : Option Held) (s s' : Settings) : Prop where
  here : slot.held s' = held
  elsewhere : ∀ other, other ≠ slot → other.held s' = other.held s
  lasting : s'.lasting = s.lasting

/-- What comes of a variable that names a slot. -/
inductive Overrides (s : Settings) (var : String) (slot : Slot) (value : String) :
    Except SettingsError Settings → Prop
  | set {held : Option Held} {s' : Settings} (read : slot.read? value = some held)
    (sets : s.Sets slot held s') :
    Overrides s var slot value (.ok s')
  | refused (unread : slot.read? value = none) :
    Overrides s var slot value (.error (.environment var slot.form.expected))

/-- What comes of a value that is to have a form. -/
inductive Form.Reads {α : Type} (f : Form) (var value : String) (hold : α → Held) :
    Except SettingsError α → Prop
  | ok {a : α} (read : f.read? value = some (hold a)) : Reads f var value hold (.ok a)
  | error (unread : f.read? value = none) :
    Reads f var value hold (.error (.environment var f.expected))

section Step

variable {s s' : Settings} {var value : String}

/-- A number is read or refused. -/
lemma reads_word : Form.word.Reads var value .word (overrideWord var value) := by
  unfold overrideWord
  split
  case h_1 n e => exact .ok (by rw [Form.read?, e, Option.map_some])
  case h_2 e => exact .error (by rw [Form.read?, e, Option.map_none])

/-- A truth value is read or refused. -/
lemma reads_truth : Form.truth.Reads var value .truth (overrideTruth var value) := by
  unfold overrideTruth
  split
  case h_1 b e => exact .ok (by rw [Form.read?, e, Option.map_some])
  case h_2 e => exact .error (by rw [Form.read?, e, Option.map_none])

/-- A format is read or refused. -/
lemma reads_format : Form.format.Reads var value .format (overrideFormat var value) := by
  unfold overrideFormat
  split
  case h_1 f e => exact .ok (by rw [Form.read?, e, Option.map_some])
  case h_2 e => exact .error (by rw [Form.read?, e, Option.map_none])

/-- A slot that is a field was set if it holds the value and all else is as before. -/
lemma Sets.field {f : Field} {held : Held} (here : f.held s' = held)
    (others : ∀ g, g ≠ f → g.held s' = g.held s)
    (bindings : s'.chains.bindings = s.chains.bindings) (lasting : s'.lasting = s.lasting) :
    s.Sets (.field f) (some held) s' := by
  refine ⟨congrArg some here, ?_, lasting⟩
  rintro (g | name) other
  · exact congrArg some (others g fun e => other (congrArg Slot.field e))
  · exact congrArg (fun bs => (Named.find? bs name).map Held.text) bindings

/-- A field is overridden by the value that is read, or not at all. -/
lemma Overrides.map {α : Type} {f : Field} {hold : α → Held} {x : Except SettingsError α}
    {g : α → Settings}
    (reads : f.form.Reads var value hold x) (sets : ∀ a, s.Sets (.field f) (some (hold a)) (g a)) :
    s.Overrides var (.field f) value (x.map g) := by
  cases reads with
  | ok read => exact .set (congrArg (Option.map some) read) (sets _)
  | error unread => exact .refused (congrArg (Option.map some) unread)

/-- A variable at the path of a field overrides it. -/
lemma override_field (f : Field) :
    s.Overrides var (.field f) value (s.override var [f.place.1, f.place.2] value) := by
  cases f
  case address | secret | logLevel | metricsAddress =>
    refine .set rfl (.field rfl ?_ rfl rfl)
    intro g other
    cases g <;> first | rfl | exact absurd rfl other
  case shutdownSeconds | maxConnections | requestMillis | skewSeconds =>
    refine .map reads_word fun n => .field rfl ?_ rfl rfl
    intro g other
    cases g <;> first | rfl | exact absurd rfl other
  case chainsEnabled | logsEnabled | metricsEnabled =>
    refine .map reads_truth fun n => .field rfl ?_ rfl rfl
    intro g other
    cases g <;> first | rfl | exact absurd rfl other
  case logFormat =>
    refine .map reads_format fun n => .field rfl ?_ rfl rfl
    intro g other
    cases g <;> first | rfl | exact absurd rfl other

/-- A variable at the path of a binding overrides it. -/
lemma override_binding (raw : String) :
    s.Overrides var (.binding (Text.lower raw)) value (s.override var ["PIPELINE", "BINDINGS",
      raw] value) := by
  refine .set rfl ⟨?_, ?_, rfl⟩
  · change (Named.find? (overrideBinding s.chains.bindings (Text.lower raw) value)
      (Text.lower raw)).map Held.text = _
    rw [overrideBinding]
    split
    · rw [Named.find?_drop, if_pos rfl]
      rfl
    · rw [Named.find?_put, if_pos rfl]
      rfl
  · rintro (f | name) other
    · cases f <;> rfl
    · have apart : name ≠ Text.lower raw := fun e => other (congrArg Slot.binding e)
      change (Named.find? (overrideBinding s.chains.bindings (Text.lower raw) value) name).map
        Held.text = _
      rw [overrideBinding]
      split
      · rw [Named.find?_drop, if_neg apart]
        rfl
      · rw [Named.find?_put, if_neg apart]
        rfl

/-- A path sets the one slot that it names, if the value can be read. -/
lemma overrides_override {slot : Slot} {path : List String} (there : slot.At path) :
    s.Overrides var slot value (s.override var path value) := by
  cases there with
  | field f => exact override_field f
  | binding raw => exact override_binding raw

/-- A variable at another path changes nothing. -/
lemma override_of_not_at {path : List String} (nowhere : ∀ slot : Slot, ¬ slot.At path) :
    s.override var path value = .ok s := by
  unfold override
  split
  case h_1 => exact absurd (.field .address) (nowhere _)
  case h_2 => exact absurd (.field .shutdownSeconds) (nowhere _)
  case h_3 => exact absurd (.field .maxConnections) (nowhere _)
  case h_4 => exact absurd (.field .requestMillis) (nowhere _)
  case h_5 => exact absurd (.field .chainsEnabled) (nowhere _)
  case h_6 raw => exact absurd (.binding raw) (nowhere _)
  case h_7 => exact absurd (.field .secret) (nowhere _)
  case h_8 => exact absurd (.field .skewSeconds) (nowhere _)
  case h_9 => exact absurd (.field .logsEnabled) (nowhere _)
  case h_10 => exact absurd (.field .logLevel) (nowhere _)
  case h_11 => exact absurd (.field .logFormat) (nowhere _)
  case h_12 => exact absurd (.field .metricsEnabled) (nowhere _)
  case h_13 => exact absurd (.field .metricsAddress) (nowhere _)
  case h_14 => rfl

end Step

end Settings

end Gatehouse
