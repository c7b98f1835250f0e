import Gatehouse.Http.Native
import Gatehouse.Proofs.Named

/-!
# Messages that differ in one header

`Headers.SameBut name` relates header maps with the same names in the same order and the same
values, but that a single value of `name` may differ; `NativeResponse.SameBut name` relates answers
whose headers do.
-/

namespace Gatehouse

namespace Headers

/-- A name that is new comes last, and all others stay where they are. -/
lemma names_insert (h : Headers) (name : HeaderName) (v : HeaderValue) :
    (h.insert name v).names = if name ∈ h.names then h.names else h.names ++ [name] :=
  Named.keys_alter name _ h.entries

/-- Of two values inserted under one name the second one counts. -/
lemma insert_insert (h : Headers) (name : HeaderName) (v v' : HeaderValue) :
    (h.insert name v).insert name v' = h.insert name v' :=
  Headers.ext (Named.alter_alter name _ _ h.entries)

/-- Header maps that differ in a single value of one name. -/
structure SameBut (name : HeaderName) (h h' : Headers) : Prop where
  names : h.names = h'.names
  others : ∀ n, n ≠ name → h.values n = h'.values n
  single : h.values name = h'.values name ∨ ∃ v v', h.values name = [v] ∧ h'.values name = [v']

namespace SameBut

variable {name : HeaderName} {h h' : Headers}

/-- Headers differ from themselves in nothing. -/
lemma refl (h : Headers) : SameBut name h h := ⟨rfl, fun _ _ => rfl, .inl rfl⟩

/-- Two values inserted under one name are all in which the headers differ. -/
lemma inserted (h : Headers) (v v' : HeaderValue) :
    SameBut name (h.insert name v) (h.insert name v') := by
  constructor
  case names => rw [names_insert, names_insert]
  case others =>
    intro n hn
    rw [values_insert, values_insert, if_neg hn, if_neg hn]
  case single =>
    refine .inr ⟨v, v', ?_, ?_⟩
    · rw [values_insert, if_pos rfl]
    · rw [values_insert, if_pos rfl]

/-- A value inserted under another name makes no difference. -/
lemma insert (s : SameBut name h h') {n : HeaderName} (hn : n ≠ name) (v : HeaderValue) :
    SameBut name (h.insert n v) (h'.insert n v) := by
  constructor
  case names => rw [names_insert, names_insert, s.names]
  case others =>
    intro m hm
    rw [values_insert, values_insert, s.others m hm]
  case single =>
    rw [values_insert, values_insert, if_neg hn.symm, if_neg hn.symm]
    exact s.single

end SameBut

end Headers

/-- Answers that differ in a single value of one header. -/
structure NativeResponse.SameBut (name : HeaderName) (b b' : NativeResponse) : Prop where
  status : b.status = b'.status
  headers : Headers.SameBut name b.headers b'.headers
  body : b.body = b'.body

end Gatehouse
