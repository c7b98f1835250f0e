import Gatehouse.Assertion.Verifier
import Gatehouse.Proofs.Octets
import Gatehouse.Proofs.Time.Window

/-!
# What the checks of a verifier decide

Each check of an assertion is matched with the condition on the headers that it stands for, stated
on the octets of the header values.  `Decides x p e` says that the check `x` passes exactly the
values with the property `p` and refuses everything else for the one reason `e`.
-/

namespace Gatehouse.Assertion

/-- The first value of a name writes a text in printable ASCII. -/
def Writes (h : Headers) (name : HeaderName) (s : String) : Prop :=
  ∃ v vs, h.values name = v :: vs ∧ v.octets = Bytes.ofText s ∧
    ∀ b ∈ v.octets, (0x20 ≤ b ∧ b ≤ 0x7e) ∨ b = 0x09

/-- The first value of a name writes a text that is not empty. -/
def States (h : Headers) (name : HeaderName) (s : String) : Prop := Writes h name s ∧ s ≠ ""

/-- A text of blanks and tabs alone, or an empty one. -/
def IsBlank (s : String) : Prop := ∀ c ∈ s.toList, c = ' ' ∨ c = '\t'

/-- The tier that the headers state: free if no tier is written or only blanks are. -/
inductive StatesTier (h : Headers) : Tier → Prop where
  | absent : h.values tierHeader = [] → StatesTier h .free
  | blank {s} : Writes h tierHeader s → IsBlank s → StatesTier h .free
  | named {t} : Writes h tierHeader t.name → StatesTier h t

/-- A check that passes the values with a property and has one reason to refuse everything else. -/
structure Decides {α : Type} (x : Except Refusal α) (p : α → Prop) (e : Refusal) : Prop where
  passes : ∀ a, x = .ok a ↔ p a
  refuses : ∀ e', x = .error e' → e' = e

namespace Decides

variable {α : Type} {x : Except Refusal α} {p : α → Prop} {e : Refusal}

/-- A check decides what it passes with the only value that there is. -/
lemma of_ok {a : α} (hx : x = .ok a) (hp : ∀ b, p b ↔ a = b) : Decides x p e := by
  subst hx
  refine ⟨fun b => ?_, nofun⟩
  rw [hp, Except.ok.injEq]

/-- A check decides what it refuses for want of a value. -/
lemma of_error (hx : x = .error e) (hp : ∀ b, ¬ p b) : Decides x p e := by
  subst hx
  exact ⟨fun b => ⟨nofun, fun h => absurd h (hp b)⟩, fun _ h => by cases h; rfl⟩

/-- A check passes a value with the property, or refuses and there is none. -/
lemma cases (d : Decides x p e) : (∃ a, x = .ok a ∧ p a) ∨ (x = .error e ∧ ∀ a, ¬ p a) := by
  cases hx : x with
  | ok a => exact .inl ⟨a, rfl, (d.passes a).mp hx⟩
  | error e' =>
    have he := d.refuses e' hx
    subst he
    refine .inr ⟨rfl, fun a ha => ?_⟩
    have ok := (d.passes a).mpr ha
    rw [hx] at ok
    cases ok

/-- There is one value at most that a check can pass. -/
lemma unique (d : Decides x p e) {a b : α} (ha : p a) (hb : p b) : a = b := by
  have ea := (d.passes a).mpr ha
  have eb := (d.passes b).mpr hb
  rw [ea] at eb
  cases eb
  rfl

/-- Behind a check, what is refused for another reason has passed it. -/
lemma passed_of_bind {β : Type} {k : α → Except Refusal β} {e' : Refusal} (d : Decides x p e)
    (refused : (x >>= k) = .error e') (other : e ≠ e') : ∃ a, p a ∧ k a = .error e' := by
  rcases d.cases with ⟨a, rfl, ha⟩ | ⟨rfl, -⟩
  · exact ⟨a, ha, refused⟩
  · cases refused
    exact absurd rfl other

end Decides

/-- The text of a header is what its first value writes. -/
lemma text?_eq_some_iff {h : Headers} {name : HeaderName} {s : String} :
    h.text? name = some s ↔ Writes h name s := by
  have read (v : HeaderValue) : v.text? = some s ↔
      v.octets = Bytes.ofText s ∧ ∀ b ∈ v.octets, (0x20 ≤ b ∧ b ≤ 0x7e) ∨ b = 0x09 := by
    simp only [HeaderValue.text?, Bytes.visibleText?_eq_some_iff, Bytes.isVisible_iff]
  cases e : h.values name with
  | nil => simp [Headers.text?, Headers.first?, Writes, e]
  | cons v vs => simp [Headers.text?, Headers.first?, Writes, e, read]

/-- A value writes one text. -/
lemma Writes.unique {h : Headers} {name : HeaderName} {s s' : String} (w : Writes h name s)
    (w' : Writes h name s') : s = s' := by
  have e := text?_eq_some_iff.mpr w
  rw [text?_eq_some_iff.mpr w'] at e
  cases e
  rfl

/-- A verifier is refused that has no key. -/
lemma checkKey_decides (v : Verifier) : Decides v.checkKey (fun _ => v.key ≠ []) .emptyKey := by
  by_cases hk : v.key = []
  · exact .of_error (if_pos hk) fun _ h => h hk
  · exact .of_ok (if_neg hk) fun _ => ⟨fun _ => rfl, fun _ => hk⟩

/-- A header is missing unless its first value writes a text that is not empty. -/
lemma required_decides (h : Headers) (name : HeaderName) :
    Decides (required h name) (States h name) (.missingHeader name) := by
  cases e : h.text? name with
  | none =>
    refine .of_error (by rw [required, e]) fun s st => ?_
    rw [text?_eq_some_iff.mpr st.1] at e
    cases e
  | some s =>
    have w := text?_eq_some_iff.mp e
    by_cases hs : s = ""
    · refine .of_error (by rw [required, e]; exact if_pos hs) fun s' st => ?_
      exact st.2 (st.1.unique w ▸ hs)
    · refine .of_ok (by rw [required, e]; exact if_neg hs) fun s' => ⟨fun st => w.unique st.1, ?_⟩
      rintro rfl
      exact ⟨w, hs⟩

/-- A user id is invalid if a colon stands in it. -/
lemma checkUserId_decides {s : String} (hs : s ≠ "") :
    Decides (checkUserId s) (fun _ => ':' ∉ s.toList) .invalidUserId := by
  have hl : s.toList.isEmpty = false :=
    List.isEmpty_eq_false_iff.mpr fun h => hs (String.toList_eq_nil_iff.mp h)
  by_cases hc : ':' ∈ s.toList
  · exact .of_error (by simp [checkUserId, isUserId, hl, hc]) fun _ h => h hc
  · have passed : checkUserId s = .ok () := by simp [checkUserId, isUserId, hl, hc]
    exact .of_ok passed fun _ => ⟨fun _ => rfl, fun _ => hc⟩

/-- A tier is read from its name alone. -/
lemma ofName?_eq_some_iff {s : String} {t : Tier} : Tier.ofName? s = some t ↔ s = t.name := by
  constructor
  · intro h
    have found := List.find?_some h
    exact (beq_iff_eq.mp found).symm
  · rintro rfl
    exact Tier.ofName?_name t

/-- The name of a tier is not blank. -/
lemma not_isBlank_name (t : Tier) : ¬ IsBlank t.name := by
  intro blank
  cases t with
  | free => exact absurd (blank 'f' (by decide)) (by decide)
  | pro => exact absurd (blank 'p' (by decide)) (by decide)
  | business => exact absurd (blank 'b' (by decide)) (by decide)
  | enterprise => exact absurd (blank 'e' (by decide)) (by decide)

/-- A written tier is blank and free, or it is the name of the tier that is stated. -/
lemma StatesTier.of_writes {h : Headers} {t : Tier} {s : String} (w : Writes h tierHeader s)
    (st : StatesTier h t) : IsBlank s ∧ t = .free ∨ s = t.name := by
  cases st with
  | absent e => obtain ⟨v, vs, e', -⟩ := w; rw [e] at e'; cases e'
  | blank w' b => exact .inl ⟨w.unique w' ▸ b, rfl⟩
  | named w' => exact .inr (w.unique w')

/-- Without a header for it the tier is free. -/
lemma tierOf_of_absent {h : Headers} (e : h.values tierHeader = []) : tierOf h = .ok .free := by
  simp [tierOf, Headers.first?, e]

/-- A tier that is not printable ASCII is unknown. -/
lemma tierOf_of_unwritten {h : Headers} {v : HeaderValue} {vs : List HeaderValue}
    (e : h.values tierHeader = v :: vs) (et : v.text? = none) : tierOf h = .error .unknownTier := by
  simp [tierOf, Headers.first?, e, et]

/-- A written text is free if it is blank and is read as a name otherwise. -/
lemma tierOf_of_writes {h : Headers} {s : String} (w : Writes h tierHeader s) :
    (IsBlank s → tierOf h = .ok .free) ∧
      (¬ IsBlank s → tierOf h = (Tier.ofName? s).elim (.error .unknownTier) .ok) := by
  have ht := text?_eq_some_iff.mpr w
  obtain ⟨v, vs, e, -⟩ := w
  have hf : h.first? tierHeader = some v := by simp [Headers.first?, e]
  have et : v.text? = some s := by simpa [Headers.text?, hf] using ht
  have all : (s.toList.all fun c => c == ' ' || c == '\t') = true ↔ IsBlank s := by
    simp [IsBlank, List.all_eq_true]
  constructor
  · intro hb
    simp only [tierOf, hf, et, all.mpr hb, if_true]
  · intro hb
    have hb : (s.toList.all fun c => c == ' ' || c == '\t') = false :=
      Bool.eq_false_iff.mpr fun h => hb (all.mp h)
    simp only [tierOf, hf, et, hb, Bool.false_eq_true, if_false]
    cases Tier.ofName? s <;> rfl

/-- A tier is unknown unless the headers state one. -/
lemma tierOf_decides (h : Headers) : Decides (tierOf h) (StatesTier h) .unknownTier := by
  cases ev : h.values tierHeader with
  | nil =>
    refine .of_ok (tierOf_of_absent ev) fun t => ⟨fun st => ?_, fun e => e ▸ .absent ev⟩
    cases st with
    | absent => rfl
    | blank => rfl
    | named w => obtain ⟨v, vs, e, -⟩ := w; rw [ev] at e; cases e
  | cons v vs =>
    have ht : h.text? tierHeader = v.text? := by simp [Headers.text?, Headers.first?, ev]
    cases et : v.text? with
    | none =>
      have unwritten (s : String) : ¬ Writes h tierHeader s := by
        rw [← text?_eq_some_iff, ht, et]
        nofun
      refine .of_error (tierOf_of_unwritten ev et) fun t st => ?_
      cases st with
      | absent e => rw [ev] at e; cases e
      | blank w _ => exact unwritten _ w
      | named w => exact unwritten _ w
    | some s =>
      have w : Writes h tierHeader s := text?_eq_some_iff.mp (ht.trans et)
      by_cases hb : IsBlank s
      · refine .of_ok ((tierOf_of_writes w).1 hb) fun t => ⟨fun st => ?_, fun e => e ▸ .blank w hb⟩
        rcases st.of_writes w with ⟨-, rfl⟩ | rfl
        · rfl
        · exact absurd hb (not_isBlank_name t)
      · have read := (tierOf_of_writes w).2 hb
        have named {t} (st : StatesTier h t) : Tier.ofName? s = some t := by
          rcases st.of_writes w with ⟨b, -⟩ | e
          · exact absurd b hb
          · exact ofName?_eq_some_iff.mpr e
        cases en : Tier.ofName? s with
        | none =>
          refine .of_error (by rw [read, en]; rfl) fun t st => ?_
          rw [named st] at en
          cases en
        | some t =>
          have hn := ofName?_eq_some_iff.mp en
          refine .of_ok (by rw [read, en]; rfl) fun t' =>
            ⟨fun st => ?_, fun e => e ▸ .named (hn ▸ w)⟩
          rw [named st] at en
          cases en
          rfl

/-- A signature is 64 hexadecimal digits in small letters. -/
lemma isSignature_iff {s : String} :
    isSignature s = true ↔ s.toList.length = 64 ∧ ∀ c ∈ s.toList, Bytes.IsLowerHex c := by
  simp only [isSignature, signatureLength, Bytes.IsLowerHex, Bool.and_eq_true, beq_iff_eq,
    List.all_eq_true, Bool.or_eq_true, decide_eq_true_eq]

/-- Under a key with octets the signature of a text is the code in lowercase digits. -/
lemma signatureOf_eq {key : Bytes} (hk : key ≠ []) (text : String) :
    signatureOf key text = .ok (Bytes.toHex (Hmac.mac key (Bytes.ofText text))) := by
  rw [signatureOf, code, if_neg hk]
  rfl

/-- A code in hexadecimal digits is a signature. -/
lemma isSignature_toHex_mac (key message : Bytes) :
    isSignature (Bytes.toHex (Hmac.mac key message)) = true := by
  rw [isSignature_iff, Bytes.toHex, String.toList_ofList, Bytes.length_toHexChars, Hmac.length_mac]
  exact ⟨rfl, fun _ => Bytes.isLowerHex_of_mem_toHexChars⟩

/-- A signature passes exactly if it is the text that signing gives. -/
lemma checkSignature_decides {key : Bytes} (hk : key ≠ []) (text sig : String) :
    Decides (checkSignature key text sig)
      (fun _ => signatureOf key text = .ok sig) .signatureMismatch := by
  rw [signatureOf_eq hk]
  have hex : Bytes.ofHex? (Bytes.toHex (Hmac.mac key (Bytes.ofText text)))
      = some (Hmac.mac key (Bytes.ofText text)) := by
    rw [Bytes.ofHex?, Bytes.toHex, String.toList_ofList, Bytes.ofHexChars?_toHexChars]
  by_cases hs : isSignature sig = true
  · obtain ⟨-, lower⟩ := isSignature_iff.mp hs
    cases eh : Bytes.ofHex? sig with
    | none =>
      refine .of_error (by simp [checkSignature, hs, eh]) fun _ e => ?_
      cases e
      rw [hex] at eh
      cases eh
    | some given =>
      have back : Bytes.toHexChars given = sig.toList := Bytes.toHexChars_of_ofHexChars? lower eh
      have compared : checkSignature key text sig =
          if Hmac.mac key (Bytes.ofText text) = given then .ok ()
          else .error .signatureMismatch := by
        simp only [checkSignature, hs, eh, code, if_neg hk, Bool.not_true, Bool.false_eq_true,
          if_false]
        rfl
      by_cases hm : Hmac.mac key (Bytes.ofText text) = given
      · refine .of_ok (by rw [compared, if_pos hm]) fun _ => ⟨fun _ => rfl, fun _ => ?_⟩
        rw [hm, Bytes.toHex, back, String.ofList_toList]
      · refine .of_error (by rw [compared, if_neg hm]) fun _ e => ?_
        cases e
        rw [hex] at eh
        cases eh
        exact hm rfl
  · refine .of_error (by simp [checkSignature, hs]) fun _ e => ?_
    cases e
    exact hs (isSignature_toHex_mac _ _)

/-- A timestamp is malformed unless an instant can be read from it. -/
lemma instantOf_decides (timestamp : String) :
    Decides (instantOf timestamp)
      (fun t => Rfc3339.parse? timestamp = some t) .malformedTimestamp := by
  cases e : Rfc3339.parse? timestamp with
  | none => exact .of_error (by rw [instantOf, e]) fun _ read => by cases read
  | some t => exact .of_ok (by rw [instantOf, e]) fun t' => by rw [Option.some.injEq]

/-- The drift is checked against the skew itself. -/
lemma checkDrift_decides (skew : Skew) (now signedAt : Instant) :
    Decides (checkDrift skew now signedAt) (fun _ => (now.since signedAt).natAbs ≤ skew.toNanos)
      .expired := by
  by_cases hd : (now.since signedAt).natAbs ≤ skew.toNanos
  · have ha := (skew.accepts_since_iff now signedAt).mpr hd
    exact .of_ok (if_pos ha) fun _ => ⟨fun _ => rfl, fun _ => hd⟩
  · have ha : ¬ skew.accepts (now.since signedAt) = true :=
      fun h => hd ((skew.accepts_since_iff now signedAt).mp h)
    exact .of_error (if_neg ha) fun _ => hd

end Gatehouse.Assertion
