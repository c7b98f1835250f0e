import Gatehouse.Proofs.Assertion.Conditions
import Gatehouse.Proofs.Http.Values
import Gatehouse.Proofs.Stage.Gate
import Gatehouse.Stage.Identify
import Gatehouse.Stage.Journal

/-!
# Chains of the stages that are there

None of the stages that come with the server waits, so chains of them always finish at once.
`BuiltIn.settle` is the answer that comes out of such a chain in front of a handler that only looks
at the stores: the refusal of its first gate that refuses the request, or else the handler's answer
with all claims in the store.  The stages change nothing else of it than the request id
(`BuiltIn.halt_stages`).
-/

namespace Gatehouse

namespace Assertion

/-- Request ids do not matter to a verifier. -/
lemma verify_congr {h h' : Headers}
    (e : ∀ name, name ≠ HeaderName.requestId → h'.values name = h.values name)
    (v : Verifier) (elapsed : Nat) : v.verify h' elapsed = v.verify h elapsed := by
  have text (name : HeaderName) (hn : name ≠ HeaderName.requestId) :
      required h' name = required h name := by
    unfold required Headers.text? Headers.first?
    rw [e name hn]
  have tier : tierOf h' = tierOf h := by
    unfold tierOf Headers.first?
    rw [e tierHeader (by decide)]
  unfold Verifier.verify Verifier.verifyAt
  rw [text userIdHeader (by decide), text timestampHeader (by decide),
    text signatureHeader (by decide), tier]

end Assertion

/-- An answer that differs from another one in its request id at most. -/
def Dressed (a b : Response) : Prop :=
  ∃ h id, b = { a with headers := h, requestId := id } ∧
    ∀ t, id = some t → ∃ v, HeaderValue.ofText? t = some v

namespace Dressed

variable {a b : Response}

/-- An answer without an id differs from itself in nothing. -/
lemma refl (h : a.requestId = none) : Dressed a a :=
  ⟨a.headers, none, by rw [← h], nofun⟩

/-- An answer may be given another request id. -/
lemma withId (d : Dressed a b) (h : Headers) (id : Uuid) :
    Dressed a { b with headers := h, requestId := some id.toText } := by
  obtain ⟨_, _, rfl, -⟩ := d
  refine ⟨h, some id.toText, rfl, fun t ht => ?_⟩
  cases ht
  obtain ⟨v, hv, -⟩ := HeaderValue.ofText?_of_visible id.visible_toText
  exact ⟨v, hv⟩

end Dressed

/-- The stages that come with the server. -/
inductive BuiltIn where
  | identify (trusting : Bool)
  | journal (observer : Option (Summary → Event))
  | gate (v : Verifier) (observer : Option (Refusal → Event))

namespace BuiltIn

/-- The stage itself. -/
def toStage : BuiltIn → Stage
  | identify trusting => .identify trusting
  | journal observer => .journal observer
  | gate v observer => .gate v observer

/-- What comes out of stages in front of an answer that is looked up in the stores. -/
def settle (answer : StoreId → Stores Value → Response) (i : StoreId) (h : Headers)
    (elapsed : Nat) :
    List BuiltIn → Stores Value → Response
  | [], s => answer i s
  | gate v _ :: rest, s =>
    match v.verify h elapsed with
    | .error _ => .unauthorized
    | .ok c => settle answer i h elapsed rest (Stage.bearing i c s)
  | identify _ :: rest, s => settle answer i h elapsed rest s
  | journal _ :: rest, s => settle answer i h elapsed rest s

/-- A handler that answers at once with what it finds in the stores. -/
structure LooksUp (h : Handler) (answer : StoreId → Stores Value → Response) : Prop where
  halt : ∀ r p w, ((h r).guard .cancelled).halt p w = .finished (answer r.store w.stores) p w
  plain : ∀ i s, (answer i s).requestId = none

/-- Request ids do not matter to what comes out of stages. -/
lemma settle_congr {h h' : Headers}
    (e : ∀ name, name ≠ HeaderName.requestId → h'.values name = h.values name)
    (answer : StoreId → Stores Value → Response) (i : StoreId) (elapsed : Nat) (bs : List BuiltIn)
    (s : Stores Value) :
    settle answer i h' elapsed bs s = settle answer i h elapsed bs s := by
  induction bs generalizing s with
  | nil => rfl
  | cons b bs ih =>
    cases b with
    | identify trusting => exact ih s
    | journal observer => exact ih s
    | gate v observer =>
      simp only [settle, Assertion.verify_congr e]
      cases v.verify h elapsed with
      | error e => rfl
      | ok c => exact ih _

/-- A request id replaces that header alone. -/
lemma values_withId (h : Headers) (id : Uuid) {name : HeaderName}
    (hn : name ≠ HeaderName.requestId) :
    (Stage.withId h id).values name = h.values name := by
  unfold Stage.withId
  split
  · rw [Headers.values_insert, if_neg hn]
  · rfl

/-- The id that a request is given: the one that it brings, if that is trusted, or a fresh one. -/
def idFor (trusting : Bool) (r : Request) (w : World) : Uuid :=
  (if trusting then Stage.incomingId? r else none).getD (w.ids w.drawn)

/-- The stage that gives ids draws or takes one and goes on. -/
lemma halt_identify_eq (trusting : Bool) (r : Request) (p : Plan) (w : World) :
    ∃ drawn, ((Stage.identify trusting).enter r).halt p w =
      .finished (.forward { r with headers := Stage.withId r.headers (idFor trusting r w) } fun b =>
          pure { b with
            headers := Stage.withId b.headers (idFor trusting r w), requestId :=
              some (idFor trusting r w).toText })
        p { w with requestId := idFor trusting r w, drawn := drawn } := by
  simp only [Stage.identify, idFor]
  cases (if trusting then Stage.incomingId? r else none) with
  | none => exact ⟨_, rfl⟩
  | some id => exact ⟨_, rfl⟩

/-- A stage that gives ids passes the request on under an id. -/
lemma halt_identify (trusting : Bool) (r : Request) (p : Plan) (w : World) :
    ∃ id w', ((Stage.identify trusting).enter r).halt p w =
        .finished (.forward { r with headers := Stage.withId r.headers id } fun b =>
          pure { b with headers := Stage.withId b.headers id, requestId := some id.toText }) p w' ∧
      w'.fired = w.fired ∧ w'.clock = w.clock ∧ w'.stores = w.stores := by
  obtain ⟨drawn, e⟩ := halt_identify_eq trusting r p w
  exact ⟨_, _, e, rfl, rfl, rfl⟩

/-- The stage that logs goes on, and leaves the answer as it is. -/
lemma halt_journal (observer : Option (Summary → Event)) (r : Request) (p : Plan) (w : World) :
    ∃ after, ((Stage.journal observer).enter r).halt p w =
        .finished (.forward r after) p (Stage.logStarted r.method r.uri.path w) ∧
      ∀ b p w, ∃ w', (after b).halt p w = .finished b p w' :=
  ⟨_, rfl, fun _ _ _ => ⟨_, rfl⟩⟩

/-- A chain of stages that are there finishes at once, and with the answer that is settled. -/
lemma halt_stages {h : Handler} {answer : StoreId → Stores Value → Response} (l : LooksUp h answer)
    (bs : List BuiltIn) (r : Request) (p : Plan) (w : World) (hw : w.fired = false) :
    ∃ b p' w', (runStages (bs.map toStage) (finish h) r).halt p w = .finished b p' w' ∧
      Dressed (settle answer r.store r.headers w.clock bs w.stores) b := by
  -- a stage may change the request and the state before it goes on, so both vary
  induction bs generalizing r p w with
  | nil =>
    refine ⟨_, p, w, ?_, .refl (l.plain r.store w.stores)⟩
    rw [List.map_nil, runStages, finish, halt_proceed, hw]
    exact l.halt r p w
  | cons b bs ih =>
    rw [List.map_cons, runStages, halt_proceed, hw, if_neg Bool.false_ne_true]
    cases b with
    | identify trusting =>
      obtain ⟨id, w₁, e, fired, clock, stores⟩ := halt_identify trusting r p w
      obtain ⟨b, p₂, w₂, e₂, d⟩ :=
        ih { r with headers := Stage.withId r.headers id } p w₁ (fired.trans hw)
      have same : settle answer r.store (Stage.withId r.headers id) w.clock bs w.stores =
          settle answer r.store r.headers w.clock bs w.stores :=
        settle_congr (fun name => values_withId r.headers id) answer r.store w.clock bs w.stores
      dsimp only at d
      rw [clock, stores, same] at d
      refine ⟨{ b with headers := Stage.withId b.headers id, requestId := some id.toText }, p₂, w₂,
        ?_, ?_⟩
      · rw [toStage, halt_around_of_forward e, e₂, Halt.bind_finished, Task.halt_pure]
      · rw [settle]
        exact d.withId (Stage.withId b.headers id) id
    | journal observer =>
      obtain ⟨b, p₂, w₂, e, d⟩ := ih r p (Stage.logStarted r.method r.uri.path w) hw
      obtain ⟨after, entered, left⟩ := halt_journal observer r p w
      obtain ⟨w₃, e₃⟩ := left b p₂ w₂
      exact ⟨b, p₂, w₃, by rw [toStage, halt_around_of_forward entered, e, Halt.bind_finished, e₃],
        d⟩
    | gate v observer =>
      cases hv : v.verify r.headers w.clock with
      | error reason =>
        refine ⟨.unauthorized, p, _, halt_around_of_reply (Stage.halt_gate_of_error hv) _, ?_⟩
        simp only [settle, hv]
        exact .refl rfl
      | ok c =>
        obtain ⟨b, p₂, w₂, e, d⟩ := ih r p (Stage.granted r.store c w) hw
        refine ⟨b, p₂, w₂, ?_, ?_⟩
        · rw [toStage, halt_around_of_forward (Stage.halt_gate_of_ok hv), e, Halt.bind_finished,
            Task.halt_pure]
        · simp only [settle, hv]
          exact d

section

variable (answer : StoreId → Stores Value → Response)

/-- Without a gate the answer is found in the stores as they were. -/
lemma settle_of_open {bs : List BuiltIn} (none : ∀ v observer, gate v observer ∉ bs) (i : StoreId)
    (h : Headers)
    (elapsed : Nat) (s : Stores Value) : settle answer i h elapsed bs s = answer i s := by
  induction bs with
  | nil => rfl
  | cons b bs ih =>
    have rest : ∀ v observer, gate v observer ∉ bs :=
      fun v o hm => none v o (List.mem_cons_of_mem _ hm)
    cases b with
    | identify trusting => exact ih rest
    | journal observer => exact ih rest
    | gate v observer => exact absurd List.mem_cons_self (none v observer)

/-- With one verifier at all gates, what it refuses is unauthorized. -/
lemma settle_of_error {v : Verifier} {bs : List BuiltIn} (same : ∀ v' o, gate v' o ∈ bs → v' = v)
    {observer : Option (Refusal → Event)} (there : gate v observer ∈ bs) {h : Headers}
    {elapsed : Nat} {e : Refusal} (he : v.verify h elapsed = .error e) (i : StoreId)
    (s : Stores Value) :
    settle answer i h elapsed bs s = .unauthorized := by
  induction bs with
  | nil => exact absurd there List.not_mem_nil
  | cons b bs ih =>
    have rest : ∀ v' o, gate v' o ∈ bs → v' = v :=
      fun v' o hm => same v' o (List.mem_cons_of_mem _ hm)
    cases b with
    | identify trusting => exact ih rest ((List.mem_cons.mp there).resolve_left nofun)
    | journal observer => exact ih rest ((List.mem_cons.mp there).resolve_left nofun)
    | gate v' o =>
      cases same v' o List.mem_cons_self
      simp only [settle, he]

/--
With one verifier at all gates, the answer to what it admits is found in stores that bear the claim.
-/
lemma settle_of_ok {v : Verifier} {bs : List BuiltIn} (same : ∀ v' o, gate v' o ∈ bs → v' = v)
    {h : Headers}
    {elapsed : Nat} {c : Claim} (hc : v.verify h elapsed = .ok c) (i : StoreId) {s : Stores Value}
    (there : (∃ o, gate v o ∈ bs) ∨ ∃ s₀, s = Stage.bearing i c s₀ ∧ i.index < s₀.all.length)
    (held : i.index < s.all.length) :
    ∃ s₀, settle answer i h elapsed bs s = answer i (Stage.bearing i c s₀) ∧
    i.index < s₀.all.length := by
  -- either a gate is still to come, or the stores bear the claim already
  induction bs generalizing s with
  | nil =>
    rcases there with ⟨o, hm⟩ | ⟨s₀, rfl, lt⟩
    · exact absurd hm List.not_mem_nil
    · exact ⟨s₀, rfl, lt⟩
  | cons b bs ih =>
    have rest : ∀ v' o, gate v' o ∈ bs → v' = v :=
      fun v' o hm => same v' o (List.mem_cons_of_mem _ hm)
    cases b with
    | identify trusting =>
      exact ih rest (there.imp_left fun ⟨o, hm⟩ => ⟨o, (List.mem_cons.mp hm).resolve_left nofun⟩)
        held
    | journal observer =>
      exact ih rest (there.imp_left fun ⟨o, hm⟩ => ⟨o, (List.mem_cons.mp hm).resolve_left nofun⟩)
        held
    | gate v' o =>
      cases same v' o List.mem_cons_self
      simp only [settle, hc]
      refine ih rest (.inr ⟨s, rfl, held⟩) ?_
      rw [(Stage.bears_bearing i c s).count]
      exact held

end

end BuiltIn

end Gatehouse
