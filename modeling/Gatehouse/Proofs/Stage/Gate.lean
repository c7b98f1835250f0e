import Gatehouse.Proofs.Chain.Trail
import Gatehouse.Proofs.Store.Handles
import Gatehouse.Stage.Gate
import Gatehouse.Stage.Identify
import Gatehouse.Stage.Journal

/-!
# What a gate does to a chain

A gate looks at the headers that it is entered with.  If they do not verify, the gate is the last
thing that is started: the stores are as before, the observer is told the reason once, and the
answer is the same for every reason (`Refused`).  If they verify, the claim is written into the
request's store and nowhere else, and what lies behind the gate runs once with the same request
(`Admitted`). `gate_in_chain` is this for a gate at any place of any chain, nested chains included.
-/

namespace Gatehouse.Stage

/-- Stores that differ in the claim of one store alone. -/
structure Bears (i : StoreId) (c : Claim) (before after : Stores Value) : Prop where
  count : after.all.length = before.all.length
  others : ∀ j, j ≠ i → after.map j = before.map j
  rest : ∀ key, key ≠ userIdKey → key ≠ tierKey → (after.map i).find? key = (before.map i).find? key
  user : i.index < before.all.length → (after.map i).find? userIdKey = some (.text c.userId)
  tier : i.index < before.all.length → (after.map i).find? tierKey = some (.tier c.tier)

/-- The stores with a claim in one of them. -/
def bearing (i : StoreId) (c : Claim) (s : Stores Value) : Stores Value :=
  (s.set i userIdKey (.text c.userId)).set i tierKey (.tier c.tier)

/-- The state after a claim was admitted. -/
def granted (i : StoreId) (c : Claim) (w : World) : World :=
  { logVerified c w with stores := bearing i c w.stores }

/-- Stores that bear a claim differ in the claim alone. -/
lemma bears_bearing (i : StoreId) (c : Claim) (s : Stores Value) : Bears i c s (bearing i c s) := by
  have count : (bearing i c s).all.length = s.all.length :=
    (Stores.length_set _ _ _ _).trans (Stores.length_set _ _ _ _)
  rcases Nat.lt_or_ge i.index s.all.length with lt | ge
  · have lt' : i.index < (s.set i userIdKey (.text c.userId)).all.length := by
      rw [Stores.length_set]
      exact lt
    have written : (bearing i c s).map i =
        Named.put tierKey (.tier c.tier) (Named.put userIdKey (.text c.userId) (s.map i)) := by
      rw [bearing, Stores.map_set _ _ _ _ _ lt', if_pos rfl, Stores.map_set _ _ _ _ _ lt,
        if_pos rfl]
    refine ⟨count, fun j hj => ?_, fun key hu ht => ?_, fun _ => ?_, fun _ => ?_⟩
    · rw [bearing, Stores.map_set _ _ _ _ _ lt', if_neg hj, Stores.map_set _ _ _ _ _ lt, if_neg hj]
    · rw [written, Named.find?_put, if_neg ht, Named.find?_put, if_neg hu]
    · rw [written, Named.find?_put, if_neg (by decide), Named.find?_put, if_pos rfl]
    · rw [written, Named.find?_put, if_pos rfl]
  · have same : bearing i c s = s := by
      rw [bearing, Stores.set_of_length_le ge, Stores.set_of_length_le ge]
    rw [same]
    exact ⟨rfl, fun _ _ => rfl, fun _ _ _ => rfl, fun lt => absurd lt (Nat.not_lt.mpr ge),
      fun lt => absurd lt (Nat.not_lt.mpr ge)⟩

section

variable {v : Verifier} {observer : Option (Refusal → Event)} {r : Request} {p : Plan} {w : World}

/-- A refusal leaves a record, and then what the observer makes of the reason. -/
lemma tellRefused_logRefused (observer : Option (Refusal → Event)) (e : Refusal) (w : World) :
    ∃ record, tellRefused observer e (logRefused e w) =
      { w with trace := w.trace ++ [.log record] ++ (observer.map fun f => f e).toList } := by
  have logged : ∃ record, logRefused e w = { w with trace := w.trace ++ [.log record] } := by
    cases e <;> exact ⟨_, rfl⟩
  obtain ⟨record, logged⟩ := logged
  refine ⟨record, ?_⟩
  rw [logged]
  cases observer with
  | none => rw [tellRefused, Option.map_none, Option.toList_none, List.append_nil]
  | some f => rfl

/-- Admitting a claim changes the stores and leaves a record. -/
lemma granted_eq (i : StoreId) (c : Claim) (w : World) : ∃ record, granted i c w =
    { w with stores := (granted i c w).stores, trace := w.trace ++ [.log record] } := ⟨_, rfl⟩

/-- Headers that do not verify are answered at once. -/
lemma halt_gate_of_error {e : Refusal} (he : v.verify r.headers w.clock = .error e) :
    ((gate v observer).enter r).halt p w =
      .finished (.reply .unauthorized) p (tellRefused observer e (logRefused e w)) := by
  simp only [gate, Task.halt_bind, Task.halt_read, Halt.bind_finished, he]
  rfl

/-- Headers that verify are passed on with their claim in the request's store. -/
lemma halt_gate_of_ok {c : Claim} (hc : v.verify r.headers w.clock = .ok c) :
    ((gate v observer).enter r).halt p w =
      .finished (.forward r pure) p (granted r.store c w) := by
  simp only [gate, Task.halt_bind, Task.halt_read, Halt.bind_finished, hc]
  rfl

end

example : Response.unauthorized.status.code = 401 ∧
    Response.unauthorized.payload = .whole (Bytes.ofText "\x7b\"error\":\"unauthorized\"\x7d") := by
  decide +kernel

/-- What happens where a gate refuses a request. -/
structure Refused (observer : Option (Refusal → Event)) (place : Nat) (r : Request) (w : World)
    (e : Refusal) (log : List Moment) : Prop where
  /-- Nothing behind the gate is started. -/
  last : ∀ m ∈ log, m.place ≤ place
  /-- Nothing but the events changes, and the reason is told once. -/
  answer : ∃ record,
    Encloses place [.enter place r w, .leave place .unauthorized
      { w with trace := w.trace ++ [.log record] ++ (observer.map fun f => f e).toList }] log

/-- What happens where a gate admits a request in front of some stages and a handler. -/
inductive Admitted (h : Handler) (behind : List Stage) (place : Nat) (r : Request) (w : World)
    (c : Claim) (log : List Moment) : Prop where
  /-- The stages behind the gate run once, with the same request and its claim in the store. -/
  | passed {p : Plan} {w' : World} (record : LogRecord) (bears : Bears r.store c w.stores w'.stores)
    (same : w' = { w with stores := w'.stores, trace := w.trace ++ [.log record] })
    (next : (trail h (place + 1) behind r p w').log.head? = some (.enter (place + 1) r w'))
    (once : Encloses place
      (.enter place r w :: ((trail h (place + 1) behind r p w').answered place).log) log) :
    Admitted h behind place r w c log

section

variable {v : Verifier} {observer : Option (Refusal → Event)} {h : Handler} {place : Nat}
  {ss : List Stage}
  {r r₁ : Request} {p : Plan} {w w₁ : World}

/-- A gate that is started with headers that do not verify is the last thing that is started. -/
lemma log_gate_of_error (hw : w.fired = false) {e : Refusal}
    (he : v.verify r.headers w.clock = .error e) :
    (trail h place (gate v observer :: ss) r p w).log =
      [.enter place r w, .leave place .unauthorized (tellRefused observer e (logRefused e w))] := by
  rw [trail_of_reply hw (halt_gate_of_error he)]

/--
A gate that is started with headers that verify runs what lies behind it, and adds nothing to the
answer.
-/
lemma log_gate_of_ok (hw : w.fired = false) {c : Claim} (hc : v.verify r.headers w.clock = .ok c) :
    (trail h place (gate v observer :: ss) r p w).log =
      .enter place r w :: ((trail h (place + 1) ss r p (granted r.store c w)).answered
      place).log := by
  rw [log_trail_of_forward hw (halt_gate_of_ok hc)]
  simp only [Task.halt_pure, Traced.andThen_quiet]

/-- Behind a gate something happens only after headers that verify. -/
lemma verified_of_mem {m : Moment} (hm : m ∈ (trail h place (gate v observer :: ss) r p w).log)
    (behind : place < m.place) : w.fired = false ∧ ∃ c, v.verify r.headers w.clock = .ok c := by
  cases hw : w.fired with
  | true =>
    rw [trail_of_fired hw] at hm
    cases List.mem_singleton.mp hm
    exact absurd behind (Nat.lt_irrefl _)
  | false =>
    cases e : v.verify r.headers w.clock with
    | ok c => exact ⟨rfl, c, rfl⟩
    | error e' =>
      rw [log_gate_of_error hw e] at hm
      rcases List.mem_cons.mp hm with rfl | hm
      · exact absurd behind (Nat.lt_irrefl _)
      · cases List.mem_singleton.mp hm
        exact absurd behind (Nat.lt_irrefl _)

end

/-- What holds of the log of every chain with a gate at a place. -/
structure Gated (v : Verifier) (observer : Option (Refusal → Event)) (h : Handler)
    (behind : List Stage) (place : Nat) (log : List Moment) : Prop where
  refused : ∀ r w e, .enter place r w ∈ log → v.verify r.headers w.clock = .error e →
    Refused observer place r w e log
  admitted : ∀ r w c, .enter place r w ∈ log → v.verify r.headers w.clock = .ok c →
    Admitted h behind place r w c log
  /-- Nothing behind the gate is started, the handler included, unless headers verified. -/
  verified : ∀ m ∈ log, place < m.place →
    ∃ r w c, .enter place r w ∈ log ∧ v.verify r.headers w.clock = .ok c

/-- A gate decides for everything behind it, whatever stands before it. -/
lemma gated (v : Verifier) (observer : Option (Refusal → Event)) (h : Handler)
    (before behind : List Stage) (r : Request) (p : Plan) (w : World) :
    Gated v observer h behind before.length
      (trail h 0 (before ++ gate v observer :: behind) r p w).log := by
  have split := trail_append h 0 before (gate v observer :: behind) r p w
  generalize (trail h 0 (before ++ gate v observer :: behind) r p w).log = log at split
  rw [Nat.zero_add] at split
  rcases split with short | ⟨r', p', w', enclosed⟩
  · -- the gate is not reached
    refine ⟨fun r w e hm => absurd (short _ hm) (Nat.lt_irrefl _),
      fun r w c hm => absurd (short _ hm) (Nat.lt_irrefl _),
      fun m hm lt => absurd (short m hm) (Nat.not_lt.mpr (Nat.le_of_lt lt))⟩
  · have first {r₁ w₁} (hm : Moment.enter before.length r₁ w₁ ∈ log) :
        r₁ = r' ∧ w₁ = w' ∧ w'.fired = false := eq_of_enter_mem (enclosed.mem hm (Nat.le_refl _))
    refine ⟨fun r₁ w₁ e hm he => ?_, fun r₁ w₁ c hm hc => ?_, fun m hm lt => ?_⟩
    · obtain ⟨rfl, rfl, hw⟩ := first hm
      obtain ⟨record, told⟩ := tellRefused_logRefused observer e w₁
      rw [log_gate_of_error hw he, told] at enclosed
      refine ⟨fun m hm => ?_, record, enclosed⟩
      rcases Nat.lt_or_ge m.place before.length with lt | ge
      · exact Nat.le_of_lt lt
      · rcases List.mem_cons.mp (enclosed.mem hm ge) with rfl | hm
        · exact Nat.le_refl _
        · cases List.mem_singleton.mp hm
          exact Nat.le_refl _
    · obtain ⟨rfl, rfl, hw⟩ := first hm
      obtain ⟨record, same⟩ := granted_eq r₁.store c w₁
      rw [log_gate_of_ok hw hc] at enclosed
      exact .passed record (bears_bearing r₁.store c w₁.stores) same (head?_trail hw) enclosed
    · have hm := enclosed.mem hm (Nat.le_of_lt lt)
      obtain ⟨hw, c, hc⟩ := verified_of_mem hm lt
      refine ⟨r', w', c, ?_, hc⟩
      obtain ⟨before', after', rfl, -, -⟩ := enclosed
      rw [log_gate_of_ok hw hc]
      exact List.mem_append_left _ (List.mem_append_right _ List.mem_cons_self)

/--
A gate at any place of a chain, however deep its chains are nested, decides for everything behind
it.
-/
theorem gate_in_chain (v : Verifier) (observer : Option (Refusal → Event)) (c : Chain)
    (fs : List Stage) (place : Nat) (h : Handler) (r : Request) (p : Plan) (w : World)
    (u : Unfolds c.stages fs) (at_ : fs[place]? = some (gate v observer)) :
    (runStages c.stages (finish h) r).run p w = (trail h 0 fs r p w).halt.outcome ∧
      Gated v observer h (fs.drop (place + 1)) place (trail h 0 fs r p w).log := by
  constructor
  · rw [Task.run_eq, u.alike (looksFirst_finish h), halt_trail]
  · obtain ⟨lt, e⟩ := List.getElem?_eq_some_iff.mp at_
    have parts : fs = fs.take place ++ gate v observer :: fs.drop (place + 1) := by
      rw [← e, ← List.drop_eq_getElem_cons lt, List.take_append_drop]
    have length : (fs.take place).length = place := List.length_take_of_le (Nat.le_of_lt lt)
    have g := gated v observer h (fs.take place) (fs.drop (place + 1)) r p w
    rw [← parts, length] at g
    exact g

/-- A verifier without a key. -/
def keyless : Verifier := ⟨[], .standard, .fixed ⟨0, 0⟩⟩

/-- A gate behind the stage that gives ids. -/
def guarded : Chain := ⟨[identify false, gate keyless none], .notFound⟩

/-- The guarded chain behind the stage that logs. -/
def nested : Chain := ⟨[journal none, guarded.asStage], .notFound⟩

/-- A request to the root and the state before it. -/
def visitor : Request × World :=
  (.bare .get ⟨none, [], ['/'], none⟩ ⟨0⟩, .start fun _ => ⟨List.replicate 16 0, rfl⟩)

/-- Without a key the gate of the nested chain is entered third and nothing is entered behind it. -/
theorem gate_in_chain_nested :
    Unfolds nested.stages [journal none, identify false, gate keyless none] ∧
    (runStages nested.stages (finish .notFound) visitor.1).run .free visitor.2 =
      (trail .notFound 0 [journal none, identify false, gate keyless none] visitor.1 .free
        visitor.2).halt.outcome ∧
    Gated keyless none .notFound [] 2
      (trail .notFound 0 [journal none, identify false,
      gate keyless none] visitor.1 .free visitor.2).log ∧
    (trail .notFound 0 [journal none, identify false, gate keyless none] visitor.1 .free
      visitor.2).log.map Moment.place = [0, 1, 2, 2, 1, 0] := by
  have unfolds : Unfolds nested.stages [journal none, identify false, gate keyless none] :=
    .stage _ (.chain (.refl guarded.stages) .nil)
  obtain ⟨run, gated⟩ :=
    gate_in_chain keyless none nested [journal none, identify false, gate keyless none] 2
    .notFound visitor.1 .free visitor.2 unfolds rfl
  exact ⟨unfolds, run, gated, rfl⟩

end Gatehouse.Stage
