import Gatehouse.Proofs.Server.Dressing

/-!
# All refusals look alike

The gates of a chain stand behind its stage that gives ids, for chains are sorted by priority
(`identifies_take`).  So two requests that gates refuse, whatever the reasons, get the same answer
but for the value of its id, if their chains have stages of the same kinds
(`Server.dispatch_refused`).
-/

namespace Gatehouse

/-- A chain runs its stages in the order of their priorities. -/
lemma Chain.sorted_of (ss : List Stage) (h : Handler) :
    (Chain.of ss h).stages.Pairwise fun s s' => s.priority ≤ s'.priority := by
  have sorted : (Chain.of ss h).stages.Pairwise fun s s' =>
      decide (s.priority ≤ s'.priority) = true := by
    apply List.pairwise_mergeSort
    · intro _ _ _ h h'
      exact decide_eq_true (Int.le_trans (of_decide_eq_true h) (of_decide_eq_true h'))
    · intro s s'
      simpa using Int.le_total s.priority s'.priority
  exact sorted.imp of_decide_eq_true

namespace BuiltIn

/-- What gives ids stands before every gate. -/
lemma identifies_take {bs : List BuiltIn}
    (sorted : (bs.map toStage).Pairwise fun s s' => s.priority ≤ s'.priority)
    {place : Nat} {v : Verifier} {observer : Option (Refusal → Event)}
    (at_ : bs[place]? = some (gate v observer)) :
    Identifies (bs.take place) ↔ Identifies bs := by
  obtain ⟨lt, e⟩ := List.getElem?_eq_some_iff.mp at_
  have parts : bs = bs.take place ++ gate v observer :: bs.drop (place + 1) := by
    rw [← e, ← List.drop_eq_getElem_cons lt, List.take_append_drop]
  constructor
  · rintro ⟨trusting, there⟩
    exact ⟨trusting, List.mem_of_mem_take there⟩
  · rintro ⟨trusting, there⟩
    rw [parts] at sorted there
    rw [List.map_append, List.map_cons] at sorted
    have behind := (List.pairwise_cons.mp (List.pairwise_append.mp sorted).2.1).1
    rcases List.mem_append.mp there with there | there
    · exact ⟨trusting, there⟩
    · rcases List.mem_cons.mp there with same | there
      · cases same
      · have later : (0 : Int) ≤ -100 := behind _ (List.mem_map_of_mem there)
        exact absurd later (by decide)

end BuiltIn

namespace Server

open BuiltIn

/-- A request that comes to a gate of its chain, which refuses it. -/
inductive Refuses (s : Server) (n : NativeRequest) (addr : Option SocketAddr) (w : World)
    (bs : List BuiltIn) (reason : Refusal) : Prop where
  | intro {ss handler h r p v place verifier observer r' p' v'} :
    s.Enters n addr w (.of ss handler) h r p v → (Chain.of ss handler).stages = bs.map toStage →
    bs[place]? = some (.gate verifier observer) → Arrives (bs.map toStage) r p v place r' p' v' →
    v'.fired = false →
    verifier.verify r'.headers v'.clock = .error reason → Refuses s n addr w bs reason

/-- A request that is refused is answered as unauthorized, under the request id if there is one. -/
lemma Refuses.answer {s : Server} {n : NativeRequest} {addr : Option SocketAddr} {w : World}
    {bs : List BuiltIn} {reason : Refusal} (refuses : s.Refuses n addr w bs reason) :
    ∃ id, (s.dispatch n addr w).1 = some (Response.unauthorized.under id).writeOrRender ∧
      (id.isSome ↔ Identifies bs) := by
  obtain ⟨enters, stages, at_, arrives, unfired, refused⟩ := refuses
  have sorted := stages ▸ Chain.sorted_of _ _
  have gate := List.getElem?_map.trans (congrArg (Option.map toStage) at_)
  obtain ⟨u, refusal⟩ := halt_drop_of_refused gate (finish (Exchange.terminal _)) unfired refused
  rw [← List.map_drop] at refusal
  rw [← stages] at arrives
  rw [← identifies_take sorted at_]
  exact enters.dispatch_of_arrives stages arrives refusal

/--
Two refused requests get the same answer but for the value of the request id, whatever the reasons
are.
-/
theorem dispatch_refused {s₁ s₂ : Server} {n₁ n₂ : NativeRequest} {addr₁ addr₂ : Option SocketAddr}
    {w₁ w₂ : World} {bs₁ bs₂ : List BuiltIn} {reason₁ reason₂ : Refusal}
    (kinds : List.Forall₂ SameKind bs₁ bs₂) (refused₁ : s₁.Refuses n₁ addr₁ w₁ bs₁ reason₁)
    (refused₂ : s₂.Refuses n₂ addr₂ w₂ bs₂ reason₂) :
    ∃ b₁ b₂, (s₁.dispatch n₁ addr₁ w₁).1 = some b₁ ∧ (s₂.dispatch n₂ addr₂ w₂).1 = some b₂ ∧
      b₁.SameBut HeaderName.requestId b₂ := by
  obtain ⟨id₁, answer₁, given₁⟩ := refused₁.answer
  obtain ⟨id₂, answer₂, given₂⟩ := refused₂.answer
  have plain : Response.unauthorized.Plain := ⟨rfl, rfl, rfl⟩
  have both : id₁.isSome ↔ id₂.isSome := by
    rw [given₁, given₂]
    exact identifies_congr kinds
  exact ⟨_, _, answer₁, answer₂, plain.sameBut both⟩

/-- The stages of a chain with one gate. -/
def guardedBy (v : Verifier) : List BuiltIn := [.identify false, .journal none, .gate v none]

/-- A small server with this gate. -/
def guardedServer (v : Verifier) : Server :=
  let f : Foundry := ⟨.empty, [], [("api", .of ((guardedBy v).map toStage) .notFound)]⟩
  ⟨⟨"", 0, some 100, none⟩, [rootRoute fun _ => pure (.ok ⟨.ok, .empty, .empty⟩)],
    ⟨.chains f, .ofChains f []⟩⟩

/-- A verifier with a key. -/
def keyed : Verifier := ⟨[1], .standard, .fixed ⟨5, 0⟩⟩

/--
Behind one gate without key and one with a key the caller without headers gets the same answer.
-/
theorem dispatch_refused_keyless :
    (guardedServer Stage.keyless).Refuses caller none Stage.visitor.2 (guardedBy Stage.keyless)
      .emptyKey ∧
    (guardedServer keyed).Refuses caller none Stage.visitor.2 (guardedBy keyed)
      (.missingHeader Assertion.userIdHeader) ∧
    ∃ b₁ b₂, ((guardedServer Stage.keyless).dispatch caller none Stage.visitor.2).1 = some b₁ ∧
      ((guardedServer keyed).dispatch caller none Stage.visitor.2).1 = some b₂ ∧
      b₁.SameBut HeaderName.requestId b₂ := by
  have refuses (v : Verifier) (reason : Refusal)
      (refused : ∀ id elapsed, v.verify (Stage.withId Headers.empty id) elapsed = .error reason) :
      (guardedServer v).Refuses caller none Stage.visitor.2 (guardedBy v) reason := by
    have sorted : (Chain.of ((guardedBy v).map toStage) .notFound).stages =
        (guardedBy v).map toStage := by
      apply List.mergeSort_of_pairwise
      simp [guardedBy, toStage, Stage.identify, Stage.journal, Stage.gate]
    obtain ⟨r, p, u, enters, headers, unfired⟩ := enters_root (s := guardedServer v) rfl rfl rfl
    obtain ⟨id, r', u', arrives, headers', unfired'⟩ :=
      arrives_behind false none [.gate v none] r p unfired
    have at_ : (guardedBy v)[2]? = some (.gate v none) := rfl
    refine .intro enters sorted at_ arrives unfired' ?_
    rw [headers', headers]
    exact refused id u'.clock
  have keyless := refuses Stage.keyless .emptyKey fun _ _ => rfl
  have missing := refuses keyed (.missingHeader Assertion.userIdHeader) fun id elapsed => by
    rw [Assertion.verify_congr fun name => values_withId .empty id]
    rfl
  have kinds : List.Forall₂ SameKind (guardedBy Stage.keyless) (guardedBy keyed) :=
    .cons (.identify _ _) (.cons (.journal _ _) (.cons (.gate _ _ _ _) .nil))
  exact ⟨keyless, missing, dispatch_refused kinds keyless missing⟩

end Server

end Gatehouse
