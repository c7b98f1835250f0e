import Gatehouse.Proofs.Server.Dressing

/-!
# What clients learn of errors

An error that is answered with the status of a server error is answered for by its status and its
headers alone (`NativeError.SameShape.ofError_eq`).  So two errors that differ in their texts get
the same answer, through chains of the stages that are there as through plain layers, and what
cannot be written gets the plain failure of the server (`Server.dispatch_conceals`).
-/

namespace Gatehouse

/-- Errors that differ in their texts alone. -/
inductive NativeError.SameShape : NativeError → NativeError → Prop where
  | http {status headers} (m m' : String) :
    SameShape (.http ⟨status, m, headers⟩) (.http ⟨status, m', headers⟩)
  | fault {kind} (m m' : String) (cause cause' : Option String) :
    SameShape (.fault ⟨kind, m, cause⟩) (.fault ⟨kind, m', cause'⟩)
  | caused {kind e e'} (m m' : String) (cause cause' : Option String) :
    SameShape (.caused ⟨kind, m, cause⟩ e) (.caused ⟨kind, m', cause'⟩ e')
  | plain (m m' : String) : SameShape (.plain m) (.plain m')
  | wrapped {e e'} (m m' : String) : SameShape e e' → SameShape (.wrapped m e) (.wrapped m' e')

/-- A text alone never tells another status of the server than the plain one. -/
lemma statusOfText_eq {message : String} (h : (statusOfText message).isServerError = true) :
    statusOfText message = .internalError := by
  unfold statusOfText at h ⊢
  dsimp only at h ⊢
  cases e : errorPhrases.find? fun p =>
    Text.hasInfix p.1.toList (message.toList.map Text.lowerAscii) with
  | none => rfl
  | some phrase =>
    rw [e] at h
    have none_is : ∀ phrase ∈ errorPhrases, phrase.2.isServerError = false := by decide
    rw [none_is phrase (List.mem_of_find?_eq_some e)] at h
    cases h

namespace Response

/-- A failure has its status. -/
lemma status_ofFailure (s : Status) (message : String) : (ofFailure s message).status = s := by
  unfold ofFailure
  split
  · rfl
  · rfl

/-- A server error has no message of its own. -/
lemma ofFailure_eq {s : Status} (h : s.isServerError = true) (message : String) :
    ofFailure s message = failure s none := if_pos h

/-- A failure is plain. -/
lemma plain_ofFailure (s : Status) (message : String) : (ofFailure s message).Plain := by
  unfold ofFailure
  split
  · exact ⟨rfl, rfl, rfl⟩
  · exact ⟨rfl, rfl, rfl⟩

/-- However an error is taken up, it is a failure with some headers. -/
lemma ofError_eq_ofFailure (e : NativeError) :
    ∃ s message h, ofError e = { ofFailure s message with headers := h } := by
  unfold ofError
  cases e.carrier? with
  | none => exact ⟨_, _, _, rfl⟩
  | some carrier =>
    cases carrier with
    | inl f => exact ⟨_, _, _, rfl⟩
    | inr f => exact ⟨_, _, _, rfl⟩

/-- The response to an error is plain. -/
lemma plain_ofError (e : NativeError) : (ofError e).Plain := by
  obtain ⟨s, message, h, taken_up⟩ := ofError_eq_ofFailure e
  obtain ⟨cookies, location, requestId⟩ := plain_ofFailure s message
  rw [taken_up]
  exact ⟨cookies, location, requestId⟩

/-- A server error is taken up without a message. -/
lemma error_ofError {e : NativeError} (h : (ofError e).status.isServerError = true) :
    (ofError e).error = some none := by
  obtain ⟨s, message, hs, taken_up⟩ := ofError_eq_ofFailure e
  rw [taken_up] at h ⊢
  rw [status_ofFailure] at h
  rw [ofFailure_eq h]
  rfl

end Response

namespace NativeResponse

/-- The body states nothing but what the status does. -/
def Canonical (b : NativeResponse) : Prop :=
  b.body = .buffer (Bytes.ofText (HttpFailure.ofStatus b.status).body.render)

/-- Two answers, which are alike if both say that the server is at fault. -/
structure Conceal (alike : NativeResponse → NativeResponse → Prop) (b b' : NativeResponse) :
    Prop where
  alike : b.status.isServerError = true → b'.status.isServerError = true → alike b b'
  first : b.status.isServerError = true → b.Canonical
  second : b'.status.isServerError = true → b'.Canonical

end NativeResponse

/-- Of a server error nothing is said but what its status says. -/
lemma Response.canonical_ofError {e : NativeError} (id : Option Uuid)
    (h : ((ofError e).under id).writeOrRender.status.isServerError = true) :
    ((ofError e).under id).writeOrRender.Canonical := by
  have plain := plain_ofError e
  rw [plain.status] at h
  unfold NativeResponse.Canonical
  rw [plain.status, plain.writeOrRender]
  unfold sent written
  rw [error_ofError h]
  rfl

namespace NativeError

open Response

/-- What is found of errors of the same shape when they are searched for a status. -/
inductive SameCarrier : Option (HttpFailure ⊕ Fault) → Option (HttpFailure ⊕ Fault) → Prop where
  | none : SameCarrier none none
  | http {status headers m m'} :
    SameCarrier (some (.inl ⟨status, m, headers⟩)) (some (.inl ⟨status, m', headers⟩))
  | fault {kind m m' cause cause'} :
    SameCarrier (some (.inr ⟨kind, m, cause⟩)) (some (.inr ⟨kind, m', cause'⟩))

/-- In errors of the same shape the same is found but for texts. -/
lemma SameShape.carrier? {e e' : NativeError} (alike : e.SameShape e') :
    SameCarrier e.carrier? e'.carrier? := by
  induction alike with
  | http m m' => exact .http
  | fault m m' cause cause' => exact .fault
  | caused m m' cause cause' => exact .fault
  | plain m m' => exact .none
  | wrapped m m' _ ih => exact ih

/-- Errors of the same shape are taken up in the same way if both are the server's. -/
lemma SameShape.ofError_eq {e e' : NativeError} (alike : e.SameShape e')
    (h : (ofError e).status.isServerError = true) (h' : (ofError e').status.isServerError = true) :
    ofError e = ofError e' := by
  unfold ofError at h h' ⊢
  have carriers := alike.carrier?
  generalize e.carrier? = c at carriers h ⊢
  generalize e'.carrier? = c' at carriers h' ⊢
  cases carriers with
  | none =>
    simp only [status_ofFailure] at h h' ⊢
    rw [ofFailure_eq h, ofFailure_eq h', statusOfText_eq h, statusOfText_eq h']
  | http =>
    simp only [status_ofFailure] at h ⊢
    rw [ofFailure_eq h, ofFailure_eq h]
  | fault =>
    simp only [status_ofFailure] at h h' ⊢
    rw [ofFailure_eq h, ofFailure_eq h']
    rfl

end NativeError

namespace Server

open BuiltIn Exchange NativeResponse

/-- A handler behind stages that are there fails with an error. -/
inductive RaisesBehind (s : Server) (n : NativeRequest) (addr : Option SocketAddr) (w : World)
    (bs : List BuiltIn) (e : NativeError) : Prop where
  | intro {c h r p v r' p' v' u} : s.Enters n addr w c h r p v → c.stages = bs.map toStage →
    Arrives c.stages r p v bs.length r' p' v' → v'.fired = false →
    Task.Reaches p' (h r'.toNative) v' (.done (.error e)) u → RaisesBehind s n addr w bs e

/-- An error comes out of plain layers, be it raised by the handler or by a layer. -/
inductive RaisesThrough (s : Server) (n : NativeRequest) (addr : Option SocketAddr) (w : World)
    (e : NativeError) : Prop where
  | intro {route params stack p u} : s.Takes n route params → s.installed.pipeline = .layers stack →
    (stack.run route.handler
      { n with params := some params, remoteAddr := addr.or n.remoteAddr }).halt
      (s.layersPlan (w.count .entered).clock) (w.count .entered) = .finished (.error e) p u →
    RaisesThrough s n addr w e

section

variable {s : Server} {n : NativeRequest} {addr : Option SocketAddr} {w : World} {e : NativeError}

/-- An error behind stages is answered as what it is, under the request id if there is one. -/
lemma RaisesBehind.answer {bs : List BuiltIn} (raises : s.RaisesBehind n addr w bs e) :
    ∃ id, (s.dispatch n addr w).1 = some ((Response.ofError e).under id).writeOrRender ∧
      (id.isSome ↔ Identifies bs) := by
  obtain ⟨enters, stages, arrives, unfired, reaches⟩ := raises
  have taken_up := (reaches.bind fun x => pure (Response.ofResult x)).halt_guard Response.cancelled
  rw [← terminal_eq] at taken_up
  have whole : bs.take bs.length = bs := List.take_length
  rw [← whole]
  apply enters.dispatch_of_arrives stages arrives
  rw [List.drop_length, List.map_nil, runStages, finish, halt_proceed, unfired,
    if_neg Bool.false_ne_true, taken_up]
  rfl

/-- An error out of plain layers is answered as what it is. -/
lemma RaisesThrough.answer (raises : s.RaisesThrough n addr w e) :
    (s.dispatch n addr w).1 = some (Response.ofError e).writeOrRender := by
  obtain ⟨takes, layers, out⟩ := raises
  rw [takes.dispatch, runInstalled, layers]
  simp only [runLayers, Task.run_eq]
  rw [out]
  rfl

end

/--
Whatever the texts of an error say, a client learns of a server error its status and its headers
alone.
-/
theorem dispatch_conceals {e₁ e₂ : NativeError} (alike : e₁.SameShape e₂) :
    (∀ s₁ s₂ n₁ n₂ addr₁ addr₂ w₁ w₂ bs₁ bs₂, List.Forall₂ SameKind bs₁ bs₂ →
      RaisesBehind s₁ n₁ addr₁ w₁ bs₁ e₁ → RaisesBehind s₂ n₂ addr₂ w₂ bs₂ e₂ →
      ∃ b₁ b₂, (s₁.dispatch n₁ addr₁ w₁).1 = some b₁ ∧ (s₂.dispatch n₂ addr₂ w₂).1 = some b₂ ∧
        Conceal (NativeResponse.SameBut HeaderName.requestId) b₁ b₂) ∧
    (∀ s₁ s₂ n₁ n₂ addr₁ addr₂ w₁ w₂, RaisesThrough s₁ n₁ addr₁ w₁ e₁ →
      RaisesThrough s₂ n₂ addr₂ w₂ e₂ →
      ∃ b₁ b₂, (s₁.dispatch n₁ addr₁ w₁).1 = some b₁ ∧ (s₂.dispatch n₂ addr₂ w₂).1 = some b₂ ∧
        Conceal Eq b₁ b₂) ∧
    (∀ s n addr w c h r p v b p' v' detail, Enters s n addr w c h r p v →
      (runStages c.stages (finish (terminal h)) r).halt p v = .finished b p' v' →
      b.write = .error (.unwritable detail) → (s.dispatch n addr w).1 =
        some HttpFailure.internal.toResponse) := by
  have plain₁ := Response.plain_ofError e₁
  have plain₂ := Response.plain_ofError e₂
  refine ⟨?behind, ?through, ?unwritable⟩
  case behind =>
    intro s₁ s₂ n₁ n₂ addr₁ addr₂ w₁ w₂ bs₁ bs₂ kinds raises₁ raises₂
    obtain ⟨id₁, answer₁, given₁⟩ := raises₁.answer
    obtain ⟨id₂, answer₂, given₂⟩ := raises₂.answer
    refine ⟨_, _, answer₁, answer₂, ?_, Response.canonical_ofError id₁,
      Response.canonical_ofError id₂⟩
    intro h₁ h₂
    rw [plain₁.status] at h₁
    rw [plain₂.status] at h₂
    rw [alike.ofError_eq h₁ h₂]
    apply plain₂.sameBut
    rw [given₁, given₂]
    exact identifies_congr kinds
  case through =>
    intro s₁ s₂ n₁ n₂ addr₁ addr₂ w₁ w₂ raises₁ raises₂
    refine ⟨_, _, raises₁.answer, raises₂.answer, ?_, Response.canonical_ofError none,
      Response.canonical_ofError none⟩
    intro h₁ h₂
    have h₁ : (Response.ofError e₁).status.isServerError = true := plain₁.status none ▸ h₁
    have h₂ : (Response.ofError e₂).status.isServerError = true := plain₂.status none ▸ h₂
    rw [alike.ofError_eq h₁ h₂]
  case unwritable =>
    intro s n addr w c h r p v b p' v' detail enters out unwritable
    rw [enters.dispatch out, Response.writeOrRender, unwritable]
    rfl

/-- An error whose texts are not for clients. -/
def secretive (secret : String) : NativeError :=
  .wrapped secret (.fault ⟨.internal, secret, some secret⟩)

/-- A route whose handler fails with an error. -/
def failing (e : NativeError) : Route := rootRoute fun _ => pure (.error e)

/-- Stages that turn nothing away. -/
def openStages : List BuiltIn := [.identify false, .journal none]

/-- A server that fails behind these stages. -/
def failingBehind (e : NativeError) : Server :=
  let f : Foundry := ⟨.empty, [], [("api", ⟨openStages.map toStage, .notFound⟩)]⟩
  ⟨⟨"", 0, none, none⟩, [failing e], ⟨.chains f, .ofChains f []⟩⟩

/-- A server that fails behind no layers. -/
def failingThrough (e : NativeError) : Server := ⟨⟨"", 0, none, none⟩, [failing e], .standard⟩

/-- Two errors with different secrets get the same answer through either system. -/
theorem dispatch_conceals_secretive :
    (secretive "one").SameShape (secretive "two") ∧
    (∀ t, (failingBehind (secretive t)).RaisesBehind caller none Stage.visitor.2 openStages
      (secretive t)) ∧
    (∀ t, (failingThrough (secretive t)).RaisesThrough caller none Stage.visitor.2 (secretive t)) ∧
    (∃ b₁ b₂, ((failingBehind (secretive "one")).dispatch caller none Stage.visitor.2).1 = some b₁ ∧
      ((failingBehind (secretive "two")).dispatch caller none Stage.visitor.2).1 = some b₂ ∧
      Conceal (NativeResponse.SameBut HeaderName.requestId) b₁ b₂) ∧
    ∃ b₁ b₂, ((failingThrough (secretive "one")).dispatch caller none Stage.visitor.2).1 = some b₁ ∧
      ((failingThrough (secretive "two")).dispatch caller none Stage.visitor.2).1 = some b₂ ∧
      b₁.status.isServerError = true ∧ b₂.status.isServerError = true ∧ Conceal Eq b₁ b₂ := by
  have alike : (secretive "one").SameShape (secretive "two") := .wrapped _ _ (.fault _ _ _ _)
  have behind (t : String) :
      (failingBehind (secretive t)).RaisesBehind caller none Stage.visitor.2 openStages
        (secretive t) := by
    obtain ⟨r, p, u, enters, -, unfired⟩ :=
      enters_root (s := failingBehind (secretive t)) rfl rfl rfl
    obtain ⟨id, r', u', arrives, -, unfired'⟩ := arrives_behind false none [] r p unfired
    exact .intro enters rfl arrives unfired' .here
  have through (t : String) :
      (failingThrough (secretive t)).RaisesThrough caller none Stage.visitor.2 (secretive t) :=
    .intro (takes_root rfl) rfl rfl
  obtain ⟨chains, layers, -⟩ := dispatch_conceals alike
  have kinds : List.Forall₂ SameKind openStages openStages :=
    .cons (.identify _ _) (.cons (.journal _ _) .nil)
  obtain ⟨b₁, b₂, answer₁, answer₂, conceal⟩ :=
    layers _ _ _ _ _ _ _ _ (through "one") (through "two")
  refine ⟨alike, behind, through, chains _ _ _ _ _ _ _ _ _ _ kinds (behind "one") (behind "two"),
    b₁, b₂, answer₁,
    answer₂, ?_, ?_, conceal⟩
  · rw [(through "one").answer] at answer₁
    cases answer₁
    rfl
  · rw [(through "two").answer] at answer₂
    cases answer₂
    rfl

end Server

end Gatehouse
